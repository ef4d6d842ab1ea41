import CubeQuery.Session.Transport

set_option autoImplicit false

/-!
# Stacks of layers

One post through layers that stand around a transport. The statement meets the outermost layer
first; what comes back meets the innermost first, so the way back is told from there (`returned`): a
cellset is handed from layer to layer by the hooks on cellsets, and at the first error, be it that
of the transport or of one of these hooks, the error hooks take over, beginning with the layer at
hand. One more layer around a stack is one more step at the end of the way back
(`returned_concat`).

Main statement: whatever the hooks do besides, a post on the outermost layer is the hooks on
statements from outside to inside, one post, and the way back (`stack_posts_once`).
-/

namespace CubeQuery.Session.Layer

variable {m : Type → Type} [Monad m]

/-! ## The way back -/

/-- The way back of an error: the error hooks of layers, one after the other. -/
def failing (layers : List (Layer m)) (e : Error) : m (Except Error Cellset) :=
  .error <$> layers.foldlM (fun e layer => layer.failed e) e

/-- The way back of a cellset: the hooks on cellsets, and from the first layer whose hook fails the
error hooks of this layer and of those behind it. -/
def receiving : List (Layer m) → Cellset → m (Except Error Cellset)
  | [], cellset => pure (.ok cellset)
  | layer :: outer, cellset => do
    match ← layer.received cellset with
    | .ok cellset => receiving outer cellset
    | .error e => failing (layer :: outer) e

/-- The way of an outcome back through layers, the first one innermost. -/
def returned (layers : List (Layer m)) : Except Error Cellset → m (Except Error Cellset)
  | .ok cellset => receiving layers cellset
  | .error e => failing layers e

variable [LawfulMonad m]

theorem incoming_error (layer : Layer m) (e : Error) :
    layer.incoming (.error e) = .error <$> layer.failed e := by
  simp [incoming]

theorem incoming_ok (layer : Layer m) (cellset : Cellset) :
    layer.incoming (.ok cellset) = receiving [layer] cellset := by
  rw [incoming, receiving]
  refine bind_congr fun mapped => ?_
  rcases mapped with e | cellset
  · simp [failing]
  · rfl

theorem failing_concat (layers : List (Layer m)) (layer : Layer m) (e : Error) :
    failing (layers ++ [layer]) e = failing layers e >>= layer.incoming := by
  simp only [failing, List.foldlM_append, List.foldlM_cons, List.foldlM_nil, bind_pure, map_bind,
    bind_map_left, incoming_error]

/-- A further layer outside adds its step behind the way back through the others. -/
theorem returned_concat (layers : List (Layer m)) (layer : Layer m)
    (outcome : Except Error Cellset) :
    returned (layers ++ [layer]) outcome = returned layers outcome >>= layer.incoming := by
  rcases outcome with e | cellset
  · exact failing_concat layers layer e
  -- By induction on the layers that the cellset has still to pass.
  simp only [returned]
  induction layers generalizing cellset with
  | nil => rw [List.nil_append, receiving, pure_bind, incoming_ok]
  | cons inner layers ih =>
    rw [List.cons_append, receiving, receiving, bind_assoc]
    refine bind_congr fun mapped => ?_
    rcases mapped with e | cellset
    · exact failing_concat (inner :: layers) layer e
    · exact ih cellset

/-! ## Whole posts -/

/-- **A stack of layers posts once.** A post on the outermost layer lets the layers rewrite the
statement from outside to inside, posts it once, and hands the outcome back through the layers from
inside to outside: a cellset through the hooks on cellsets, an error of the transport through all
error hooks, and an error of a layer's hook on cellsets through the error hooks of this layer and of
those outside it. -/
theorem stack_posts_once (layers : List (Layer m)) (transport : Transport m) (statement : String) :
    stack layers transport statement = (do
      let sent ← layers.foldlM (fun text layer => layer.outgoing text) statement
      let outcome ← transport sent
      returned layers.reverse outcome) := by
  induction layers generalizing statement with
  | nil =>
    have hplain : ∀ outcome, returned (m := m) [] outcome = pure outcome := by
      rintro (e | cellset) <;> simp [returned, failing, receiving]
    simp only [stack, List.foldr_nil, List.foldlM_nil, List.reverse_nil, hplain, pure_bind,
      bind_pure]
  | cons layer layers ih =>
    have hwrap : stack (layer :: layers) transport = layer.wrap (stack layers transport) := rfl
    simp only [hwrap, wrap, ih, List.foldlM_cons, List.reverse_cons, returned_concat, bind_assoc]

/-! ## A recorded post -/

/-- A layer whose hooks note that they were called. -/
private def noting (name : String) (replaced : Option String) (refuses : Bool) :
    Layer (StateM (List String)) where
  statement := some fun statement => do
    modify (· ++ [name ++ " sends " ++ statement])
    pure (replaced.map (statement ++ ·))
  response := some fun cellset => do
    modify (· ++ [name ++ " receives"])
    pure (if refuses then .error (.transport name) else .ok cellset)
  error := some fun e => do
    modify (· ++ [name ++ " fails"])
    pure (.transport (name ++ ": " ++ e.message))

/-- The hooks of a refused cellset are called in turn: all on the statement, those on the cellset up
to the layer that refuses it, and the error hooks from there. -/
theorem refusal_passes_outer_layers :
    (stack [noting "outer" (some "!") false, ⟨none, none, none⟩, noting "middle" none true,
        noting "inner" (some "?") false]
      (fun statement => do modify (· ++ ["post " ++ statement]); pure (.ok ⟨[], #[]⟩)) "SELECT").run
        [] =
      (.error (.transport "outer: Transport error: middle: Transport error: middle"),
        ["outer sends SELECT", "middle sends SELECT!", "inner sends SELECT!", "post SELECT!?",
          "inner receives", "middle receives", "middle fails", "outer fails"]) := by
  rw [stack_posts_once]
  rfl

end CubeQuery.Session.Layer
