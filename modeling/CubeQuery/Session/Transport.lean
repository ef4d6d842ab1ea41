import CubeQuery.Cellset.Basic

set_option autoImplicit false

/-!
# Transports

A transport sends one statement and comes back with a cellset or an error. What it does besides is
the effect of its monad. A layer around a transport may replace the statement on its way out, and
the cellset or the error on its way back, by hooks which may have effects too. Layers stack, so that
the statement meets the outermost layer first and the reply meets it last.
-/

namespace CubeQuery.Session

/-- Sends a statement and returns the outcome. -/
abbrev Transport (m : Type → Type) := String → m (Except Error Cellset)

/-- What happens around a transport; an absent hook changes nothing and has no effect. -/
structure Layer (m : Type → Type) where
  /-- Called with every statement; a result replaces it. -/
  statement : Option (String → m (Option String))
  /-- Called with every cellset. -/
  response : Option (Cellset → m (Except Error Cellset))
  /-- Called with every error, be it from the transport or from the hook on cellsets. -/
  error : Option (Error → m Error)

namespace Layer

variable {m : Type → Type} [Monad m]

/-- The statement that is sent in place of a given one. -/
def outgoing (layer : Layer m) (statement : String) : m String :=
  match layer.statement with
  | none => pure statement
  | some f => (fun replaced => replaced.getD statement) <$> f statement

/-- What the hook on cellsets makes of a cellset. -/
def received (layer : Layer m) (cellset : Cellset) : m (Except Error Cellset) :=
  match layer.response with
  | none => pure (.ok cellset)
  | some f => f cellset

/-- What the hook on errors makes of an error. -/
def failed (layer : Layer m) (e : Error) : m Error :=
  match layer.error with
  | none => pure e
  | some f => f e

/-- The outcome that is returned in place of a given one. -/
def incoming (layer : Layer m) (outcome : Except Error Cellset) : m (Except Error Cellset) := do
  let mapped ←
    match outcome with
    | .ok cellset => layer.received cellset
    | .error e => pure (.error e)
  match mapped with
  | .ok cellset => pure (.ok cellset)
  | .error e => .error <$> layer.failed e

/-- The transport with a layer around it. -/
def wrap (layer : Layer m) (transport : Transport m) : Transport m := fun statement => do
  let sent ← layer.outgoing statement
  let outcome ← transport sent
  layer.incoming outcome

/-- The transport with layers around it, the first one outermost. -/
def stack (layers : List (Layer m)) (transport : Transport m) : Transport m :=
  layers.foldr wrap transport

end Layer

/-- Hooks without effects. -/
structure Hooks where
  statement : Option (String → Option String)
  response : Option (Cellset → Except Error Cellset)
  error : Option (Error → Error)

namespace Hooks

/-- The layer of hooks without effects. -/
def layer {m : Type → Type} [Monad m] (h : Hooks) : Layer m where
  statement := h.statement.map fun f statement => pure (f statement)
  response := h.response.map fun f cellset => pure (f cellset)
  error := h.error.map fun f e => pure (f e)

/-- The transport with hooks around it. -/
def wrap {m : Type → Type} [Monad m] (h : Hooks) (transport : Transport m) : Transport m :=
  h.layer.wrap transport

end Hooks

end CubeQuery.Session
