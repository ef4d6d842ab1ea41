import CubeQuery.Error

set_option autoImplicit false

/-!
# Outcomes

Laws of computations that end with a value or with an error, in the two forms that the theory of
queries and replies needs: which errors can come out at all (`FailsOnly`), and for the checks of a
query under which condition a value comes out (`Decides`).

Main statements: both properties pass through a sequence of steps (`FailsOnly.bind`,
`Decides.bind`), the conditions of its steps being joined.
-/

namespace CubeQuery

variable {α β : Type}

/-! ## Errors that can come out -/

/-- Every error that an outcome can be has a property. -/
def FailsOnly (P : Error → Prop) (x : Except Error α) : Prop :=
  ∀ e, x = .error e → P e

namespace FailsOnly

variable {P : Error → Prop}

theorem ok (a : α) : FailsOnly P (.ok a) := by
  intro e h
  cases h

theorem error {e : Error} (he : P e) : FailsOnly P (.error e : Except Error α) := by
  intro e' h
  cases h
  exact he

theorem of_eq_ok {x : Except Error α} {a : α} (h : x = .ok a) : FailsOnly P x := by
  rw [h]
  exact ok a

theorem mono {Q : Error → Prop} {x : Except Error α} (hx : FailsOnly P x)
    (hPQ : ∀ e, P e → Q e) : FailsOnly Q x := by
  intro e h
  exact hPQ e (hx e h)

/-- A sequence fails as one of its steps does; the second step may count on the first. -/
theorem bind {x : Except Error α} {f : α → Except Error β} (hx : FailsOnly P x)
    (hf : ∀ a, x = .ok a → FailsOnly P (f a)) : FailsOnly P (x >>= f) := by
  cases x with
  | error e => exact error (hx e rfl)
  | ok a => exact hf a rfl

theorem map {x : Except Error α} (f : α → β) (hx : FailsOnly P x) : FailsOnly P (x.map f) := by
  cases x with
  | error e => exact error (hx e rfl)
  | ok a => exact ok (f a)

theorem mapError {ε : Type} {f : ε → Error} (h : ∀ fault, P (f fault)) (x : Except ε α) :
    FailsOnly P (x.mapError f) := by
  cases x with
  | error fault => exact error (h fault)
  | ok a => exact ok a

/-- A traversal fails as one of its elements does. -/
theorem mapM {f : α → Except Error β} {xs : List α} (h : ∀ a ∈ xs, FailsOnly P (f a)) :
    FailsOnly P (xs.mapM f) := by
  induction xs with
  | nil => exact ok []
  | cons a rest ih =>
    rw [List.mapM_cons]
    refine bind (h a List.mem_cons_self) fun b _ => ?_
    refine bind (ih fun a ha => h a (List.mem_cons_of_mem _ ha)) fun bs _ => ?_
    exact ok (b :: bs)

/-- A fold fails as one of its steps does. -/
theorem foldlM {f : β → α → Except Error β} {xs : List α} (h : ∀ a ∈ xs, ∀ b, FailsOnly P (f b a))
    (b : β) : FailsOnly P (xs.foldlM f b) := by
  induction xs generalizing b with
  | nil => exact ok b
  | cons a rest ih =>
    rw [List.foldlM_cons]
    refine bind (h a List.mem_cons_self b) fun b' _ => ?_
    exact ih (fun a ha => h a (List.mem_cons_of_mem _ ha)) b'

/-- A fold whose steps keep an invariant fails as a step from the invariant does, and keeps it. -/
theorem foldlM_of_invariant {I : β → Prop} {f : β → α → Except Error β} {xs : List α}
    (h : ∀ a ∈ xs, ∀ b, I b → FailsOnly P (f b a) ∧ ∀ b', f b a = .ok b' → I b') {b : β}
    (hb : I b) : FailsOnly P (xs.foldlM f b) ∧ ∀ b', xs.foldlM f b = .ok b' → I b' := by
  induction xs generalizing b with
  | nil =>
    refine ⟨ok b, fun b' hb' => ?_⟩
    cases hb'
    exact hb
  | cons a rest ih =>
    obtain ⟨hstep, hkeeps⟩ := h a List.mem_cons_self b hb
    have hrest := fun b (hb : I b) => ih (fun a ha => h a (List.mem_cons_of_mem _ ha)) hb
    rw [List.foldlM_cons]
    cases hfirst : f b a with
    | error e => exact ⟨error (hstep e hfirst), nofun⟩
    | ok b' => exact hrest b' (hkeeps b' hfirst)

end FailsOnly

/-- A sequence that succeeds is made of steps that do. -/
theorem steps_of_bind_eq_ok {x : Except Error α} {f : α → Except Error β} {b : β}
    (h : x >>= f = .ok b) : ∃ a, x = .ok a ∧ f a = .ok b := by
  cases x with
  | error e => cases h
  | ok a => exact ⟨a, rfl, h⟩

/-- A sequence whose first step succeeds goes on with its second. -/
theorem bind_of_eq_ok {x : Except Error α} {f : α → Except Error β} {a : α} (h : x = .ok a) :
    x >>= f = f a := by
  rw [h]
  rfl

/-- Where the value that comes out is an option, it is the value that came out before. -/
theorem eq_ok_of_some_map_eq_ok {x : Except Error α} {result : Option α}
    (h : some <$> x = .ok result) : ∃ a, result = some a ∧ x = .ok a := by
  cases x with
  | error e => cases h
  | ok a =>
    cases h
    exact ⟨a, rfl, rfl⟩

/-- A traversal that succeeds has one result for each element. -/
theorem length_of_mapM {f : α → Except Error β} {xs : List α} {ys : List β}
    (h : xs.mapM f = .ok ys) : ys.length = xs.length := by
  induction xs generalizing ys with
  | nil =>
    cases h
    rfl
  | cons a rest ih =>
    rw [List.mapM_cons] at h
    obtain ⟨b, -, hb⟩ := steps_of_bind_eq_ok h
    obtain ⟨bs, hrest, hbs⟩ := steps_of_bind_eq_ok hb
    cases hbs
    rw [List.length_cons, List.length_cons, ih hrest]

/-- Each result of a traversal is that of an element. -/
theorem exists_of_mem_mapM {f : α → Except Error β} {xs : List α} {ys : List β} {b : β}
    (h : xs.mapM f = .ok ys) (hb : b ∈ ys) : ∃ a ∈ xs, f a = .ok b := by
  induction xs generalizing ys with
  | nil =>
    cases h
    cases hb
  | cons a rest ih =>
    rw [List.mapM_cons] at h
    obtain ⟨first, hfirst, h⟩ := steps_of_bind_eq_ok h
    obtain ⟨others, hothers, h⟩ := steps_of_bind_eq_ok h
    cases h
    rcases List.mem_cons.1 hb with rfl | hmem
    · exact ⟨a, List.mem_cons_self, hfirst⟩
    · obtain ⟨a', ha', hresult⟩ := ih hothers hmem
      exact ⟨a', List.mem_cons_of_mem _ ha', hresult⟩

/-- Each element of a traversal that succeeds has a result. -/
theorem isOk_of_mapM {f : α → Except Error β} {xs : List α} {ys : List β} {a : α}
    (h : xs.mapM f = .ok ys) (ha : a ∈ xs) : ∃ b, f a = .ok b := by
  induction xs generalizing ys with
  | nil => cases ha
  | cons first rest ih =>
    rw [List.mapM_cons] at h
    obtain ⟨b, hfirst, h⟩ := steps_of_bind_eq_ok h
    obtain ⟨others, hothers, -⟩ := steps_of_bind_eq_ok h
    rcases List.mem_cons.1 ha with rfl | hmem
    · exact ⟨b, hfirst⟩
    · exact ih hothers hmem

/-- Each step of a fold that succeeds does. -/
theorem isOk_of_foldlM {f : β → α → Except Error β} {xs : List α} {b b' : β} {a : α}
    (h : xs.foldlM f b = .ok b') (ha : a ∈ xs) : ∃ before after, f before a = .ok after := by
  induction xs generalizing b with
  | nil => cases ha
  | cons first rest ih =>
    rw [List.foldlM_cons] at h
    obtain ⟨next, hfirst, h⟩ := steps_of_bind_eq_ok h
    rcases List.mem_cons.1 ha with rfl | hmem
    · exact ⟨b, next, hfirst⟩
    · exact ih h hmem

/-- A traversal whose elements all succeed collects their results. -/
theorem mapM_eq_ok_map {f : α → Except Error β} {g : α → β} {xs : List α}
    (h : ∀ a ∈ xs, f a = .ok (g a)) : xs.mapM f = .ok (xs.map g) := by
  induction xs with
  | nil => rfl
  | cons a rest ih =>
    rw [List.mapM_cons, h a List.mem_cons_self, ih fun a ha => h a (List.mem_cons_of_mem _ ha)]
    rfl

/-! ## Conditions under which a value comes out -/

/-- Whether an error refuses a query for its attributes, its measures, its filters or its shape. -/
def Error.isRefusal : Error → Bool
  | invalidAttribute _ | invalidMeasure _ | invalidFilter _ | invalidQuery _ => true
  | invalidExpression _ | emptyOperands _ _ | unsupportedAxis _ | invalidResponse _
  | malformedXml | transport _ => false

theorem Error.isRefusal_iff (e : Error) :
    e.isRefusal = true ↔
      (∃ fault, e = .invalidAttribute fault) ∨ (∃ fault, e = .invalidMeasure fault) ∨
        (∃ fault, e = .invalidFilter fault) ∨ ∃ fault, e = .invalidQuery fault := by
  cases e <;> simp [isRefusal]

theorem Error.isConstruction_of_isRefusal {e : Error} (h : e.isRefusal = true) :
    e.isConstruction = true := by
  obtain ⟨fault, rfl⟩ | ⟨fault, rfl⟩ | ⟨fault, rfl⟩ | ⟨fault, rfl⟩ := (isRefusal_iff e).1 h
  all_goals rfl

/-- An outcome is a value exactly under a condition, and otherwise the refusal of a query. -/
def Decides (p : Prop) (x : Except Error α) : Prop :=
  ((∃ a, x = .ok a) ↔ p) ∧ FailsOnly (fun e => e.isRefusal = true) x

namespace Decides

variable {p q : Prop}

theorem of_eq_ok {x : Except Error α} {a : α} (h : x = .ok a) : Decides True x :=
  ⟨⟨fun _ => trivial, fun _ => ⟨a, h⟩⟩, FailsOnly.of_eq_ok h⟩

theorem of_error {e : Error} (he : e.isRefusal = true) :
    Decides False (.error e : Except Error α) := by
  refine ⟨⟨?_, False.elim⟩, FailsOnly.error he⟩
  rintro ⟨a, h⟩
  cases h

theorem congr {x : Except Error α} (h : Decides p x) (hpq : p ↔ q) : Decides q x :=
  ⟨h.1.trans hpq, h.2⟩

/-- A check whose faults are put into the words of a refusal. -/
theorem of_mapError {ε : Type} {f : ε → Error} (hf : ∀ fault, (f fault).isRefusal = true)
    {x : Except ε Unit} (h : x = .ok () ↔ p) : Decides p (x.mapError f) := by
  refine ⟨?_, FailsOnly.mapError hf x⟩
  rw [← h]
  cases x with
  | error fault =>
    constructor
    · rintro ⟨_, hok⟩
      cases hok
    · intro hok
      cases hok
  | ok _ => exact ⟨fun _ => rfl, fun _ => ⟨(), rfl⟩⟩

theorem map {x : Except Error α} (f : α → β) (hx : Decides p x) : Decides p (f <$> x) := by
  obtain ⟨hiff, hfails⟩ := hx
  cases x with
  | error e =>
    refine ⟨⟨?_, ?_⟩, hfails.map f⟩
    · rintro ⟨b, hb⟩
      cases hb
    · intro hp
      obtain ⟨a, ha⟩ := hiff.2 hp
      cases ha
  | ok a => exact (of_eq_ok rfl).congr (iff_of_true trivial (hiff.1 ⟨a, rfl⟩))

/-- A step that is only taken on request has its condition only then. -/
theorem ite_ok {x : Except Error α} (hx : Decides p x) (isRequested : Bool) (a : α) :
    Decides (isRequested = true → p) (if isRequested then x else .ok a) := by
  cases isRequested with
  | false => exact (of_eq_ok rfl).congr (iff_of_true trivial nofun)
  | true => exact hx.congr ⟨fun hp _ => hp, fun h => h rfl⟩

/-- A sequence succeeds under the conditions of both steps; the second may count on the first. -/
theorem bind {x : Except Error α} {f : α → Except Error β} (hx : Decides p x)
    (hf : ∀ a, x = .ok a → p → Decides q (f a)) : Decides (p ∧ q) (x >>= f) := by
  obtain ⟨hiff, hfails⟩ := hx
  cases x with
  | error e =>
    have hnot : ¬ p := by
      intro hp
      obtain ⟨a, ha⟩ := hiff.2 hp
      cases ha
    exact (of_error (hfails e rfl)).congr ⟨False.elim, fun h => hnot h.1⟩
  | ok a =>
    have hp : p := hiff.1 ⟨a, rfl⟩
    exact (hf a rfl hp).congr ⟨fun hq => ⟨hp, hq⟩, And.right⟩

/-- What follows a step leaves the condition to it where it always succeeds. -/
theorem bind_isOk {x : Except Error α} {f : α → Except Error β} (hx : Decides p x)
    (hf : ∀ a, x = .ok a → ∃ b, f a = .ok b) : Decides p (x >>= f) := by
  have hbind : Decides (p ∧ True) (x >>= f) := by
    apply hx.bind
    intro a ha _
    obtain ⟨b, hb⟩ := hf a ha
    exact of_eq_ok hb
  exact hbind.congr (and_iff_left trivial)

/-- A step that always succeeds leaves the condition to what follows. -/
theorem bind_ok {x : Except Error α} {f : α → Except Error β} {a : α} (hx : x = .ok a)
    (hf : Decides q (f a)) : Decides q (x >>= f) := by
  rw [hx]
  exact hf

end Decides

end CubeQuery
