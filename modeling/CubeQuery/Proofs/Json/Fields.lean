import CubeQuery.Json.Record

set_option autoImplicit false

/-!
# Fields that are read back

A model is written field by field and read field by field, so it is read back exactly if each field
is. A field that must be given, or that takes a default, is read as what stands under its name. An
optional one is written as null or left out when absent, and whatever is written for a value that
is present must then be something else than null.

Main statements: what stands under a name in fields put together (`field?_append`,
`field?_fieldOf`), and when lists and optional values are read back (`list?_ofList_iff`,
`Record.optional_eq_some_iff`, `Record.nullable_eq_some_iff`).
-/

namespace CubeQuery.Json

variable {α : Type}

/-! ## Fields by name -/

/-- The record of the fields of an object by name; other values have no field. -/
def byName : Json → Record
  | object fields => ⟨fields, true⟩
  | _ => ⟨[], true⟩

@[simp]
theorem field?_nil (name : String) : field? name [] = none :=
  rfl

@[simp]
theorem field?_cons (name other : String) (value : Json) (rest : List (String × Json)) :
    field? name ((other, value) :: rest) =
      if other = name then some value else field? name rest := by
  by_cases h : other = name
  · simp [field?, h]
  · simp [field?, h]

@[simp]
theorem field?_append (name : String) (front back : List (String × Json)) :
    field? name (front ++ back) = (field? name front).or (field? name back) := by
  rw [field?, List.find?_append, Option.map_or]
  rfl

@[simp]
theorem field?_fieldOf (name other : String) (write : α → Json) (a? : Option α) :
    field? name (fieldOf other write a?) = if other = name then a?.map write else none := by
  cases a? with
  | none => simp [fieldOf]
  | some a => simp [fieldOf]

/-! ## Lists -/

/-- A list is read back exactly if each of its elements is. -/
theorem list?_ofList_iff {read : Json → Option α} {write : α → Json} {items : List α} :
    list? read (ofList write items) = some items ↔ ∀ a ∈ items, read (write a) = some a := by
  rw [ofList, list?]
  induction items with
  | nil => simp
  | cons a rest ih =>
    rw [List.map_cons, List.mapM_cons, List.forall_mem_cons, ← ih]
    simp only [Option.bind_eq_bind, Option.pure_def, Option.bind_eq_some_iff, Option.some.injEq,
      List.cons.injEq]
    constructor
    · rintro ⟨b, hb, bs, hbs, rfl, rfl⟩
      exact ⟨hb, hbs⟩
    · rintro ⟨ha, hrest⟩
      exact ⟨a, ha, rest, hrest, rfl, rfl⟩

/-! ## Records -/

/-- A model is read back from its last part exactly if the part is. -/
theorem bind_model_eq_some_iff {β : Type} {part? : Option α} {part : α} (model : α → β)
    (hmodel : ∀ found, model found = model part → found = part) :
    (part?.bind fun found => some (model found)) = some (model part) ↔ part? = some part := by
  rw [Option.bind_eq_some_iff]
  constructor
  · rintro ⟨found, hfound, heq⟩
    rw [hfound, hmodel found (Option.some.inj heq)]
  · intro hpart
    exact ⟨part, hpart, rfl⟩

namespace Record

variable {r : Record} {name : String} {read : Json → Option α} {write : α → Json}

theorem required_eq {json : Json} (h : field? name r.fields = some json) :
    r.required name read = read json := by
  rw [required, h, Option.bind_some]

theorem defaulted_eq {json : Json} {default : α} (h : field? name r.fields = some json) :
    r.defaulted name default read = read json := by
  rw [defaulted, h]

/-- A list that is left out when empty has the empty list for its default. -/
theorem defaulted_nil_eq_some_iff {items : List α}
    (h : field? name r.fields =
      if items.isEmpty then none else some (ofList write items)) :
    r.defaulted name [] (list? read) = some items ↔ ∀ a ∈ items, read (write a) = some a := by
  cases items with
  | nil => simp [defaulted, h]
  | cons a rest => rw [defaulted_eq h, list?_ofList_iff]

/-- A value that is written as null when absent is read back if null is not read as a value. -/
theorem nullable_eq_some_iff {a? : Option α} (hnull : read .null = none)
    (h : field? name r.fields = some (ofOption write a?)) :
    r.nullable name read = some a? ↔ ∀ a ∈ a?, read (write a) = some a := by
  cases a? with
  | none => simp [nullable, h, ofOption]
  | some a =>
    rw [nullable, h, ofOption]
    cases hjson : write a <;> simp [hjson, hnull]

/-- A field that is given may be null or not, whether it may be missing or not. -/
theorem optional_eq_nullable {json : Json} (h : field? name r.fields = some json) :
    r.optional name read = r.nullable name read := by
  rw [optional, nullable, h]
  cases json <;> rfl

/-- A value that is left out when absent is read back if null is not read as a value. -/
theorem optional_eq_some_iff {a? : Option α} (hnull : read .null = none)
    (h : field? name r.fields = a?.map write) :
    r.optional name read = some a? ↔ ∀ a ∈ a?, read (write a) = some a := by
  cases a? with
  | none => simp [optional, h]
  | some a => rw [optional_eq_nullable h, nullable_eq_some_iff hnull h]

end Record

end CubeQuery.Json
