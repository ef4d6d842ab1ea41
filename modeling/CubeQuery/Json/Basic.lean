set_option autoImplicit false

/-!
# JSON values

A JSON value keeps whole numbers and real numbers apart: a numeral without a fraction and an
exponent that fits 64 bits is whole, every other numeral is real.

Main statement: a field that was set is the field that is found (`field?_setField`).
-/

namespace CubeQuery

/-- A JSON value. -/
inductive Json where
  | null
  | bool (value : Bool)
  | integer (value : Int)
  | real (value : Float)
  | text (value : String)
  | array (items : List Json)
  | object (fields : List (String × Json))
deriving Inhabited

namespace Json

/-- The value of the field `name` among `fields`. -/
def field? (name : String) (fields : List (String × Json)) : Option Json :=
  (fields.find? fun field => field.1 == name).map Prod.snd

/-- The fields with `name` holding `value`: replaced in place, or added at the end. -/
def setField (name : String) (value : Json) :
    List (String × Json) → List (String × Json)
  | [] => [(name, value)]
  | (other, old) :: rest =>
    if other = name then (name, value) :: rest else (other, old) :: setField name value rest

/-- A field that was set is found. -/
theorem field?_setField (name : String) (value : Json) (fields : List (String × Json)) :
    field? name (setField name value fields) = some value := by
  induction fields with
  | nil => simp [setField, field?]
  | cons entry rest ih =>
    obtain ⟨other, old⟩ := entry
    by_cases h : other = name
    · simp [setField, field?, h]
    · have hb : (other == name) = false := by simpa using h
      have hs : setField name value ((other, old) :: rest)
          = (other, old) :: setField name value rest := by simp [setField, h]
      rw [hs]
      simpa [field?, List.find?, hb] using ih

/-! ## Scalars -/

/-- The text that a JSON value is, if it is one. -/
def text? : Json → Option String
  | text value => some value
  | _ => none

/-- The truth value that a JSON value is, if it is one. -/
def bool? : Json → Option Bool
  | bool value => some value
  | _ => none

/-- Whether a whole number fits 64 bits, with a sign or without. -/
def fitsWord (n : Int) : Bool :=
  Int64.minValue.toInt ≤ n && n.toNat < UInt64.size

/-- The count of at most 64 bits that a JSON value is, if it is one. -/
def count64? : Json → Option UInt64
  | integer value =>
    if 0 ≤ value ∧ value.toNat < UInt64.size then some (UInt64.ofNat value.toNat) else none
  | _ => none

/-- The count of at most 32 bits that a JSON value is, if it is one. -/
def count32? : Json → Option UInt32
  | integer value =>
    if 0 ≤ value ∧ value.toNat < UInt32.size then some (UInt32.ofNat value.toNat) else none
  | _ => none

/-- A count as a whole number. -/
def ofCount (n : UInt64) : Json :=
  integer n.toNat

/-- The elements of an array, each read by `read`; none if one of them cannot be read. -/
def list? {α : Type} (read : Json → Option α) : Json → Option (List α)
  | array items => items.mapM read
  | _ => none

/-- A list as an array of its written elements. -/
def ofList {α : Type} (write : α → Json) (items : List α) : Json :=
  array (items.map write)

/-- An optional value, written as null when absent. -/
def ofOption {α : Type} (write : α → Json) : Option α → Json
  | none => null
  | some value => write value

/-- A field that is left out when its value is absent. -/
def fieldOf {α : Type} (name : String) (write : α → Json) : Option α → List (String × Json)
  | none => []
  | some value => [(name, write value)]

end Json

end CubeQuery
