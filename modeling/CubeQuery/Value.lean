import CubeQuery.Decimal.Numeral
import CubeQuery.Decimal.Shortest
import CubeQuery.Json.Basic
import CubeQuery.Text.Blank

set_option autoImplicit false

/-!
# Values

The scalars that members, cells and filters carry: a number or a text. The absence of a value is
`none`.

Main statements: the text of an inferred text is that text (`text_infer_of_real?_eq_none`), and a
finite value is read back from JSON (`ofJson?_toJson`).
-/

namespace CubeQuery

/-- A number or a text. -/
inductive Value where
  | number (value : Float)
  | text (value : String)
deriving Inhabited

namespace Value

/-- The value that raw text stands for: a number if it is a numeral between blanks, else itself. -/
def infer (raw : String) : Value :=
  match Decimal.real? (Text.trimChars raw.toList) with
  | some x => number x
  | none => text raw

/-- The number of a value, read from a text if need be. -/
def toNumber? : Value → Option Float
  | number x => some x
  | text s => Decimal.real? (Text.trimChars s.toList)

/-- The text that a value holds, if it holds one. -/
def toText? : Value → Option String
  | number _ => none
  | text s => some s

/-- A value in words: a number in its shortest decimal form, a text as it is. -/
def words : Value → String
  | number x => Decimal.text x
  | text s => s

/-- Whether two values are the same number or the same text; not-a-number differs from itself. -/
def same : Value → Value → Bool
  | number x, number y => x == y
  | text s, text t => s == t
  | _, _ => false

/-- Whether two optional values are both absent or both present and the same. -/
def sameOption : Option Value → Option Value → Bool
  | none, none => true
  | some v, some w => same v w
  | _, _ => false

/-- A text that is no numeral keeps its spelling. -/
theorem text_infer_of_real?_eq_none {raw : String}
    (h : Decimal.real? (Text.trimChars raw.toList) = none) : (infer raw).words = raw := by
  simp [infer, h, words]

/-! ## In JSON -/

/-- A value in JSON. A number that is not finite has no JSON form and becomes null. -/
def toJson : Value → Json
  | number x => if x.isFinite then .real x else .null
  | text s => .text s

/-- The value that a JSON number or text is. -/
def ofJson? : Json → Option Value
  | .integer n => some (number (Decimal.ofInt n))
  | .real x => some (number x)
  | .text s => some (text s)
  | _ => none

/-- Whether a value has a JSON form of its own: a text has one, and a finite number. -/
def isFinite : Value → Bool
  | number x => x.isFinite
  | text _ => true

/-- A finite value is read back from JSON. -/
theorem ofJson?_toJson {value : Value} (h : value.isFinite = true) :
    ofJson? value.toJson = some value := by
  cases value with
  | number x =>
    rw [isFinite] at h
    rw [toJson, if_pos h, ofJson?]
  | text s => rfl

end Value

end CubeQuery
