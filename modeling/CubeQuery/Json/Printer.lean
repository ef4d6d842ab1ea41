import CubeQuery.Decimal.Shortest
import CubeQuery.Json.Basic
import CubeQuery.Text.Hex

set_option autoImplicit false

/-!
# Printing JSON values

Two layouts of one value: on one line without spaces, and over several lines indented by two
spaces. A real number is written with the fewest digits that read back, positionally while the
point is at most sixteen places after the first digit or five before it and with an exponent
otherwise; one that is not finite is written as null.
-/

namespace CubeQuery.Json

/-- A character inside a quoted text. -/
def escape (c : Char) : List Char :=
  match c with
  | '"' => ['\\', '"']
  | '\\' => ['\\', '\\']
  | '\n' => ['\\', 'n']
  | '\r' => ['\\', 'r']
  | '\t' => ['\\', 't']
  | '\x08' => ['\\', 'b']
  | '\x0c' => ['\\', 'f']
  | c =>
    if c.toNat < 0x20 then
      ['\\', 'u', '0', '0', Text.hexDigit (c.toNat / 16), Text.hexDigit (c.toNat % 16)]
    else [c]

/-- A quoted text. -/
def quoted (s : String) : String :=
  String.ofList ('"' :: s.toList.flatMap escape ++ ['"'])

/-- Digits at their places in a real number of JSON. -/
def scaledText (s : Decimal.Scaled) : String :=
  let digits := Nat.toDigits 10 s.digits
  let point : Int := digits.length + s.power
  if 0 ≤ s.power ∧ point ≤ 16 then s.positional ++ ".0"
  else if -5 < point ∧ point ≤ 16 then s.positional
  else
    let exponent := toString (point - 1)
    match digits with
    | [digit] => String.ofList [digit, 'e'] ++ exponent
    | digit :: rest => String.ofList (digit :: '.' :: rest ++ ['e']) ++ exponent
    | [] => ""

/-- A real number. -/
def realText (x : Float) : String :=
  let (negative, magnitude) := Decimal.signed x
  let sign := if negative then "-" else ""
  match magnitude with
  | .zero => sign ++ "0.0"
  | .finite b => sign ++ scaledText b.shortest
  | .infinite => "null"
  | .undefined => "null"

mutual

/-- A value on one line. -/
def compact : Json → String
  | null => "null"
  | bool value => if value then "true" else "false"
  | integer value => toString value
  | real value => realText value
  | text value => quoted value
  | array items => "[" ++ ",".intercalate (compactItems items) ++ "]"
  | object fields => "\x7b" ++ ",".intercalate (compactFields fields) ++ "\x7d"

/-- The elements of an array on one line. -/
def compactItems : List Json → List String
  | [] => []
  | item :: rest => compact item :: compactItems rest

/-- The fields of an object on one line. -/
def compactFields : List (String × Json) → List String
  | [] => []
  | (name, value) :: rest => (quoted name ++ ":" ++ compact value) :: compactFields rest

end

/-- A new line indented to a depth. -/
def newLine (depth : Nat) : String :=
  String.ofList ('\n' :: List.replicate (2 * depth) ' ')

/-- Parts between brackets, each on a line of its own. -/
def block (depth : Nat) (opening closing : String) (parts : List String) : String :=
  if parts.isEmpty then opening ++ closing
  else
    opening ++ newLine (depth + 1) ++ ("," ++ newLine (depth + 1)).intercalate parts
      ++ newLine depth ++ closing

mutual

/-- A value over several lines, its inner lines indented below `depth`. -/
def indented (depth : Nat) : Json → String
  | array items => block depth "[" "]" (indentedItems (depth + 1) items)
  | object fields => block depth "\x7b" "\x7d" (indentedFields (depth + 1) fields)
  | null => "null"
  | bool value => if value then "true" else "false"
  | integer value => toString value
  | real value => realText value
  | text value => quoted value

/-- The elements of an array over several lines. -/
def indentedItems (depth : Nat) : List Json → List String
  | [] => []
  | item :: rest => indented depth item :: indentedItems depth rest

/-- The fields of an object over several lines. -/
def indentedFields (depth : Nat) : List (String × Json) → List String
  | [] => []
  | (name, value) :: rest =>
    (quoted name ++ ": " ++ indented depth value) :: indentedFields depth rest

end

/-- A value over several lines. -/
def pretty (value : Json) : String :=
  indented 0 value

end CubeQuery.Json
