import CubeQuery.Decimal.Numeral
import CubeQuery.Json.Basic
import CubeQuery.Text.Hex
import CubeQuery.Text.Word

set_option autoImplicit false

/-!
# Reading JSON text

A recursive reader over the characters of one JSON text. Of two fields of an object with the same
name the later one counts. Each step of the reader takes one unit of fuel, and twice the length of
the text is enough, since between two steps at the same place at least one character is read.
-/

namespace CubeQuery.Json

/-- White space between the tokens of JSON. -/
def isSpace (c : Char) : Bool :=
  c = ' ' || c = '\t' || c = '\n' || c = '\r'

/-- The code unit of four hexadecimal digits. -/
def codeUnit? (cs : List Char) : Option (Nat × List Char) :=
  match cs with
  | a :: b :: c :: d :: rest => do
    let a ← Text.hexValue? a
    let b ← Text.hexValue? b
    let c ← Text.hexValue? c
    let d ← Text.hexValue? d
    some (((a * 16 + b) * 16 + c) * 16 + d, rest)
  | _ => none

/-- The character of a numeric escape, two of which stand for one character beyond 16 bits. -/
def escaped? (cs : List Char) : Option (Char × List Char) := do
  let (unit, rest) ← codeUnit? cs
  if 0xD800 ≤ unit ∧ unit < 0xDC00 then
    match rest with
    | '\\' :: 'u' :: rest => do
      let (low, rest) ← codeUnit? rest
      if 0xDC00 ≤ low ∧ low < 0xE000 then
        some (Char.ofNat (0x10000 + (unit - 0xD800) * 0x400 + (low - 0xDC00)), rest)
      else none
    | _ => none
  else if 0xDC00 ≤ unit ∧ unit < 0xE000 then none
  else some (Char.ofNat unit, rest)

/-- The character that a one-letter escape stands for. -/
def shortEscape? : Char → Option Char
  | '"' => some '"'
  | '\\' => some '\\'
  | '/' => some '/'
  | 'b' => some '\x08'
  | 'f' => some '\x0c'
  | 'n' => some '\n'
  | 'r' => some '\r'
  | 't' => some '\t'
  | _ => none

/-- The characters of a text up to its closing quote, and what follows the quote. -/
def textBody? : Nat → List Char → List Char → Option (List Char × List Char)
  | 0, _, _ => none
  | _ + 1, _, [] => none
  | fuel + 1, read, c :: rest =>
    if c = '"' then some (read.reverse, rest)
    else if c = '\\' then
      match rest with
      | 'u' :: rest => do
        let (c, rest) ← escaped? rest
        textBody? fuel (c :: read) rest
      | e :: rest => do
        let c ← shortEscape? e
        textBody? fuel (c :: read) rest
      | [] => none
    else if c.toNat < 0x20 then none
    else textBody? fuel (c :: read) rest

/-- The number that a numeral stands for: its sign, its whole digits, and the rest of it. -/
def number? (negative : Bool) (whole : List Char) (rest : List Char) :
    Option (Json × List Char) :=
  let wellFormed := !whole.isEmpty && (whole.length = 1 || whole.head? != some '0')
  let size : Int := Decimal.natOfDigits whole
  let value := if negative then -size else size
  let (fraction, rest, hasPoint) :=
    match rest with
    | '.' :: rest => (rest.takeWhile Char.isDigit, rest.dropWhile Char.isDigit, true)
    | rest => ([], rest, false)
  let (mark, rest) :=
    match rest with
    | e :: rest =>
      if e = 'e' || e = 'E' then
        let sign := rest.takeWhile fun c => c = '+' || c = '-'
        let rest := rest.dropWhile fun c => c = '+' || c = '-'
        (e :: sign ++ rest.takeWhile Char.isDigit, rest.dropWhile Char.isDigit)
      else ([], e :: rest)
    | [] => ([], [])
  if !wellFormed || (hasPoint && fraction.isEmpty) then none
  else if !hasPoint && mark.isEmpty && !(negative && size = 0) && fitsWord value then
    some (integer value, rest)
  else
    (Decimal.exponent? mark).map fun exponent =>
      let x := Decimal.nearest (Decimal.natOfDigits (whole ++ fraction))
        (exponent - fraction.length)
      (real (if negative then -x else x), rest)

mutual

/-- A value and what follows it. -/
def value? : Nat → List Char → Option (Json × List Char)
  | 0, _ => none
  | fuel + 1, cs =>
    match cs.dropWhile isSpace with
    | '"' :: rest => (textBody? (rest.length + 1) [] rest).map fun (s, rest) =>
        (text (String.ofList s), rest)
    | '[' :: rest =>
      match rest.dropWhile isSpace with
      | ']' :: rest => some (array [], rest)
      | rest => (items? fuel rest).map fun (items, rest) => (array items, rest)
    | '\x7b' :: rest =>
      match rest.dropWhile isSpace with
      | '\x7d' :: rest => some (object [], rest)
      | rest => (fields? fuel [] rest).map fun (fields, rest) => (object fields, rest)
    | '-' :: rest =>
      number? true (rest.takeWhile Char.isDigit) (rest.dropWhile Char.isDigit)
    | c :: rest =>
      if c.isDigit then
        number? false ((c :: rest).takeWhile Char.isDigit) ((c :: rest).dropWhile Char.isDigit)
      else if c = 't' then (Text.afterWord? "rue" rest).map fun rest => (bool true, rest)
      else if c = 'f' then (Text.afterWord? "alse" rest).map fun rest => (bool false, rest)
      else if c = 'n' then (Text.afterWord? "ull" rest).map fun rest => (null, rest)
      else none
    | [] => none

/-- The elements of an array from the first one on, and what follows the array. -/
def items? : Nat → List Char → Option (List Json × List Char)
  | 0, _ => none
  | fuel + 1, cs =>
    match value? fuel cs with
    | none => none
    | some (item, rest) =>
      match rest.dropWhile isSpace with
      | ',' :: rest => (items? fuel rest).map fun (items, rest) => (item :: items, rest)
      | ']' :: rest => some ([item], rest)
      | _ => none

/-- The fields of an object from the next one on, added to those read, and what follows it. -/
def fields? : Nat → List (String × Json) → List Char →
    Option (List (String × Json) × List Char)
  | 0, _, _ => none
  | fuel + 1, read, cs =>
    match cs.dropWhile isSpace with
    | '"' :: rest =>
      match textBody? (rest.length + 1) [] rest with
      | none => none
      | some (name, rest) =>
        match rest.dropWhile isSpace with
        | ':' :: rest =>
          match value? fuel rest with
          | none => none
          | some (value, rest) =>
            let read := setField (String.ofList name) value read
            match rest.dropWhile isSpace with
            | ',' :: rest => fields? fuel read rest
            | '\x7d' :: rest => some (read, rest)
            | _ => none
        | _ => none
    | _ => none

end

/-- The value that a JSON text stands for, if it is one. -/
def read? (s : String) : Option Json :=
  match value? (2 * s.length + 2) s.toList with
  | some (value, rest) => if rest.all isSpace then some value else none
  | none => none

end CubeQuery.Json
