import CubeQuery.Decimal.Numeral
import CubeQuery.Text.Hex
import CubeQuery.Xml.Char

set_option autoImplicit false

/-!
# References and line ends

Character data and attribute values with their references resolved and their line ends made
uniform. A document has no entities of its own, so only the five predefined ones are known.

A reference stands for its character literally: a carriage return that a reference gives is kept.
-/

namespace CubeQuery.Xml

/-- A character of the document, or one that a reference gives. -/
inductive Item where
  | plain (c : Char)
  | referred (c : Char)
deriving DecidableEq, Repr

/-- The character with a code point; U+FFFD for a number that is no code point of a character. -/
def charOfCode (n : Nat) : Char :=
  if n.isValidChar then Char.ofNat n else '\uFFFD'

/-- The character that a reference between ampersand and semicolon names. -/
def referred? : List Char → Option Char
  | '#' :: 'x' :: digits => do
    if digits.isEmpty then none
    character? (← Text.hexNat? digits)
  | '#' :: digits => do
    if digits.isEmpty || !digits.all Char.isDigit then none
    character? (Decimal.natOfDigits digits)
  | name =>
    match String.ofList name with
    | "quot" => some '"'
    | "amp" => some '&'
    | "apos" => some '\''
    | "lt" => some '<'
    | "gt" => some '>'
    | _ => none
where
  /-- The character of a code of at most 32 bits, if a document may hold it. -/
  character? (n : Nat) : Option Char :=
    if n < UInt32.size && isChar (charOfCode n) then some (charOfCode n) else none

/--
The items of raw characters. `open?` holds the characters read since an ampersand that is not yet
closed, in reverse.
-/
def itemsFrom (open? : Option (List Char)) : List Char → Option (List Item)
  | [] => if open?.isSome then none else some []
  | c :: rest =>
    match open? with
    | some read =>
      if c = ';' then do
        let character ← referred? read.reverse
        (itemsFrom none rest).map (.referred character :: ·)
      else itemsFrom (some (c :: read)) rest
    | none =>
      if c = '&' then itemsFrom (some []) rest
      else (itemsFrom none rest).map (.plain c :: ·)

/-- The items of raw characters; none if an ampersand does not begin a known reference. -/
def items? (cs : List Char) : Option (List Item) :=
  itemsFrom none cs

/--
Character data with uniform line ends: a carriage return becomes a line feed, together with a line
feed behind it. One directly before a reference stays, and the character directly behind a
reference is taken literally. `held` tells of a carriage return that waits for the next character,
`literal` of a reference just read.
-/
def joinLines (held literal : Bool) : List Item → List Char
  | [] => if held then ['\r'] else []
  | .referred c :: rest => (if held then ['\r'] else []) ++ c :: joinLines false true rest
  | .plain c :: rest =>
    if literal then
      if c = '\r' then joinLines true false rest else c :: joinLines false false rest
    else
      let waits := c = '\r' && !rest.isEmpty
      let shown := if c = '\r' then (if waits then [] else ['\n']) else [c]
      if held then
        '\n' :: (if c = '\n' then joinLines false false rest
          else shown ++ joinLines waits false rest)
      else shown ++ joinLines waits false rest

/-- The character data that raw characters stand for. -/
def charData? (cs : List Char) : Option String :=
  (items? cs).map fun items => String.ofList (joinLines false false items)

/-- The character data of a CDATA section, in which nothing is a reference. -/
def sectionData (cs : List Char) : String :=
  String.ofList (joinLines false false (cs.map .plain))

/-- An attribute value with every line end and tab made one space. -/
def spaceLines : List Item → List Char
  | [] => []
  | .referred c :: rest => c :: spaceLines rest
  | .plain '\r' :: .plain '\n' :: rest => spaceLines (.plain '\n' :: rest)
  | .plain c :: rest =>
    (if c = '\r' || c = '\n' || c = '\t' then ' ' else c) :: spaceLines rest

/-- The value that the raw characters of an attribute stand for. -/
def attributeValue? (cs : List Char) : Option String :=
  (items? cs).map fun items => String.ofList (spaceLines items)

end CubeQuery.Xml
