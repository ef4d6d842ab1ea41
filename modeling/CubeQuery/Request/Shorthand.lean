import CubeQuery.Request.Options
import CubeQuery.Text.Blank

set_option autoImplicit false

/-!
# Shorthands

Filters, sort keys, operators and directions from short texts.

A filter is written as a level, then optionally `.members` or `.children`, then optionally a member
key, then optionally a comparison. The parts are taken off the end of the text one after another: a
part that is not recognised stays with the level, which must be bracketed in the end.

Main statement: a part that is taken off and what is left make up the text
(`splitComparison?_append`).
-/

namespace CubeQuery.Request

open Mdx (Level Comparison Direction)

/-- The operator written in a text between blanks. -/
def parseComparison (s : String) : Except Error Comparison :=
  let trimmed := Text.trim s
  match Comparison.ofText? trimmed with
  | some comparison => .ok comparison
  | none => .error (.invalidFilter (.unknownOperator trimmed))

/-- The direction written in a text between blanks, in letters of any case. -/
def parseDirection (s : String) : Except Error Direction :=
  let word := Text.upperText (Text.trim s)
  match Direction.ofText? word with
  | some direction => .ok direction
  | none => .error (.invalidQuery (.unknownDirection word))

/-! ## The parts of a filter -/

/-- A character of a comparison operator. -/
def isOperatorChar (c : Char) : Bool :=
  c = '<' || c = '>' || c = '='

/-- A character that a member key or a compared value may hold. -/
def isKeyChar (c : Char) : Bool :=
  ('a' ≤ c && c ≤ 'z') || ('A' ≤ c && c ≤ 'Z') || ('0' ≤ c && c ≤ '9')
    || "() .,'/-".toList.contains c

/-- A comparison at the end of a filter's text. -/
structure ComparisonPart where
  operator : List Char
  gap : List Char
  operand : List Char

/--
Splits a comparison off the end of trimmed characters: the last one or two operator characters, the
blanks around them, and an operand of key characters behind them.
-/
def splitComparison? (cs : List Char) : Option (List Char × List Char × ComparisonPart) :=
  let tail := Text.takeTrailing (fun c => !isOperatorChar c) cs
  let front := Text.dropTrailing (fun c => !isOperatorChar c) cs
  let signs := Text.takeTrailing isOperatorChar front
  let operator := signs.drop (signs.length - 2)
  let before := front.take (front.length - operator.length)
  let operand := tail.dropWhile Text.isBlank
  if operator.isEmpty || operand.isEmpty || !operand.all isKeyChar then none
  else
    some (Text.dropTrailing Text.isBlank before, Text.takeTrailing Text.isBlank before,
      ⟨operator, tail.takeWhile Text.isBlank, operand⟩)

/-- Splits a member key off the end of characters: `&[key]` with key characters in it. -/
def splitKey? (cs : List Char) : Option (List Char × List Char) :=
  match cs.reverse with
  | ']' :: rest =>
    let key := rest.takeWhile isKeyChar
    match rest.dropWhile isKeyChar with
    | '[' :: '&' :: before => if key.isEmpty then none else some (before.reverse, key.reverse)
    | _ => none
  | _ => none

/-- Splits a word after a point off the end of characters, in letters of any case. -/
def splitWord? (word : String) (cs : List Char) : Option (List Char × List Char) :=
  let before := cs.take (cs.length - word.length)
  let last := cs.drop (cs.length - word.length)
  if Text.spells last word && before.getLast? == some '.' then some (before.dropLast, last)
  else none

/--
Splits the way a level is read off the end of characters. The aggregate member is included only by
the word `members` in ASCII letters.
-/
def splitReading? (cs : List Char) : Option (List Char × Bool) :=
  match splitWord? "children" cs with
  | some (before, _) => some (before, false)
  | none => (splitWord? "members" cs).map fun (before, last) =>
    (before, Text.spellsPlainly last "members")

/-- A filter without a level, with the comparison of its text. -/
def filterOfPart (part : ComparisonPart) : Except Error Filter := do
  let comparison ← parseComparison (String.ofList part.operator)
  let value := Text.trimChars part.operand
  let compared := if value.isEmpty then none else some (Value.infer (String.ofList value))
  .ok ((Filter.ofLevel ⟨""⟩).comparing comparison compared)

/-- The filter that a text is the shorthand of. -/
def parseFilter (s : String) : Except Error Filter := do
  let cs := Text.trimChars s.toList
  let (cs, filter) ←
    match splitComparison? cs with
    | some (before, _, part) => (filterOfPart part).map fun filter => (before, filter)
    | none => .ok (cs, Filter.ofLevel ⟨""⟩)
  let (cs, filter) :=
    match splitKey? cs with
    | some (before, key) => (before, filter.withMembers [Value.infer (String.ofList key)])
    | none => (cs, filter)
  let (cs, includeAll) := (splitReading? cs).getD (cs, false)
  let name := String.ofList (Text.trimChars cs)
  if Mdx.isBracketed name then .ok { filter with level := ⟨name⟩, includeAll := includeAll }
  else .error (.invalidFilter (.notLevel s))

/-- The filters that texts are the shorthands of, blank texts left out. -/
def parseFilters (texts : List String) : Except Error (List Filter) :=
  (texts.filter fun s => !Text.isAllBlank s).mapM parseFilter

/-! ## Sort keys -/

/-- Splits a direction after a space off the end of characters. -/
def splitDirection? (cs : List Char) : Option (List Char × List Char) :=
  let word := Text.takeTrailing (· != ' ') cs
  let before := Text.dropTrailing (· != ' ') cs
  if !before.isEmpty && ["asc", "desc", "basc", "bdesc"].any (Text.spells word) then
    some (before.dropLast, word)
  else none

/-- The sort key that a text is the shorthand of. -/
def parseSortKey (s : String) : Except Error SortKey :=
  let cs := Text.trimChars s.toList
  match splitDirection? cs with
  | some (before, word) => do
    let direction ← parseDirection (String.ofList word)
    .ok ⟨some ⟨String.ofList (Text.trimChars before)⟩, some direction⟩
  | none => .ok (SortKey.ofLevel ⟨String.ofList cs⟩)

/-- A comparison that is split off, with the blanks before it and what is left, is the text. -/
theorem splitComparison?_append {cs before gap : List Char} {part : ComparisonPart}
    (h : splitComparison? cs = some (before, gap, part)) :
    before ++ gap ++ part.operator ++ part.gap ++ part.operand = cs := by
  unfold splitComparison? at h
  simp only at h
  split at h
  · cases h
  · obtain ⟨rfl, rfl, rfl⟩ := h
    simp only [Text.dropTrailing_append_takeTrailing, List.append_assoc,
      List.takeWhile_append_dropWhile]
    generalize hf : Text.dropTrailing (fun c => !isOperatorChar c) cs = front
    generalize hs : Text.takeTrailing isOperatorChar front = signs
    have hfront : Text.dropTrailing isOperatorChar front ++ signs = front := by
      rw [← hs]; exact Text.dropTrailing_append_takeTrailing _ _
    generalize Text.dropTrailing isOperatorChar front = init at hfront
    have hsplit : front.take (front.length - (signs.drop (signs.length - 2)).length)
        ++ signs.drop (signs.length - 2) = front := by
      subst hfront
      have hlen : (init ++ signs).length - (signs.drop (signs.length - 2)).length
          = init.length + (signs.length - 2) := by
        simp only [List.length_append, List.length_drop]
        omega
      rw [hlen, List.take_length_add_append, List.append_assoc, List.take_append_drop]
    rw [← List.append_assoc, hsplit, ← hf, Text.dropTrailing_append_takeTrailing]

end CubeQuery.Request
