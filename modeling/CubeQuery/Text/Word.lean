set_option autoImplicit false

/-!
# Words

Beginnings of texts, capitals and small letters of the ASCII alphabet, and the comparison that a key
word of the filter and sort shorthands is held to. That comparison folds case by the simple Unicode
folding, under which the long s is one more spelling of the letter s.
-/

namespace CubeQuery.Text

/-- The capital of an ASCII letter; any other character itself. -/
def upper (c : Char) : Char :=
  if 'a' ≤ c ∧ c ≤ 'z' then Char.ofNat (c.toNat - 32) else c

/-- The small letter of an ASCII capital; any other character itself. -/
def lower (c : Char) : Char :=
  if 'A' ≤ c ∧ c ≤ 'Z' then Char.ofNat (c.toNat + 32) else c

/-- A text with its ASCII letters in capitals. -/
def upperText (s : String) : String :=
  String.ofList (s.toList.map upper)

/-- Whether a text begins with a word. -/
def beginsWith (s word : String) : Bool :=
  word.toList.isPrefixOf s.toList

/-- What follows a word, if characters begin with it. -/
def afterWord? (word : String) (cs : List Char) : Option (List Char) :=
  if word.toList.isPrefixOf cs then some (cs.drop word.length) else none

theorem afterWord?_append (word : String) (rest : List Char) :
    afterWord? word (word.toList ++ rest) = some rest := by
  rw [afterWord?, if_pos (List.isPrefixOf_iff_prefix.2 (List.prefix_append _ _)),
    ← String.length_toList, List.drop_left]

/-- The small letter that a character folds to, the long s included. -/
def fold (c : Char) : Char :=
  if c = 'ſ' then 's' else lower c

/-- Whether characters spell a word given in small letters, whatever the case. -/
def spells (cs : List Char) (word : String) : Bool :=
  cs.map fold == word.toList

/-- Whether characters spell a word given in small letters, in ASCII letters of any case. -/
def spellsPlainly (cs : List Char) (word : String) : Bool :=
  cs.map lower == word.toList

end CubeQuery.Text
