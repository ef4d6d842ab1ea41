set_option autoImplicit false

/-!
# Characters of XML

The classes of characters that the grammar of XML 1.0 names.
-/

namespace CubeQuery.Xml

/-- White space of XML. -/
def isSpace (c : Char) : Bool :=
  c = ' ' || c = '\t' || c = '\n' || c = '\r'

/-- A character that a document may hold. -/
def isChar (c : Char) : Bool :=
  (0x20 ≤ c.toNat || c = '\t' || c = '\n' || c = '\r') && c.toNat ≠ 0xFFFE && c.toNat ≠ 0xFFFF

/-- The code points that may start a name, as closed ranges. -/
def nameStartRanges : List (Nat × Nat) :=
  [(0x3A, 0x3A), (0x41, 0x5A), (0x5F, 0x5F), (0x61, 0x7A), (0xC0, 0xD6), (0xD8, 0xF6),
    (0xF8, 0x2FF), (0x370, 0x37D), (0x37F, 0x1FFF), (0x200C, 0x200D), (0x2070, 0x218F),
    (0x2C00, 0x2FEF), (0x3001, 0xD7FF), (0xF900, 0xFDCF), (0xFDF0, 0xFFFD), (0x10000, 0xEFFFF)]

/-- The further code points that may continue a name, as closed ranges. -/
def nameInnerRanges : List (Nat × Nat) :=
  [(0x2D, 0x2E), (0x30, 0x39), (0xB7, 0xB7), (0x300, 0x36F), (0x203F, 0x2040)]

/-- Whether a character lies in one of several ranges of code points. -/
def inRanges (ranges : List (Nat × Nat)) (c : Char) : Bool :=
  ranges.any fun range => range.1 ≤ c.toNat && c.toNat ≤ range.2

/-- A character that may start a name. -/
def isNameStart (c : Char) : Bool :=
  inRanges nameStartRanges c

/-- A character of a name. -/
def isName (c : Char) : Bool :=
  inRanges nameStartRanges c || inRanges nameInnerRanges c

end CubeQuery.Xml
