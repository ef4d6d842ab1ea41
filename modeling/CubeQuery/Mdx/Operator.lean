set_option autoImplicit false

/-!
# Comparison operators and sort directions

The six comparison operators of MDX and the four ways to sort a set, of which two break the
hierarchy.
-/

namespace CubeQuery.Mdx

/-- A comparison operator. -/
inductive Comparison where
  | less
  | atMost
  | notEqual
  | equal
  | greater
  | atLeast
deriving DecidableEq, Repr, Inhabited

namespace Comparison

/-- An operator as it is written. -/
def text : Comparison → String
  | less => "<"
  | atMost => "<="
  | notEqual => "<>"
  | equal => "="
  | greater => ">"
  | atLeast => ">="

/-- All operators. -/
def all : List Comparison :=
  [less, atMost, notEqual, equal, greater, atLeast]

/-- The operator that is written as given. -/
def ofText? (s : String) : Option Comparison :=
  all.find? fun operator => operator.text == s

/-- Every operator is read back from its text. -/
theorem ofText?_text (operator : Comparison) : ofText? operator.text = some operator := by
  cases operator <;> decide

end Comparison

/-- A sort direction; the broken ones sort across the hierarchy. -/
inductive Direction where
  | ascending
  | descending
  | brokenAscending
  | brokenDescending
deriving DecidableEq, Repr, Inhabited

namespace Direction

/-- A direction as it is written. -/
def text : Direction → String
  | ascending => "ASC"
  | descending => "DESC"
  | brokenAscending => "BASC"
  | brokenDescending => "BDESC"

/-- All directions. -/
def all : List Direction :=
  [ascending, descending, brokenAscending, brokenDescending]

/-- The direction that is written as given. -/
def ofText? (s : String) : Option Direction :=
  all.find? fun direction => direction.text == s

/-- Every direction is read back from its text. -/
theorem ofText?_text (direction : Direction) : ofText? direction.text = some direction := by
  cases direction <;> decide

end Direction

end CubeQuery.Mdx
