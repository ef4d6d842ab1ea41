set_option autoImplicit false

/-!
# Kinds of expressions

What an MDX expression denotes. A value position takes strings, numbers, members and the mixed
kind, which stands for operands of different kinds.
-/

namespace CubeQuery.Mdx

/-- What an expression denotes. -/
inductive Kind where
  | string
  | numeric
  | logical
  | member
  | level
  | set
  | mixed
deriving DecidableEq, Repr, Inhabited

namespace Kind

/-- The name of a kind. -/
def name : Kind → String
  | string => "string"
  | numeric => "numeric"
  | logical => "logical"
  | member => "member"
  | level => "level"
  | set => "set"
  | mixed => "stringOrNumeric"

/-- The kind with a given name. -/
def ofName? (s : String) : Option Kind :=
  [string, numeric, logical, member, level, set, mixed].find? fun kind => kind.name == s

/-- Whether an expression of this kind may stand where a scalar value is expected. -/
def isValue : Kind → Bool
  | string | numeric | member | mixed => true
  | logical | level | set => false

/-- The kind shared by a first operand and all others, or the mixed kind if they differ. -/
def common (first : Kind) (rest : List Kind) : Kind :=
  if rest.all (· == first) then first else mixed

/-- The kind of a conditional result: a conditional reference to a member is not a member. -/
def demoted : Kind → Kind
  | member => mixed
  | kind => kind

end Kind

end CubeQuery.Mdx
