import CubeQuery.Error
import CubeQuery.Mdx.Expr

set_option autoImplicit false

/-!
# Scalars and conditions

Expressions whose kind is known: a scalar has one of the kinds that a value position takes, a
condition is logical. Both carry the proof of it.
-/

namespace CubeQuery.Mdx

/-- An expression for a value position. -/
structure Scalar where
  expr : Expr
  isValue : expr.kind.isValue = true := by rfl

/-- A logical expression. -/
structure Condition where
  expr : Expr
  isLogical : expr.kind = .logical := by rfl

namespace Expr

/-- The expression of a kind that is given in a caller's words. -/
def ofWords (kind : Kind) (text : String) : Expr :=
  match kind with
  | .string => .string text
  | .numeric => .numeric text
  | .logical => .logical text
  | .member => .member (.named text)
  | .level => .level ⟨text⟩
  | .set => .set (.words text)
  | .mixed => .mixed text

/-- A value as an expression: a number is numeric, a text stands as it is. -/
def ofValue : Value → Expr
  | .number x => .numeric (Decimal.text x)
  | .text s => .string s

/-- A number of items. -/
def ofCount (n : UInt64) : Expr :=
  .whole n.toNat

/-- An expression as a scalar, if its kind is one of a value. -/
def toScalar? (e : Expr) : Option Scalar :=
  if h : e.kind.isValue = true then some ⟨e, h⟩ else none

/-- An expression as a condition, if it is logical. -/
def toCondition? (e : Expr) : Option Condition :=
  if h : e.kind = .logical then some ⟨e, h⟩ else none

/-- An expression as a set, if it is one. -/
def toSet? : Expr → Option SetExpr
  | .set s => some s
  | _ => none

/-- An expression as a level, if it is one. -/
def toLevel? : Expr → Option Level
  | .level l => some l
  | _ => none

/-- The kind that several operands have in common, of which there must be one. -/
def commonKind? : List Expr → Except Error Kind
  | [] => .error (.emptyOperands "expression type merge" "value")
  | first :: rest => .ok (Kind.common first.kind (rest.map kind))

end Expr

namespace Scalar

/-- An expression as a scalar; another kind is an error. -/
def qualify? (e : Expr) : Except Error Scalar :=
  if h : e.kind.isValue = true then .ok ⟨e, h⟩
  else .error (.invalidExpression (.notValue e.kind))

/-- A scalar of a given kind in a caller's words; another kind is an error. -/
def ofWords? (kind : Kind) (text : String) : Except Error Scalar :=
  if kind.isValue then qualify? (Expr.ofWords kind text)
  else .error (.invalidExpression (.notValue kind))

/-- A string in a caller's words. -/
def string (text : String) : Scalar := ⟨.string text, rfl⟩

/-- A numeric expression in a caller's words. -/
def numeric (text : String) : Scalar := ⟨.numeric text, rfl⟩

/-- A scalar of unknown kind in a caller's words. -/
def mixed (text : String) : Scalar := ⟨.mixed text, rfl⟩

/-- The comparison of a scalar with an expression, or with the missing value. -/
def compare (scalar : Scalar) (operator : Comparison) (right : Option Expr) : Condition :=
  ⟨.compare scalar.expr operator (right.getD .null), rfl⟩

end Scalar

/-- The value of a level: of a measure the measure itself, of another level its member value. -/
def Level.value (level : Level) : Scalar where
  expr := .levelValue level
  isValue := by
    unfold Expr.kind
    cases level.isMeasure <;> rfl

/-- A member as a scalar. -/
def Member.value (member : Member) : Scalar :=
  ⟨.member member, rfl⟩

/-- The number of elements of a set, with or without those that have no data. -/
def SetExpr.count (set : SetExpr) (excludeEmpty : Bool) : Scalar :=
  ⟨.count set excludeEmpty, rfl⟩

/-- The choice between two expressions; it must have the kind of a value. -/
def Condition.iif? (condition : Condition) (thenValue elseValue : Expr) : Except Error Scalar :=
  Scalar.qualify? (.iif condition.expr thenValue elseValue)

end CubeQuery.Mdx
