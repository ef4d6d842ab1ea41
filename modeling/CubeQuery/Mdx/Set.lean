import CubeQuery.Mdx.Level
import CubeQuery.Mdx.Scalar

set_option autoImplicit false

/-!
# Sets

Building sets from measures, members and other sets. One item stands by itself; several are
enumerated, or cross joined if they are sets. Functions of a set and further arguments refuse an
empty list of them.

Main statement: a cross join fails on an empty list only (`product?_isOk_iff`).
-/

namespace CubeQuery.Mdx

namespace SetExpr

/-- The set of the given measures, of which there must be one. -/
def ofMeasures? : List Level → Except Error SetExpr
  | [] => .error (.emptyOperands "set" "measure")
  | first :: rest => .ok (.measures first rest)

/-- The set of the given members, of which there must be one. -/
def ofMembers? : List Member → Except Error SetExpr
  | [] => .error (.emptyOperands "set" "member")
  | first :: rest => .ok (.listed first rest)

/-- The cross join of a first set with others; without others the set itself. -/
def product (first : SetExpr) : List SetExpr → SetExpr
  | [] => first
  | rest => .crossJoin first rest

/-- The cross join of the given sets, of which there must be one. -/
def product? : List SetExpr → Except Error SetExpr
  | [] => .error (.emptyOperands "set" "expression")
  | first :: rest => .ok (first.product rest)

/-- The cross join of a set with others, of which there must be one. -/
def crossJoin? (set : SetExpr) : List SetExpr → Except Error SetExpr
  | [] => .error (.invalidExpression (.alone .crossJoin set.text))
  | others => .ok (.crossJoin set others)

/-- The union of a set with others, of which there must be one. -/
def union? (set : SetExpr) : List SetExpr → Except Error SetExpr
  | [] => .error (.invalidExpression (.alone .union set.text))
  | others => .ok (.union set others)

/-- The projection of a set to levels, of which there must be one. -/
def extract? (set : SetExpr) : List Level → Except Error SetExpr
  | [] => .error (.invalidExpression (.alone .extract set.text))
  | levels => .ok (.extract set levels)

/-- The elements of a set that meet a condition. -/
def filtered (set : SetExpr) (condition : Condition) : SetExpr :=
  .filter set condition.expr

/-- Sets have a cross join exactly if there are any. -/
theorem product?_isOk_iff (sets : List SetExpr) :
    (∃ set, product? sets = .ok set) ↔ sets ≠ [] := by
  cases sets <;> simp [product?]

/-- A set is projected to levels by EXTRACT. -/
theorem extract?_eq_ok (set : SetExpr) {levels : List Level} (h : levels ≠ []) :
    set.extract? levels = .ok (.extract set levels) := by
  cases levels with
  | nil => exact absurd rfl h
  | cons level rest => rfl

end SetExpr

/-- The set of a single member. -/
def Member.toSet (member : Member) : SetExpr :=
  .listed member []

end CubeQuery.Mdx
