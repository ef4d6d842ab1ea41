import CubeQuery.Mdx.Set

set_option autoImplicit false

/-!
# Filters

A filter concerns one level. It may restrict the level to members with given keys, to members whose
value compares with a given one, or to both; and it may only say how the level is read, with its
aggregate member or with a count of its members.

Main statement: every filter leaves a set (`Filter.restriction?_eq_ok`).
-/

namespace CubeQuery.Request

open Mdx (Level Comparison SetExpr)

/-- A restriction of one level, or a hint for how the level is read. -/
structure Filter where
  level : Level
  comparison : Option Comparison
  comparisonValue : Option Value
  includeAll : Bool
  includeTotalCount : Bool
  memberKeys : List Value
deriving Inhabited

namespace Filter

/-- The filter that says nothing about a level. -/
def ofLevel (level : Level) : Filter :=
  ⟨level, none, none, false, false, []⟩

/-- The filter with the aggregate member of its level included. -/
def withAll (f : Filter) : Filter :=
  { f with includeAll := true }

/-- The filter with a count of the members of its level. -/
def withTotalCount (f : Filter) : Filter :=
  { f with includeTotalCount := true }

/-- The filter restricted to the members with the given keys. -/
def withMembers (f : Filter) (keys : List Value) : Filter :=
  { f with memberKeys := keys }

/-- The filter restricted by a comparison, with the missing value if none is given. -/
def comparing (f : Filter) (comparison : Comparison) (value : Option Value) : Filter :=
  { f with comparison := some comparison, comparisonValue := value }

/-- Whether a filter restricts its level. -/
def hasCondition (f : Filter) : Bool :=
  f.comparison.isSome || !f.memberKeys.isEmpty

/-- The members that a filter leaves before it compares: the selected ones, or the whole level. -/
def baseSet? (f : Filter) : Except Error SetExpr :=
  if f.memberKeys.isEmpty then .ok (f.level.all f.includeAll) else f.level.select? f.memberKeys

/-- The members that `baseSet?` comes to; a selection is made of at least one key. -/
def baseSet (f : Filter) : SetExpr :=
  match f.memberKeys with
  | [] => f.level.all f.includeAll
  | key :: keys =>
    .listed (f.level.member (some key)) (keys.map fun key => f.level.member (some key))

/-- The members of a set that meet the comparison of a filter, if it has one. -/
def compared (f : Filter) (set : SetExpr) : SetExpr :=
  match f.comparison with
  | none => set
  | some comparison =>
    set.filtered (f.level.value.compare comparison (f.comparisonValue.map Mdx.Expr.ofValue))

/-- The members that a filter leaves. -/
def restriction? (f : Filter) : Except Error SetExpr :=
  f.baseSet?.map f.compared

/-- The members that `restriction?` comes to. -/
def restriction (f : Filter) : SetExpr :=
  f.compared f.baseSet

/-- Selecting keys never lacks one: without keys the whole level is taken. -/
theorem baseSet?_eq_ok (f : Filter) : f.baseSet? = .ok f.baseSet := by
  unfold baseSet? baseSet
  cases f.memberKeys with
  | nil => rfl
  | cons key keys => rfl

/-- Every filter leaves a set. -/
theorem restriction?_eq_ok (f : Filter) : f.restriction? = .ok f.restriction := by
  rw [restriction?, baseSet?_eq_ok]
  rfl

end Filter

end CubeQuery.Request
