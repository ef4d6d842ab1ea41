import CubeQuery.Request.Options

set_option autoImplicit false

/-!
# Filters by axis

The filters of a query go to one of two places. A filter on a queried level restricts the cube by a
sub-select, one entry per queried level in the order of the levels; all other filters restrict it
by the slicer, in the order they were given. A queried level without a filter gets one that says
nothing.

Main statements: both restrictions of a split exist (`FilterSplit.subSelect?_eq_ok`,
`FilterSplit.slicer?_eq_ok`).
-/

namespace CubeQuery.Plan

open Mdx (Level SetExpr)
open Request (Filter Options)

/-- The filters of a query by the axis they restrict. -/
structure FilterSplit where
  queried : List Filter
  remaining : List Filter

/-- Refuses a second filter on one level. -/
def checkFilters (seen : List Level) : List Filter → Except Error Unit
  | [] => .ok ()
  | filter :: rest =>
    if filter.level ∈ seen then .error (.invalidFilter (.repeated filter.level.name))
    else checkFilters (filter.level :: seen) rest

/-- The filter on a level, or the one that says nothing. -/
def filterOn (level : Level) (filters : List Filter) : Filter :=
  (filters.find? fun filter => filter.level == level).getD (Filter.ofLevel level)

/-- The filters without the one on a level. -/
def filtersOff (level : Level) (filters : List Filter) : List Filter :=
  filters.eraseP fun filter => filter.level == level

namespace FilterSplit

/-- Moves the filters on levels, one after another, to the queried ones; no level may repeat. -/
def assign (split : FilterSplit) : List Level → Except Error FilterSplit
  | [] => .ok split
  | level :: rest =>
    if split.queried.any fun filter => filter.level == level then
      .error (.invalidAttribute (.repeated level.name))
    else
      assign ⟨split.queried ++ [filterOn level split.remaining], filtersOff level split.remaining⟩
        rest

/-- Splits the filters of options between the given levels and the slicer. -/
def ofOptions (levels : List Level) (options : Options) : Except Error FilterSplit := do
  checkFilters [] options.filters
  assign ⟨[], options.filters⟩ levels

/-- The cross join of the restrictions of those filters that have a condition, if there are any. -/
def restrictions? (filters : List Filter) : Except Error (Option SetExpr) := do
  let sets ← (filters.filter (·.hasCondition)).mapM (·.restriction?)
  if sets.isEmpty then .ok none else (SetExpr.product? sets).map some

/-- The cross join that `restrictions?` comes to. -/
def restrictions (filters : List Filter) : Option SetExpr :=
  match (filters.filter (·.hasCondition)).map (·.restriction) with
  | [] => none
  | first :: rest => some (first.product rest)

/-- The restriction by sub-select, as it is computed. -/
def subSelect? (split : FilterSplit) : Except Error (Option SetExpr) :=
  restrictions? split.queried

/-- The restriction by slicer, as it is computed. -/
def slicer? (split : FilterSplit) : Except Error (Option SetExpr) :=
  restrictions? split.remaining

/-- The restriction by sub-select. -/
def subSelect (split : FilterSplit) : Option SetExpr :=
  restrictions split.queried

/-- The restriction by slicer. -/
def slicer (split : FilterSplit) : Option SetExpr :=
  restrictions split.remaining

/-- The queried levels whose filter asks for a count. -/
def countedLevels (split : FilterSplit) : List Level :=
  (split.queried.filter (·.includeTotalCount)).map (·.level)

/-- Whether some queried level is counted. -/
def hasTotalCount (split : FilterSplit) : Bool :=
  !split.countedLevels.isEmpty

/-- The set of a level as its filter reads it. -/
def levelSet (split : FilterSplit) (level : Level) : SetExpr :=
  let filter := (split.queried ++ split.remaining).find? fun filter => filter.level == level
  level.all (filter.any (·.includeAll))

/-- The cross join of the sets of levels, of which there must be one. -/
def levelsSet? (split : FilterSplit) (levels : List Level) : Except Error SetExpr :=
  SetExpr.product? (levels.map split.levelSet)

/-- The cross join of the counted levels, if there are any; they must be proper attributes. -/
def countSet? (split : FilterSplit) : Except Error (Option SetExpr) :=
  if split.countedLevels.isEmpty then .ok none
  else do
    Mdx.checkAttributes split.countedLevels
    some <$> split.levelsSet? split.countedLevels

/-- The cross join of some levels exists. -/
theorem levelsSet?_isOk (split : FilterSplit) {levels : List Level} (h : levels ≠ []) :
    ∃ set, split.levelsSet? levels = .ok set := by
  apply (SetExpr.product?_isOk_iff _).2
  rw [Ne, List.map_eq_nil_iff]
  exact h

/-- The restrictions of filters can always be joined. -/
theorem restrictions?_eq_ok (filters : List Filter) :
    restrictions? filters = .ok (restrictions filters) := by
  have hmap : (filters.filter (·.hasCondition)).mapM (·.restriction?) =
      Except.ok ((filters.filter (·.hasCondition)).map (·.restriction)) := by
    rw [show (fun f : Filter => f.restriction?) = fun f => pure f.restriction from
      funext Filter.restriction?_eq_ok, List.mapM_pure]
    rfl
  unfold restrictions? restrictions
  rw [hmap]
  cases (filters.filter (·.hasCondition)).map (·.restriction) with
  | nil => rfl
  | cons first rest => rfl

/-- Every split has a sub-select. -/
theorem subSelect?_eq_ok (split : FilterSplit) : split.subSelect? = .ok split.subSelect :=
  restrictions?_eq_ok split.queried

/-- Every split has a slicer. -/
theorem slicer?_eq_ok (split : FilterSplit) : split.slicer? = .ok split.slicer :=
  restrictions?_eq_ok split.remaining

/-- The filter found for a level is a filter on that level. -/
theorem level_filterOn (level : Level) (filters : List Filter) :
    (filterOn level filters).level = level := by
  unfold filterOn
  cases h : filters.find? fun filter => filter.level == level with
  | none => rfl
  | some filter => simpa using List.find?_some h

end FilterSplit

end CubeQuery.Plan
