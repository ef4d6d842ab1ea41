import CubeQuery.Proofs.Plan.Assignment
import CubeQuery.Proofs.Plan.SetForms
import Mathlib.Data.List.Forall2
import Mathlib.Data.List.Nodup

set_option autoImplicit false

/-!
# The axes that filters restrict

Where the filters of a query take effect, said without the moves that `FilterSplit.assign` makes. A
filter that has a condition restricts the cube by sub-select if its level is queried and by the
slicer otherwise; a filter without a condition restricts nothing.

Main statement: filters are split exactly if no filtered and no queried level repeats, and then both
restrictions exist and every filter with a condition is one factor of exactly one of them
(`ofOptions_restricts_once`).
-/

namespace CubeQuery.Request.Filter

open Mdx (SetExpr Expr Comparison)

/-! ## What a filter leaves of its level -/

/-- The members that a filter starts from: those with its keys, or without keys the whole level. -/
inductive IsSelection (f : Filter) : SetExpr → Prop where
  | keyed {key : Value} {keys : List Value} : f.memberKeys = key :: keys →
      IsSelection f
        (.listed (.keyed f.level (some key)) (keys.map fun key => .keyed f.level (some key)))
  | members : f.memberKeys = [] → f.includeAll = true → IsSelection f (.members f.level)
  | children : f.memberKeys = [] → f.includeAll = false → IsSelection f (.children f.level)

/-- The members that a filter leaves: its selection, or those of it that meet its comparison. -/
inductive IsRestriction (f : Filter) : SetExpr → Prop where
  | selected {set : SetExpr} : f.comparison = none → f.IsSelection set → IsRestriction f set
  | compared {set : SetExpr} {comparison : Comparison} : f.comparison = some comparison →
      f.IsSelection set →
      IsRestriction f (.filter set (.compare (.levelValue f.level) comparison
        (f.comparisonValue.elim .null Expr.ofValue)))

theorem isSelection_baseSet (f : Filter) : f.IsSelection f.baseSet := by
  rw [baseSet]
  cases hkeys : f.memberKeys with
  | nil =>
    cases hall : f.includeAll with
    | false => exact .children hkeys hall
    | true => exact .members hkeys hall
  | cons key keys => exact .keyed hkeys

theorem isRestriction_restriction (f : Filter) : f.IsRestriction f.restriction := by
  rw [restriction, compared]
  cases hcomparison : f.comparison with
  | none => exact .selected hcomparison f.isSelection_baseSet
  | some comparison =>
    have hset := IsRestriction.compared hcomparison f.isSelection_baseSet
    cases hvalue : f.comparisonValue with
    | none =>
      rw [hvalue] at hset
      exact hset
    | some value =>
      rw [hvalue] at hset
      exact hset

end CubeQuery.Request.Filter

namespace CubeQuery.Plan

open Mdx (Level SetExpr)
open Request (Filter Options)

/-! ## The factors of both axes -/

/-- The filters with a condition on the given levels, in the order of the levels. -/
def conditionsOn (levels : List Level) (filters : List Filter) : List Filter :=
  levels.filterMap fun level =>
    filters.find? fun filter => filter.level == level && filter.hasCondition

/-- The filters with a condition on other levels than the given ones, in their own order. -/
def conditionsOff (levels : List Level) (filters : List Filter) : List Filter :=
  filters.filter fun filter => filter.hasCondition && !levels.contains filter.level

theorem restrictions_eq_joined (filters : List Filter) :
    FilterSplit.restrictions filters =
      joined ((filters.filter (·.hasCondition)).map (·.restriction)) := by
  rw [FilterSplit.restrictions]
  cases (filters.filter (·.hasCondition)).map (·.restriction) with
  | nil => rfl
  | cons first rest => exact (joined_cons first rest).symm

/-- A search among filters on different levels has one result if it finds one level only. -/
theorem find?_eq_some_iff_of_level {filters : List Filter} (h : (filters.map (·.level)).Nodup)
    {p : Filter → Bool} {level : Level} (hp : ∀ filter, p filter = true → filter.level = level)
    (filter : Filter) :
    filters.find? p = some filter ↔ filter ∈ filters ∧ p filter = true := by
  constructor
  · intro hfind
    exact ⟨List.mem_of_find?_eq_some hfind, List.find?_some hfind⟩
  · rintro ⟨hmem, hholds⟩
    cases hfind : filters.find? p with
    | none => exact absurd hholds (List.find?_eq_none.1 hfind filter hmem)
    | some other =>
      have hlevel : other.level = filter.level :=
        (hp other (List.find?_some hfind)).trans (hp filter hholds).symm
      have hother := List.mem_of_find?_eq_some hfind
      exact congrArg some (List.inj_on_of_nodup_map h hother hmem hlevel)

/-- Of filters on different levels, at most one has a condition on a level. -/
theorem find?_condition_eq_some_iff {filters : List Filter}
    (h : (filters.map (·.level)).Nodup) (level : Level) (filter : Filter) :
    (filters.find? fun other => other.level == level && other.hasCondition) = some filter ↔
      filter ∈ filters ∧ filter.level = level ∧ filter.hasCondition = true := by
  have hlevel : ∀ other : Filter,
      (other.level == level && other.hasCondition) = true → other.level = level := by
    intro other hholds
    exact beq_iff_eq.1 (Bool.and_eq_true_iff.1 hholds).1
  rw [find?_eq_some_iff_of_level h hlevel, Bool.and_eq_true, beq_iff_eq]

theorem mem_conditionsOn_iff {filters : List Filter} (h : (filters.map (·.level)).Nodup)
    (levels : List Level) (filter : Filter) :
    filter ∈ conditionsOn levels filters ↔
      filter ∈ filters ∧ filter.hasCondition = true ∧ filter.level ∈ levels := by
  rw [conditionsOn, List.mem_filterMap]
  simp only [find?_condition_eq_some_iff h]
  constructor
  · rintro ⟨level, hlevel, hmem, rfl, hcondition⟩
    exact ⟨hmem, hcondition, hlevel⟩
  · rintro ⟨hmem, hcondition, hlevel⟩
    exact ⟨filter.level, hlevel, hmem, rfl, hcondition⟩

theorem mem_conditionsOff_iff (levels : List Level) (filters : List Filter) (filter : Filter) :
    filter ∈ conditionsOff levels filters ↔
      filter ∈ filters ∧ filter.hasCondition = true ∧ filter.level ∉ levels := by
  simp [conditionsOff]

theorem nodup_conditionsOn {levels : List Level} {filters : List Filter}
    (hfilters : (filters.map (·.level)).Nodup) (hlevels : levels.Nodup) :
    (conditionsOn levels filters).Nodup := by
  apply List.Nodup.filterMap _ hlevels
  intro level other filter hlevel hother
  have hfirst := (find?_condition_eq_some_iff hfilters level filter).1 hlevel
  have hsecond := (find?_condition_eq_some_iff hfilters other filter).1 hother
  exact hfirst.2.1.symm.trans hsecond.2.1

/-- The filters with a condition, told apart by whether their level is queried. -/
theorem conditions_perm {levels : List Level} {filters : List Filter}
    (hfilters : (filters.map (·.level)).Nodup) (hlevels : levels.Nodup) :
    (conditionsOn levels filters ++ conditionsOff levels filters).Perm
      (filters.filter (·.hasCondition)) := by
  have hnodup : filters.Nodup := hfilters.of_map
  have hdisjoint : (conditionsOn levels filters).Disjoint (conditionsOff levels filters) := by
    intro filter hon hoff
    exact ((mem_conditionsOff_iff levels filters filter).1 hoff).2.2
      ((mem_conditionsOn_iff hfilters levels filter).1 hon).2.2
  have happend : (conditionsOn levels filters ++ conditionsOff levels filters).Nodup :=
    (nodup_conditionsOn hfilters hlevels).append (hnodup.filter _) hdisjoint
  -- Neither list repeats a filter, so that it is enough that they have the same ones.
  apply (List.perm_ext_iff_of_nodup happend (hnodup.filter _)).2
  intro filter
  rw [List.mem_append, mem_conditionsOn_iff hfilters, mem_conditionsOff_iff, List.mem_filter]
  tauto

/-! ## The factors of a split -/

/-- The filter of a level with a condition, as it is found among filters on different levels. -/
theorem filterOn_eq_find?_condition {filters : List Filter}
    (h : (filters.map (·.level)).Nodup) (level : Level) :
    Option.filter (·.hasCondition) (some (filterOn level filters)) =
      filters.find? fun filter => filter.level == level && filter.hasCondition := by
  apply Option.ext
  intro filter
  rw [find?_condition_eq_some_iff h, Option.filter_eq_some_iff, Option.some.injEq]
  constructor
  · rintro ⟨rfl, hcondition⟩
    refine ⟨?_, FilterSplit.level_filterOn level filters, hcondition⟩
    rw [filterOn] at hcondition ⊢
    cases hfind : filters.find? fun filter => filter.level == level with
    | none =>
      -- The filter that says nothing has no condition.
      rw [hfind] at hcondition
      cases hcondition
    | some found => exact List.mem_of_find?_eq_some hfind
  · rintro ⟨hmem, hlevel, hcondition⟩
    have hfind : (filters.find? fun other => other.level == level) = some filter :=
      (find?_eq_some_iff_of_level h (fun _ => beq_iff_eq.1) filter).2 ⟨hmem, beq_iff_eq.2 hlevel⟩
    refine ⟨?_, hcondition⟩
    rw [filterOn, hfind]
    rfl

theorem queried_conditions_between {filters : List Filter} (h : (filters.map (·.level)).Nodup)
    (levels : List Level) :
    (FilterSplit.between levels filters).queried.filter (·.hasCondition) =
      conditionsOn levels filters := by
  rw [FilterSplit.between, conditionsOn, ← List.filterMap_eq_map, List.filter_filterMap]
  apply List.filterMap_congr
  intro level _
  exact filterOn_eq_find?_condition h level

theorem remaining_conditions_between (levels : List Level) (filters : List Filter) :
    (FilterSplit.between levels filters).remaining.filter (·.hasCondition) =
      conditionsOff levels filters :=
  List.filter_filter ..

/-- Filters and their restrictions, one for one. -/
theorem forall₂_isRestriction (filters : List Filter) :
    List.Forall₂ Filter.IsRestriction filters (filters.map (·.restriction)) :=
  List.forall₂_map_right_iff.2 (List.forall₂_same.2 fun filter _ =>
    filter.isRestriction_restriction)

/-- **Every filter with a condition restricts exactly one axis.** Filters are split if neither a
filtered nor a queried level repeats. Sub-select and slicer then exist: each is the cross join of
one restriction per filter with a condition on the levels it is for. -/
theorem ofOptions_restricts_once (levels : List Level) (options : Options) :
    ((∃ split, FilterSplit.ofOptions levels options = .ok split) ↔
      (options.filters.map (·.level)).Nodup ∧ levels.Nodup) ∧
    ∀ split, FilterSplit.ofOptions levels options = .ok split →
      (∃ factors,
        List.Forall₂ Filter.IsRestriction (conditionsOn levels options.filters) factors ∧
        split.subSelect? = .ok (joined factors)) ∧
      (∃ factors,
        List.Forall₂ Filter.IsRestriction (conditionsOff levels options.filters) factors ∧
        split.slicer? = .ok (joined factors)) ∧
      (conditionsOn levels options.filters ++ conditionsOff levels options.filters).Nodup ∧
      (conditionsOn levels options.filters ++ conditionsOff levels options.filters).Perm
        (options.filters.filter (·.hasCondition)) := by
  have hdecides := (ofOptions_decides levels options).1
  refine ⟨hdecides, ?_⟩
  intro split hsplit
  obtain ⟨hfilters, hlevels⟩ := hdecides.1 ⟨split, hsplit⟩
  obtain rfl := eq_between_of_ofOptions hsplit
  have hperm := conditions_perm hfilters hlevels
  refine ⟨⟨_, forall₂_isRestriction _, ?_⟩, ⟨_, forall₂_isRestriction _, ?_⟩, ?_, hperm⟩
  · rw [FilterSplit.subSelect?_eq_ok, FilterSplit.subSelect, restrictions_eq_joined,
      queried_conditions_between hfilters]
  · rw [FilterSplit.slicer?_eq_ok, FilterSplit.slicer, restrictions_eq_joined,
      remaining_conditions_between]
  · exact hperm.nodup_iff.2 (hfilters.of_map.filter _)

/-- A selected city and a compared year. -/
private def cityAndYear : Options :=
  ⟨[(Filter.ofLevel ⟨"[Geo].[City]"⟩).withMembers [.text "a", .text "b"],
    (Filter.ofLevel ⟨"[Geo].[Country]"⟩).withAll,
    (Filter.ofLevel ⟨"[Date].[Year]"⟩).comparing .greater none], [], none, none, false⟩

example :
    ((FilterSplit.ofOptions [⟨"[Geo].[City]"⟩, ⟨"[Geo].[Country]"⟩] cityAndYear).bind
      fun split => split.slicer?) =
      .ok (some (.filter (.children ⟨"[Date].[Year]"⟩)
        (.compare (.levelValue ⟨"[Date].[Year]"⟩) .greater .null))) := by
  rfl

end CubeQuery.Plan
