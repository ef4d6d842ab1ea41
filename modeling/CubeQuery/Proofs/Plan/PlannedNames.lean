import CubeQuery.Proofs.Mdx.Mentions
import CubeQuery.Proofs.Plan.FilterAxes
import CubeQuery.Proofs.Plan.RowHierarchies

set_option autoImplicit false

/-!
# Names in planned sets

What the sets that a query is compiled to mention: the set of an axis its levels, a sorted set the
levels of its grain and those it is sorted by, and a restriction the level of its filter and the
value that it compares with.

Main statements: a sorted set mentions its attributes, the levels sorted by and the levels counted,
and the measures by name (`mem_mentions_of_sortedSet?`), and the two restrictions of a query mention
what its filters with a condition do (`mem_mentions_restrictions_iff`).
-/

namespace CubeQuery.Plan

open Mdx (Level SetExpr Mention)
open Request (Filter Options)

variable {mention : Mention}

/-! ## Sets of levels -/

theorem mem_mentions_all_iff {level : Level} {includeAll : Bool} :
    mention ∈ (level.all includeAll).mentions ↔ mention = level.mention := by
  cases includeAll with
  | false => simp [Level.all, SetExpr.mentions]
  | true => simp [Level.all, SetExpr.mentions]

theorem mem_mentions_levelSets_iff (split : FilterSplit) {levels : List Level} :
    (∃ set ∈ levels.map split.levelSet, mention ∈ set.mentions) ↔
      ∃ level ∈ levels, mention = level.mention := by
  simp only [List.mem_map, exists_exists_and_eq_and, FilterSplit.levelSet, mem_mentions_all_iff]

/-- The cross join of the sets of levels mentions the levels. -/
theorem mem_mentions_of_levelsSet? {split : FilterSplit} {levels : List Level} {set : SetExpr}
    (h : split.levelsSet? levels = .ok set) :
    mention ∈ set.mentions ↔ ∃ level ∈ levels, mention = level.mention := by
  rw [Mdx.mem_mentions_of_product? h, mem_mentions_levelSets_iff]

/-- Where there are measures, the set of them decides what has data. -/
theorem mem_mentions_withData_iff {measures : List Level} {set : SetExpr} :
    mention ∈ (withData measures set).mentions ↔
      mention ∈ set.mentions ∨ measures ≠ [] ∧ mention = .set .measures := by
  rw [withData]
  cases measures with
  | nil => simp
  | cons first rest => simp [setNamed, SetExpr.mentions, Mdx.optionalSetMentions]

/-! ## Sorted sets -/

/-- Outer levels and those of the grain are the attributes and the other levels that are needed. -/
theorem mem_outer_or_sorted_iff {attributes needed : List Level} {grain : Grain}
    (h : IsGrainFor attributes needed grain) {level : Level} :
    level ∈ grain.outer ∨ level ∈ grain.sorted ↔
      level ∈ attributes ∨ level ∈ nonMeasures needed := by
  rw [← List.mem_append]
  cases h with
  | unsorted hneeded => simp [hneeded, nonMeasures]
  | byMeasures _ hall happend =>
    rw [happend, (nonMeasures_eq_nil_iff needed).2 hall, or_iff_left List.not_mem_nil]
  | covered _ hall happend _ =>
    rw [happend]
    exact (or_iff_left_of_imp (hall level)).symm
  | widened _ =>
    -- The levels that are missing stand behind all attributes.
    rw [List.nil_append, List.mem_append, List.mem_filter]
    by_cases hlevel : level ∈ attributes
    · exact iff_of_true (.inl hlevel) (.inl hlevel)
    · simp [hlevel]

/-- A grain is projected to attributes. -/
theorem mem_attributes_of_mem_projection {attributes needed : List Level} {grain : Grain}
    (h : IsGrainFor attributes needed grain) {level : Level} (hlevel : level ∈ grain.projection) :
    level ∈ attributes := by
  cases h with
  | unsorted _ => cases hlevel
  | byMeasures _ _ _ => cases hlevel
  | covered _ _ _ _ => cases hlevel
  | widened _ => exact hlevel

theorem mem_mentions_projected_iff {grain : Grain} {set : SetExpr} :
    mention ∈ (grain.projected set).mentions ↔
      mention ∈ set.mentions ∨ ∃ level ∈ grain.projection, mention = level.mention := by
  rw [Grain.projected]
  cases grain.projection with
  | nil => simp
  | cons first rest => simp [SetExpr.mentions, eq_comm]

theorem mem_nonMeasures_neededLevels_iff {split : FilterSplit} {options : Options} {level : Level} :
    level ∈ nonMeasures (split.neededLevels options) ↔
      (level ∈ options.sortLevels ∨ level ∈ split.countedLevels) ∧ level.isMeasure = false := by
  simp [nonMeasures, FilterSplit.neededLevels, List.mem_eraseDups]

/-- A sorted set mentions its attributes, the levels it is sorted by and the levels that are
counted, and for its data the measures. -/
theorem mem_mentions_of_sortedSet? {split : FilterSplit} {attributes measures : List Level}
    {options : Options} {set : SetExpr} (hne : attributes ≠ [])
    (h : split.sortedSet? attributes options (withData measures) = .ok set) :
    mention ∈ set.mentions ↔
      (∃ level, (level ∈ attributes ∨ level ∈ options.sortLevels ∨
        level ∈ split.countedLevels ∧ level.isMeasure = false) ∧ mention = level.mention) ∨
      measures ≠ [] ∧ mention = .set .measures := by
  obtain ⟨base, sorted, hbase, hproduct, hsorted⟩ :=
    sortedSet?_eq_ok split hne options (withData measures)
  have hgrain := isGrainFor_plan hne (split.neededLevels options)
  generalize Grain.plan attributes (split.neededLevels options) = grain at hbase hproduct hgrain
  cases hsorted.symm.trans h
  -- Outside the sorted grain stand sets of levels; inside, sorting and projecting add levels.
  have hfactors : mention ∈ set.mentions ↔ (∃ level ∈ grain.outer, mention = level.mention) ∨
      mention ∈ (grain.projected (options.arrange (withData measures base))).mentions := by
    rw [Mdx.mem_mentions_of_product? hproduct, ← mem_mentions_levelSets_iff split]
    simp only [List.mem_append, List.mem_singleton, or_and_right, exists_or, exists_eq_left]
  rw [hfactors, mem_mentions_projected_iff, Mdx.mem_mentions_arrange_iff,
    mem_mentions_withData_iff, mem_mentions_of_levelsSet? hbase]
  have hlevels : ∀ level, level ∈ grain.outer ∨ level ∈ grain.sorted ↔ level ∈ attributes ∨
      (level ∈ options.sortLevels ∨ level ∈ split.countedLevels) ∧ level.isMeasure = false := by
    intro level
    rw [mem_outer_or_sorted_iff hgrain, mem_nonMeasures_neededLevels_iff]
  constructor
  · rintro (⟨level, hlevel, rfl⟩ | ((⟨level, hlevel, rfl⟩ | hdata) | ⟨level, hlevel, rfl⟩) |
      ⟨level, hlevel, rfl⟩)
    · rcases (hlevels level).1 (.inl hlevel) with hattribute | ⟨hsort | hcounted, hmeasure⟩
      · exact .inl ⟨level, .inl hattribute, rfl⟩
      · exact .inl ⟨level, .inr (.inl hsort), rfl⟩
      · exact .inl ⟨level, .inr (.inr ⟨hcounted, hmeasure⟩), rfl⟩
    · rcases (hlevels level).1 (.inr hlevel) with hattribute | ⟨hsort | hcounted, hmeasure⟩
      · exact .inl ⟨level, .inl hattribute, rfl⟩
      · exact .inl ⟨level, .inr (.inl hsort), rfl⟩
      · exact .inl ⟨level, .inr (.inr ⟨hcounted, hmeasure⟩), rfl⟩
    · exact .inr hdata
    · exact .inl ⟨level, .inr (.inl hlevel), rfl⟩
    · exact .inl ⟨level, .inl (mem_attributes_of_mem_projection hgrain hlevel), rfl⟩
  · -- An attribute is found outside the grain or in it, and so is a counted level.
    rintro (⟨level, hlevel | hlevel | ⟨hcounted, hmeasure⟩, rfl⟩ | hdata)
    · rcases (hlevels level).2 (.inl hlevel) with houter | hinner
      · exact .inl ⟨level, houter, rfl⟩
      · exact .inr (.inl (.inl (.inl ⟨level, hinner, rfl⟩)))
    · exact .inr (.inl (.inr ⟨level, hlevel, rfl⟩))
    · rcases (hlevels level).2 (.inr ⟨.inr hcounted, hmeasure⟩) with houter | hinner
      · exact .inl ⟨level, houter, rfl⟩
      · exact .inr (.inl (.inl (.inl ⟨level, hinner, rfl⟩)))
    · exact .inr (.inl (.inl (.inr hdata)))

/-! ## Restrictions -/

/-- A name that a filter puts into its restriction: its level, or the value it compares with. -/
inductive FilterMentions (filter : Filter) : Mention → Prop where
  | level : FilterMentions filter filter.level.mention
  | value {value : Value} : filter.comparison.isSome = true →
      filter.comparisonValue = some value → FilterMentions filter (.supplied value.words)

theorem mem_mentions_baseSet_iff {filter : Filter} :
    mention ∈ filter.baseSet.mentions ↔ mention = filter.level.mention := by
  rw [Filter.baseSet]
  cases filter.memberKeys with
  | nil => exact mem_mentions_all_iff
  | cons key keys =>
    rw [SetExpr.mentions, List.map_cons, List.map_map, List.mem_cons, List.mem_map]
    -- A member goes by its level whatever its key.
    apply or_iff_left_of_imp
    rintro ⟨other, -, rfl⟩
    rfl

theorem mentions_ofValue (value : Value) :
    (Mdx.Expr.ofValue value).mentions = [.supplied value.words] := by
  cases value with
  | number x => rw [Mdx.Expr.ofValue, Mdx.Expr.mentions, Value.words]
  | text s => rw [Mdx.Expr.ofValue, Mdx.Expr.mentions, Value.words]

/-- A restriction mentions what its filter supplies. -/
theorem mem_mentions_restriction_iff {filter : Filter} :
    mention ∈ filter.restriction.mentions ↔ FilterMentions filter mention := by
  rw [Filter.restriction, Filter.compared]
  cases hcomparison : filter.comparison with
  | none =>
    rw [mem_mentions_baseSet_iff]
    constructor
    · rintro rfl
      exact .level
    · rintro (_ | ⟨hsome, -⟩)
      · rfl
      · simp [hcomparison] at hsome
  | some comparison =>
    have hsome : filter.comparison.isSome = true := by rw [hcomparison]; rfl
    simp only [SetExpr.filtered, SetExpr.mentions, Mdx.Scalar.compare, Level.value,
      Mdx.Expr.mentions, List.mem_append, List.mem_singleton, mem_mentions_baseSet_iff]
    cases hvalue : filter.comparisonValue with
    | none =>
      -- The missing value is no name.
      simp only [Option.map_none, Option.getD_none, Mdx.Expr.mentions, List.not_mem_nil, or_false,
        or_self]
      constructor
      · rintro rfl
        exact .level
      · rintro (_ | ⟨-, hvalue'⟩)
        · rfl
        · cases hvalue.symm.trans hvalue'
    | some value =>
      simp only [Option.map_some, Option.getD_some, mentions_ofValue, List.mem_singleton]
      constructor
      · rintro (rfl | rfl | rfl)
        · exact .level
        · exact .level
        · exact .value hsome hvalue
      · rintro (_ | ⟨-, hvalue'⟩)
        · exact .inl rfl
        · cases hvalue.symm.trans hvalue'
          exact .inr (.inr rfl)

theorem mem_mentions_joined_iff {sets : List SetExpr} :
    (∃ set ∈ (joined sets).toList, mention ∈ set.mentions) ↔
      ∃ set ∈ sets, mention ∈ set.mentions := by
  cases sets with
  | nil => simp [joined]
  | cons first rest =>
    simp only [joined_cons, Option.toList_some, List.mem_singleton, exists_eq_left,
      Mdx.mem_mentions_product_iff]

/-- The two restrictions of a query mention what its filters with a condition supply. -/
theorem mem_mentions_restrictions_iff {filters : List Filter} (levels : List Level)
    (h : (filters.map (·.level)).Nodup) :
    ((∃ set ∈ (FilterSplit.between levels filters).subSelect.toList, mention ∈ set.mentions) ∨
        ∃ set ∈ (FilterSplit.between levels filters).slicer.toList, mention ∈ set.mentions) ↔
      ∃ filter ∈ filters, filter.hasCondition = true ∧ FilterMentions filter mention := by
  rw [FilterSplit.subSelect, FilterSplit.slicer, restrictions_eq_joined, restrictions_eq_joined,
    queried_conditions_between h, remaining_conditions_between, mem_mentions_joined_iff,
    mem_mentions_joined_iff]
  simp only [List.mem_map, exists_exists_and_eq_and, mem_mentions_restriction_iff,
    mem_conditionsOn_iff h, mem_conditionsOff_iff]
  constructor
  · rintro (⟨filter, ⟨hfilter, hcondition, -⟩, hmention⟩ |
      ⟨filter, ⟨hfilter, hcondition, -⟩, hmention⟩)
    · exact ⟨filter, hfilter, hcondition, hmention⟩
    · exact ⟨filter, hfilter, hcondition, hmention⟩
  · rintro ⟨filter, hfilter, hcondition, hmention⟩
    by_cases hlevel : filter.level ∈ levels
    · exact .inl ⟨filter, ⟨hfilter, hcondition, hlevel⟩, hmention⟩
    · exact .inr ⟨filter, ⟨hfilter, hcondition, hlevel⟩, hmention⟩

end CubeQuery.Plan
