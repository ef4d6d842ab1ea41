import CubeQuery.Plan.Dimension
import CubeQuery.Proofs.Plan.Assignment

set_option autoImplicit false

/-!
# What a dimension query is compiled to

The steps that make the statement of a dimension query, each with what it comes to. Beside the
checks of the query only its counted levels can stop them.

Main statement: the statement of a query is `dimensionStatement`, made from the split of its
filters, the set of its attributes and the set of its counted levels
(`dimensionStatement?_eq`).
-/

namespace CubeQuery.Plan

open Mdx (Level SetExpr Scalar Statement NamedSet)
open Request (Options DimensionQuery)

/-! ## Levels that are only sorted by -/

section Collecting

variable (skip : Level → Bool) (found : List Level)

/-- The levels found so far, with a further one unless it is skipped or among them. -/
def collect (level : Level) : List Level :=
  if skip level || found.contains level then found else found ++ [level]

theorem mem_collect_iff (level other : Level) :
    other ∈ collect skip found level ↔ other ∈ found ∨ other = level ∧ skip level = false := by
  rw [collect]
  by_cases h : (skip level || found.contains level) = true
  · rw [if_pos h]
    constructor
    · intro hfound
      exact .inl hfound
    · rintro (hfound | ⟨rfl, hskip⟩)
      · exact hfound
      · simpa [hskip] using h
  · rw [if_neg h]
    rw [Bool.not_eq_true, Bool.or_eq_false_iff] at h
    rw [List.mem_append, List.mem_singleton]
    refine or_congr_right (and_iff_left_of_imp ?_).symm
    rintro rfl
    exact h.1

theorem nodup_collect (h : found.Nodup) (level : Level) : (collect skip found level).Nodup := by
  rw [collect]
  by_cases hlevel : (skip level || found.contains level) = true
  · rw [if_pos hlevel]
    exact h
  · rw [if_neg hlevel]
    refine List.nodup_append.2 ⟨h, List.pairwise_singleton _ _, ?_⟩
    intro other hother last hlast heq
    rw [List.mem_singleton] at hlast
    apply hlevel
    simp [← hlast, ← heq, hother]

/-- The collected levels are those that are not skipped. -/
theorem mem_foldl_collect_iff (levels : List Level) (level : Level) :
    level ∈ levels.foldl (collect skip) found ↔
      level ∈ found ∨ level ∈ levels ∧ skip level = false := by
  induction levels generalizing found with
  | nil => simp
  | cons first rest ih =>
    rw [List.foldl_cons, ih, mem_collect_iff, List.mem_cons, or_assoc]
    apply or_congr_right
    rw [or_and_right]
    apply or_congr_left
    constructor
    · rintro ⟨rfl, hskip⟩
      exact ⟨rfl, hskip⟩
    · rintro ⟨rfl, hskip⟩
      exact ⟨rfl, hskip⟩

theorem nodup_foldl_collect (h : found.Nodup) (levels : List Level) :
    (levels.foldl (collect skip) found).Nodup := by
  induction levels generalizing found with
  | nil => exact h
  | cons first rest ih => exact ih _ (nodup_collect skip found h first)

end Collecting

theorem foreignLevels_eq_foldl_collect (attributes : List Level) (options : Options) :
    foreignLevels attributes options =
      options.sortLevels.foldl
        (collect fun level => level.isMeasure || attributes.contains level) [] :=
  rfl

/-- A level is foreign if it is sorted by, no measure and no attribute. -/
theorem mem_foreignLevels_iff (attributes : List Level) (options : Options) (level : Level) :
    level ∈ foreignLevels attributes options ↔
      level ∈ options.sortLevels ∧ ¬ level.IsMeasure ∧ level ∉ attributes := by
  rw [foreignLevels_eq_foldl_collect, mem_foldl_collect_iff, ← Level.isMeasure_eq_false_iff]
  simp

/-- Attributes followed by foreign levels repeat only if attributes do. -/
theorem nodup_append_foreignLevels_iff (attributes : List Level) (options : Options) :
    (attributes ++ foreignLevels attributes options).Nodup ↔ attributes.Nodup := by
  have hforeign : (foreignLevels attributes options).Nodup :=
    nodup_foldl_collect _ [] List.nodup_nil _
  rw [List.nodup_append]
  constructor
  · rintro ⟨hattributes, -, -⟩
    exact hattributes
  · intro hattributes
    refine ⟨hattributes, hforeign, ?_⟩
    rintro level hlevel _ hother rfl
    exact ((mem_foreignLevels_iff attributes options level).1 hother).2.2 hlevel

/-! ## Checks -/

/-- What the checks of a dimension query let through. -/
theorem splitDimension?_decides (query : DimensionQuery) :
    Decides (query.attributes ≠ [] ∧ Mdx.IsAttributeList query.attributes ∧
        Mdx.IsMeasureList query.measures ∧ (query.options.filters.map (·.level)).Nodup)
      (splitDimension? query) := by
  rw [splitDimension?]
  refine Decides.congr (Decides.bind (Mdx.checkAttributes_decides _) fun _ _ _ =>
    Decides.bind (Mdx.checkMeasures_decides _) fun _ _ _ =>
    Decides.bind (refuseIf_decides rfl _) fun _ _ _ =>
    Decides.bind (checkReservedNames_decides _ _) fun _ _ _ => ofOptions_decides _ _) ?_
  rw [List.isEmpty_eq_false_iff, queriedLevels, nodup_append_foreignLevels_iff,
    Mdx.IsAttributeList, Mdx.IsMeasureList, Mdx.isLevelList_iff, Mdx.isLevelList_iff]
  constructor
  · rintro ⟨hattributes, hmeasures, hne, ⟨hreserved, hreservedMeasure⟩, hfilters, -⟩
    exact ⟨hne, ⟨hattributes, hreserved⟩, ⟨hmeasures, hreservedMeasure⟩, hfilters⟩
  · rintro ⟨hne, ⟨hattributes, hreserved⟩, ⟨hmeasures, hreservedMeasure⟩, hfilters⟩
    exact ⟨hattributes, hmeasures, hne, ⟨hreserved, hreservedMeasure⟩, hfilters, hattributes.2⟩

/-- The split that the checks of a dimension query end with. -/
theorem eq_between_of_splitDimension? {query : DimensionQuery} {split : FilterSplit}
    (h : splitDimension? query = .ok split) :
    split = FilterSplit.between (queriedLevels query) query.options.filters := by
  -- Attributes, measures, their presence and reserved names are checked first.
  obtain ⟨-, -, h⟩ := steps_of_bind_eq_ok h
  obtain ⟨-, -, h⟩ := steps_of_bind_eq_ok h
  obtain ⟨-, -, h⟩ := steps_of_bind_eq_ok h
  obtain ⟨-, -, h⟩ := steps_of_bind_eq_ok h
  exact eq_between_of_ofOptions h

/-! ## Rows -/

/-- The flag that `nonEmptyFlag?` comes to. -/
def nonEmptyFlag : Scalar :=
  ⟨.iif (((setNamed .measures).count true).compare .equal (some (.whole 0))).expr (.whole 0)
    (.whole 1), rfl⟩

theorem nonEmptyFlag?_eq_ok : nonEmptyFlag? = .ok nonEmptyFlag :=
  rfl

/-- The rows and definitions that `flaggedRows?` comes to. -/
def flaggedRows (statement : Statement) (query : DimensionQuery) : Statement × SetExpr :=
  match query.measures with
  | [] => (defineFlag statement (.whole 1), setNamed .attributes)
  | first :: rest =>
    (defineFlag (statement.defineSet NamedSet.measures.text (.measures first rest))
        nonEmptyFlag.expr,
      selectRows (query.selection.getD .all)
        (.crossJoin (setNamed .attributes) [setNamed .measures]))

/-- Rows never lack an operand: measures are joined only where there are some. -/
theorem flaggedRows?_eq_ok (statement : Statement) (query : DimensionQuery) :
    flaggedRows? statement query = .ok (flaggedRows statement query) := by
  rw [flaggedRows?, flaggedRows, nonEmptyFlag?_eq_ok]
  cases query.measures with
  | nil => rfl
  | cons first rest => rfl

/-- The projection that `projected?` comes to. -/
def projected (query : DimensionQuery) (rows : SetExpr) : SetExpr :=
  if isWidened query then .extract rows query.attributes else rows

theorem projected?_eq_ok {query : DimensionQuery} (h : query.attributes ≠ []) (rows : SetExpr) :
    projected? query rows = .ok (projected query rows) := by
  rw [projected?, projected, SetExpr.extract?_eq_ok rows h]
  cases isWidened query with
  | false => rfl
  | true => rfl

/-! ## Columns -/

/-- The cross join of the counted levels of a query that asks for a count, if there are any. -/
def requestedCount? (split : FilterSplit) (options : Options) : Except Error (Option SetExpr) :=
  if options.requestsTotalCount then split.countSet? else .ok none

/-- A count can be made if the counted levels are shaped as attributes. -/
theorem requestedCount?_decides {split : FilterSplit} (h : split.countedLevels.Nodup)
    (options : Options) :
    Decides (options.requestsTotalCount = true →
        ∀ level ∈ split.countedLevels, level.IsBracketed ∧ ¬ level.IsMeasure)
      (requestedCount? split options) := by
  rw [requestedCount?]
  exact (countSet?_decides h).ite_ok options.requestsTotalCount none

/-- The columns and definitions that `dimensionColumns?` comes to for a set of counted levels. -/
def dimensionColumns (statement : Statement) (query : DimensionQuery) (rows : SetExpr)
    (counted : Option SetExpr) : Statement × SetExpr :=
  let flag := (Mdx.Member.calculated .isNonEmpty).toSet
  if query.options.requestsTotalCount then
    (defineTotalCount statement (counted.getD (projected query rows)),
      .union flag [(Mdx.Member.calculated .totalCount).toSet])
  else (statement, flag)

/-- Columns exist as soon as counted levels have a cross join. -/
theorem dimensionColumns?_eq {query : DimensionQuery} (h : query.attributes ≠ [])
    (split : FilterSplit) (statement : Statement) (rows : SetExpr) :
    dimensionColumns? split statement query rows =
      (requestedCount? split query.options).map (dimensionColumns statement query rows) := by
  unfold dimensionColumns? requestedCount? dimensionColumns
  cases query.options.requestsTotalCount with
  | false => rfl
  | true =>
    cases split.countSet? with
    | error e => rfl
    | ok counted =>
      cases counted with
      | some set => rfl
      | none =>
        -- Without counted levels the rows themselves are counted, projected like the axis.
        simp only [projected?_eq_ok h]
        rfl

/-! ## Statements -/

/-- The statement of a dimension query, from the set of its attributes and that of its counted
levels. -/
def dimensionStatement (cube : String) (query : DimensionQuery) (split : FilterSplit)
    (attributes : SetExpr) (counted : Option SetExpr) : Statement :=
  let start := (Statement.ofCube cube).defineSet NamedSet.attributes.text attributes
  let flagged := flaggedRows start query
  let counting := dimensionColumns flagged.1 query flagged.2 counted
  let rows := projected query (query.options.arrange flagged.2)
  (((counting.1.onColumns counting.2).onRows rows).selectingFrom split.subSelect).slicedBy
    split.slicer

/-- **What a dimension query is compiled to.** -/
theorem dimensionStatement?_eq (cube : String) (query : DimensionQuery) :
    dimensionStatement? cube query = (do
      let split ← splitDimension? query
      let attributes ← split.levelsSet? (queriedLevels query)
      let counted ← requestedCount? split query.options
      .ok (dimensionStatement cube query split attributes counted)) := by
  rw [dimensionStatement?]
  cases hsplit : splitDimension? query with
  | error e => rfl
  | ok split =>
    -- Projections need an attribute, and the checks have seen one.
    have hattributes := ((splitDimension?_decides query).1.1 ⟨split, hsplit⟩).1
    change (split.levelsSet? (queriedLevels query) >>= _) =
      (split.levelsSet? (queriedLevels query) >>= _)
    refine bind_congr fun attributes => ?_
    simp only [flaggedRows?_eq_ok, dimensionColumns?_eq hattributes, projected?_eq_ok hattributes,
      FilterSplit.subSelect?_eq_ok, FilterSplit.slicer?_eq_ok]
    cases requestedCount? split query.options with
    | error e => rfl
    | ok counted => rfl

/-- The steps behind the statement of a dimension query. -/
theorem steps_of_dimensionStatement? {cube : String} {query : DimensionQuery}
    {statement : Statement} (h : dimensionStatement? cube query = .ok statement) :
    ∃ split attributes counted, splitDimension? query = .ok split ∧
      split.levelsSet? (queriedLevels query) = .ok attributes ∧
      requestedCount? split query.options = .ok counted ∧
      statement = dimensionStatement cube query split attributes counted := by
  rw [dimensionStatement?_eq] at h
  obtain ⟨split, hsplit, h⟩ := steps_of_bind_eq_ok h
  obtain ⟨attributes, hattributes, h⟩ := steps_of_bind_eq_ok h
  obtain ⟨counted, hcounted, h⟩ := steps_of_bind_eq_ok h
  cases h
  exact ⟨split, attributes, counted, hsplit, hattributes, hcounted, rfl⟩

end CubeQuery.Plan
