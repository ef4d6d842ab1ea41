import CubeQuery.Proofs.Plan.DimensionStatement
import CubeQuery.Proofs.Plan.FilterAxes
import CubeQuery.Proofs.Plan.TableStatement

set_option autoImplicit false

/-!
# What a query reads of its filters

Filters are searched by their levels, so that their order matters only where they are taken in the
order given: for those on levels that the query does not range over, which make up the slicer. A
filter that says nothing may be left out, since its level is read as if it had none.

Main statement: an accepted query keeps its statement if its filters are reordered, those on other
levels among themselves apart, and if a filter that says nothing is put anywhere among them
(`filters_read_through_levels`).
-/

namespace CubeQuery.Request

open Mdx (Level)

/-- The options with other filters. -/
def Options.filteredBy (o : Options) (filters : List Filter) : Options :=
  { o with filters := filters }

/-- The query with other filters. -/
def DimensionQuery.filteredBy (query : DimensionQuery) (filters : List Filter) : DimensionQuery :=
  { query with options := query.options.filteredBy filters }

/-- The query with other filters. -/
def TableQuery.filteredBy (query : TableQuery) (filters : List Filter) : TableQuery :=
  { query with options := query.options.filteredBy filters }

/-- A dimension query ranges over its attributes and over the levels it sorts by. -/
def DimensionQuery.Queries (query : DimensionQuery) (level : Level) : Prop :=
  level ∈ query.attributes ∨ level ∈ query.options.sortLevels ∧ ¬ level.IsMeasure

/-- A table query ranges over its columns and rows. -/
def TableQuery.Queries (query : TableQuery) (level : Level) : Prop :=
  level ∈ query.columns ∨ level ∈ query.rows

instance (query : DimensionQuery) : DecidablePred query.Queries := fun level =>
  inferInstanceAs (Decidable (level ∈ query.attributes ∨
    level ∈ query.options.sortLevels ∧ ¬ "[Measures]".toList <+: level.name.toList))

instance (query : TableQuery) : DecidablePred query.Queries := fun level =>
  inferInstanceAs (Decidable (level ∈ query.columns ∨ level ∈ query.rows))

/-- A filter that neither restricts its level nor says how it is read. It may have a value, which
nothing is compared with. -/
structure Filter.IsSilent (f : Filter) : Prop where
  comparison : f.comparison = none
  memberKeys : f.memberKeys = []
  includeAll : f.includeAll = false
  includeTotalCount : f.includeTotalCount = false

theorem Filter.IsSilent.hasCondition_eq_false {f : Filter} (h : f.IsSilent) :
    f.hasCondition = false := by
  rw [hasCondition, h.comparison, h.memberKeys]
  rfl

end CubeQuery.Request

namespace CubeQuery.Plan

open Mdx (Level SetExpr Statement)
open Request (Filter Options DimensionQuery TableQuery)

/-! ## Changes of filters -/

/-- Changes of filters that a query over some levels does not observe: filters change places, but
those on other levels keep their order, or a silent filter is put on a level without one. -/
inductive FilterChange (queried : Level → Prop) [DecidablePred queried] :
    List Filter → List Filter → Prop where
  | reordered {first second : List Filter} : first.Perm second →
      (first.filter fun filter => ¬ queried filter.level) =
        (second.filter fun filter => ¬ queried filter.level) →
      FilterChange queried first second
  | inserted {before after : List Filter} {filter : Filter} : filter.IsSilent →
      (∀ other ∈ before ++ after, other.level ≠ filter.level) →
      FilterChange queried (before ++ after) (before ++ filter :: after)

/-- Filters that are read alike by a query over the given levels. -/
structure ReadAlike (levels : List Level) (first second : List Filter) : Prop where
  distinct : (second.map (·.level)).Nodup
  includeAll : ∀ level, (filterOn level first).includeAll = (filterOn level second).includeAll
  includeTotalCount : ∀ level,
    (filterOn level first).includeTotalCount = (filterOn level second).includeTotalCount
  requested : first.any (·.includeTotalCount) = second.any (·.includeTotalCount)
  conditionsOn : conditionsOn levels first = conditionsOn levels second
  conditionsOff : conditionsOff levels first = conditionsOff levels second

/-! ## Filters in another order -/

/-- Among filters on different levels, a search for a level has one result in any order. -/
theorem find?_eq_of_perm {first second : List Filter} (hdistinct : (first.map (·.level)).Nodup)
    (hperm : first.Perm second) {p : Filter → Bool} {level : Level}
    (hp : ∀ filter, p filter = true → filter.level = level) :
    first.find? p = second.find? p := by
  have hsecond : (second.map (·.level)).Nodup := (hperm.map _).nodup_iff.1 hdistinct
  apply Option.ext
  intro filter
  rw [find?_eq_some_iff_of_level hdistinct hp, find?_eq_some_iff_of_level hsecond hp,
    hperm.mem_iff]

theorem filterOn_eq_of_perm {first second : List Filter} (hdistinct : (first.map (·.level)).Nodup)
    (hperm : first.Perm second) (level : Level) : filterOn level first = filterOn level second := by
  rw [filterOn, filterOn, find?_eq_of_perm hdistinct hperm fun _ => beq_iff_eq.1]

/-- Reordered filters are read alike if those on other levels keep their order. -/
theorem readAlike_of_perm {levels : List Level} {first second : List Filter}
    (hdistinct : (first.map (·.level)).Nodup) (hperm : first.Perm second)
    (hoff : (first.filter fun filter => !levels.contains filter.level) =
      second.filter fun filter => !levels.contains filter.level) :
    ReadAlike levels first second where
  distinct := (hperm.map _).nodup_iff.1 hdistinct
  includeAll level := by rw [filterOn_eq_of_perm hdistinct hperm]
  includeTotalCount level := by rw [filterOn_eq_of_perm hdistinct hperm]
  requested := hperm.any_eq
  conditionsOn := by
    apply List.filterMap_congr
    intro level _
    apply find?_eq_of_perm hdistinct hperm
    intro filter hfilter
    exact beq_iff_eq.1 (Bool.and_eq_true_iff.1 hfilter).1
  conditionsOff := by
    -- Those of the remaining filters that have a condition are in the same order, too.
    have hconditions := congrArg (List.filter (·.hasCondition)) hoff
    rw [List.filter_filter, List.filter_filter] at hconditions
    exact hconditions

/-! ## A silent filter more -/

section Inserting

variable {before after : List Filter} {filter : Filter}

/-- A search that does not accept a filter passes it by. -/
theorem find?_insert {p : Filter → Bool} (h : p filter = false) :
    (before ++ filter :: after).find? p = (before ++ after).find? p := by
  rw [List.find?_append, List.find?_append, List.find?_cons, h]

theorem filter_insert {p : Filter → Bool} (h : p filter = false) :
    (before ++ filter :: after).filter p = (before ++ after).filter p := by
  rw [List.filter_append, List.filter_append, List.filter_cons, h, if_neg Bool.false_ne_true]

/-- The filter found on a level is the new one on its own level, and what it was elsewhere. -/
theorem filterOn_insert (hnew : ∀ other ∈ before ++ after, other.level ≠ filter.level)
    (level : Level) :
    filterOn level (before ++ after) = filterOn level (before ++ filter :: after) ∨
      filterOn level (before ++ after) = Filter.ofLevel level ∧
        filterOn level (before ++ filter :: after) = filter := by
  by_cases heq : filter.level = level
  · right
    -- No filter was on this level, so that the new one is the first to be found.
    have hmiss : (before ++ after).find? (fun other => other.level == level) = none := by
      apply List.find?_eq_none.2
      intro other hother hlevel
      exact hnew other hother ((beq_iff_eq.1 hlevel).trans heq.symm)
    have hbefore : before.find? (fun other => other.level == level) = none := by
      rw [List.find?_append, Option.or_eq_none_iff] at hmiss
      exact hmiss.1
    constructor
    · rw [filterOn, hmiss]
      rfl
    · rw [filterOn, List.find?_append, hbefore, List.find?_cons_of_pos (by simpa using heq)]
      rfl
  · left
    have hpassed : (filter.level == level) = false := beq_eq_false_iff_ne.2 heq
    rw [filterOn, filterOn, find?_insert hpassed]

/-- A silent filter on a level without one is read as none. -/
theorem readAlike_of_insert (levels : List Level) (hsilent : filter.IsSilent)
    (hnew : ∀ other ∈ before ++ after, other.level ≠ filter.level)
    (hdistinct : ((before ++ after).map (·.level)).Nodup) :
    ReadAlike levels (before ++ after) (before ++ filter :: after) where
  distinct := by
    have hperm : (before ++ filter :: after).Perm (filter :: (before ++ after)) :=
      List.perm_middle
    rw [(hperm.map _).nodup_iff, List.map_cons, List.nodup_cons]
    refine ⟨?_, hdistinct⟩
    intro hmem
    obtain ⟨other, hother, hlevel⟩ := List.mem_map.1 hmem
    exact hnew other hother hlevel
  includeAll level := by
    rcases filterOn_insert hnew level with heq | ⟨hnone, hfound⟩
    · rw [heq]
    · rw [hnone, hfound, hsilent.includeAll]
      rfl
  includeTotalCount level := by
    rcases filterOn_insert hnew level with heq | ⟨hnone, hfound⟩
    · rw [heq]
    · rw [hnone, hfound, hsilent.includeTotalCount]
      rfl
  requested := by
    rw [List.any_append, List.any_append, List.any_cons, hsilent.includeTotalCount, Bool.false_or]
  conditionsOn := by
    apply List.filterMap_congr
    intro level _
    exact (find?_insert (by rw [hsilent.hasCondition_eq_false, Bool.and_false])).symm
  conditionsOff := by
    exact (filter_insert (by rw [hsilent.hasCondition_eq_false, Bool.false_and])).symm

end Inserting

/-- Filters are read alike behind a change that is not observed. -/
theorem FilterChange.readAlike {queried : Level → Prop} [DecidablePred queried]
    {levels : List Level} {first second : List Filter} (h : FilterChange queried first second)
    (hqueried : ∀ level, queried level ↔ level ∈ levels)
    (hdistinct : (first.map (·.level)).Nodup) : ReadAlike levels first second := by
  cases h with
  | reordered hperm hoff =>
    refine readAlike_of_perm hdistinct hperm ?_
    simpa only [hqueried, decide_not, List.contains_eq_mem] using hoff
  | inserted hsilent hnew => exact readAlike_of_insert levels hsilent hnew hdistinct

/-! ## Splits that are read alike -/

/-- The set of an axis is the same for splits that read levels alike and need the same ones. -/
theorem sortedSet?_filteredBy {first second : FilterSplit} {options : Options}
    {filters : List Filter} (hlevels : second.levelSet = first.levelSet)
    (hneeded : second.neededLevels (options.filteredBy filters) = first.neededLevels options)
    (attributes : List Level) (setup : SetExpr → SetExpr) :
    second.sortedSet? attributes (options.filteredBy filters) setup =
      first.sortedSet? attributes options setup := by
  have hsets : second.levelsSet? = first.levelsSet? := by
    funext levels
    rw [FilterSplit.levelsSet?, FilterSplit.levelsSet?, hlevels]
  rw [FilterSplit.sortedSet?, FilterSplit.sortedSet?, hneeded, hsets, hlevels]
  rfl

namespace ReadAlike

variable {levels : List Level} {first second : List Filter}

theorem levelSet_eq (h : ReadAlike levels first second) :
    (FilterSplit.between levels second).levelSet = (FilterSplit.between levels first).levelSet := by
  funext level
  rw [FilterSplit.levelSet_between, FilterSplit.levelSet_between, h.includeAll]

theorem countedLevels_eq (h : ReadAlike levels first second) :
    (FilterSplit.between levels second).countedLevels =
      (FilterSplit.between levels first).countedLevels := by
  rw [countedLevels_between, countedLevels_between]
  simp only [h.includeTotalCount]

theorem subSelect_eq (h : ReadAlike levels first second)
    (hdistinct : (first.map (·.level)).Nodup) :
    (FilterSplit.between levels second).subSelect =
      (FilterSplit.between levels first).subSelect := by
  rw [FilterSplit.subSelect, FilterSplit.subSelect, restrictions_eq_joined,
    restrictions_eq_joined, queried_conditions_between hdistinct,
    queried_conditions_between h.distinct, h.conditionsOn]

theorem slicer_eq (h : ReadAlike levels first second) :
    (FilterSplit.between levels second).slicer = (FilterSplit.between levels first).slicer := by
  rw [FilterSplit.slicer, FilterSplit.slicer, restrictions_eq_joined, restrictions_eq_joined,
    remaining_conditions_between, remaining_conditions_between, h.conditionsOff]

theorem levelsSet?_eq (h : ReadAlike levels first second) :
    (FilterSplit.between levels second).levelsSet? =
      (FilterSplit.between levels first).levelsSet? := by
  funext others
  rw [FilterSplit.levelsSet?, FilterSplit.levelsSet?, h.levelSet_eq]

theorem countSet?_eq (h : ReadAlike levels first second) :
    (FilterSplit.between levels second).countSet? =
      (FilterSplit.between levels first).countSet? := by
  rw [FilterSplit.countSet?, FilterSplit.countSet?, h.countedLevels_eq, h.levelsSet?_eq]

theorem requestsTotalCount_eq {options : Options} (h : ReadAlike levels options.filters second) :
    (options.filteredBy second).requestsTotalCount = options.requestsTotalCount :=
  congrArg (options.includeTotalCount || ·) h.requested.symm

theorem sortedSet?_eq {options : Options} (h : ReadAlike levels options.filters second)
    (attributes : List Level) (setup : SetExpr → SetExpr) :
    (FilterSplit.between levels second).sortedSet? attributes (options.filteredBy second) setup =
      (FilterSplit.between levels options.filters).sortedSet? attributes options setup := by
  apply sortedSet?_filteredBy h.levelSet_eq
  rw [FilterSplit.neededLevels, FilterSplit.neededLevels, h.countedLevels_eq]
  rfl

end ReadAlike

/-! ## Dimension queries -/

theorem queries_iff_mem_queriedLevels (query : DimensionQuery) (level : Level) :
    query.Queries level ↔ level ∈ queriedLevels query := by
  rw [DimensionQuery.Queries, queriedLevels, List.mem_append, mem_foreignLevels_iff]
  by_cases hlevel : level ∈ query.attributes
  · exact iff_of_true (.inl hlevel) (.inl hlevel)
  · rw [and_iff_left (a := ¬ level.IsMeasure) hlevel]

/-- Of its filters, a dimension query reads the split and whether one asks for a count. -/
theorem dimensionStatement_filteredBy {query : DimensionQuery} {filters : List Filter}
    (h : ReadAlike (queriedLevels query) query.options.filters filters)
    (hdistinct : (query.options.filters.map (·.level)).Nodup) (cube : String)
    (attributes : SetExpr) (counted : Option SetExpr) :
    dimensionStatement cube (query.filteredBy filters)
        (FilterSplit.between (queriedLevels query) filters) attributes counted =
      dimensionStatement cube query
        (FilterSplit.between (queriedLevels query) query.options.filters) attributes counted := by
  have hcolumns : ∀ statement rows,
      dimensionColumns statement (query.filteredBy filters) rows counted =
        dimensionColumns statement query rows counted := by
    intro statement rows
    have hrequested : (query.filteredBy filters).options.requestsTotalCount =
        query.options.requestsTotalCount := h.requestsTotalCount_eq
    rw [dimensionColumns, dimensionColumns, hrequested]
    rfl
  rw [dimensionStatement, dimensionStatement, hcolumns, h.subSelect_eq hdistinct, h.slicer_eq]
  rfl

/-- Behind a change that is not observed, a dimension query has the same statement. -/
theorem dimensionStatement?_filteredBy {cube : String} {query : DimensionQuery}
    {statement : Statement} {filters : List Filter}
    (hstatement : dimensionStatement? cube query = .ok statement)
    (hchange : FilterChange query.Queries query.options.filters filters) :
    dimensionStatement? cube (query.filteredBy filters) = .ok statement := by
  obtain ⟨split, attributes, counted, hsplit, hattributes, hcounted, rfl⟩ :=
    steps_of_dimensionStatement? hstatement
  obtain ⟨hne, hlist, hmeasures, hdistinct⟩ := (splitDimension?_decides query).1.1 ⟨split, hsplit⟩
  obtain rfl := eq_between_of_splitDimension? hsplit
  have halike := hchange.readAlike (queries_iff_mem_queriedLevels query) hdistinct
  -- The checks do not look at filters except for their levels, which do not repeat either way.
  obtain ⟨other, hother⟩ := (splitDimension?_decides (query.filteredBy filters)).1.2
    ⟨hne, hlist, hmeasures, halike.distinct⟩
  have hbetween : other = FilterSplit.between (queriedLevels query) filters :=
    eq_between_of_splitDimension? hother
  subst hbetween
  have hset : (FilterSplit.between (queriedLevels query) filters).levelsSet?
      (queriedLevels (query.filteredBy filters)) = .ok attributes := by
    rw [halike.levelsSet?_eq]
    exact hattributes
  have hcount : requestedCount? (FilterSplit.between (queriedLevels query) filters)
      (query.filteredBy filters).options = .ok counted := by
    have hrequested : (query.filteredBy filters).options.requestsTotalCount =
        query.options.requestsTotalCount := halike.requestsTotalCount_eq
    rw [requestedCount?, hrequested, halike.countSet?_eq]
    exact hcounted
  rw [dimensionStatement?_eq]
  simp only [hother, hset, hcount, bind, Except.bind,
    dimensionStatement_filteredBy halike hdistinct]

/-! ## Table queries -/

theorem queries_iff_mem_append (query : TableQuery) (level : Level) :
    query.Queries level ↔ level ∈ query.columns ++ query.rows := by
  rw [TableQuery.Queries, List.mem_append]

/-- Behind a change that is not observed, a table query has the same statement. -/
theorem tableStatement?_filteredBy {cube : String} {query : TableQuery}
    {statement : Statement} {filters : List Filter}
    (hstatement : tableStatement? cube query = .ok statement)
    (hchange : FilterChange query.Queries query.options.filters filters) :
    tableStatement? cube (query.filteredBy filters) = .ok statement := by
  obtain ⟨split, columns, rows, counted, hsplit, hcolumn, hcolumns, hrows, hcounted, rfl⟩ :=
    steps_of_tableStatement? hstatement
  obtain ⟨hcolumnList, hrowList, hdisjoint, hmeasures, hdistinct⟩ :=
    (splitTable?_decides query).1.1 ⟨split, hsplit⟩
  obtain rfl := eq_between_of_splitTable? hsplit
  have halike := hchange.readAlike (queries_iff_mem_append query) hdistinct
  -- As for dimension queries, the checks look at nothing but the levels of filters.
  obtain ⟨other, hother⟩ := (splitTable?_decides (query.filteredBy filters)).1.2
    ⟨hcolumnList, hrowList, hdisjoint, hmeasures, halike.distinct⟩
  have hbetween : other = FilterSplit.between (query.columns ++ query.rows) filters :=
    eq_between_of_splitTable? hother
  subst hbetween
  have hcolumn' : ((query.filteredBy filters).columns.isEmpty &&
      (query.filteredBy filters).measures.isEmpty) = false := hcolumn
  have hcolumns' : columnSet? (FilterSplit.between (query.columns ++ query.rows) filters)
      (query.filteredBy filters) = .ok columns := by
    rw [columnSet?, halike.levelsSet?_eq]
    exact hcolumns
  have hrows' : rowSet? (FilterSplit.between (query.columns ++ query.rows) filters)
      (query.filteredBy filters) = .ok rows := by
    have hsorted := halike.sortedSet?_eq query.rows (withData query.measures)
    rw [← hrows, rowSet?, rowSet?, ← hsorted]
    rfl
  have hcounted' : requestedTableCount? (FilterSplit.between (query.columns ++ query.rows) filters)
      (query.filteredBy filters) = .ok counted := by
    have hrequested : (query.filteredBy filters).options.requestsTotalCount =
        query.options.requestsTotalCount := halike.requestsTotalCount_eq
    rw [requestedTableCount?, hrequested, tableCountSet?, halike.countSet?_eq,
      halike.levelsSet?_eq]
    exact hcounted
  have hstatement' : tableStatement cube (query.filteredBy filters)
      (FilterSplit.between (query.columns ++ query.rows) filters) columns rows counted =
      tableStatement cube query
        (FilterSplit.between (query.columns ++ query.rows) query.options.filters) columns rows
        counted := by
    rw [tableStatement, tableStatement, halike.subSelect_eq hdistinct, halike.slicer_eq]
    rfl
  rw [tableStatement?_eq]
  simp only [hother, refuseIf, hcolumn', hcolumns', hrows', hcounted', bind, Except.bind,
    if_neg Bool.false_ne_true, hstatement']

/-! ## Accepted queries -/

/-- **A query reads its filters through their levels.** Accepted, it keeps its text if its filters
are reordered without reordering those on levels that it does not range over, and if a silent filter
is put anywhere among them on a level that has none. -/
theorem filters_read_through_levels (cube : String) :
    (∀ query text filters, dimensionText? cube query = .ok text →
      FilterChange query.Queries query.options.filters filters →
      dimensionText? cube (query.filteredBy filters) = .ok text) ∧
    ∀ query text filters, tableText? cube query = .ok text →
      FilterChange query.Queries query.options.filters filters →
      tableText? cube (query.filteredBy filters) = .ok text := by
  constructor
  · intro query text filters h hchange
    obtain ⟨statement, hstatement, htext⟩ := steps_of_bind_eq_ok h
    rw [dimensionText?, dimensionStatement?_filteredBy hstatement hchange]
    exact htext
  · intro query text filters h hchange
    obtain ⟨statement, hstatement, htext⟩ := steps_of_bind_eq_ok h
    rw [tableText?, tableStatement?_filteredBy hstatement hchange]
    exact htext

/-- Two cities. -/
private def someCities : Filter :=
  (Filter.ofLevel ⟨"[Geo].[City]"⟩).withMembers [.text "a", .text "b"]

/-- Some products, and a year from which on they are sold. -/
private def slicing : List Filter :=
  [(Filter.ofLevel ⟨"[Product].[Name]"⟩).withMembers [.text "p"],
    (Filter.ofLevel ⟨"[Date].[Year]"⟩).comparing .atLeast (some (.text "2000"))]

/-- Nothing about countries but a value. -/
private def idleCountry : Filter :=
  { Filter.ofLevel ⟨"[Geo].[Country]"⟩ with comparisonValue := some (.text "x") }

/-- A page of the filtered cities by country. -/
private def pageOfCities : Options :=
  ⟨someCities :: slicing, [.ofLevel ⟨"[Geo].[Country]"⟩], none, some 3, true⟩

/-- Cities as the rows of a dimension query. -/
private def listedCities : DimensionQuery :=
  ⟨[⟨"[Geo].[City]"⟩], [⟨"[Measures].[Sales]"⟩], some .nonEmpty, pageOfCities⟩

/-- Cities as the rows of a table query. -/
private def tabledCities : TableQuery :=
  ⟨[], [⟨"[Measures].[Sales]"⟩], [⟨"[Geo].[City]"⟩], pageOfCities⟩

/-- Cities are restricted by sub-select wherever their filter stands, and a country that is only
sorted by is read without an idle filter as it is with one. -/
theorem filters_of_cities_read_through_levels :
    (∃ text, dimensionText? "Sales" listedCities = .ok text ∧
      FilterChange listedCities.Queries (someCities :: slicing) (slicing ++ [someCities]) ∧
      dimensionText? "Sales" (listedCities.filteredBy (slicing ++ [someCities])) = .ok text ∧
      FilterChange listedCities.Queries (someCities :: slicing)
        (someCities :: idleCountry :: slicing) ∧
      dimensionText? "Sales" (listedCities.filteredBy (someCities :: idleCountry :: slicing)) =
        .ok text) ∧
    ∃ text, tableText? "Sales" tabledCities = .ok text ∧
      FilterChange tabledCities.Queries (someCities :: slicing) (slicing ++ [someCities]) ∧
      tableText? "Sales" (tabledCities.filteredBy (slicing ++ [someCities])) = .ok text ∧
      FilterChange tabledCities.Queries (someCities :: slicing)
        (someCities :: idleCountry :: slicing) ∧
      tableText? "Sales" (tabledCities.filteredBy (someCities :: idleCountry :: slicing)) =
        .ok text := by
  have hmoved : (someCities :: slicing).Perm (slicing ++ [someCities]) :=
    (List.perm_append_singleton someCities slicing).symm
  have hsilent : idleCountry.IsSilent := ⟨rfl, rfl, rfl, rfl⟩
  have hnew : ∀ other ∈ [someCities] ++ slicing, other.level ≠ idleCountry.level := by
    intro other hother
    have hlevel : other.level ∈ ([someCities] ++ slicing).map (·.level) :=
      List.mem_map_of_mem hother
    intro heq
    rw [heq] at hlevel
    revert hlevel
    decide
  have hlisted : FilterChange listedCities.Queries (someCities :: slicing)
      (slicing ++ [someCities]) := .reordered hmoved rfl
  have htabled : FilterChange tabledCities.Queries (someCities :: slicing)
      (slicing ++ [someCities]) := .reordered hmoved rfl
  have hlistedMore : FilterChange listedCities.Queries (someCities :: slicing)
      (someCities :: idleCountry :: slicing) :=
    @FilterChange.inserted listedCities.Queries _ [someCities] slicing idleCountry hsilent hnew
  have htabledMore : FilterChange tabledCities.Queries (someCities :: slicing)
      (someCities :: idleCountry :: slicing) :=
    @FilterChange.inserted tabledCities.Queries _ [someCities] slicing idleCountry hsilent hnew
  refine ⟨⟨_, rfl, hlisted, ?_, hlistedMore, ?_⟩, _, rfl, htabled, ?_, htabledMore, ?_⟩
  · exact (filters_read_through_levels "Sales").1 listedCities _ _ rfl hlisted
  · exact (filters_read_through_levels "Sales").1 listedCities _ _ rfl hlistedMore
  · exact (filters_read_through_levels "Sales").2 tabledCities _ _ rfl htabled
  · exact (filters_read_through_levels "Sales").2 tabledCities _ _ rfl htabledMore

end CubeQuery.Plan
