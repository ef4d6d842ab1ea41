import CubeQuery.Proofs.Mdx.Server
import CubeQuery.Proofs.Plan.DimensionStatement
import CubeQuery.Proofs.Plan.SortedTuples

set_option autoImplicit false

/-!
# The row count of a dimension query

Every page of a dimension query is compiled to the same definitions, and its rows are a slice of the
same sorted set. The row count is taken of that set before it is sorted, projected to the attributes
like the rows themselves; sorting rearranges the set, so that the projection of either has as many
tuples.

Main statements: the pages of a query differ in the slice only (`dimensionStatement?_onPage`), and a
server gives as row count the number of rows that it gives for the query without a page
(`total_counts_unpaged_rows`).
-/

namespace CubeQuery.Request

/-- The options with another page. -/
def Options.onPage (o : Options) (skip top : Option UInt64) : Options :=
  { o with skip := skip, top := top }

/-- The query for another page. -/
def DimensionQuery.onPage (query : DimensionQuery) (skip top : Option UInt64) : DimensionQuery :=
  { query with options := query.options.onPage skip top }

end CubeQuery.Request

namespace CubeQuery.Plan

open Mdx (Level SetExpr Statement NamedSet Reading Server Fact Facts)
open Request (Options DimensionQuery)

variable {α : Type}

/-! ## Levels -/

/-- The members of a level, with the aggregate member if the filter on the level asks for it. -/
theorem tuples_levelSet (server : Server α) {split : FilterSplit} {levels : List Level}
    {filters : List Request.Filter} (h : split = FilterSplit.between levels filters)
    (definitions : List Mdx.Definition) (level : Level) :
    (server.reading definitions).tuples (split.levelSet level) =
      (server.members level (filterOn level filters).includeAll).map
        fun member => [(level, member)] := by
  rw [h, FilterSplit.levelSet_between, server.tuples_all]

theorem nodup_tuples_levelSet {server : Server α} {split : FilterSplit} {levels : List Level}
    {filters : List Request.Filter} (h : split = FilterSplit.between levels filters)
    (definitions : List Mdx.Definition) {level : Level}
    (hmembers : (server.members level (filterOn level filters).includeAll).Nodup) :
    ((server.reading definitions).tuples (split.levelSet level)).Nodup := by
  rw [tuples_levelSet server h]
  apply hmembers.map
  intro first second heq
  simpa using heq

/-! ## Pages -/

/-- The rows of a dimension query before they are sorted. -/
def selectedRows (query : DimensionQuery) : SetExpr :=
  match query.measures with
  | [] => setNamed .attributes
  | _ :: _ =>
    selectRows (query.selection.getD .all) (.crossJoin (setNamed .attributes) [setNamed .measures])

theorem flaggedRows_snd (statement : Statement) (query : DimensionQuery) :
    (flaggedRows statement query).2 = selectedRows query := by
  rw [flaggedRows, selectedRows]
  cases query.measures with
  | nil => rfl
  | cons first rest => rfl

/-- The pages of a dimension query have the same definitions, and their rows are arranged from the
same set. -/
theorem dimensionStatement?_onPage {cube : String} {query : DimensionQuery}
    {statement : Statement} (h : dimensionStatement? cube query = .ok statement)
    (skip top : Option UInt64) :
    ∃ page, dimensionStatement? cube (query.onPage skip top) = .ok page ∧
      page.definitions = statement.definitions ∧
      page.rows =
        some (projected query ((query.options.onPage skip top).arrange (selectedRows query))) := by
  obtain ⟨split, attributes, counted, hsplit, hattributes, hcounted, rfl⟩ :=
    steps_of_dimensionStatement? h
  refine ⟨dimensionStatement cube (query.onPage skip top) split attributes counted, ?_, rfl, ?_⟩
  · rw [dimensionStatement?_eq]
    -- Neither the checks nor the counted levels look at the page.
    change (splitDimension? query >>= fun split => split.levelsSet? (queriedLevels query) >>=
      fun attributes => requestedCount? split query.options >>= fun counted =>
        .ok (dimensionStatement cube (query.onPage skip top) split attributes counted)) = _
    rw [hsplit]
    change (split.levelsSet? (queriedLevels query) >>= _) = _
    rw [hattributes]
    change (requestedCount? split query.options >>= _) = _
    rw [hcounted]
    rfl
  · rw [← flaggedRows_snd ((Statement.ofCube cube).defineSet NamedSet.attributes.text attributes)]
    rfl

/-! ## The counted set -/

theorem countedSet?_defineTotalCount (statement : Statement) (set : SetExpr) :
    (defineTotalCount statement set).countedSet? = statement.countedSet?.or (some set) :=
  statement.countedSet?_defineMember _ _ _

theorem countedSet?_flaggedRows {statement : Statement} (h : statement.countedSet? = none)
    (query : DimensionQuery) : (flaggedRows statement query).1.countedSet? = none := by
  rw [flaggedRows]
  cases query.measures with
  | nil =>
    change (defineFlag statement (.whole 1)).countedSet? = none
    rw [defineFlag, Statement.countedSet?_defineMember, h]
    rfl
  | cons first rest =>
    change (defineFlag (statement.defineSet NamedSet.measures.text (.measures first rest))
      nonEmptyFlag.expr).countedSet? = none
    rw [defineFlag, Statement.countedSet?_defineMember, Statement.countedSet?_defineSet, h]
    rfl

/-- A dimension query that asks for a count counts its counted levels, or without them its rows. -/
theorem countedSet?_dimensionStatement {query : DimensionQuery}
    (hcount : query.options.requestsTotalCount = true) (cube : String) (split : FilterSplit)
    (attributes : SetExpr) (counted : Option SetExpr) :
    (dimensionStatement cube query split attributes counted).countedSet? =
      some (counted.getD (projected query (selectedRows query))) := by
  generalize hstart : (Statement.ofCube cube).defineSet NamedSet.attributes.text attributes = start
  have hdefinitions : (dimensionStatement cube query split attributes counted).countedSet? =
      (dimensionColumns (flaggedRows start query).1 query (flaggedRows start query).2
        counted).1.countedSet? := by
    rw [← hstart]
    rfl
  have hnone : start.countedSet? = none := by
    rw [← hstart]
    rfl
  rw [hdefinitions, dimensionColumns, hcount, if_pos rfl, countedSet?_defineTotalCount,
    countedSet?_flaggedRows hnone, flaggedRows_snd]
  rfl

/-- No filter on a level that the rows are made of asks for a count of that level alone. -/
def CountsWholeRows (query : DimensionQuery) : Prop :=
  ∀ filter ∈ query.options.filters, filter.includeTotalCount = true →
    filter.level ∉ query.attributes ∧ filter.level ∉ query.options.sortLevels

theorem countedLevels_eq_nil {query : DimensionQuery} {split : FilterSplit}
    (h : splitDimension? query = .ok split) (hwhole : CountsWholeRows query) :
    split.countedLevels = [] := by
  obtain ⟨-, -, -, hfilters⟩ := (splitDimension?_decides query).1.1 ⟨split, h⟩
  rw [eq_between_of_splitDimension? h]
  apply countedLevels_between_eq_nil hfilters
  intro filter hfilter hflag hqueried
  obtain ⟨hattribute, hsort⟩ := hwhole filter hfilter hflag
  rcases List.mem_append.1 hqueried with hmem | hmem
  · exact hattribute hmem
  · exact hsort ((mem_foreignLevels_iff _ _ _).1 hmem).1

theorem requestedCount?_of_eq_nil {split : FilterSplit} (h : split.countedLevels = [])
    (options : Options) : requestedCount? split options = .ok none := by
  rw [requestedCount?, countSet?_of_eq_nil h, ite_self]

/-- Without counted levels the rows are counted. -/
theorem countedSet?_of_countsWholeRows {cube : String} {query : DimensionQuery}
    {statement : Statement} (h : dimensionStatement? cube query = .ok statement)
    (hcount : query.options.requestsTotalCount = true) (hwhole : CountsWholeRows query) :
    statement.countedSet? = some (projected query (selectedRows query)) := by
  obtain ⟨split, attributes, counted, hsplit, -, hcounted, rfl⟩ := steps_of_dimensionStatement? h
  rw [requestedCount?_of_eq_nil (countedLevels_eq_nil hsplit hwhole)] at hcounted
  cases hcounted
  exact countedSet?_dimensionStatement hcount cube split attributes none

/-! ## Counting rows -/

/-- Sets with the same tuples have the same tuples behind a projection to the attributes. -/
theorem projected_perm (reading : Reading α) (query : DimensionQuery) {first second : SetExpr}
    (h : (reading.tuples first).Perm (reading.tuples second)) :
    (reading.tuples (projected query first)).Perm (reading.tuples (projected query second)) := by
  rw [projected, projected]
  cases isWidened query with
  | false => exact h
  | true =>
    apply (List.perm_ext_iff_of_nodup (reading.nodup_tuples_extract _ _)
      (reading.nodup_tuples_extract _ _)).2
    intro tuple
    simp only [reading.mem_tuples_extract_iff, h.mem_iff]

/-- The rows of a query without a page are its sorted rows. -/
theorem rows?_of_unpaged (server : Server α) {cube : String} {query : DimensionQuery}
    {statement : Statement} (h : dimensionStatement? cube query = .ok statement) :
    ∃ unpaged, dimensionStatement? cube (query.onPage none none) = .ok unpaged ∧
      server.rows? unpaged = some ((server.reading statement.definitions).tuples
        (projected query (query.options.sort (selectedRows query)))) := by
  obtain ⟨unpaged, hunpaged, hdefinitions, hrows⟩ := dimensionStatement?_onPage h none none
  refine ⟨unpaged, hunpaged, ?_⟩
  rw [Server.rows?, hrows, hdefinitions, arrange_of_unpaged rfl rfl]
  rfl

/-- Sorting does not change how many rows there are to count. -/
theorem total?_of_countsWholeRows (server : Server α) {cube : String} {query : DimensionQuery}
    {statement : Statement} (h : dimensionStatement? cube query = .ok statement)
    (hcount : query.options.requestsTotalCount = true) (hwhole : CountsWholeRows query) :
    server.total? statement = some ((server.reading statement.definitions).tuples
      (projected query (query.options.sort (selectedRows query)))).length := by
  have hsorted := (server.reading statement.definitions).tuples_sort_perm query.options
    (selectedRows query)
  rw [Server.total?, countedSet?_of_countsWholeRows h hcount hwhole,
    (projected_perm _ query hsorted).length_eq]
  rfl

/-- **The row count of a dimension query is the number of its rows without a page.** It is whatever
the measures, the selection by them and the sort keys, as long as no attribute and no level sorted
by is counted by itself. -/
theorem total_counts_unpaged_rows (server : Server α) {cube : String} {query : DimensionQuery}
    {text : String} (h : dimensionText? cube query = .ok text)
    (hcount : query.options.requestsTotalCount = true) (hwhole : CountsWholeRows query) :
    ∃ statement unpaged total rows, dimensionStatement? cube query = .ok statement ∧
      statement.text? = .ok text ∧
      dimensionStatement? cube (query.onPage none none) = .ok unpaged ∧
      server.total? statement = some total ∧ server.rows? unpaged = some rows ∧
      total = rows.length := by
  obtain ⟨statement, hstatement, htext⟩ := steps_of_bind_eq_ok h
  obtain ⟨unpaged, hunpaged, hrows⟩ := rows?_of_unpaged server hstatement
  have htotal := total?_of_countsWholeRows server hstatement hcount hwhole
  exact ⟨statement, unpaged, _, _, hstatement, htext, hunpaged, htotal, hrows, rfl⟩

/-- A sale of a city in a year. -/
private def saleIn (city year : String) : Fact :=
  .ofTuple [(⟨"[Geo].[City]"⟩, city), (⟨"[Date].[Year]"⟩, year),
    (⟨"[Measures]"⟩, "[Measures].[Sales]")]

/-- Two cities and two years, the first city sold in the first year only. -/
private def citySales : Facts :=
  ⟨[saleIn "a" "1", saleIn "b" "1", saleIn "b" "2"], fun _ => []⟩

/-- The second of the sold cities in the order of years, and the count of all. Counted products do
not matter, since no row is made of them. -/
private def soldByYear : DimensionQuery :=
  ⟨[⟨"[Geo].[City]"⟩], [⟨"[Measures].[Sales]"⟩, ⟨"[Measures].[Cost]"⟩], some .nonEmpty,
    ⟨[(Request.Filter.ofLevel ⟨"[Product].[Name]"⟩).withTotalCount],
      [.descending ⟨"[Date].[Year]"⟩], some 1, some 1, true⟩⟩

/-- Cities that are sorted by year are counted once each. -/
theorem total_counts_sold_cities :
    ∃ text, dimensionText? "Sales" soldByYear = .ok text ∧
      soldByYear.options.requestsTotalCount = true ∧ CountsWholeRows soldByYear ∧
      ∃ statement unpaged total rows, dimensionStatement? "Sales" soldByYear = .ok statement ∧
        statement.text? = .ok text ∧
        dimensionStatement? "Sales" (soldByYear.onPage none none) = .ok unpaged ∧
        citySales.server.total? statement = some total ∧
        citySales.server.rows? unpaged = some rows ∧ total = rows.length := by
  have hwhole : CountsWholeRows soldByYear := by
    intro filter hfilter _
    cases List.mem_singleton.1 hfilter
    decide
  exact ⟨_, rfl, rfl, hwhole, total_counts_unpaged_rows citySales.server rfl rfl hwhole⟩

end CubeQuery.Plan
