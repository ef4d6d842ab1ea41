import CubeQuery.Proofs.Plan.FilterReading
import CubeQuery.Proofs.Plan.PlannedNames

set_option autoImplicit false

/-!
# Rows of a table whose columns are counted

A filter may ask for a count of a column. Columns and rows of a table are planned over the same
filters, and the rows are planned for every level that is counted: a counted column joins the grain
of the rows as a level that is sorted by does, and it is projected away with it. The rows do not
notice the count of a column only where they are sorted by it anyway.

Main statements: two tables that differ in counts of columns define the same rows exactly if the
columns counted in one of them only are sorted by (`rows_defined_alike_iff`), and a count of years
changes which cities are paged (`counted_years_change_rows`).
-/

namespace CubeQuery.Request

/-- The filter with a count of its level, or without one. -/
def Filter.flagged (f : Filter) (isCounted : Bool) : Filter :=
  { f with includeTotalCount := isCounted }

/-- A filter on a level asks for a count. -/
def TableQuery.Counts (query : TableQuery) (level : Mdx.Level) : Prop :=
  ∃ filter ∈ query.options.filters, filter.level = level ∧ filter.includeTotalCount = true

end CubeQuery.Request

namespace CubeQuery.Mdx.Statement

/-- The definition of a name. -/
def definition? (s : Statement) (name : String) : Option Definition :=
  s.definitions.find? fun definition => definition.name == name

theorem definition?_defineSet_self {s : Statement} {name : String} (h : s.definition? name = none)
    (value : SetExpr) : (s.defineSet name value).definition? name = some (.set name value) := by
  rw [definition?] at h
  rw [definition?, defineSet, List.find?_append, h, Option.none_or, List.find?_singleton]
  exact if_pos (beq_self_eq_true name)

theorem definition?_defineMember_of_ne (s : Statement) {name other : String} (h : other ≠ name)
    (value : Expr) (caption : Option String) :
    (s.defineMember other value caption).definition? name = s.definition? name := by
  rw [definition?, defineMember, List.find?_append, List.find?_singleton]
  exact (congrArg _ (if_neg fun heq => h (beq_iff_eq.1 heq))).trans (Option.or_none ..)

end CubeQuery.Mdx.Statement

namespace CubeQuery.Plan

open Mdx (Level SetExpr Statement NamedSet)
open Request (Filter Options TableQuery)

/-! ## The definition of the rows -/

/-- A table query with row attributes defines its rows as the sorted set of them. -/
theorem definition?_tableStatement (cube : String) (query : TableQuery) (split : FilterSplit)
    (columns : Option SetExpr) (rows : SetExpr) (counted : Option SetExpr) :
    (tableStatement cube query split columns (some rows) counted).definition? NamedSet.rows.text =
      some (.set NamedSet.rows.text rows) := by
  generalize hbroken : tableColumns (Statement.ofCube cube) query columns = broken
  have hcolumns : broken.1.definition? NamedSet.rows.text = none := by
    rw [← hbroken]
    unfold tableColumns
    cases columns with
    | none => cases query.measures <;> rfl
    | some set => cases query.measures <;> rfl
  have hrows := Statement.definition?_defineSet_self hcolumns rows
  rw [tableStatement, hbroken]
  cases counted with
  | none => exact hrows
  | some set =>
    -- The count is defined behind the rows, under another name.
    exact ((broken.1.defineSet NamedSet.rows.text rows).definition?_defineMember_of_ne
      (by decide) _ _).trans hrows

/-- The rows that an accepted table query defines. -/
theorem definition?_of_tableStatement? {cube : String} {query : TableQuery} {statement : Statement}
    (hne : query.rows ≠ []) (h : tableStatement? cube query = .ok statement) :
    ∃ set, (FilterSplit.between (query.columns ++ query.rows) query.options.filters).sortedSet?
        query.rows query.options (withData query.measures) = .ok set ∧
      statement.definition? NamedSet.rows.text = some (.set NamedSet.rows.text set) := by
  obtain ⟨split, columns, rows, counted, hsplit, -, -, hrows, -, rfl⟩ := steps_of_tableStatement? h
  obtain rfl := eq_between_of_splitTable? hsplit
  obtain ⟨set, rfl, hset⟩ := sortedSet?_of_rowSet? hne hrows
  exact ⟨set, hset, definition?_tableStatement ..⟩

/-! ## Filters with other counts -/

/-- A filter and the one in its place, which may be without its count or have one if it is on a
column. -/
inductive RecountsColumn (columns : List Level) : Filter → Filter → Prop where
  | same (filter : Filter) : RecountsColumn columns filter filter
  | flagged {filter : Filter} (isCounted : Bool) : filter.level ∈ columns →
      RecountsColumn columns filter (filter.flagged isCounted)

namespace RecountsColumn

variable {columns : List Level} {filter other : Filter}

theorem level_eq (h : RecountsColumn columns filter other) : other.level = filter.level := by
  cases h with
  | same => rfl
  | flagged => rfl

theorem includeAll_eq (h : RecountsColumn columns filter other) :
    other.includeAll = filter.includeAll := by
  cases h with
  | same => rfl
  | flagged => rfl

/-- Only filters on columns are counted otherwise. -/
theorem includeTotalCount_eq (h : RecountsColumn columns filter other)
    (hlevel : filter.level ∉ columns) : other.includeTotalCount = filter.includeTotalCount := by
  cases h with
  | same => rfl
  | flagged _ hmem => exact absurd hmem hlevel

end RecountsColumn

/-- Filters that recount columns are found in the same places. -/
theorem recountsColumn_filterOn {columns : List Level} {filters others : List Filter}
    (h : List.Forall₂ (RecountsColumn columns) filters others) (level : Level) :
    RecountsColumn columns (filterOn level filters) (filterOn level others) := by
  -- Filters in the same place have the same level, so that the search stops in the same place.
  induction h with
  | nil => exact .same _
  | @cons filter other filters others hfirst hrest ih =>
    rw [filterOn, filterOn, List.find?_cons, List.find?_cons, hfirst.level_eq]
    cases filter.level == level with
    | true => exact hfirst
    | false => exact ih

section Recounting

variable {query : TableQuery} {filters : List Filter}

/-- Another count of columns does not change how levels are read. -/
theorem levelSet_recounted (levels : List Level)
    (h : List.Forall₂ (RecountsColumn query.columns) query.options.filters filters) :
    (FilterSplit.between levels filters).levelSet =
      (FilterSplit.between levels query.options.filters).levelSet := by
  funext level
  rw [FilterSplit.levelSet_between, FilterSplit.levelSet_between,
    (recountsColumn_filterOn h level).includeAll_eq]

/-- The levels that rows need are the same if the columns with another count are sorted by. -/
theorem neededLevels_recounted (levels : List Level)
    (h : List.Forall₂ (RecountsColumn query.columns) query.options.filters filters)
    (hdistinct : (query.options.filters.map (·.level)).Nodup)
    (hother : (filters.map (·.level)).Nodup)
    (hcounts : ∀ column ∈ query.columns, column ∉ query.options.sortLevels →
      (query.Counts column ↔ (query.filteredBy filters).Counts column)) :
    (FilterSplit.between levels filters).neededLevels (query.options.filteredBy filters) =
      (FilterSplit.between levels query.options.filters).neededLevels query.options := by
  have hflags : ∀ level, level ∉ query.options.sortLevels →
      (filterOn level filters).includeTotalCount =
        (filterOn level query.options.filters).includeTotalCount := by
    intro level hlevel
    by_cases hcolumn : level ∈ query.columns
    · rw [Bool.eq_iff_iff, includeTotalCount_filterOn_iff hother,
        includeTotalCount_filterOn_iff hdistinct]
      exact (hcounts level hcolumn hlevel).symm
    · apply (recountsColumn_filterOn h level).includeTotalCount_eq
      rw [FilterSplit.level_filterOn]
      exact hcolumn
  have hsort : (query.options.filteredBy filters).sortLevels = query.options.sortLevels := rfl
  rw [FilterSplit.neededLevels, FilterSplit.neededLevels, hsort, List.eraseDups_append,
    List.eraseDups_append, countedLevels_between, countedLevels_between, List.removeAll,
    List.removeAll, List.filter_filter, List.filter_filter]
  -- Counted levels that are sorted by stand among those already, and for all others counts agree.
  congr 2
  apply List.filter_congr
  intro level _
  by_cases hlevel : level ∈ query.options.sortLevels
  · simp [hlevel]
  · rw [hflags level hlevel]

/-- A column that is not sorted by is mentioned by the rows if it is counted. -/
theorem mention_mem_rows_iff {columns rows measures : List Level} {options : Options}
    {set : SetExpr} (hdistinct : (options.filters.map (·.level)).Nodup) (hne : rows ≠ [])
    (h : (FilterSplit.between (columns ++ rows) options.filters).sortedSet? rows options
      (withData measures) = .ok set)
    {column : Level} (hcolumn : column ∈ columns) (hattribute : column.isMeasure = false)
    (hrow : column ∉ rows) (hsort : column ∉ options.sortLevels) :
    column.mention ∈ set.mentions ↔
      ∃ filter ∈ options.filters, filter.level = column ∧ filter.includeTotalCount = true := by
  have hcounts : column ∈ (FilterSplit.between (columns ++ rows) options.filters).countedLevels ↔
      ∃ filter ∈ options.filters, filter.level = column ∧ filter.includeTotalCount = true :=
    (mem_countedLevels_between hdistinct column).trans
      (and_iff_right (List.mem_append_left rows hcolumn))
  rw [mem_mentions_of_sortedSet? hne h, ← hcounts]
  constructor
  · rintro (⟨level, hlevel | hlevel | ⟨hlevel, -⟩, heq⟩ | ⟨-, heq⟩)
    · exact absurd (Level.mention_injective heq ▸ hlevel) hrow
    · exact absurd (Level.mention_injective heq ▸ hlevel) hsort
    · exact Level.mention_injective heq ▸ hlevel
    · cases heq
  · intro hcounted
    exact .inl ⟨column, .inr (.inr ⟨hcounted, hattribute⟩), rfl⟩

end Recounting

/-- **Two tables that differ in counts of columns define the same rows** exactly if every column
that is counted in one of them only is sorted by. -/
theorem rows_defined_alike_iff {cube : String} {query : TableQuery} {filters : List Filter}
    {text other : String} (h : tableText? cube query = .ok text)
    (hother : tableText? cube (query.filteredBy filters) = .ok other) (hne : query.rows ≠ [])
    (hfilters : List.Forall₂ (RecountsColumn query.columns) query.options.filters filters) :
    ∃ first second firstRows secondRows, tableStatement? cube query = .ok first ∧
      tableStatement? cube (query.filteredBy filters) = .ok second ∧
      first.definition? NamedSet.rows.text = some firstRows ∧
      second.definition? NamedSet.rows.text = some secondRows ∧
      (firstRows = secondRows ↔ ∀ column ∈ query.columns, column ∉ query.options.sortLevels →
        (query.Counts column ↔ (query.filteredBy filters).Counts column)) := by
  obtain ⟨first, hfirst, -⟩ := steps_of_bind_eq_ok h
  obtain ⟨second, hsecond, -⟩ := steps_of_bind_eq_ok hother
  obtain ⟨split, -, -, -, hsplit, -⟩ := steps_of_tableStatement? hfirst
  obtain ⟨otherSplit, -, -, -, hotherSplit, -⟩ := steps_of_tableStatement? hsecond
  obtain ⟨hcolumnList, -, hdisjoint, -, hdistinct⟩ :=
    (splitTable?_decides query).1.1 ⟨split, hsplit⟩
  obtain ⟨-, -, -, -, hotherDistinct⟩ :=
    (splitTable?_decides (query.filteredBy filters)).1.1 ⟨otherSplit, hotherSplit⟩
  obtain ⟨rows, hrows, hfirstRows⟩ := definition?_of_tableStatement? hne hfirst
  obtain ⟨otherRows, hotherRows, hsecondRows⟩ :=
    @definition?_of_tableStatement? _ (query.filteredBy filters) _ hne hsecond
  refine ⟨first, second, _, _, hfirst, hsecond, hfirstRows, hsecondRows, ?_⟩
  constructor
  · -- A column that is not sorted by shows in the rows whether it is counted.
    intro heq column hcolumn hsort
    have hsame : rows = otherRows := (Mdx.Definition.set.inj heq).2
    have hattribute := (column.isMeasure_eq_false_iff).2 (hcolumnList.ofKind column hcolumn)
    have hrow := hdisjoint column hcolumn
    rw [hsame] at hrows
    exact (mention_mem_rows_iff hdistinct hne hrows hcolumn hattribute hrow hsort).symm.trans
      (mention_mem_rows_iff hotherDistinct hne hotherRows hcolumn hattribute hrow hsort)
  · -- The rows need the same levels, and so they are planned along the same grain.
    intro hcounts
    have hneeded := neededLevels_recounted (query.columns ++ query.rows) hfilters hdistinct
      hotherDistinct hcounts
    have hsorted := sortedSet?_filteredBy (levelSet_recounted _ hfilters) hneeded query.rows
      (withData query.measures)
    have hsame : (.ok otherRows : Except Error SetExpr) = .ok rows :=
      (hotherRows.symm.trans hsorted).trans hrows
    rw [Except.ok.inj hsame]

/-- Sales of the first cities by year, in some order, with a filter on the years. -/
private def pagedSales (orderBy : List Request.SortKey) (years : Filter) : TableQuery :=
  ⟨[⟨"[Date].[Year]"⟩], [⟨"[Measures].[Sales]"⟩], [⟨"[Geo].[City]"⟩],
    ⟨[years], orderBy, none, some 3, false⟩⟩

/-- All years, uncounted. -/
private def allYears : Filter :=
  Filter.ofLevel ⟨"[Date].[Year]"⟩

/-- Years that are counted may be counted or not. -/
private theorem recounts_years (orderBy : List Request.SortKey) (isCounted : Bool) :
    List.Forall₂ (RecountsColumn (pagedSales orderBy allYears).columns) [allYears]
      [allYears.flagged isCounted] :=
  .cons (.flagged isCounted List.mem_cons_self) .nil

/-- Cities that are sorted by year are paged alike with a count of years and without one. -/
theorem rows_defined_alike_by_year :
    ∃ text other, tableText? "Sales" (pagedSales [.ofLevel ⟨"[Date].[Year]"⟩] allYears) =
        .ok text ∧
      tableText? "Sales" ((pagedSales [.ofLevel ⟨"[Date].[Year]"⟩] allYears).filteredBy
        [allYears.flagged true]) = .ok other ∧
      (pagedSales [.ofLevel ⟨"[Date].[Year]"⟩] allYears).rows ≠ [] ∧
      ∃ first second firstRows secondRows,
        tableStatement? "Sales" (pagedSales [.ofLevel ⟨"[Date].[Year]"⟩] allYears) = .ok first ∧
        tableStatement? "Sales" ((pagedSales [.ofLevel ⟨"[Date].[Year]"⟩] allYears).filteredBy
          [allYears.flagged true]) = .ok second ∧
        first.definition? NamedSet.rows.text = some firstRows ∧
        second.definition? NamedSet.rows.text = some secondRows ∧ firstRows = secondRows := by
  refine ⟨_, _, rfl, rfl, List.cons_ne_nil _ _, ?_⟩
  obtain ⟨first, second, firstRows, secondRows, hfirst, hsecond, hfirstRows, hsecondRows, hiff⟩ :=
    @rows_defined_alike_iff "Sales" (pagedSales [.ofLevel ⟨"[Date].[Year]"⟩] allYears)
      [allYears.flagged true] _ _ rfl rfl (List.cons_ne_nil _ _) (recounts_years _ true)
  refine ⟨first, second, firstRows, secondRows, hfirst, hsecond, hfirstRows, hsecondRows, ?_⟩
  apply hiff.2
  intro column hcolumn hsort
  cases List.mem_singleton.1 hcolumn
  exact absurd List.mem_cons_self hsort

/-- The first cities with sales. -/
private def firstCities : Mdx.Definition :=
  .set "[queryRows]" (.head (.nonEmpty (.children ⟨"[Geo].[City]"⟩) (some (.named .measures)))
    (some (.whole 3)))

/-- The cities of the first cities and years with sales. -/
private def firstCitiesAndYears : Mdx.Definition :=
  .set "[queryRows]" (.extract (.head (.nonEmpty
    (.crossJoin (.children ⟨"[Geo].[City]"⟩) [.children ⟨"[Date].[Year]"⟩])
    (some (.named .measures))) (some (.whole 3))) [⟨"[Geo].[City]"⟩])

/-- Of cities in no order, others are paged if years are counted. -/
theorem counted_years_change_rows :
    ∃ text other first second firstRows secondRows,
      tableText? "Sales" (pagedSales [] allYears) = .ok text ∧
      tableText? "Sales" ((pagedSales [] allYears).filteredBy [allYears.flagged true]) =
        .ok other ∧
      (pagedSales [] allYears).rows ≠ [] ∧
      List.Forall₂ (RecountsColumn (pagedSales [] allYears).columns) [allYears]
        [allYears.flagged true] ∧
      tableStatement? "Sales" (pagedSales [] allYears) = .ok first ∧
      tableStatement? "Sales" ((pagedSales [] allYears).filteredBy [allYears.flagged true]) =
        .ok second ∧
      first.definition? NamedSet.rows.text = some firstRows ∧
      second.definition? NamedSet.rows.text = some secondRows ∧
      firstRows.text =
        "SET [queryRows] AS HEAD(NONEMPTY([Geo].[City].children,[queryMeasures]),3)" ∧
      secondRows.text =
        "SET [queryRows] AS EXTRACT(HEAD(NONEMPTY(CROSSJOIN([Geo].[City].children," ++
          "[Date].[Year].children),[queryMeasures]),3),[Geo].[City])" ∧
      firstRows.text ≠ secondRows.text := by
  have hcities : firstCities.text =
      "SET [queryRows] AS HEAD(NONEMPTY([Geo].[City].children,[queryMeasures]),3)" := by
    simp only [firstCities, Mdx.Definition.text, SetExpr.text, Mdx.optionalSetText,
      Mdx.optionalText, Mdx.Expr.text, Mdx.call]
    decide
  have hyears : firstCitiesAndYears.text =
      "SET [queryRows] AS EXTRACT(HEAD(NONEMPTY(CROSSJOIN([Geo].[City].children," ++
        "[Date].[Year].children),[queryMeasures]),3),[Geo].[City])" := by
    simp only [firstCitiesAndYears, Mdx.Definition.text, SetExpr.text, Mdx.setTexts,
      Mdx.optionalSetText, Mdx.optionalText, Mdx.Expr.text, Mdx.call]
    decide +kernel
  have htexts : firstCities.text ≠ firstCitiesAndYears.text := by
    rw [hcities, hyears]
    decide
  exact ⟨_, _, _, _, firstCities, firstCitiesAndYears, rfl, rfl, List.cons_ne_nil _ _,
    recounts_years [] true, rfl, rfl, rfl, rfl, hcities, hyears, htexts⟩

end CubeQuery.Plan
