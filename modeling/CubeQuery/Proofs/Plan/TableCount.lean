import CubeQuery.Proofs.Plan.DimensionCount
import CubeQuery.Proofs.Plan.RowHierarchies
import CubeQuery.Proofs.Plan.TableAcceptance

set_option autoImplicit false

/-!
# The row count of a table query

The rows of a table are kept by their data before they are sorted, at the grain that sorting needs:
where the outer attributes stay outside the grain, a row is kept if its inner attributes have data
anywhere. The row count is taken of all attributes, kept by their data as a whole.

Main statements: the row count is the number of rows with data, and that of all rows if sorting
takes them in as a whole (`total_counts_rows_with_data`); sorted by an inner attribute, a table has
rows without data that are not counted (`uncounted_rows_by_product`).
-/

namespace CubeQuery.Request

/-- The query for all its rows in a given order. -/
def TableQuery.allRowsBy (query : TableQuery) (orderBy : List SortKey) : TableQuery :=
  { query with options := { query.options with orderBy := orderBy, skip := none, top := none } }

end CubeQuery.Request

namespace CubeQuery.Plan

open Mdx (Level SetExpr Statement NamedSet Definition Reading Server DataServer Tuple Fact Facts)
open Request (Options SortKey TableQuery)

/-! ## Orders and pages -/

/-- In another order and on another page, a table query differs in its rows only. -/
theorem tableStatement?_allRowsBy {query : TableQuery} {split : FilterSplit}
    {columns rows counted : Option SetExpr} {orderBy : List SortKey}
    (hsplit : splitTable? query = .ok split)
    (hcolumn : (query.columns.isEmpty && query.measures.isEmpty) = false)
    (hcolumns : columnSet? split query = .ok columns)
    (hrows : rowSet? split (query.allRowsBy orderBy) = .ok rows)
    (hcounted : requestedTableCount? split query = .ok counted) (cube : String) :
    tableStatement? cube (query.allRowsBy orderBy) =
      .ok (tableStatement cube (query.allRowsBy orderBy) split columns rows counted) := by
  rw [tableStatement?_eq]
  -- Of the steps only the one for the rows looks at the order and the page.
  change (splitTable? query >>= _) = _
  rw [hsplit]
  change (refuseIf (query.columns.isEmpty && query.measures.isEmpty) _ >>= _) = _
  rw [hcolumn]
  change (columnSet? split query >>= _) = _
  rw [hcolumns]
  change (rowSet? split (query.allRowsBy orderBy) >>= _) = _
  rw [hrows]
  change (requestedTableCount? split query >>= _) = _
  rw [hcounted]
  rfl

/-! ## The counted set -/

/-- A table query that counts does so behind all its other definitions. -/
theorem countedSet?_tableStatement (cube : String) (query : TableQuery) (split : FilterSplit)
    (columns rows : Option SetExpr) (set : SetExpr) :
    (tableStatement cube query split columns rows (some set)).countedSet? =
      some (withData query.measures set) := by
  generalize hbroken : tableColumns (Statement.ofCube cube) query columns = broken
  generalize harranged : arrangedAxes broken.1 query broken.2 rows = arranged
  -- Columns and rows define sets only.
  have hcolumns : broken.1.countedSet? = none := by
    rw [← hbroken]
    unfold tableColumns
    cases columns with
    | none => cases query.measures <;> rfl
    | some columns => cases query.measures <;> rfl
  have hnone : arranged.1.countedSet? = none := by
    rw [← harranged]
    cases rows with
    | none => exact hcolumns
    | some rows => exact (Statement.countedSet?_defineSet _ _ _).trans hcolumns
  have hdefinitions : (tableStatement cube query split columns rows (some set)).countedSet? =
      (defineTotalCount arranged.1 (withData query.measures set)).countedSet? := by
    rw [← harranged, ← hbroken]
    rfl
  rw [hdefinitions, countedSet?_defineTotalCount, hnone]
  rfl

/-- No filter on an attribute of the table asks for a count of that attribute alone. -/
def CountsWholeTable (query : TableQuery) : Prop :=
  ∀ filter ∈ query.options.filters, filter.includeTotalCount = true →
    filter.level ∉ query.columns ∧ filter.level ∉ query.rows

theorem countedLevels_eq_nil_of_table {query : TableQuery} {split : FilterSplit}
    (h : splitTable? query = .ok split) (hwhole : CountsWholeTable query) :
    split.countedLevels = [] := by
  obtain ⟨-, -, -, -, hfilters⟩ := (splitTable?_decides query).1.1 ⟨split, h⟩
  rw [eq_between_of_splitTable? h]
  apply countedLevels_between_eq_nil hfilters
  intro filter hfilter hflag hqueried
  obtain ⟨hcolumn, hrow⟩ := hwhole filter hfilter hflag
  rcases List.mem_append.1 hqueried with hmem | hmem
  · exact hcolumn hmem
  · exact hrow hmem

/-- Without counted levels the row attributes are counted. -/
theorem levelsSet?_of_requestedTableCount? {query : TableQuery} {split : FilterSplit}
    {counted : Option SetExpr} (hne : query.rows ≠ [])
    (hcount : query.options.requestsTotalCount = true) (hnil : split.countedLevels = [])
    (h : requestedTableCount? split query = .ok counted) :
    ∃ set, counted = some set ∧ split.levelsSet? query.rows = .ok set := by
  have hgrain : tableGrain query = query.rows := by
    rw [tableGrain, List.isEmpty_eq_false_iff.2 hne]
    rfl
  rw [requestedTableCount?, hcount, if_pos rfl] at h
  obtain ⟨set, rfl, hset⟩ := eq_ok_of_some_map_eq_ok h
  refine ⟨set, rfl, ?_⟩
  rw [tableCountSet?, countSet?_of_eq_nil hnil, hgrain, List.isEmpty_eq_false_iff.2 hne] at hset
  exact hset

variable {α : Type} (server : DataServer α)

/-! ## Defined sets -/

section Defined

variable (cube : String) (query : TableQuery) (split : FilterSplit)
  (columns counted : Option SetExpr)

/-- The measures of a table are defined first. -/
theorem tuples_measures_tableColumns {first : Level} {rest : List Level}
    (h : query.measures = first :: rest) :
    (server.reading (tableColumns (Statement.ofCube cube) query columns).1.definitions).tuples
        (setNamed .measures) =
      (server.reading []).tuples (.measures first rest) := by
  have hself := server.tuples_defineSet_self (Statement.ofCube cube) .measures
    (.measures first rest)
  unfold tableColumns
  rw [h]
  cases columns with
  | none => exact hself
  | some set =>
    have hne : NamedSet.measures ≠ NamedSet.columns := by decide
    exact (server.tuples_defineSet_of_ne _ hne _).trans hself

theorem tuples_countedColumns (statement : Statement) (columns : SetExpr) (name : NamedSet) :
    (server.reading (countedColumns statement query columns counted).1.definitions).tuples
        (setNamed name) =
      (server.reading statement.definitions).tuples (setNamed name) := by
  cases counted with
  | none => rfl
  | some set => exact server.tuples_defineMember statement .totalCount _ _ name

/-- The sets of a table are those that it defines before its row count. -/
theorem tuples_tableStatement (rows : SetExpr) (name : NamedSet) :
    (server.reading (tableStatement cube query split columns (some rows)
        counted).definitions).tuples (setNamed name) =
      (server.reading ((tableColumns (Statement.ofCube cube) query columns).1.defineSet
        NamedSet.rows.text rows).definitions).tuples (setNamed name) :=
  tuples_countedColumns server query counted
    (((tableColumns (Statement.ofCube cube) query columns).1.defineSet NamedSet.rows.text
      rows).onRows (setNamed .rows)) _ name

theorem tuples_measures_tableStatement (rows : SetExpr) {first : Level} {rest : List Level}
    (h : query.measures = first :: rest) :
    (server.reading (tableStatement cube query split columns (some rows)
        counted).definitions).tuples (setNamed .measures) =
      (server.reading []).tuples (.measures first rest) := by
  have hne : NamedSet.measures ≠ NamedSet.rows := by decide
  rw [tuples_tableStatement, ← tuples_measures_tableColumns server cube query columns h]
  exact server.tuples_defineSet_of_ne _ hne rows

/-- The rows of a table are read behind its columns. -/
theorem tuples_rows_tableStatement (rows : SetExpr) :
    (server.reading (tableStatement cube query split columns (some rows)
        counted).definitions).tuples (setNamed .rows) =
      (server.reading (tableColumns (Statement.ofCube cube) query columns).1.definitions).tuples
        rows := by
  rw [tuples_tableStatement]
  exact server.tuples_defineSet_self _ .rows rows

end Defined

/-! ## Data -/

/-- A tuple has data for some of the measures, if there are any. -/
def hasDataFor (measures : List Level) (tuple : Tuple α) : Bool :=
  match measures with
  | [] => true
  | first :: rest => ((server.reading []).tuples (.measures first rest)).any (server.hasData tuple)

/-- Behind definitions the set of measures is that of the given ones, if there are any. -/
def DefinesMeasures (definitions : List Definition) (measures : List Level) : Prop :=
  ∀ first rest, measures = first :: rest →
    (server.reading definitions).tuples (setNamed .measures) =
      (server.reading []).tuples (.measures first rest)

/-- Sets are kept by data for the measures that are defined. -/
theorem tuples_withData {definitions : List Definition} {measures : List Level}
    (h : DefinesMeasures server definitions measures) (set : SetExpr) :
    (server.reading definitions).tuples (withData measures set) =
      ((server.reading definitions).tuples set).filter (hasDataFor server measures) := by
  cases measures with
  | nil =>
    -- Without measures the set is left as it is, and every tuple counts as having data.
    change (server.reading definitions).tuples set = List.filter (fun _ => true) _
    rw [List.filter_true]
  | cons first rest =>
    change (server.reading definitions).tuples (.nonEmpty set (some (setNamed .measures))) = _
    rw [server.tuples_nonEmpty, h first rest rfl]
    rfl

section Completions

/-- The tuples of levels do not depend on what is defined. -/
theorem span_reading (split : FilterSplit) (levels : List Level)
    (definitions others : List Definition) :
    span (server.reading definitions) split levels =
      span (server.reading others) split levels := by
  rw [span, span]
  congr 2
  funext level
  exact (server.tuples_all _ level _).trans (server.tuples_all _ level _).symm

variable (definitions : List Definition)

theorem mem_span_cons_iff {split : FilterSplit} {level : Level} {includeAll : Bool}
    (h : split.levelSet level = level.all includeAll) (rest : List Level) (tuple : Tuple α) :
    tuple ∈ span (server.reading definitions) split (level :: rest) ↔
      ∃ member ∈ server.members level includeAll,
        ∃ other ∈ span (server.reading definitions) split rest,
          (level, member) :: other = tuple := by
  rw [span, List.map_cons, Mdx.products, h, server.tuples_all, Mdx.mem_crossed_iff]
  constructor
  · rintro ⟨_, hfirst, other, hother, rfl⟩
    obtain ⟨member, hmember, rfl⟩ := List.mem_map.1 hfirst
    exact ⟨member, hmember, other, hother, rfl⟩
  · rintro ⟨member, hmember, other, hother, rfl⟩
    exact ⟨[(level, member)], List.mem_map_of_mem hmember, other, hother, rfl⟩

/-- A tuple has data exactly if some completion of it by a tuple of further levels has. -/
theorem hasData_iff_span (split : FilterSplit) {levels : List Level} (hdistinct : levels.Nodup)
    (hmeasures : ∀ level ∈ levels, ¬ level.IsMeasure) {before after : Tuple α}
    (hnew : ∀ level ∈ levels, level ∉ (before ++ after).map Prod.fst) (measure : Tuple α) :
    server.hasData (before ++ after) measure = true ↔
      ∃ other ∈ span (server.reading definitions) split levels,
        server.hasData (before ++ (other ++ after)) measure = true := by
  -- By induction on the levels: each completes what comes before by one of its members.
  induction levels generalizing before with
  | nil => simp [span, Mdx.products]
  | cons level rest ih =>
    rw [List.nodup_cons] at hdistinct
    rw [List.forall_mem_cons] at hmeasures hnew
    obtain ⟨includeAll, hall⟩ : ∃ includeAll, split.levelSet level = level.all includeAll :=
      ⟨_, rfl⟩
    have hrest : ∀ member, server.hasData (before ++ (level, member) :: after) measure = true ↔
        ∃ other ∈ span (server.reading definitions) split rest,
          server.hasData (before ++ ((level, member) :: other ++ after)) measure = true := by
      intro member
      have hnew' : ∀ other ∈ rest,
          other ∉ ((before ++ [(level, member)]) ++ after).map Prod.fst := by
        intro other hother
        have hne : other ≠ level := by
          rintro rfl
          exact hdistinct.1 hother
        have hold := hnew.2 other hother
        simp only [List.map_append, List.mem_append, not_or, List.map_cons, List.map_nil,
          List.mem_singleton] at hold ⊢
        exact ⟨⟨hold.1, hne⟩, hold.2⟩
      simpa using ih hdistinct.2 hmeasures.2 hnew'
    rw [server.hasData_iff_completion before after measure level includeAll
      ((Level.isMeasure_eq_false_iff level).2 hmeasures.1) hnew.1]
    constructor
    · rintro ⟨member, hmember, hdata⟩
      obtain ⟨other, hother, hboth⟩ := (hrest member).1 hdata
      have hwhole := (mem_span_cons_iff server definitions hall rest _).2
        ⟨member, hmember, other, hother, rfl⟩
      exact ⟨(level, member) :: other, hwhole, hboth⟩
    · rintro ⟨_, hwhole, hboth⟩
      obtain ⟨member, hmember, other, hother, rfl⟩ :=
        (mem_span_cons_iff server definitions hall rest _).1 hwhole
      exact ⟨member, hmember, (hrest member).2 ⟨other, hother, hboth⟩⟩

/-- The same for data for some of the measures, if further levels have members. -/
theorem hasDataFor_iff_span (split : FilterSplit) {measures levels : List Level}
    (hdistinct : levels.Nodup) (hmeasures : ∀ level ∈ levels, ¬ level.IsMeasure)
    (hmembers : measures = [] → span (server.reading definitions) split levels ≠ [])
    {before after : Tuple α}
    (hnew : ∀ level ∈ levels, level ∉ (before ++ after).map Prod.fst) :
    hasDataFor server measures (before ++ after) = true ↔
      ∃ other ∈ span (server.reading definitions) split levels,
        hasDataFor server measures (before ++ (other ++ after)) = true := by
  cases measures with
  | nil =>
    obtain ⟨other, hother⟩ := List.exists_mem_of_ne_nil _ (hmembers rfl)
    exact iff_of_true rfl ⟨other, hother, rfl⟩
  | cons first rest =>
    simp only [hasDataFor, List.any_eq_true]
    constructor
    · rintro ⟨measure, hmeasure, hdata⟩
      obtain ⟨other, hother, hboth⟩ :=
        (hasData_iff_span server definitions split hdistinct hmeasures hnew measure).1 hdata
      exact ⟨other, hother, measure, hmeasure, hboth⟩
    · rintro ⟨other, hother, measure, hmeasure, hboth⟩
      have hdata := (hasData_iff_span server definitions split hdistinct hmeasures hnew measure).2
        ⟨other, hother, hboth⟩
      exact ⟨measure, hmeasure, hdata⟩

/-- Keeping tuples by their data keeps what the attributes need. -/
theorem keepsAttributes_hasDataFor (split : FilterSplit) {attributes needed measures : List Level}
    (hdistinct : attributes.Nodup) (hlevels : ∀ level ∈ attributes, ¬ level.IsMeasure)
    (hneeded : needed.Nodup)
    (hforeign : measures = [] → ∀ level ∈ foreignTo attributes needed,
      (server.reading definitions).tuples (split.levelSet level) ≠ []) :
    KeepsAttributes (server.reading definitions) split attributes needed
      (hasDataFor server measures) := by
  refine ⟨?_, ?_⟩
  · rintro outer grain rfl tuple htuple other hother hdata
    cases measures with
    | nil => rfl
    | cons first rest =>
      -- The outer part completes the inner one, none of whose levels it has.
      obtain ⟨houter, -, hdisjoint⟩ := List.nodup_append.1 hdistinct
      have hnew : ∀ level ∈ outer, level ∉ (([] : Tuple α) ++ other).map Prod.fst := by
        intro level hlevel hmem
        rw [List.nil_append, rangeOver_span _ split grain other hother] at hmem
        exact hdisjoint level hlevel level hmem rfl
      have houterLevels : ∀ level ∈ outer, ¬ level.IsMeasure := by
        intro level hlevel
        exact hlevels level (List.mem_append_left _ hlevel)
      have hmembers : first :: rest = [] →
          span (server.reading definitions) split outer ≠ [] := nofun
      exact (hasDataFor_iff_span server definitions split houter houterLevels hmembers hnew).2
        ⟨tuple, htuple, hdata⟩
  · intro tuple htuple
    have hnew : ∀ level ∈ foreignTo attributes needed,
        level ∉ (tuple ++ ([] : Tuple α)).map Prod.fst := by
      intro level hlevel
      rw [List.append_nil, rangeOver_span _ split attributes tuple htuple]
      exact (mem_foreignTo_iff.1 hlevel).2.2
    have hforeignLevels : ∀ level ∈ foreignTo attributes needed, ¬ level.IsMeasure := by
      intro level hlevel
      exact (mem_foreignTo_iff.1 hlevel).2.1
    have hnodup : (foreignTo attributes needed).Nodup := (hneeded.filter _).filter _
    have hmembers : measures = [] →
        span (server.reading definitions) split (foreignTo attributes needed) ≠ [] := by
      intro hnil
      exact span_ne_nil _ split (hforeign hnil)
    simpa using hasDataFor_iff_span server definitions split hnodup hforeignLevels hmembers hnew

end Completions

/-! ## Rows -/

/-- The tuples of a sorted axis without a page, whose grain is kept by data. -/
theorem tuples_of_sortedSet? {definitions : List Definition} {split : FilterSplit}
    {attributes measures : List Level} {options : Options} {set : SetExpr}
    (hne : attributes ≠ []) (hskip : options.skip = none) (htop : options.top = none)
    (hdefined : DefinesMeasures server definitions measures)
    (h : split.sortedSet? attributes options (withData measures) = .ok set) :
    ∃ grain sorted, IsGrainFor attributes (split.neededLevels options) grain ∧
      ((server.reading definitions).tuples sorted).Perm
        ((span (server.reading definitions) split grain.sorted).filter
          (hasDataFor server measures)) ∧
      (server.reading definitions).tuples set =
        Mdx.crossed (span (server.reading definitions) split grain.outer)
          ((server.reading definitions).tuples (grain.projected sorted)) := by
  obtain ⟨base, set', hbase, hproduct, hset'⟩ :=
    sortedSet?_eq_ok split hne options (withData measures)
  cases h.symm.trans hset'
  refine ⟨Grain.plan attributes (split.neededLevels options),
    options.arrange (withData measures base), isGrainFor_plan hne _, ?_, ?_⟩
  · rw [arrange_of_unpaged hskip htop, ← tuples_of_levelsSet? _ split hbase,
      ← tuples_withData server hdefined]
    exact Reading.tuples_sort_perm _ options _
  · rw [Reading.tuples_of_product? _ hproduct, List.map_append, Mdx.products_append,
      List.map_map, List.map_singleton, Mdx.products_singleton]
    rfl

/-- Sort levels take in attributes as a whole: there is nothing to sort by or one attribute only, or
the outermost attribute or a level outside the attributes is sorted by. -/
def SortsWhole (attributes sortLevels : List Level) : Prop :=
  sortLevels = [] ∨ attributes.length = 1 ∨
    (∃ level ∈ sortLevels, attributes.head? = some level) ∨
    ∃ level ∈ sortLevels, ¬ level.IsMeasure ∧ level ∉ attributes

theorem outer_eq_nil_of_sortsWhole {attributes needed : List Level} {grain : Grain}
    (hgrain : IsGrainFor attributes needed grain) (hdistinct : attributes.Nodup)
    (hlevels : ∀ level ∈ attributes, ¬ level.IsMeasure) (h : SortsWhole attributes needed) :
    grain.outer = [] := by
  cases hgrain with
  | unsorted _ => rfl
  | widened _ => rfl
  | @byMeasures outer last hne hall happend =>
    -- Measures alone take in the innermost attribute, which must then be the only one.
    have hmeasures : ∀ level ∈ needed, level.IsMeasure := by
      intro level hlevel
      exact (Level.isMeasure_iff level).1 (hall level hlevel)
    rcases h with hnil | hone | ⟨level, hlevel, hhead⟩ | ⟨level, hlevel, hforeign, -⟩
    · exact absurd hnil hne
    · rw [← happend, List.length_append, List.length_singleton] at hone
      have hlength : outer.length = 0 := by omega
      exact List.length_eq_zero_iff.1 hlength
    · exact absurd (hmeasures level hlevel) (hlevels level (List.mem_of_mem_head? hhead))
    · exact absurd (hmeasures level hlevel) hforeign
  | @covered outer inner hne hall happend hshortest =>
    -- The grain is not empty and contains what is sorted by, the outermost attribute perhaps.
    have hinner : ∀ level ∈ needed, ¬ level.IsMeasure → level ∈ inner := by
      intro level hlevel hmeasure
      apply hshortest.contains
      rw [nonMeasures, List.mem_filter, (Level.isMeasure_eq_false_iff level).2 hmeasure]
      exact ⟨hlevel, rfl⟩
    obtain ⟨level, hlevel⟩ := List.exists_mem_of_ne_nil _ hne
    have hsome := hshortest.contains level hlevel
    rcases h with hnil | hone | ⟨head, hhead, hfirst⟩ | ⟨other, hother, hforeign, hnot⟩
    · rw [hnil] at hlevel
      cases hlevel
    · have hpositive := List.length_pos_of_mem hsome
      rw [← happend, List.length_append] at hone
      have hlength : outer.length = 0 := by omega
      exact List.length_eq_zero_iff.1 hlength
    · -- In that case it is not outside the grain as well.
      cases outer with
      | nil => rfl
      | cons first rest =>
        rw [← happend, List.cons_append, List.head?_cons, Option.some.injEq] at hfirst
        rw [← happend, List.nodup_append] at hdistinct
        subst hfirst
        have hmeasure := hlevels first (happend ▸ List.mem_cons_self)
        have hgrain := hinner first hhead hmeasure
        exact absurd rfl (hdistinct.2.2 first List.mem_cons_self first hgrain)
    · exact absurd (happend ▸ List.mem_append_right _ (hinner other hother hforeign)) hnot

/-- Without measures, a query sorts its rows by levels with members only. -/
def SortsByMembers (server : DataServer α) (query : TableQuery) : Prop :=
  query.measures = [] → ∀ level ∈ query.options.sortLevels, ¬ level.IsMeasure →
    level ∉ query.rows →
    server.members level (filterOn level query.options.filters).includeAll ≠ []

/-- The rows of a table without a page, kept by data, are the tuples of its row attributes kept by
data; the rows are these tuples themselves if sorting takes in the row attributes as a whole. -/
theorem unpaged_rows_perm {definitions : List Definition} {query : TableQuery}
    {split : FilterSplit} {rows : SetExpr} (hsplit : splitTable? query = .ok split)
    (hne : query.rows ≠ []) (hnil : split.countedLevels = [])
    (hforeign : SortsByMembers server query)
    (hskip : query.options.skip = none) (htop : query.options.top = none)
    (hdefined : DefinesMeasures server definitions query.measures)
    (h : split.sortedSet? query.rows query.options (withData query.measures) = .ok rows) :
    (((server.reading definitions).tuples rows).filter
        (hasDataFor server query.measures)).Perm
      ((span (server.reading definitions) split query.rows).filter
        (hasDataFor server query.measures)) ∧
    (SortsWhole query.rows query.options.sortLevels →
      ((server.reading definitions).tuples rows).Perm
        ((span (server.reading definitions) split query.rows).filter
          (hasDataFor server query.measures))) := by
  obtain ⟨-, hattributes, -, -, -⟩ := (splitTable?_decides query).1.1 ⟨split, hsplit⟩
  have hbetween := eq_between_of_splitTable? hsplit
  have hmembers : ∀ level ∈ query.rows,
      ((server.reading definitions).tuples (split.levelSet level)).Nodup := by
    intro level _
    exact nodup_tuples_levelSet hbetween definitions (server.nodup_members level _)
  -- Without counted levels sorting needs the levels that are sorted by.
  have hneeded : ∀ level, level ∈ split.neededLevels query.options ↔
      level ∈ query.options.sortLevels := by
    intro level
    rw [FilterSplit.neededLevels, hnil, List.append_nil, List.mem_eraseDups]
  have hkeeps : KeepsAttributes (server.reading definitions) split query.rows
      (split.neededLevels query.options)
      (hasDataFor server query.measures) := by
    refine keepsAttributes_hasDataFor server definitions split hattributes.distinct
      hattributes.ofKind (Mdx.nodup_eraseDups _) ?_
    intro hmeasures level hlevel
    obtain ⟨hlevel, hmeasure, hnot⟩ := mem_foreignTo_iff.1 hlevel
    rw [tuples_levelSet server.toServer hbetween, Ne, List.map_eq_nil_iff]
    exact hforeign hmeasures level ((hneeded level).1 hlevel) hmeasure hnot
  obtain ⟨grain, sorted, hgrain, hsorted, hrows⟩ :=
    tuples_of_sortedSet? server hne hskip htop hdefined h
  rw [hrows]
  refine ⟨grain_filter_perm hgrain hne hattributes.distinct hmembers hkeeps hsorted, ?_⟩
  intro hwhole
  have houter : grain.outer = [] := by
    apply outer_eq_nil_of_sortsWhole hgrain hattributes.distinct hattributes.ofKind
    have hsame : split.neededLevels query.options = [] ↔
        query.options.sortLevels = [] := by
      simp only [List.eq_nil_iff_forall_not_mem, hneeded]
    simpa only [SortsWhole, hsame, hneeded] using hwhole
  rw [houter, span, List.map_nil, Mdx.products, Mdx.crossed_nil_left]
  exact perm_of_outer_eq_nil hgrain hne hattributes.distinct hmembers hkeeps hsorted houter

/-- The row count of a table is the number of tuples of its row attributes with data. -/
theorem total?_tableStatement (cube : String) {query : TableQuery} {split : FilterSplit}
    {set : SetExpr} (h : split.levelsSet? query.rows = .ok set) (columns : Option SetExpr)
    (rows : SetExpr) (definitions : List Definition) :
    server.total? (tableStatement cube query split columns (some rows) (some set)) =
      some ((span (server.reading definitions) split query.rows).filter
        (hasDataFor server query.measures)).length := by
  have hdefined : DefinesMeasures server (tableStatement cube query split columns (some rows)
      (some set)).definitions query.measures := by
    intro first rest hmeasures
    exact tuples_measures_tableStatement server cube query split columns (some set) rows hmeasures
  rw [Server.total?, countedSet?_tableStatement, Option.map_some, tuples_withData server hdefined,
    tuples_of_levelsSet? _ split h, span_reading server split query.rows _ definitions]

/-- **The row count of a table query is the number of its rows with data.** The rows are those
without a page, in whatever order. All of them have data if sorting takes in the row attributes as a
whole. Without measures there is no data to look at, but then levels that are only sorted by must
have members for there to be any rows. -/
theorem total_counts_rows_with_data {cube : String} {query : TableQuery} {text : String}
    (h : tableText? cube query = .ok text) (hrows : query.rows ≠ [])
    (hcount : query.options.requestsTotalCount = true) (hwhole : CountsWholeTable query) :
    ∃ statement total, tableStatement? cube query = .ok statement ∧ statement.text? = .ok text ∧
      server.total? statement = some total ∧
      ∀ orderBy, SortsByMembers server (query.allRowsBy orderBy) →
        ∃ unpaged rows, tableStatement? cube (query.allRowsBy orderBy) = .ok unpaged ∧
          server.rows? unpaged = some rows ∧
          total = (rows.filter (hasDataFor server query.measures)).length ∧
          (SortsWhole query.rows (query.allRowsBy orderBy).options.sortLevels →
            total = rows.length) := by
  obtain ⟨statement, hstatement, htext⟩ := steps_of_bind_eq_ok h
  obtain ⟨split, columns, page, counted, hsplit, hcolumn, hcolumns, hpage, hcounted, rfl⟩ :=
    steps_of_tableStatement? hstatement
  have hnil := countedLevels_eq_nil_of_table hsplit hwhole
  obtain ⟨set, rfl, hset⟩ := levelsSet?_of_requestedTableCount? hrows hcount hnil hcounted
  obtain ⟨pageRows, rfl, -⟩ := sortedSet?_of_rowSet? hrows hpage
  have htotal := total?_tableStatement server cube hset columns pageRows
    (tableColumns (Statement.ofCube cube) query columns).1.definitions
  refine ⟨_, _, hstatement, htext, htotal, ?_⟩
  intro orderBy hforeign
  -- The checks, the columns and the count are the same in every order, and so is the split.
  have hsplit' : splitTable? (query.allRowsBy orderBy) = .ok split := hsplit
  have hrows' : (query.allRowsBy orderBy).rows ≠ [] := hrows
  obtain ⟨unpaged, hunpaged⟩ := rowSet?_isOk split (query.allRowsBy orderBy)
  have hstatement' := tableStatement?_allRowsBy hsplit hcolumn hcolumns hunpaged hcounted cube
  obtain ⟨rows, rfl, hsorted⟩ := sortedSet?_of_rowSet? hrows' hunpaged
  have hdefined : DefinesMeasures server
      (tableColumns (Statement.ofCube cube) query columns).1.definitions query.measures := by
    intro first rest hmeasures
    exact tuples_measures_tableColumns server cube query columns hmeasures
  obtain ⟨hkept, hall⟩ :=
    unpaged_rows_perm server hsplit' hrows' hnil hforeign rfl rfl hdefined hsorted
  have hread := tuples_rows_tableStatement server cube (query.allRowsBy orderBy) split columns
    (some set) rows
  refine ⟨_, _, hstatement', congrArg some hread, hkept.symm.length_eq, ?_⟩
  intro hsorts
  exact (hall hsorts).symm.length_eq

/-- A sale of a product in a city, in the only year. -/
private def productSale (city product : String) : Fact :=
  .ofTuple [(⟨"[Geo].[City]"⟩, city), (⟨"[Product].[Name]"⟩, product), (⟨"[Date].[Year]"⟩, "1"),
    (⟨"[Measures]"⟩, "[Measures].[Sales]")]

/-- Two cities that sell one product each. -/
private def productSales : Facts :=
  ⟨[productSale "a" "x", productSale "b" "y"], fun _ => []⟩

/-- Sales by city and product in a given order, with their count. -/
private def salesByProduct (orderBy : List SortKey) : TableQuery :=
  ⟨[], [⟨"[Measures].[Sales]"⟩], [⟨"[Geo].[City]"⟩, ⟨"[Product].[Name]"⟩],
    ⟨[], orderBy, some 1, some 1, true⟩⟩

/-- The order by sales and by year. -/
private def bySalesAndYear : List SortKey :=
  [.descending ⟨"[Measures].[Sales]"⟩, .ofLevel ⟨"[Date].[Year]"⟩]

/-- Sorted by year, the rows are those with data. -/
theorem total_counts_sales_by_year :
    ∃ text, tableText? "Sales" (salesByProduct bySalesAndYear) = .ok text ∧
      (salesByProduct bySalesAndYear).rows ≠ [] ∧
      (salesByProduct bySalesAndYear).options.requestsTotalCount = true ∧
      CountsWholeTable (salesByProduct bySalesAndYear) ∧
      SortsByMembers productSales.dataServer
        ((salesByProduct bySalesAndYear).allRowsBy bySalesAndYear) ∧
      SortsWhole (salesByProduct bySalesAndYear).rows
        ((salesByProduct bySalesAndYear).allRowsBy bySalesAndYear).options.sortLevels ∧
      ∃ statement unpaged rows,
        tableStatement? "Sales" (salesByProduct bySalesAndYear) = .ok statement ∧
        statement.text? = .ok text ∧ productSales.server.total? statement = some 2 ∧
        tableStatement? "Sales" ((salesByProduct bySalesAndYear).allRowsBy bySalesAndYear) =
          .ok unpaged ∧
        productSales.server.rows? unpaged = some rows ∧
        2 = (rows.filter (hasDataFor productSales.dataServer
          (salesByProduct bySalesAndYear).measures)).length ∧
        2 = rows.length := by
  have hsorts : SortsWhole (salesByProduct bySalesAndYear).rows
      ((salesByProduct bySalesAndYear).allRowsBy bySalesAndYear).options.sortLevels := by
    refine .inr (.inr (.inr ⟨⟨"[Date].[Year]"⟩, ?_, ?_, ?_⟩))
    · decide
    · rw [← Level.isMeasure_iff]
      decide
    · decide
  have hmembers : SortsByMembers productSales.dataServer
      ((salesByProduct bySalesAndYear).allRowsBy bySalesAndYear) := nofun
  obtain ⟨text, htext⟩ : ∃ text,
      tableText? "Sales" (salesByProduct bySalesAndYear) = .ok text := ⟨_, rfl⟩
  obtain ⟨statement, total, hstatement, hcompiled, htotal, horder⟩ :=
    total_counts_rows_with_data productSales.dataServer htext nofun rfl nofun
  obtain ⟨unpaged, rows, hunpaged, hrows, hkept, hall⟩ := horder bySalesAndYear hmembers
  have htwo : total = 2 := by
    cases hstatement
    exact (Option.some.inj htotal).symm
  subst htwo
  exact ⟨text, htext, nofun, rfl, nofun, hmembers, hsorts, statement, unpaged, rows, hstatement,
    hcompiled, htotal, hunpaged, hrows, hkept, hall hsorts⟩

/-- Two cities in two stores, and nothing else. -/
private def unsoldCities : Facts where
  facts := []
  idle
    | ⟨"[Geo].[City]"⟩ => ["a", "b"]
    | ⟨"[Store].[Name]"⟩ => ["s", "t"]
    | _ => []

/-- Cities by stores without measures, in the order of years, with their count. -/
private def citiesByYear : TableQuery :=
  ⟨[⟨"[Store].[Name]"⟩], [], [⟨"[Geo].[City]"⟩],
    ⟨[], [.ofLevel ⟨"[Date].[Year]"⟩], none, none, true⟩⟩

/-- Sorted by product, a table has rows for every city and each product that is sold anywhere, of
which those without data are not counted. Without years nothing is left of cities that are sorted by
year, which are counted all the same. -/
theorem uncounted_rows_by_product :
    (∃ statement unpaged rows, (salesByProduct [.ofLevel ⟨"[Product].[Name]"⟩]).rows ≠ [] ∧
      (salesByProduct [.ofLevel ⟨"[Product].[Name]"⟩]).options.requestsTotalCount = true ∧
      (salesByProduct [.ofLevel ⟨"[Product].[Name]"⟩]).options.filters = [] ∧
      tableStatement? "Sales" (salesByProduct [.ofLevel ⟨"[Product].[Name]"⟩]) = .ok statement ∧
      tableStatement? "Sales" ((salesByProduct [.ofLevel ⟨"[Product].[Name]"⟩]).allRowsBy
        [.ofLevel ⟨"[Product].[Name]"⟩]) = .ok unpaged ∧
      productSales.dataServer.total? statement = some 2 ∧
      productSales.dataServer.rows? unpaged = some rows ∧ rows.length = 4) ∧
    ∃ statement unpaged, citiesByYear.rows ≠ [] ∧
      citiesByYear.options.requestsTotalCount = true ∧ citiesByYear.options.filters = [] ∧
      tableStatement? "Sales" citiesByYear = .ok statement ∧
      tableStatement? "Sales" (citiesByYear.allRowsBy [.ofLevel ⟨"[Date].[Year]"⟩]) =
        .ok unpaged ∧
      unsoldCities.dataServer.total? statement = some 2 ∧
      unsoldCities.dataServer.rows? unpaged = some [] :=
  ⟨⟨_, _, _, nofun, rfl, rfl, rfl, rfl, rfl, rfl, rfl⟩, _, _, nofun, rfl, rfl, rfl, rfl, rfl, rfl⟩

end CubeQuery.Plan
