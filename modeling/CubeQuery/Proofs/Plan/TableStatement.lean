import CubeQuery.Plan.Table
import CubeQuery.Proofs.Plan.Assignment
import CubeQuery.Proofs.Plan.SortGrain

set_option autoImplicit false

/-!
# What a table query is compiled to

The steps that make the statement of a table query, each with what it comes to. Beside the checks of
the query only two things can stop them: that there is nothing for columns, and that a count is
asked for where there is nothing to count.

Main statement: the statement of a query is `tableStatement`, made from the split of its filters and
the sets of its columns, rows and counted levels (`tableStatement?_eq`).
-/

namespace CubeQuery.Plan

open Mdx (Level SetExpr Statement NamedSet)
open Request (Options TableQuery)

/-! ## Checks -/

/-- What the checks of a table query let through. -/
theorem splitTable?_decides (query : TableQuery) :
    Decides (Mdx.IsAttributeList query.columns ∧ Mdx.IsAttributeList query.rows ∧
        (∀ level ∈ query.columns, level ∉ query.rows) ∧ Mdx.IsMeasureList query.measures ∧
        (query.options.filters.map (·.level)).Nodup)
      (splitTable? query) := by
  rw [splitTable?]
  refine Decides.congr (Decides.bind (Mdx.checkAttributes_decides _) fun _ _ _ =>
    Decides.bind (Mdx.checkMeasures_decides _) fun _ _ _ =>
    Decides.bind (Mdx.checkAttributes_decides _) fun _ _ _ =>
    Decides.bind (checkReservedNames_decides _ _) fun _ _ _ =>
    Decides.bind (checkReservedNames_decides _ _) fun _ _ _ => ofOptions_decides _ _) ?_
  simp only [Mdx.IsAttributeList, Mdx.IsMeasureList, Mdx.isLevelList_iff, List.nodup_append]
  constructor
  · rintro ⟨hcolumns, hmeasures, hrows, ⟨hcolumn, hmeasure⟩, ⟨hrow, -⟩, hfilters, -, -, hdisjoint⟩
    refine ⟨⟨hcolumns, hcolumn⟩, ⟨hrows, hrow⟩, ?_, ⟨hmeasures, hmeasure⟩, hfilters⟩
    intro level hlevel hmem
    exact hdisjoint level hlevel level hmem rfl
  · rintro ⟨⟨hcolumns, hcolumn⟩, ⟨hrows, hrow⟩, hdisjoint, ⟨hmeasures, hmeasure⟩, hfilters⟩
    refine ⟨hcolumns, hmeasures, hrows, ⟨hcolumn, hmeasure⟩, ⟨hrow, nofun⟩, hfilters, hcolumns.2,
      hrows.2, ?_⟩
    rintro level hlevel _ hmem rfl
    exact hdisjoint level hlevel hmem

/-- The split that the checks of a table query end with. -/
theorem eq_between_of_splitTable? {query : TableQuery} {split : FilterSplit}
    (h : splitTable? query = .ok split) :
    split = FilterSplit.between (query.columns ++ query.rows) query.options.filters := by
  -- Columns, measures, rows and twice the reserved names are checked first.
  obtain ⟨-, -, h⟩ := steps_of_bind_eq_ok h
  obtain ⟨-, -, h⟩ := steps_of_bind_eq_ok h
  obtain ⟨-, -, h⟩ := steps_of_bind_eq_ok h
  obtain ⟨-, -, h⟩ := steps_of_bind_eq_ok h
  obtain ⟨-, -, h⟩ := steps_of_bind_eq_ok h
  exact eq_between_of_ofOptions h

/-! ## Columns -/

/-- The cross join of column attributes, if there are any. -/
def columnSet? (split : FilterSplit) (query : TableQuery) : Except Error (Option SetExpr) :=
  if query.columns.isEmpty then .ok none else some <$> split.levelsSet? query.columns

/-- The columns and definitions that `tableColumns?` comes to for a set of column attributes. -/
def tableColumns (statement : Statement) (query : TableQuery) (columns : Option SetExpr) :
    Statement × SetExpr :=
  let measured : Statement :=
    match query.measures with
    | [] => statement
    | first :: rest => statement.defineSet NamedSet.measures.text (.measures first rest)
  match columns with
  | none => (measured, setNamed .measures)
  | some set =>
    (measured.defineSet NamedSet.columns.text (withData query.measures set),
      if query.measures.isEmpty then setNamed .columns
      else .crossJoin (setNamed .columns) [setNamed .measures])

/-- Columns exist if there are column attributes or measures. -/
theorem tableColumns?_eq (split : FilterSplit) (statement : Statement) (query : TableQuery) :
    tableColumns? split statement query = (do
      refuseIf (query.columns.isEmpty && query.measures.isEmpty) (.invalidQuery .noColumn)
      (columnSet? split query).map (tableColumns statement query)) := by
  unfold tableColumns? columnSet? tableColumns withData
  cases query.columns.isEmpty with
  | true =>
    cases query.measures with
    | nil => rfl
    | cons first rest => rfl
  | false =>
    -- With column attributes the set may or may not carry measures, but it comes first.
    cases split.levelsSet? query.columns with
    | error e => cases query.measures <;> rfl
    | ok set => cases query.measures <;> rfl

/-! ## Rows -/

/-- The sorted set of row attributes, if there are any. -/
def rowSet? (split : FilterSplit) (query : TableQuery) : Except Error (Option SetExpr) :=
  if query.rows.isEmpty then .ok none
  else some <$> split.sortedSet? query.rows query.options (withData query.measures)

/-- The axes and definitions that `arrangedAxes?` comes to for a set of row attributes. -/
def arrangedAxes (statement : Statement) (query : TableQuery) (columns : SetExpr)
    (rows : Option SetExpr) : Statement × SetExpr :=
  match rows with
  | none => (statement, query.options.arrange columns)
  | some set =>
    ((statement.defineSet NamedSet.rows.text set).onRows (setNamed .rows), columns)

theorem arrangedAxes?_eq (split : FilterSplit) (statement : Statement) (query : TableQuery)
    (columns : SetExpr) :
    arrangedAxes? split statement query columns =
      (rowSet? split query).map (arrangedAxes statement query columns) := by
  rw [arrangedAxes?, rowSet?]
  cases query.rows.isEmpty with
  | true => rfl
  | false =>
    cases split.sortedSet? query.rows query.options (withData query.measures) with
    | error e => rfl
    | ok set => rfl

/-! ## Counts -/

/-- The set that a table query counts, if it asks for a count. -/
def requestedTableCount? (split : FilterSplit) (query : TableQuery) :
    Except Error (Option SetExpr) :=
  if query.options.requestsTotalCount then some <$> tableCountSet? split query else .ok none

/-- The columns and definitions that `countedColumns?` comes to for a counted set. -/
def countedColumns (statement : Statement) (query : TableQuery) (columns : SetExpr)
    (counted : Option SetExpr) : Statement × SetExpr :=
  match counted with
  | none => (statement, columns)
  | some set =>
    (defineTotalCount statement (withData query.measures set),
      .union columns [(Mdx.Member.calculated .totalCount).toSet])

theorem countedColumns?_eq (split : FilterSplit) (statement : Statement) (query : TableQuery)
    (columns : SetExpr) :
    countedColumns? split statement query columns =
      (requestedTableCount? split query).map (countedColumns statement query columns) := by
  rw [countedColumns?, requestedTableCount?]
  cases query.options.requestsTotalCount with
  | false => rfl
  | true =>
    cases tableCountSet? split query with
    | error e => rfl
    | ok set => rfl

/-! ## Statements -/

/-- The statement of a table query, from the sets of its columns, rows and counted levels. -/
def tableStatement (cube : String) (query : TableQuery) (split : FilterSplit)
    (columns rows counted : Option SetExpr) : Statement :=
  let broken := tableColumns (Statement.ofCube cube) query columns
  let arranged := arrangedAxes broken.1 query broken.2 rows
  let counting := countedColumns arranged.1 query arranged.2 counted
  ((counting.1.onColumns counting.2).selectingFrom split.subSelect).slicedBy split.slicer

/-- **What a table query is compiled to.** -/
theorem tableStatement?_eq (cube : String) (query : TableQuery) :
    tableStatement? cube query = (do
      let split ← splitTable? query
      refuseIf (query.columns.isEmpty && query.measures.isEmpty) (.invalidQuery .noColumn)
      let columns ← columnSet? split query
      let rows ← rowSet? split query
      let counted ← requestedTableCount? split query
      .ok (tableStatement cube query split columns rows counted)) := by
  rw [tableStatement?]
  apply bind_congr
  intro split
  simp only [tableColumns?_eq, arrangedAxes?_eq, countedColumns?_eq, FilterSplit.subSelect?_eq_ok,
    FilterSplit.slicer?_eq_ok, bind_assoc]
  apply bind_congr
  intro _
  cases columnSet? split query with
  | error e => rfl
  | ok columns =>
    cases rowSet? split query with
    | error e => rfl
    | ok rows =>
      cases requestedTableCount? split query with
      | error e => rfl
      | ok counted => rfl

/-- The steps behind the statement of a table query. -/
theorem steps_of_tableStatement? {cube : String} {query : TableQuery} {statement : Statement}
    (h : tableStatement? cube query = .ok statement) :
    ∃ split columns rows counted, splitTable? query = .ok split ∧
      (query.columns.isEmpty && query.measures.isEmpty) = false ∧
      columnSet? split query = .ok columns ∧ rowSet? split query = .ok rows ∧
      requestedTableCount? split query = .ok counted ∧
      statement = tableStatement cube query split columns rows counted := by
  rw [tableStatement?_eq] at h
  obtain ⟨split, hsplit, h⟩ := steps_of_bind_eq_ok h
  obtain ⟨_, hcolumn, h⟩ := steps_of_bind_eq_ok h
  obtain ⟨columns, hcolumns, h⟩ := steps_of_bind_eq_ok h
  obtain ⟨rows, hrows, h⟩ := steps_of_bind_eq_ok h
  obtain ⟨counted, hcounted, h⟩ := steps_of_bind_eq_ok h
  cases h
  have hpass := (@refuseIf_decides (.invalidQuery .noColumn) rfl _).1.1 ⟨_, hcolumn⟩
  exact ⟨split, columns, rows, counted, hsplit, hpass, hcolumns, hrows, hcounted, rfl⟩

end CubeQuery.Plan
