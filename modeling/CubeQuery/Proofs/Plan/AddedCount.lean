import CubeQuery.Proofs.Plan.ColumnHierarchies

set_option autoImplicit false

/-!
# Statements with and without a row count

A row count that is asked for in the options, and of no level in particular, is one more definition
and one more column. It is defined behind everything else and joined to the columns after they are
sorted and paged, and neither the split of the filters nor the grain of the rows looks at it.

Main statement: a query that is accepted with a count is accepted without it, and both statements
have the same lines up to the definition of the count and its union with the columns
(`counting_adds_definition_and_column`).
-/

namespace CubeQuery.Request

/-- The query with a count of its rows. -/
def DimensionQuery.counting (query : DimensionQuery) : DimensionQuery :=
  { query with options := query.options.counting }

/-- The query with a count of its rows. -/
def TableQuery.counting (query : TableQuery) : TableQuery :=
  { query with options := query.options.counting }

/-- Neither the options nor one of their filters ask for a count. -/
structure Options.IsUncounted (options : Options) : Prop where
  option : options.includeTotalCount = false
  filters : ∀ filter ∈ options.filters, filter.includeTotalCount = false

theorem Options.requestsTotalCount_eq_false {options : Options} (h : options.IsUncounted) :
    options.requestsTotalCount = false := by
  rw [requestsTotalCount, h.option, Bool.false_or, List.any_eq_false]
  intro filter hfilter
  rw [h.filters filter hfilter]
  exact Bool.false_ne_true

end CubeQuery.Request

namespace CubeQuery.Plan

open Mdx (Level SetExpr Statement NamedSet Definition CalculatedMember)
open Request (Options DimensionQuery TableQuery)

/-! ## Two statements apart by a count -/

/-- The definition of the row count. -/
def countDefinition (counted : SetExpr) : Definition :=
  .member CalculatedMember.totalCount.text (.count counted false) (some "Total Count")

/-- A statement and the one that counts as well: the count is defined last and stands behind the
columns, and nothing else differs. -/
structure AddsCount (plain counting : Statement) : Prop where
  cube : counting.cube = plain.cube
  definitions : ∃ counted,
    counting.definitions = plain.definitions ++ [countDefinition counted]
  columns : ∃ columns, plain.columns = some columns ∧ CountsBehind counting columns
  rows : counting.rows = plain.rows
  subSelect : counting.subSelect = plain.subSelect
  slicer : counting.slicer = plain.slicer

/-- Lines that differ in one further definition, the last one, and in what stands on columns. -/
def LinesAddCount (plain counting : List String) : Prop :=
  ∃ definitions counted columns axes clauses,
    plain = "WITH" :: definitions ++ ("SELECT " ++ columns ++ axes) :: clauses ∧
    counting = "WITH" :: definitions ++
      ("MEMBER [Measures].[_totalCount] AS COUNT(" ++ counted ++ "), CAPTION = 'Total Count'") ::
      ("SELECT UNION(" ++ columns ++ ",[Measures].[_totalCount])" ++ axes) :: clauses

/-- Texts whose lines differ by a count. -/
def TextAddsCount (plain counting : String) : Prop :=
  ∃ plainLines countingLines, LinesAddCount plainLines countingLines ∧
    plain = "\r\n".intercalate plainLines ∧ counting = "\r\n".intercalate countingLines

/-- What stands on the SELECT line behind the columns. -/
def behindColumns (statement : Statement) : String :=
  " " ++ Statement.memberProperties ++ " ON COLUMNS" ++
    match statement.rows with
    | none => ""
    | some rows => ", " ++ rows.text ++ " " ++ Statement.memberProperties ++ " ON ROWS"

theorem selectLine_eq (statement : Statement) (columns : SetExpr) :
    statement.selectLine columns = "SELECT " ++ columns.text ++ behindColumns statement := by
  rw [Statement.selectLine, behindColumns]
  cases statement.rows with
  | none => simp only [String.append_assoc, String.append_empty]
  | some rows => simp only [String.append_assoc]

theorem text_union_countColumn (columns : SetExpr) :
    (SetExpr.union columns [countColumn]).text =
      "UNION(" ++ columns.text ++ ",[Measures].[_totalCount])" := by
  have hcount : countColumn.text = "[Measures].[_totalCount]" := by
    rw [countColumn, Mdx.Member.toSet, SetExpr.text]
    rfl
  have hopen : "UNION(" = "UNION" ++ "(" := rfl
  have hclose : ",[Measures].[_totalCount])" = "," ++ ("[Measures].[_totalCount]" ++ ")") := rfl
  rw [SetExpr.text, Mdx.setTexts, Mdx.setTexts, hcount, Mdx.call, String.intercalate_cons_cons,
    String.intercalate_singleton, hopen, hclose]
  simp only [String.append_assoc]

theorem text_countDefinition (counted : SetExpr) :
    (countDefinition counted).text =
      "MEMBER [Measures].[_totalCount] AS COUNT(" ++ counted.text ++
        "), CAPTION = 'Total Count'" := by
  have hcaption : String.ofList (Mdx.doubleQuotes "Total Count".toList) = "Total Count" := rfl
  have hopen : "MEMBER [Measures].[_totalCount] AS COUNT(" =
      "MEMBER " ++ (CalculatedMember.totalCount.text ++ (" AS " ++ ("COUNT" ++ "("))) := rfl
  have hclose : "), CAPTION = 'Total Count'" =
      ")" ++ (", CAPTION = '" ++ ("Total Count" ++ "'")) := rfl
  rw [countDefinition, Mdx.Definition.text, hcaption, Mdx.Expr.text, if_neg Bool.false_ne_true,
    Mdx.call, String.intercalate_singleton, hopen, hclose]
  simp only [String.append_assoc]

theorem withLines_of_ne_nil {statement : Statement} (h : statement.definitions ≠ []) :
    statement.withLines = "WITH" :: statement.definitions.map Definition.text := by
  rw [Statement.withLines]
  cases hlist : statement.definitions with
  | nil => exact absurd hlist h
  | cons first rest => rfl

/-- A statement with definitions whose lines are told apart by what stands on columns. -/
theorem lines?_of_columns {statement : Statement} {columns : SetExpr}
    (hdefinitions : statement.definitions ≠ []) (hcolumns : statement.columns = some columns) :
    statement.lines? = .ok ("WITH" :: statement.definitions.map Definition.text ++
      ("SELECT " ++ columns.text ++ behindColumns statement) ::
      (statement.fromLine :: (statement.whereLines ++ [Statement.cellProperties]))) := by
  rw [Statement.lines?, hcolumns, withLines_of_ne_nil hdefinitions]
  simp only [selectLine_eq, List.append_assoc, List.cons_append, List.nil_append]

/-- Statements that differ by a count have texts that do. -/
theorem AddsCount.text {plain counting : Statement} (h : AddsCount plain counting)
    (hdefinitions : plain.definitions ≠ []) :
    ∃ first second, plain.text? = .ok first ∧ counting.text? = .ok second ∧
      TextAddsCount first second := by
  obtain ⟨counted, hcounted⟩ := h.definitions
  obtain ⟨columns, hplain, hcounting⟩ := h.columns
  -- Both statements have a WITH clause, so that one more definition is one more line of it.
  have hmore : counting.definitions ≠ [] := by
    rw [hcounted]
    exact List.append_ne_nil_of_left_ne_nil hdefinitions _
  have hbehind : behindColumns counting = behindColumns plain := by
    rw [behindColumns, behindColumns, h.rows]
  have hfrom : counting.fromLine = plain.fromLine := by
    rw [Statement.fromLine, Statement.fromLine, h.subSelect, h.cube]
  have hwhere : counting.whereLines = plain.whereLines := by
    rw [Statement.whereLines, Statement.whereLines, h.slicer]
  have hselect : "SELECT " ++ ("UNION(" ++ columns.text ++ ",[Measures].[_totalCount])") =
      "SELECT UNION(" ++ columns.text ++ ",[Measures].[_totalCount])" := by
    have hopen : "SELECT UNION(" = "SELECT " ++ "UNION(" := rfl
    rw [hopen]
    simp only [String.append_assoc]
  have hplainLines := lines?_of_columns hdefinitions hplain
  have hcountingLines := lines?_of_columns hmore hcounting
  -- Behind the count, both statements go on with the same clauses.
  rw [hcounted, List.map_append, List.map_singleton, text_countDefinition, text_union_countColumn,
    hselect, hbehind, hfrom, hwhere] at hcountingLines
  refine ⟨_, _, congrArg (Except.map "\r\n".intercalate) hplainLines,
    congrArg (Except.map "\r\n".intercalate) hcountingLines, _, _, ?_, rfl, rfl⟩
  refine ⟨plain.definitions.map Definition.text, counted.text, columns.text, behindColumns plain, _,
    rfl, ?_⟩
  simp only [List.append_assoc, List.cons_append, List.nil_append]

/-- A count that is defined last and joined to the columns is all that is added. -/
theorem addsCount_defineTotalCount (statement : Statement) (columns counted : SetExpr)
    (subSelect slicer : Option SetExpr) :
    AddsCount (((statement.onColumns columns).selectingFrom subSelect).slicedBy slicer)
      ((((defineTotalCount statement counted).onColumns
        (.union columns [countColumn])).selectingFrom subSelect).slicedBy slicer) :=
  ⟨rfl, ⟨counted, rfl⟩, ⟨columns, rfl, rfl⟩, rfl, rfl, rfl⟩

/-! ## Dimension queries -/

/-- A dimension query defines the set of its attributes and more. -/
theorem definitions_flaggedRows_ne_nil (start : Statement) (query : DimensionQuery) :
    (flaggedRows start query).1.definitions ≠ [] := by
  rw [flaggedRows]
  cases query.measures with
  | nil => exact List.append_ne_nil_of_right_ne_nil _ (List.cons_ne_nil _ [])
  | cons first rest => exact List.append_ne_nil_of_right_ne_nil _ (List.cons_ne_nil _ [])

/-- Without a count, the columns of a dimension query are its flag, and nothing is defined for
them. -/
theorem dimensionColumns_of_uncounted {query : DimensionQuery}
    (h : query.options.requestsTotalCount = false) (statement : Statement) (rows : SetExpr) :
    dimensionColumns statement query rows none =
      (statement, (Mdx.Member.calculated .isNonEmpty).toSet) := by
  rw [dimensionColumns, h]
  rfl

theorem definitions_dimensionStatement_ne_nil {query : DimensionQuery}
    (h : query.options.requestsTotalCount = false) (cube : String) (split : FilterSplit)
    (attributes : SetExpr) :
    (dimensionStatement cube query split attributes none).definitions ≠ [] := by
  rw [dimensionStatement, dimensionColumns_of_uncounted h]
  exact definitions_flaggedRows_ne_nil _ query

/-- With a count, a dimension query is compiled to the same statement and the count. -/
theorem addsCount_dimensionStatement {query : DimensionQuery}
    (h : query.options.requestsTotalCount = false) (cube : String) (split : FilterSplit)
    (attributes : SetExpr) (counted : Option SetExpr) :
    AddsCount (dimensionStatement cube query split attributes none)
      (dimensionStatement cube query.counting split attributes counted) := by
  generalize hstart : (Statement.ofCube cube).defineSet NamedSet.attributes.text attributes = start
  -- Rows are put on their axis behind the columns, but neither looks at the other.
  have hadds := addsCount_defineTotalCount ((flaggedRows start query).1.onRows
      (projected query (query.options.arrange (flaggedRows start query).2)))
    (Mdx.Member.calculated .isNonEmpty).toSet
    (counted.getD (projected query (flaggedRows start query).2)) split.subSelect split.slicer
  rw [dimensionStatement, hstart, dimensionColumns_of_uncounted h, dimensionStatement, hstart]
  exact hadds

/-! ## Table queries -/

/-- The columns of a table come with the set of its measures or that of its column attributes. -/
theorem definitions_tableColumns_ne_nil {query : TableQuery} {split : FilterSplit}
    {columns : Option SetExpr} (hcolumns : columnSet? split query = .ok columns)
    (hcolumn : (query.columns.isEmpty && query.measures.isEmpty) = false) (start : Statement) :
    (tableColumns start query columns).1.definitions ≠ [] := by
  unfold tableColumns
  by_cases hnone : query.columns = []
  · cases hmeasures : query.measures with
    | nil => simp [hnone, hmeasures] at hcolumn
    | cons first rest =>
      cases columns with
      | none => exact List.append_ne_nil_of_right_ne_nil _ (List.cons_ne_nil _ [])
      | some set => exact List.append_ne_nil_of_right_ne_nil _ (List.cons_ne_nil _ [])
  · obtain ⟨set, rfl, -⟩ := levelsSet?_of_columnSet? hnone hcolumns
    exact List.append_ne_nil_of_right_ne_nil _ (List.cons_ne_nil _ [])

/-- A table query that is compiled defines at least a set of its columns. -/
theorem definitions_tableStatement_ne_nil {query : TableQuery} {split : FilterSplit}
    {columns : Option SetExpr} (hcolumns : columnSet? split query = .ok columns)
    (hcolumn : (query.columns.isEmpty && query.measures.isEmpty) = false) (cube : String)
    (rows : Option SetExpr) :
    (tableStatement cube query split columns rows none).definitions ≠ [] := by
  have hbroken := definitions_tableColumns_ne_nil hcolumns hcolumn (Statement.ofCube cube)
  cases rows with
  | none => exact hbroken
  | some set => exact List.append_ne_nil_of_left_ne_nil hbroken _

/-- With a count, a table query is compiled to the same statement and the count. -/
theorem addsCount_tableStatement (cube : String) (query : TableQuery) (split : FilterSplit)
    (columns rows : Option SetExpr) (counted : SetExpr) :
    AddsCount (tableStatement cube query split columns rows none)
      (tableStatement cube query.counting split columns rows (some counted)) := by
  generalize hbroken : tableColumns (Statement.ofCube cube) query columns = broken
  generalize harranged : arrangedAxes broken.1 query broken.2 rows = arranged
  have hadds := addsCount_defineTotalCount arranged.1 arranged.2
    (withData query.measures counted) split.subSelect split.slicer
  have hplain : tableStatement cube query split columns rows none =
      ((arranged.1.onColumns arranged.2).selectingFrom split.subSelect).slicedBy split.slicer := by
    rw [← harranged, ← hbroken]
    rfl
  rw [hplain]
  rw [← harranged, ← hbroken] at hadds ⊢
  exact hadds

/-! ## Accepted queries -/

/-- A dimension query that is compiled with a count is compiled without it. -/
theorem dimensionStatement?_of_counting {cube : String} {query : DimensionQuery}
    {counting : Statement} (h : query.options.IsUncounted)
    (hcounting : dimensionStatement? cube query.counting = .ok counting) :
    ∃ plain, dimensionStatement? cube query = .ok plain ∧ AddsCount plain counting ∧
      plain.definitions ≠ [] := by
  have hcount := Options.requestsTotalCount_eq_false h
  obtain ⟨split, attributes, counted, hsplit, hattributes, -, rfl⟩ :=
    steps_of_dimensionStatement? hcounting
  -- Checks, split and attributes are those of the query itself, which has no levels to count.
  have hplainSplit : splitDimension? query = .ok split := hsplit
  have hplainAttributes : split.levelsSet? (queriedLevels query) = .ok attributes := hattributes
  have hnone : requestedCount? split query.options = .ok none := by
    rw [requestedCount?, hcount]
    rfl
  refine ⟨dimensionStatement cube query split attributes none, ?_,
    addsCount_dimensionStatement hcount cube split attributes counted,
    definitions_dimensionStatement_ne_nil hcount cube split attributes⟩
  rw [dimensionStatement?_eq]
  simp only [hplainSplit, hplainAttributes, hnone, bind, Except.bind]

/-- A table query that is compiled with a count is compiled without it. -/
theorem tableStatement?_of_counting {cube : String} {query : TableQuery} {counting : Statement}
    (h : query.options.IsUncounted)
    (hcounting : tableStatement? cube query.counting = .ok counting) :
    ∃ plain, tableStatement? cube query = .ok plain ∧ AddsCount plain counting ∧
      plain.definitions ≠ [] := by
  have hcount := Options.requestsTotalCount_eq_false h
  obtain ⟨split, columns, rows, counted, hsplit, hcolumn, hcolumns, hrows, hcounted, rfl⟩ :=
    steps_of_tableStatement? hcounting
  -- No step before the count looks at whether there is one.
  have hplainSplit : splitTable? query = .ok split := hsplit
  have hplainColumn : (query.columns.isEmpty && query.measures.isEmpty) = false := hcolumn
  have hplainColumns : columnSet? split query = .ok columns := hcolumns
  have hplainRows : rowSet? split query = .ok rows := hrows
  have hnone : requestedTableCount? split query = .ok none := by
    rw [requestedTableCount?, hcount]
    rfl
  -- The counting query asks for a count, so that there is a set that it counts.
  have hrequested : query.counting.options.requestsTotalCount = true := rfl
  rw [requestedTableCount?, hrequested, if_pos rfl] at hcounted
  obtain ⟨set, rfl, -⟩ := eq_ok_of_some_map_eq_ok hcounted
  refine ⟨tableStatement cube query split columns rows none, ?_,
    addsCount_tableStatement cube query split columns rows set,
    definitions_tableStatement_ne_nil hplainColumns hplainColumn cube rows⟩
  rw [tableStatement?_eq]
  simp only [hplainSplit, refuseIf, hplainColumn, hplainColumns, hplainRows, hnone, bind,
    Except.bind, if_neg Bool.false_ne_true]

/-- **A count adds its definition and its column.** A query that asks for no count is accepted if it
is accepted with one, and the two statements differ in nothing else. -/
theorem counting_adds_definition_and_column (cube : String) :
    (∀ query text, query.options.IsUncounted → dimensionText? cube query.counting = .ok text →
      ∃ plain counting plainText, dimensionStatement? cube query = .ok plain ∧
        dimensionStatement? cube query.counting = .ok counting ∧ AddsCount plain counting ∧
        dimensionText? cube query = .ok plainText ∧ TextAddsCount plainText text) ∧
    ∀ query text, query.options.IsUncounted → tableText? cube query.counting = .ok text →
      ∃ plain counting plainText, tableStatement? cube query = .ok plain ∧
        tableStatement? cube query.counting = .ok counting ∧ AddsCount plain counting ∧
        tableText? cube query = .ok plainText ∧ TextAddsCount plainText text := by
  constructor
  · intro query text h htext
    obtain ⟨counting, hcounting, htext⟩ := steps_of_bind_eq_ok htext
    obtain ⟨plain, hplain, hadds, hdefinitions⟩ := dimensionStatement?_of_counting h hcounting
    obtain ⟨first, second, hfirst, hsecond, htexts⟩ := hadds.text hdefinitions
    cases hsecond.symm.trans htext
    refine ⟨plain, counting, first, hplain, hcounting, hadds, ?_, htexts⟩
    rw [dimensionText?, hplain]
    exact hfirst
  · intro query text h htext
    obtain ⟨counting, hcounting, htext⟩ := steps_of_bind_eq_ok htext
    obtain ⟨plain, hplain, hadds, hdefinitions⟩ := tableStatement?_of_counting h hcounting
    obtain ⟨first, second, hfirst, hsecond, htexts⟩ := hadds.text hdefinitions
    cases hsecond.symm.trans htext
    refine ⟨plain, counting, first, hplain, hcounting, hadds, ?_, htexts⟩
    rw [tableText?, hplain]
    exact hfirst

/-- The second page of some years, from the one with most sales. -/
private def rankedYears : Options :=
  ⟨[(Request.Filter.ofLevel ⟨"[Date].[Year]"⟩).comparing .greater (some (.text "2000"))],
    [.descending ⟨"[Measures].[Sales]"⟩], some 2, some 2, false⟩

/-- Years that have sales. -/
private def soldYears : DimensionQuery :=
  ⟨[⟨"[Date].[Year]"⟩], [⟨"[Measures].[Sales]"⟩], some .nonEmpty, rankedYears⟩

/-- Years on columns, where they are sorted and paged. -/
private def salesOfYears : TableQuery :=
  ⟨[⟨"[Date].[Year]"⟩], [⟨"[Measures].[Sales]"⟩], [], rankedYears⟩

/-- Neither the rows of years nor the columns of years are paged otherwise for being counted. -/
theorem counting_years_adds_definition_and_column :
    rankedYears.IsUncounted ∧
    (∃ text, dimensionText? "Sales" soldYears.counting = .ok text ∧
      ∃ plain counting plainText, dimensionStatement? "Sales" soldYears = .ok plain ∧
        dimensionStatement? "Sales" soldYears.counting = .ok counting ∧ AddsCount plain counting ∧
        dimensionText? "Sales" soldYears = .ok plainText ∧ TextAddsCount plainText text) ∧
    ∃ text, tableText? "Sales" salesOfYears.counting = .ok text ∧
      ∃ plain counting plainText, tableStatement? "Sales" salesOfYears = .ok plain ∧
        tableStatement? "Sales" salesOfYears.counting = .ok counting ∧ AddsCount plain counting ∧
        tableText? "Sales" salesOfYears = .ok plainText ∧ TextAddsCount plainText text := by
  have huncounted : rankedYears.IsUncounted := by
    refine ⟨rfl, ?_⟩
    intro filter hfilter
    cases List.mem_singleton.1 hfilter
    rfl
  exact ⟨huncounted,
    ⟨_, rfl, (counting_adds_definition_and_column "Sales").1 soldYears _ huncounted rfl⟩,
    _, rfl, (counting_adds_definition_and_column "Sales").2 salesOfYears _ huncounted rfl⟩

end CubeQuery.Plan
