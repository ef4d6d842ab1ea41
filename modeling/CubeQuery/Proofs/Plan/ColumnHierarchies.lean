import CubeQuery.Proofs.Plan.RowHierarchies

set_option autoImplicit false

/-!
# What the row count joins on columns

A row count stands on columns behind what the query put there, in one union. The operands of a union
must range over the same hierarchies, and the count is a measure. Beside the flag of a dimension
query and the measures of a table query it does; beside columns that are broken down by attributes
it does not.

Main statement: the columns of an accepted query that asks for a count are the union of the count
with columns that range over the measures alone, unless a table query has column attributes
(`counted_columns_agree_iff`); those come before the measures (`count_beside_years`).
-/

namespace CubeQuery.Plan

open Mdx (Level SetExpr Statement NamedSet Scope measuresHierarchy)
open Request (Options DimensionQuery TableQuery)

/-! ## The count -/

/-- The row count as a set. -/
def countColumn : SetExpr :=
  (Mdx.Member.calculated .totalCount).toSet

/-- A calculated member is a measure. -/
theorem hierarchies?_calculated (scope : Scope) (member : Mdx.CalculatedMember) :
    (Mdx.Member.calculated member).toSet.hierarchies? scope = some [measuresHierarchy] := by
  simp [Mdx.Member.toSet, SetExpr.hierarchies?, Mdx.Member.hierarchy?, Mdx.agreed]

/-- The columns of a statement are the given ones and the row count behind them. -/
def CountsBehind (statement : Statement) (columns : SetExpr) : Prop :=
  statement.columns = some (.union columns [countColumn])

/-! ## Columns of dimension queries -/

/-- A dimension query counts behind its flag, which is a measure like the count. -/
theorem countsBehind_dimensionStatement {query : DimensionQuery}
    (hcount : query.options.requestsTotalCount = true) (cube : String) (split : FilterSplit)
    (attributes : SetExpr) (counted : Option SetExpr) :
    CountsBehind (dimensionStatement cube query split attributes counted)
      (Mdx.Member.calculated .isNonEmpty).toSet := by
  simp [CountsBehind, dimensionStatement, dimensionColumns, hcount, countColumn,
    Statement.slicedBy, Statement.selectingFrom, Statement.onRows, Statement.onColumns]

/-! ## Columns of table queries -/

/-- The hierarchies of the columns of a table query: its column attributes, then the measures. -/
def breakdown (query : TableQuery) : List Level :=
  query.columns ++ if query.measures.isEmpty then [] else [measuresHierarchy]

/-- The rows define no other set than their own. -/
theorem scope_arrangedAxes (statement : Statement) (query : TableQuery) (columns : SetExpr)
    (rows : Option SetExpr) {name : NamedSet} (h : name ≠ .rows) :
    (arrangedAxes statement query columns rows).1.scope name = statement.scope name := by
  cases rows with
  | none => rfl
  | some set => exact statement.scope_defineSet_of_ne h set

/-- Columns keep their hierarchies where they are sorted for lack of rows. -/
theorem hierarchies?_arrangedAxes {scope : Scope} (statement : Statement) (query : TableQuery)
    (columns : SetExpr) (rows : Option SetExpr) :
    (arrangedAxes statement query columns rows).2.hierarchies? scope =
      columns.hierarchies? scope := by
  cases rows with
  | none => exact Mdx.hierarchies?_arrange query.options columns
  | some set => rfl

/-- With column attributes there is a set of them. -/
theorem levelsSet?_of_columnSet? {split : FilterSplit} {query : TableQuery}
    {columns : Option SetExpr} (hne : query.columns ≠ [])
    (h : columnSet? split query = .ok columns) :
    ∃ set, columns = some set ∧ split.levelsSet? query.columns = .ok set := by
  rw [columnSet?, List.isEmpty_eq_false_iff.2 hne, if_neg Bool.false_ne_true] at h
  exact eq_ok_of_some_map_eq_ok h

/-- The columns of a table query range over its breakdown, in any scope that has the definitions
that they come with. -/
theorem hierarchies?_tableColumns {query : TableQuery} {split : FilterSplit}
    {columns : Option SetExpr} (hset : columnSet? split query = .ok columns)
    (hcolumn : (query.columns.isEmpty && query.measures.isEmpty) = false) {start : Statement}
    {scope : Scope}
    (hscope : ∀ name, name ≠ .rows → scope name = (tableColumns start query columns).1.scope name) :
    (tableColumns start query columns).2.hierarchies? scope = some (breakdown query) := by
  have hmeasured := hscope .measures nofun
  have hbroken := hscope .columns nofun
  by_cases hnone : query.columns = []
  · -- Without column attributes there are measures, and they are the columns.
    obtain ⟨first, rest, hmeasures⟩ : ∃ first rest, query.measures = first :: rest := by
      cases hlist : query.measures with
      | nil => simp [hnone, hlist] at hcolumn
      | cons first rest => exact ⟨first, rest, rfl⟩
    have hcolumns : columns = none := by
      rw [columnSet?, hnone] at hset
      exact (Except.ok.inj hset).symm
    subst hcolumns
    simp only [tableColumns, hmeasures] at hmeasured ⊢
    rw [setNamed, SetExpr.hierarchies?, hmeasured, Statement.scope_defineSet_self]
    simp [SetExpr.hierarchies?, breakdown, hnone, hmeasures]
  · obtain ⟨set, rfl, hlevels⟩ := levelsSet?_of_columnSet? hnone hset
    simp only [tableColumns] at hmeasured hbroken ⊢
    rw [Statement.scope_defineSet_self, hierarchies?_withData,
      hierarchies?_of_levelsSet? hlevels] at hbroken
    rw [Statement.scope_defineSet_of_ne _ (by decide)] at hmeasured
    cases hmeasures : query.measures with
    | nil => simp [setNamed, SetExpr.hierarchies?, hbroken, breakdown, hmeasures]
    | cons first rest =>
      rw [hmeasures] at hmeasured
      simp only [Statement.scope_defineSet_self, SetExpr.hierarchies?] at hmeasured
      simp [setNamed, SetExpr.hierarchies?, Mdx.hierarchiesOf?, hbroken, hmeasured, breakdown,
        hmeasures]

/-- The breakdown is that of measures alone where there are no column attributes. -/
theorem breakdown_eq_measures_iff {query : TableQuery}
    (hcolumns : Mdx.IsAttributeList query.columns)
    (hcolumn : (query.columns.isEmpty && query.measures.isEmpty) = false) :
    breakdown query = [measuresHierarchy] ↔ query.columns = [] := by
  rw [breakdown]
  cases hlist : query.columns with
  | nil =>
    have hmeasures : query.measures.isEmpty = false := by simpa [hlist] using hcolumn
    simp [hmeasures]
  | cons level rest =>
    -- A column attribute is no measure, and so it is not their hierarchy either.
    have hlevel : level ≠ measuresHierarchy := by
      rintro rfl
      apply hcolumns.ofKind measuresHierarchy (hlist ▸ List.mem_cons_self)
      exact List.prefix_rfl
    simp [hlevel]

/-- A table query counts behind columns that range over its breakdown. -/
theorem countsBehind_tableStatement {query : TableQuery} {split : FilterSplit}
    {columns counted : Option SetExpr}
    (hcount : query.options.requestsTotalCount = true)
    (hcolumn : (query.columns.isEmpty && query.measures.isEmpty) = false)
    (hset : columnSet? split query = .ok columns)
    (hcounted : requestedTableCount? split query = .ok counted) (cube : String)
    (rows : Option SetExpr) :
    ∃ left, CountsBehind (tableStatement cube query split columns rows counted) left ∧
      left.hierarchies? (tableStatement cube query split columns rows counted).scope =
        some (breakdown query) := by
  rw [requestedTableCount?, hcount, if_pos rfl] at hcounted
  obtain ⟨set, rfl, -⟩ := eq_ok_of_some_map_eq_ok hcounted
  generalize hbroken : tableColumns (Statement.ofCube cube) query columns = broken
  generalize harranged : arrangedAxes broken.1 query broken.2 rows = arranged
  have hscope : (tableStatement cube query split columns rows (some set)).scope =
      arranged.1.scope := by
    rw [← scope_countedColumns arranged.1 query arranged.2 (some set), ← harranged, ← hbroken]
    rfl
  refine ⟨arranged.2, ?_, ?_⟩
  · rw [← harranged, ← hbroken]
    rfl
  · rw [hscope, ← harranged, hierarchies?_arrangedAxes, ← hbroken]
    -- Behind the columns come the rows, which define another name.
    apply hierarchies?_tableColumns hset hcolumn
    intro name hname
    exact scope_arrangedAxes _ _ _ _ hname

/-! ## Accepted queries -/

/-- **A row count is joined to columns over measures alone, unless there are column attributes.**
The columns of a dimension query that asks for a count range over the measures before the count
joins them, as the count itself does. Those of a table query range over the column attributes and
then, where there are any, over the measures; so the operands of the union agree exactly if there is
no column attribute. -/
theorem counted_columns_agree_iff (cube : String) :
    (∀ query text, dimensionText? cube query = .ok text →
      query.options.requestsTotalCount = true →
      ∃ statement left, dimensionStatement? cube query = .ok statement ∧
        statement.text? = .ok text ∧ CountsBehind statement left ∧
        countColumn.hierarchies? statement.scope = some [measuresHierarchy] ∧
        left.hierarchies? statement.scope = some [measuresHierarchy]) ∧
    ∀ query text, tableText? cube query = .ok text → query.options.requestsTotalCount = true →
      ∃ statement left, tableStatement? cube query = .ok statement ∧
        statement.text? = .ok text ∧ CountsBehind statement left ∧
        countColumn.hierarchies? statement.scope = some [measuresHierarchy] ∧
        left.hierarchies? statement.scope = some (breakdown query) ∧
        (left.hierarchies? statement.scope = countColumn.hierarchies? statement.scope ↔
          query.columns = []) := by
  constructor
  · intro query text h hcount
    obtain ⟨split, attributes, counted, -, hstatement, htext⟩ := statement_of_dimensionText? h
    exact ⟨_, _, hstatement, htext,
      countsBehind_dimensionStatement hcount cube split attributes counted,
      hierarchies?_calculated _ _, hierarchies?_calculated _ _⟩
  · intro query text h hcount
    obtain ⟨statement, hstatement, htext⟩ := steps_of_bind_eq_ok h
    obtain ⟨split, columns, rows, counted, hsplit, hcolumn, hset, -, hcounted, rfl⟩ :=
      steps_of_tableStatement? hstatement
    obtain ⟨left, hbehind, hleft⟩ :=
      countsBehind_tableStatement hcount hcolumn hset hcounted cube rows
    have hcolumns := ((splitTable?_decides query).1.1 ⟨split, hsplit⟩).1
    refine ⟨_, left, hstatement, htext, hbehind, hierarchies?_calculated _ _, hleft, ?_⟩
    rw [hleft, countColumn, hierarchies?_calculated, Option.some.injEq]
    exact breakdown_eq_measures_iff hcolumns hcolumn

/-- Options that count, sort by a measure and page. -/
private def countedPage : Options :=
  ⟨[], [.descending ⟨"[Measures].[Sales]"⟩], some 2, some 3, true⟩

/-- Sold cities and their count. -/
private def countedCities : DimensionQuery :=
  ⟨[⟨"[Geo].[City]"⟩], [⟨"[Measures].[Sales]"⟩], some .nonEmpty, countedPage⟩

/-- Sales and cost by city with the count of the cities, by the given columns. -/
private def countedSales (columns : List Level) : TableQuery :=
  ⟨columns, [⟨"[Measures].[Sales]"⟩, ⟨"[Measures].[Cost]"⟩], [⟨"[Geo].[City]"⟩], countedPage⟩

/-- A count beside the flag of cities, and one beside two measures. -/
theorem counted_columns_agree_for_cities :
    (∃ text, dimensionText? "Sales" countedCities = .ok text ∧
      countedCities.options.requestsTotalCount = true ∧
      ∃ statement left, dimensionStatement? "Sales" countedCities = .ok statement ∧
        statement.text? = .ok text ∧ CountsBehind statement left ∧
        countColumn.hierarchies? statement.scope = some [measuresHierarchy] ∧
        left.hierarchies? statement.scope = some [measuresHierarchy]) ∧
    ∃ text, tableText? "Sales" (countedSales []) = .ok text ∧
      (countedSales []).options.requestsTotalCount = true ∧
      ∃ statement left, tableStatement? "Sales" (countedSales []) = .ok statement ∧
        statement.text? = .ok text ∧ CountsBehind statement left ∧
        countColumn.hierarchies? statement.scope = some [measuresHierarchy] ∧
        left.hierarchies? statement.scope = some (breakdown (countedSales [])) ∧
        (left.hierarchies? statement.scope = countColumn.hierarchies? statement.scope ↔
          (countedSales []).columns = []) :=
  ⟨⟨_, rfl, rfl, (counted_columns_agree_iff "Sales").1 countedCities _ rfl rfl⟩,
    _, rfl, rfl, (counted_columns_agree_iff "Sales").2 (countedSales []) _ rfl rfl⟩

/-- A count behind sales by year is joined to columns over years and measures, so that the union has
no hierarchies. -/
theorem count_beside_years :
    ∃ text statement left, tableText? "Sales" (countedSales [⟨"[Date].[Year]"⟩]) = .ok text ∧
      (countedSales [⟨"[Date].[Year]"⟩]).options.requestsTotalCount = true ∧
      tableStatement? "Sales" (countedSales [⟨"[Date].[Year]"⟩]) = .ok statement ∧
      CountsBehind statement left ∧
      left.hierarchies? statement.scope = some [⟨"[Date].[Year]"⟩, measuresHierarchy] ∧
      countColumn.hierarchies? statement.scope = some [measuresHierarchy] ∧
      statement.columns.bind (·.hierarchies? statement.scope) = none :=
  ⟨_, _, _, rfl, rfl, rfl, rfl, rfl, rfl, rfl⟩

end CubeQuery.Plan
