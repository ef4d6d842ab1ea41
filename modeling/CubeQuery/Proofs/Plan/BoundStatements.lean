import CubeQuery.Proofs.Plan.ColumnHierarchies
import CubeQuery.Proofs.Plan.DimensionCount
import CubeQuery.Proofs.Plan.PlannedNames

set_option autoImplicit false

/-!
# Statements whose names are bound

Six names are reserved for what statements define. A query is compiled definition by definition,
each on top of those before: attributes, measures and flag of a dimension query, measures, columns
and rows of a table query, and the row count behind either. Attributes and measures are checked not
to have reserved names; with options that bring in none, every statement on the way is bound, and
so is the set that goes with it.

Main statements: the statement of a query is bound if its options avoid reserved names
(`isBound_dimensionStatement`, `isBound_tableStatement`).
-/

namespace CubeQuery.Request

open Mdx (reservedNames)

/-- No sort key and no filter with a condition brings in a reserved name. -/
structure Options.AvoidsReservedNames (o : Options) : Prop where
  sorted : ∀ level ∈ o.sortLevels, level.name ∉ reservedNames
  filtered : ∀ filter ∈ o.filters, filter.hasCondition = true → filter.level.name ∉ reservedNames
  compared : ∀ filter ∈ o.filters, filter.comparison.isSome = true →
    ∀ value, filter.comparisonValue = some value → value.words ∉ reservedNames

end CubeQuery.Request

namespace CubeQuery.Plan

open Mdx (Level SetExpr Mention Statement NamedSet CalculatedMember Binds reservedNames)
open Request (Filter Options DimensionQuery TableQuery)

/-! ## Bound sets -/

variable {names : List String}

/-- A set of levels is bound if they have no reserved names. -/
theorem isBound_of_levelsSet? {split : FilterSplit} {levels : List Level} {set : SetExpr}
    (h : split.levelsSet? levels = .ok set)
    (hlevels : ∀ level ∈ levels, level.name ∉ reservedNames) : set.IsBound names := by
  intro mention hmention
  obtain ⟨level, hlevel, rfl⟩ := (mem_mentions_of_levelsSet? h).1 hmention
  exact hlevels level hlevel

/-- A set of measures is bound if they have no reserved names. -/
theorem isBound_measures {first : Level} {rest : List Level}
    (h : ∀ level ∈ first :: rest, level.name ∉ reservedNames) :
    (SetExpr.measures first rest).IsBound names := by
  intro mention hmention
  rw [SetExpr.mentions] at hmention
  obtain ⟨level, hlevel, rfl⟩ := List.mem_map.1 hmention
  exact h level hlevel

theorem isBound_crossJoin {first second : SetExpr} (hfirst : first.IsBound names)
    (hsecond : second.IsBound names) : (SetExpr.crossJoin first [second]).IsBound names := by
  intro mention hmention
  rw [SetExpr.mentions, Mdx.mentionsOf, Mdx.mentionsOf, List.append_nil, List.mem_append]
    at hmention
  rcases hmention with hmention | hmention
  · exact hfirst mention hmention
  · exact hsecond mention hmention

/-- The restrictions of a query are bound if its filters bring in no reserved name. -/
theorem isBound_restrictions {options : Options} (levels : List Level)
    (hdistinct : (options.filters.map (·.level)).Nodup) (h : options.AvoidsReservedNames) :
    (∀ set ∈ (FilterSplit.between levels options.filters).subSelect.toList, set.IsBound names) ∧
      ∀ set ∈ (FilterSplit.between levels options.filters).slicer.toList, set.IsBound names := by
  have hmention : ∀ mention : Mention, (∃ filter ∈ options.filters,
      filter.hasCondition = true ∧ FilterMentions filter mention) → mention.IsBound names := by
    -- A restriction is made of the level of its filter and of the value compared with.
    rintro _ ⟨filter, hfilter, hcondition, hlevel | ⟨hcomparison, hvalue⟩⟩
    · exact h.filtered filter hfilter hcondition
    · exact h.compared filter hfilter hcomparison _ hvalue
  constructor
  · intro set hset mention hin
    exact hmention mention
      ((mem_mentions_restrictions_iff levels hdistinct).1 (.inl ⟨set, hset, hin⟩))
  · intro set hset mention hin
    exact hmention mention
      ((mem_mentions_restrictions_iff levels hdistinct).1 (.inr ⟨set, hset, hin⟩))

/-- A statement under construction and a set that goes with it, both bound. -/
structure BindsBoth (planned : Statement × SetExpr) : Prop where
  definitions : Binds planned.1.definitions
  set : planned.2.IsBound planned.1.names

/-- Counting behind columns keeps both bound, if the counted set is. -/
theorem BindsBoth.counting {statement : Statement} {columns counted : SetExpr}
    (h : BindsBoth (statement, columns)) (hcounted : counted.IsBound statement.names)
    (hnew : CalculatedMember.totalCount.text ∉ statement.names) :
    BindsBoth (defineTotalCount statement counted, .union columns [countColumn]) := by
  have hnames : (defineTotalCount statement counted).names =
      statement.names ++ [CalculatedMember.totalCount.text] := Statement.names_defineMember ..
  refine ⟨h.definitions.defineMember hnew ?_ _, ?_⟩
  · intro mention hmention
    apply hcounted mention
    simpa [SetExpr.count, Mdx.Expr.mentions] using hmention
  · intro mention hmention
    rw [SetExpr.mentions, Mdx.mentionsOf, Mdx.mentionsOf, List.append_nil, List.mem_append]
      at hmention
    rw [hnames]
    rcases hmention with hmention | hmention
    · exact (h.set mention hmention).mono (List.subset_append_left _ _)
    · exact Mdx.isBound_calculated (List.mem_append_right _ List.mem_cons_self) mention hmention

/-! ## Dimension queries -/

section Dimension

variable {query : DimensionQuery} {split : FilterSplit}

/-- The levels that a dimension query ranges over have no reserved names: attributes are checked,
and the others are sorted by. -/
theorem queriedLevels_notReserved (hattributes : Mdx.IsAttributeList query.attributes)
    (hsort : ∀ level ∈ query.options.sortLevels, level.name ∉ reservedNames) :
    ∀ level ∈ queriedLevels query, level.name ∉ reservedNames := by
  intro level hlevel
  rcases List.mem_append.1 hlevel with hmem | hmem
  · exact hattributes.notReserved level hmem
  · exact hsort level ((mem_foreignLevels_iff _ _ _).1 hmem).1

/-- The rows that a selection keeps mention the flag beside the rows. -/
theorem isBound_selectRows {rows : SetExpr} (h : rows.IsBound names)
    (hflag : CalculatedMember.isNonEmpty.text ∈ names) (selection : Request.MemberSelection) :
    (selectRows selection rows).IsBound names := by
  have hfiltered : ∀ n : Int, (rows.filtered
      ((calculated .isNonEmpty).compare .equal (some (.whole n)))).IsBound names := by
    intro n mention hmention
    simp only [SetExpr.filtered, SetExpr.mentions, Mdx.Scalar.compare, calculated,
      Mdx.Member.value, Mdx.Expr.mentions, Option.getD_some, List.append_nil, List.mem_append,
      List.mem_singleton] at hmention
    rcases hmention with hmention | rfl
    · exact h mention hmention
    · exact hflag
  cases selection with
  | all => exact h
  | empty => exact hfiltered 0
  | nonEmpty => exact hfiltered 1

/-- The rows of a dimension query and the definitions of flag and measures are bound. -/
theorem bindsBoth_flaggedRows (hmeasures : Mdx.IsMeasureList query.measures) {start : Statement}
    (hstart : Binds start.definitions) (hnames : start.names = [NamedSet.attributes.text]) :
    BindsBoth (flaggedRows start query) ∧
      CalculatedMember.isNonEmpty.text ∈ (flaggedRows start query).1.names ∧
      CalculatedMember.totalCount.text ∉ (flaggedRows start query).1.names := by
  rw [flaggedRows]
  cases hlist : query.measures with
  | nil =>
    have hflagged : (defineFlag start (.whole 1)).names =
        [NamedSet.attributes.text, CalculatedMember.isNonEmpty.text] := by
      rw [defineFlag, Statement.names_defineMember, hnames]
      rfl
    refine ⟨⟨hstart.defineMember ?_ ?_ _, Mdx.isBound_named ?_⟩, ?_, ?_⟩
    · rw [hnames]
      decide
    · -- The flag is the constant 1.
      intro mention hmention
      rw [Mdx.Expr.mentions] at hmention
      cases hmention
    all_goals
      rw [hflagged]
      decide
  | cons first rest =>
    have hmeasured : (start.defineSet NamedSet.measures.text (.measures first rest)).names =
        [NamedSet.attributes.text, NamedSet.measures.text] := by
      rw [Statement.names_defineSet, hnames]
      rfl
    have hflagged : (defineFlag (start.defineSet NamedSet.measures.text (.measures first rest))
        nonEmptyFlag.expr).names =
        [NamedSet.attributes.text, NamedSet.measures.text, CalculatedMember.isNonEmpty.text] := by
      rw [defineFlag, Statement.names_defineMember, hmeasured]
      rfl
    have hdefined : Binds
        (start.defineSet NamedSet.measures.text (.measures first rest)).definitions := by
      apply hstart.defineSet
      · rw [hnames]
        decide
      · apply isBound_measures
        rw [← hlist]
        exact hmeasures.notReserved
    refine ⟨⟨hdefined.defineMember ?_ ?_ _, isBound_selectRows (isBound_crossJoin
      (Mdx.isBound_named ?_) (Mdx.isBound_named ?_)) ?_ _⟩, ?_, ?_⟩
    · rw [hmeasured]
      decide
    · -- The flag counts the set of the measures.
      intro mention hmention
      simp only [nonEmptyFlag, Mdx.Expr.mentions, Mdx.Scalar.compare, SetExpr.count, setNamed,
        SetExpr.mentions, Option.getD_some, List.append_nil, List.mem_singleton] at hmention
      rw [hmention, hmeasured]
      exact List.mem_cons_of_mem _ List.mem_cons_self
    all_goals
      rw [hflagged]
      decide

/-- What a dimension query is projected to are its attributes. -/
theorem isBound_projected {rows : SetExpr} (h : rows.IsBound names)
    (hattributes : Mdx.IsAttributeList query.attributes) :
    (projected query rows).IsBound names := by
  rw [projected]
  cases isWidened query with
  | false => exact h
  | true =>
    intro mention hmention
    rw [if_pos rfl, SetExpr.mentions, List.mem_append] at hmention
    rcases hmention with hmention | hmention
    · exact h mention hmention
    · obtain ⟨level, hlevel, rfl⟩ := List.mem_map.1 hmention
      exact hattributes.notReserved level hlevel

/-- The set of counted levels ranges over them. -/
theorem levelsSet?_of_countSet? {set : SetExpr} (h : split.countSet? = .ok (some set)) :
    split.levelsSet? split.countedLevels = .ok set := by
  by_cases hnil : split.countedLevels = []
  · rw [countSet?_of_eq_nil hnil] at h
    cases h
  · rw [FilterSplit.countSet?, List.isEmpty_eq_false_iff.2 hnil] at h
    obtain ⟨-, -, h⟩ := steps_of_bind_eq_ok h
    obtain ⟨found, heq, hset⟩ := eq_ok_of_some_map_eq_ok h
    cases heq
    exact hset

/-- The set that a dimension query counts is bound. -/
theorem isBound_of_requestedCount? {counted : Option SetExpr}
    (h : requestedCount? split query.options = .ok counted)
    (hcounted : ∀ level ∈ split.countedLevels, level.name ∉ reservedNames) {rows : SetExpr}
    (hrows : rows.IsBound names) : (counted.getD rows).IsBound names := by
  cases counted with
  | none => exact hrows
  | some set =>
    cases hrequested : query.options.requestsTotalCount with
    | false =>
      rw [requestedCount?, hrequested] at h
      cases h
    | true =>
      rw [requestedCount?, hrequested, if_pos rfl] at h
      exact isBound_of_levelsSet? (levelsSet?_of_countSet? h) hcounted

/-- The columns of a dimension query are bound, the count behind the flag included. -/
theorem bindsBoth_dimensionColumns {statement : Statement} {rows : SetExpr}
    {counted : Option SetExpr} (hstatement : Binds statement.definitions)
    (hflag : CalculatedMember.isNonEmpty.text ∈ statement.names)
    (hnew : CalculatedMember.totalCount.text ∉ statement.names)
    (hcounted : (counted.getD (projected query rows)).IsBound statement.names) :
    BindsBoth (dimensionColumns statement query rows counted) ∧
      statement.names ⊆ (dimensionColumns statement query rows counted).1.names := by
  have hplain : BindsBoth (statement, (Mdx.Member.calculated .isNonEmpty).toSet) :=
    ⟨hstatement, Mdx.isBound_calculated hflag⟩
  rw [dimensionColumns]
  cases query.options.requestsTotalCount with
  | false => exact ⟨hplain, List.Subset.refl _⟩
  | true =>
    refine ⟨hplain.counting hcounted hnew, ?_⟩
    rw [if_pos rfl, defineTotalCount, Statement.names_defineMember]
    exact List.subset_append_left _ _

/-- The statement of a dimension query is bound if its options bring in no reserved name. -/
theorem isBound_dimensionStatement {cube : String} {statement : Statement}
    (h : dimensionStatement? cube query = .ok statement)
    (havoids : query.options.AvoidsReservedNames) : statement.IsBound := by
  obtain ⟨split, attributes, counted, hsplit, hset, hcounted, rfl⟩ :=
    steps_of_dimensionStatement? h
  obtain ⟨-, hattributes, hmeasures, hdistinct⟩ :=
    (splitDimension?_decides query).1.1 ⟨split, hsplit⟩
  have hlevels := queriedLevels_notReserved hattributes havoids.sorted
  obtain rfl := eq_between_of_splitDimension? hsplit
  have hcountedLevels : ∀ level ∈ (FilterSplit.between (queriedLevels query)
      query.options.filters).countedLevels, level.name ∉ reservedNames := by
    intro level hlevel
    exact hlevels level ((mem_countedLevels_between hdistinct level).1 hlevel).1
  -- The attributes are defined first, flag and measures on top of them, and the count last.
  generalize hstart : (Statement.ofCube cube).defineSet NamedSet.attributes.text attributes = start
  have hnames : start.names = [NamedSet.attributes.text] := by
    rw [← hstart]
    rfl
  have hdefined : Binds start.definitions := by
    rw [← hstart]
    exact Mdx.binds_nil.defineSet List.not_mem_nil (isBound_of_levelsSet? hset hlevels)
  obtain ⟨hflagged, hflag, hnew⟩ := bindsBoth_flaggedRows hmeasures hdefined hnames
  have hprojected := isBound_projected hflagged.set hattributes
  obtain ⟨hcolumns, hsubset⟩ := bindsBoth_dimensionColumns hflagged.definitions hflag hnew
    (isBound_of_requestedCount? hcounted hcountedLevels hprojected)
  have hrows := (isBound_projected (Mdx.isBound_arrange hflagged.set havoids.sorted)
    hattributes).mono hsubset
  obtain ⟨hsubSelect, hslicer⟩ := isBound_restrictions (queriedLevels query) hdistinct havoids
  rw [dimensionStatement, hstart]
  refine ⟨hcolumns.definitions, ?_⟩
  intro set hset
  simp only [Statement.clauses, List.mem_append] at hset
  rcases hset with ((hset | hset) | hset) | hset
  · cases List.mem_singleton.1 hset
    exact hcolumns.set
  · cases List.mem_singleton.1 hset
    exact hrows
  · exact hsubSelect set hset
  · exact hslicer set hset

end Dimension

/-! ## Table queries -/

section Table

variable {query : TableQuery} {split : FilterSplit}

/-- What has data for measures mentions the set of them. -/
theorem isBound_withData {measures : List Level} {set : SetExpr} (h : set.IsBound names)
    (hmeasures : measures ≠ [] → NamedSet.measures.text ∈ names) :
    (withData measures set).IsBound names := by
  intro mention hmention
  rcases mem_mentions_withData_iff.1 hmention with hset | ⟨hne, rfl⟩
  · exact h mention hset
  · exact hmeasures hne

/-- A sorted set is bound if no level that takes part in it has a reserved name. -/
theorem isBound_of_sortedSet? {attributes measures : List Level} {options : Options}
    {set : SetExpr} (hne : attributes ≠ [])
    (h : split.sortedSet? attributes options (withData measures) = .ok set)
    (hattributes : ∀ level ∈ attributes, level.name ∉ reservedNames)
    (hsort : ∀ level ∈ options.sortLevels, level.name ∉ reservedNames)
    (hcounted : ∀ level ∈ split.countedLevels, level.name ∉ reservedNames)
    (hmeasures : measures ≠ [] → NamedSet.measures.text ∈ names) : set.IsBound names := by
  intro mention hmention
  rcases (mem_mentions_of_sortedSet? hne h).1 hmention with
    ⟨level, hlevel | hlevel | ⟨hlevel, -⟩, rfl⟩ | ⟨hsome, rfl⟩
  · exact hattributes level hlevel
  · exact hsort level hlevel
  · exact hcounted level hlevel
  · exact hmeasures hsome

theorem rows_tableColumns (cube : String) (query : TableQuery) (columns : Option SetExpr) :
    (tableColumns (Statement.ofCube cube) query columns).1.rows = none := by
  unfold tableColumns
  cases columns with
  | none => cases query.measures <;> rfl
  | some set => cases query.measures <;> rfl

theorem rows_countedColumns (statement : Statement) (query : TableQuery) (columns : SetExpr)
    (counted : Option SetExpr) :
    (countedColumns statement query columns counted).1.rows = statement.rows := by
  cases counted with
  | none => rfl
  | some set => rfl

/-- The columns of a table query come with a set of measures and one of column attributes. -/
theorem mem_names_tableColumns_iff (cube : String) (query : TableQuery)
    (columns : Option SetExpr) (name : String) :
    name ∈ (tableColumns (Statement.ofCube cube) query columns).1.names ↔
      query.measures ≠ [] ∧ name = NamedSet.measures.text ∨
        columns ≠ none ∧ name = NamedSet.columns.text := by
  have hstart : (Statement.ofCube cube).names = [] := rfl
  unfold tableColumns
  cases columns with
  | none => cases query.measures <;> simp [hstart]
  | some set => cases query.measures <;> simp [hstart]

/-- The columns of a table query are bound, with the measures defined ahead of them. -/
theorem bindsBoth_tableColumns {columns : Option SetExpr}
    (hcolumns : Mdx.IsAttributeList query.columns) (hmeasures : Mdx.IsMeasureList query.measures)
    (hset : columnSet? split query = .ok columns)
    (hcolumn : (query.columns.isEmpty && query.measures.isEmpty) = false) (cube : String) :
    BindsBoth (tableColumns (Statement.ofCube cube) query columns) := by
  have hbound : ∀ set ∈ columns, ∀ names, set.IsBound names := by
    rintro set rfl names
    by_cases hnone : query.columns = []
    · rw [columnSet?, hnone] at hset
      cases hset
    · obtain ⟨found, heq, hfound⟩ := levelsSet?_of_columnSet? hnone hset
      cases heq
      exact isBound_of_levelsSet? hfound hcolumns.notReserved
  have hstart : Binds (Statement.ofCube cube).definitions := Mdx.binds_nil
  unfold tableColumns
  cases hlist : query.measures with
  | nil =>
    cases columns with
    | none =>
      -- Without column attributes there would be nothing on columns.
      have hnone : query.columns = [] := by
        by_contra hne
        obtain ⟨set, heq, -⟩ := levelsSet?_of_columnSet? hne hset
        cases heq
      simp [hnone, hlist] at hcolumn
    | some set =>
      refine ⟨hstart.defineSet List.not_mem_nil ?_, Mdx.isBound_named List.mem_cons_self⟩
      exact isBound_withData (hbound set rfl _) fun hne => absurd rfl hne
  | cons first rest =>
    have hdefined : Binds ((Statement.ofCube cube).defineSet NamedSet.measures.text
        (.measures first rest)).definitions := by
      refine hstart.defineSet List.not_mem_nil (isBound_measures ?_)
      rw [← hlist]
      exact hmeasures.notReserved
    have hnames : ((Statement.ofCube cube).defineSet NamedSet.measures.text
        (.measures first rest)).names = [NamedSet.measures.text] := rfl
    cases columns with
    | none => exact ⟨hdefined, Mdx.isBound_named List.mem_cons_self⟩
    | some set =>
      refine ⟨hdefined.defineSet ?_ ?_, isBound_crossJoin (Mdx.isBound_named ?_)
        (Mdx.isBound_named List.mem_cons_self)⟩
      · rw [hnames]
        decide
      · exact isBound_withData (hbound set rfl _) fun _ => List.mem_cons_self
      · exact List.mem_cons_of_mem _ List.mem_cons_self

theorem mem_names_arrangedAxes_iff (statement : Statement) (query : TableQuery)
    (columns : SetExpr) (rows : Option SetExpr) (name : String) :
    name ∈ (arrangedAxes statement query columns rows).1.names ↔
      name ∈ statement.names ∨ rows ≠ none ∧ name = NamedSet.rows.text := by
  cases rows with
  | none => simp [arrangedAxes]
  | some rows =>
    have hnames : (arrangedAxes statement query columns (some rows)).1.names =
        statement.names ++ [NamedSet.rows.text] := Statement.names_defineSet ..
    rw [hnames]
    simp

/-- The axes of a table query are bound, rows with their own definition. -/
theorem bindsBoth_arrangedAxes {statement : Statement} {columns : SetExpr} {rows : Option SetExpr}
    (h : BindsBoth (statement, columns))
    (hsort : ∀ level ∈ query.options.sortLevels, level.name ∉ reservedNames)
    (hrows : ∀ set ∈ rows, set.IsBound statement.names) (hnone : statement.rows = none)
    (hnew : NamedSet.rows.text ∉ statement.names) :
    BindsBoth (arrangedAxes statement query columns rows) ∧
      ∀ set ∈ (arrangedAxes statement query columns rows).1.rows,
        set.IsBound (arrangedAxes statement query columns rows).1.names := by
  cases rows with
  | none =>
    refine ⟨⟨h.definitions, Mdx.isBound_arrange h.set hsort⟩, ?_⟩
    intro set hset
    rw [arrangedAxes, hnone] at hset
    cases hset
  | some rows =>
    have hnames : ((statement.defineSet NamedSet.rows.text rows).onRows (setNamed .rows)).names =
        statement.names ++ [NamedSet.rows.text] := Statement.names_defineSet ..
    refine ⟨⟨h.definitions.defineSet hnew (hrows rows rfl), ?_⟩, ?_⟩
    · rw [arrangedAxes, hnames]
      exact h.set.mono (List.subset_append_left _ _)
    · intro set hset
      cases hset
      rw [arrangedAxes, hnames]
      exact Mdx.isBound_named (List.mem_append_right _ List.mem_cons_self)

/-- The rows of a table query are bound. -/
theorem isBound_of_rowSet? {rows : Option SetExpr} (h : rowSet? split query = .ok rows)
    (hrows : Mdx.IsAttributeList query.rows)
    (hsort : ∀ level ∈ query.options.sortLevels, level.name ∉ reservedNames)
    (hcounted : ∀ level ∈ split.countedLevels, level.name ∉ reservedNames)
    (hmeasures : query.measures ≠ [] → NamedSet.measures.text ∈ names) :
    ∀ set ∈ rows, set.IsBound names := by
  rintro set rfl
  by_cases hnone : query.rows = []
  · rw [rowSet?, hnone] at h
    cases h
  · obtain ⟨found, heq, hfound⟩ := sortedSet?_of_rowSet? hnone h
    cases heq
    exact isBound_of_sortedSet? hnone hfound hrows.notReserved hsort hcounted hmeasures

/-- A table query counts a set of column and row attributes. -/
theorem levelsSet?_of_tableCountSet? {set : SetExpr}
    (h : tableCountSet? split query = .ok set) :
    ∃ levels, split.levelsSet? levels = .ok set ∧
      (levels = split.countedLevels ∨ levels = tableGrain query) := by
  rw [tableCountSet?] at h
  obtain ⟨counted, hcounted, h⟩ := steps_of_bind_eq_ok h
  cases counted with
  | some found =>
    cases h
    exact ⟨_, levelsSet?_of_countSet? hcounted, .inl rfl⟩
  | none =>
    obtain ⟨-, -, h⟩ := steps_of_bind_eq_ok h
    exact ⟨_, h, .inr rfl⟩

/-- The set that a table query counts is bound. -/
theorem isBound_of_requestedTableCount? {counted : Option SetExpr}
    (h : requestedTableCount? split query = .ok counted)
    (hcounted : ∀ level ∈ split.countedLevels, level.name ∉ reservedNames)
    (hgrain : ∀ level ∈ tableGrain query, level.name ∉ reservedNames) :
    ∀ set ∈ counted, set.IsBound names := by
  rintro set rfl
  cases hrequested : query.options.requestsTotalCount with
  | false =>
    rw [requestedTableCount?, hrequested] at h
    cases h
  | true =>
    rw [requestedTableCount?, hrequested, if_pos rfl] at h
    obtain ⟨found, heq, hfound⟩ := eq_ok_of_some_map_eq_ok h
    cases heq
    obtain ⟨levels, hset, rfl | rfl⟩ := levelsSet?_of_tableCountSet? hfound
    · exact isBound_of_levelsSet? hset hcounted
    · exact isBound_of_levelsSet? hset hgrain

/-- The columns of a table query are bound, the count behind them included. -/
theorem bindsBoth_countedColumns {statement : Statement} {columns : SetExpr}
    {counted : Option SetExpr} (h : BindsBoth (statement, columns))
    (hnew : CalculatedMember.totalCount.text ∉ statement.names)
    (hcounted : ∀ set ∈ counted, (withData query.measures set).IsBound statement.names) :
    BindsBoth (countedColumns statement query columns counted) ∧
      statement.names ⊆ (countedColumns statement query columns counted).1.names := by
  cases counted with
  | none => exact ⟨h, List.Subset.refl _⟩
  | some set =>
    refine ⟨h.counting (hcounted set rfl) hnew, ?_⟩
    rw [countedColumns, defineTotalCount, Statement.names_defineMember]
    exact List.subset_append_left _ _

/-- The statement of a table query is bound if its options bring in no reserved name. -/
theorem isBound_tableStatement {cube : String} {statement : Statement}
    (h : tableStatement? cube query = .ok statement)
    (havoids : query.options.AvoidsReservedNames) : statement.IsBound := by
  obtain ⟨split, columns, rows, counted, hsplit, hcolumn, hset, hrows, hcounted, rfl⟩ :=
    steps_of_tableStatement? h
  obtain ⟨hcolumns, hrowList, -, hmeasures, hdistinct⟩ :=
    (splitTable?_decides query).1.1 ⟨split, hsplit⟩
  obtain rfl := eq_between_of_splitTable? hsplit
  have hcountedLevels : ∀ level ∈ (FilterSplit.between (query.columns ++ query.rows)
      query.options.filters).countedLevels, level.name ∉ reservedNames := by
    intro level hlevel
    have hmem := ((mem_countedLevels_between hdistinct level).1 hlevel).1
    rcases List.mem_append.1 hmem with hmem | hmem
    · exact hcolumns.notReserved level hmem
    · exact hrowList.notReserved level hmem
  have hgrain : ∀ level ∈ tableGrain query, level.name ∉ reservedNames := by
    rw [tableGrain]
    cases query.rows.isEmpty with
    | false => exact hrowList.notReserved
    | true => exact hcolumns.notReserved
  -- Columns and their measures are defined first, the rows on top of them, and the count last.
  have hbroken := bindsBoth_tableColumns hcolumns hmeasures hset hcolumn cube
  have hnone := rows_tableColumns cube query columns
  have hnames := mem_names_tableColumns_iff cube query columns
  generalize hplanned : tableColumns (Statement.ofCube cube) query columns = broken
    at hbroken hnone hnames
  have hmeasured : query.measures ≠ [] → NamedSet.measures.text ∈ broken.1.names :=
    fun hne => (hnames _).2 (.inl ⟨hne, rfl⟩)
  have hrowsNew : NamedSet.rows.text ∉ broken.1.names := by
    rw [hnames]
    rintro (⟨-, heq⟩ | ⟨-, heq⟩)
    · exact absurd heq (by decide)
    · exact absurd heq (by decide)
  obtain ⟨harranged, haxis⟩ := bindsBoth_arrangedAxes hbroken havoids.sorted
    (isBound_of_rowSet? hrows hrowList havoids.sorted hcountedLevels hmeasured) hnone hrowsNew
  have harrangedNames := mem_names_arrangedAxes_iff broken.1 query broken.2 rows
  generalize hsorted : arrangedAxes broken.1 query broken.2 rows = arranged
    at harranged haxis harrangedNames
  have hcountNew : CalculatedMember.totalCount.text ∉ arranged.1.names := by
    rw [harrangedNames, hnames]
    rintro ((⟨-, heq⟩ | ⟨-, heq⟩) | ⟨-, heq⟩)
    · exact absurd heq (by decide)
    · exact absurd heq (by decide)
    · exact absurd heq (by decide)
  obtain ⟨hcounting, hsubset⟩ := bindsBoth_countedColumns harranged hcountNew
    fun set hmem => isBound_withData
      (isBound_of_requestedTableCount? hcounted hcountedLevels hgrain set hmem)
      fun hne => (harrangedNames _).2 (.inl (hmeasured hne))
  obtain ⟨hsubSelect, hslicer⟩ :=
    isBound_restrictions (query.columns ++ query.rows) hdistinct havoids
  have hrowsKept := rows_countedColumns arranged.1 query arranged.2 counted
  rw [tableStatement, hplanned]
  simp only [hsorted]
  refine ⟨hcounting.definitions, ?_⟩
  intro set hset
  simp only [Statement.clauses, List.mem_append] at hset
  rcases hset with ((hset | hset) | hset) | hset
  · cases List.mem_singleton.1 hset
    exact hcounting.set
  · have hmem : set ∈ arranged.1.rows := by
      rw [← hrowsKept]
      exact Option.mem_toList.1 hset
    exact (haxis set hmem).mono hsubset
  · exact hsubSelect set hset
  · exact hslicer set hset

end Table

end CubeQuery.Plan
