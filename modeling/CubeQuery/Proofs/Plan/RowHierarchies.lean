import CubeQuery.Proofs.Mdx.Hierarchies
import CubeQuery.Proofs.Plan.DimensionStatement
import CubeQuery.Proofs.Plan.TableStatement

set_option autoImplicit false

/-!
# What rows range over

The rows of a query may be made over more than its attributes: measures join them for selection, and
levels that are only sorted by or only counted join them for sorting. Whatever joined is projected
away, so that the tuples that come back are those of the attributes.

Main statement: the rows of an accepted query range over exactly its attributes, in their order
(`rows_range_over_attributes`).
-/

namespace CubeQuery.Plan

open Mdx (Level SetExpr Statement NamedSet Scope)
open Request (Options DimensionQuery TableQuery)

/-! ## Sets of levels -/

section Levels

variable {scope : Scope}

theorem hierarchies?_levelSet (split : FilterSplit) (level : Level) :
    (split.levelSet level).hierarchies? scope = some [level] :=
  level.hierarchies?_all _

theorem hierarchiesOf?_levelSets (split : FilterSplit) (levels : List Level) :
    Mdx.hierarchiesOf? scope (levels.map split.levelSet) =
      some (levels.map fun level => [level]) := by
  induction levels with
  | nil => rfl
  | cons level rest ih => simp [Mdx.hierarchiesOf?, hierarchies?_levelSet, ih]

/-- The cross join of the sets of levels ranges over the levels. -/
theorem hierarchies?_of_levelsSet? {split : FilterSplit} {levels : List Level} {set : SetExpr}
    (h : split.levelsSet? levels = .ok set) : set.hierarchies? scope = some levels := by
  rw [Mdx.hierarchies?_of_product? h (hierarchiesOf?_levelSets split levels)]
  exact congrArg some (List.flatMap_singleton' levels)

/-! ## Sorted sets -/

/-- What is left of the levels of a grain behind its projection. -/
def Grain.kept (grain : Grain) : List Level :=
  if grain.projection.isEmpty then grain.sorted else grain.projection

/-- Outer attributes and what is left of the grain are the attributes. -/
theorem outer_append_kept {attributes needed : List Level} {grain : Grain} (hne : attributes ≠ [])
    (h : IsGrainFor attributes needed grain) : grain.outer ++ grain.kept = attributes := by
  cases h with
  | unsorted _ => rfl
  | byMeasures _ _ happend => exact happend
  | covered _ _ happend _ => exact happend
  | widened _ => simp [Grain.kept, hne]

theorem hierarchies?_projected {set : SetExpr} {grain : Grain}
    (h : set.hierarchies? scope = some grain.sorted) :
    (grain.projected set).hierarchies? scope = some grain.kept := by
  rw [Grain.projected, Grain.kept]
  cases grain.projection with
  | nil => exact h
  | cons level rest => simp [SetExpr.hierarchies?]

/-- The sorted set of an axis ranges over its attributes, as long as the hook keeps hierarchies. -/
theorem hierarchies?_of_sortedSet? {split : FilterSplit} {attributes : List Level}
    {options : Options} {setup : SetExpr → SetExpr} {set : SetExpr} (hne : attributes ≠ [])
    (hsetup : ∀ base : SetExpr, (setup base).hierarchies? scope = base.hierarchies? scope)
    (h : split.sortedSet? attributes options setup = .ok set) :
    set.hierarchies? scope = some attributes := by
  obtain ⟨base, sorted, hbase, hproduct, hsorted⟩ := sortedSet?_eq_ok split hne options setup
  have hgrain := isGrainFor_plan hne (split.neededLevels options)
  generalize Grain.plan attributes (split.neededLevels options) = grain at hbase hproduct hgrain
  cases hsorted.symm.trans h
  -- Only the grain is sorted and projected; outer attributes stand beside it as they are.
  have harranged : (options.arrange (setup base)).hierarchies? scope = some grain.sorted := by
    rw [Mdx.hierarchies?_arrange, hsetup, hierarchies?_of_levelsSet? hbase]
  have hinner : Mdx.hierarchiesOf? scope [grain.projected (options.arrange (setup base))] =
      some [grain.kept] := by
    simp [Mdx.hierarchiesOf?, hierarchies?_projected harranged]
  rw [Mdx.hierarchies?_of_product? hproduct
    (Mdx.hierarchiesOf?_append (hierarchiesOf?_levelSets split grain.outer) hinner),
    List.flatten_append, List.flatten_singleton, ← List.flatMap_def, List.flatMap_singleton',
    outer_append_kept hne hgrain]

end Levels

/-! ## Rows of dimension queries -/

theorem scope_dimensionColumns (statement : Statement) (query : DimensionQuery) (rows : SetExpr)
    (counted : Option SetExpr) :
    (dimensionColumns statement query rows counted).1.scope = statement.scope := by
  rw [dimensionColumns]
  cases query.options.requestsTotalCount with
  | false => rfl
  | true => exact Statement.scope_defineMember ..

/-- The rows of a dimension query range over its attributes: they are projected to them, or they are
the defined set of the attributes, which then is that of all queried levels. -/
theorem rowHierarchies?_dimensionStatement {query : DimensionQuery} {split : FilterSplit}
    {attributes : SetExpr} (h : split.levelsSet? (queriedLevels query) = .ok attributes)
    (cube : String) (counted : Option SetExpr) :
    (dimensionStatement cube query split attributes counted).rowHierarchies? =
      some query.attributes := by
  generalize hstart : (Statement.ofCube cube).defineSet NamedSet.attributes.text attributes = start
  have hrows : (dimensionStatement cube query split attributes counted).rowHierarchies? =
      (projected query (query.options.arrange (flaggedRows start query).2)).hierarchies?
        (dimensionColumns (flaggedRows start query).1 query (flaggedRows start query).2
          counted).1.scope := by
    rw [← hstart]
    rfl
  rw [hrows, scope_dimensionColumns, projected]
  cases hwidened : isWidened query with
  | true => simp [SetExpr.hierarchies?]
  | false =>
    -- Nothing joined the attributes, so that the set defined for all queried levels is theirs.
    rw [isWidened, Bool.or_eq_false_iff, Bool.not_eq_false', Bool.not_eq_false',
      List.isEmpty_iff, List.isEmpty_iff] at hwidened
    obtain ⟨hforeign, hmeasures⟩ := hwidened
    have hlevels : queriedLevels query = query.attributes := by
      rw [queriedLevels, hforeign, List.append_nil]
    have hflagged : flaggedRows start query =
        (defineFlag start (.whole 1), setNamed .attributes) := by
      rw [flaggedRows, hmeasures]
    rw [hflagged, if_neg Bool.false_ne_true, Mdx.hierarchies?_arrange, setNamed,
      SetExpr.hierarchies?, defineFlag, Statement.scope_defineMember, ← hstart,
      Statement.scope_defineSet_self, hierarchies?_of_levelsSet? h, hlevels]

/-! ## Rows of table queries -/

theorem hierarchies?_withData {scope : Scope} (measures : List Level) (set : SetExpr) :
    (withData measures set).hierarchies? scope = set.hierarchies? scope := by
  rw [withData]
  cases measures with
  | nil => rfl
  | cons first rest => simp [SetExpr.hierarchies?]

theorem scope_countedColumns (statement : Statement) (query : TableQuery) (columns : SetExpr)
    (counted : Option SetExpr) :
    (countedColumns statement query columns counted).1.scope = statement.scope := by
  cases counted with
  | none => rfl
  | some set => exact Statement.scope_defineMember ..

/-- The rows of a table query are the defined set of its sorted rows. -/
theorem rowHierarchies?_tableStatement {query : TableQuery} {split : FilterSplit}
    {rows : SetExpr} (hne : query.rows ≠ [])
    (h : split.sortedSet? query.rows query.options (withData query.measures) = .ok rows)
    (cube : String) (columns counted : Option SetExpr) :
    (tableStatement cube query split columns (some rows) counted).rowHierarchies? =
      some query.rows := by
  generalize hbroken : tableColumns (Statement.ofCube cube) query columns = broken
  have hrows : (tableStatement cube query split columns (some rows) counted).rowHierarchies? =
      (setNamed .rows).hierarchies?
        (countedColumns ((broken.1.defineSet NamedSet.rows.text rows).onRows (setNamed .rows))
          query broken.2 counted).1.scope := by
    rw [← hbroken]
    cases counted with
    | none => rfl
    | some set => rfl
  -- What follows the definition of the rows defines members only.
  have hscope : ((broken.1.defineSet NamedSet.rows.text rows).onRows (setNamed .rows)).scope =
      (broken.1.defineSet NamedSet.rows.text rows).scope := rfl
  rw [hrows, scope_countedColumns, hscope, setNamed, SetExpr.hierarchies?,
    Statement.scope_defineSet_self]
  exact hierarchies?_of_sortedSet? hne (hierarchies?_withData query.measures) h

/-! ## Accepted queries -/

/-- The text of a dimension query is that of the statement it is compiled to. -/
theorem statement_of_dimensionText? {cube : String} {query : DimensionQuery} {text : String}
    (h : dimensionText? cube query = .ok text) :
    ∃ split attributes counted, split.levelsSet? (queriedLevels query) = .ok attributes ∧
      dimensionStatement? cube query =
        .ok (dimensionStatement cube query split attributes counted) ∧
      (dimensionStatement cube query split attributes counted).text? = .ok text := by
  obtain ⟨statement, hstatement, htext⟩ := steps_of_bind_eq_ok h
  obtain ⟨split, attributes, counted, -, hattributes, -, rfl⟩ :=
    steps_of_dimensionStatement? hstatement
  exact ⟨split, attributes, counted, hattributes, hstatement, htext⟩

/-- The text of a table query is that of the statement it is compiled to. -/
theorem statement_of_tableText? {cube : String} {query : TableQuery} {text : String}
    (h : tableText? cube query = .ok text) :
    ∃ split columns rows counted, rowSet? split query = .ok rows ∧
      tableStatement? cube query = .ok (tableStatement cube query split columns rows counted) ∧
      (tableStatement cube query split columns rows counted).text? = .ok text := by
  obtain ⟨statement, hstatement, htext⟩ := steps_of_bind_eq_ok h
  obtain ⟨split, columns, rows, counted, -, -, -, hrows, -, rfl⟩ :=
    steps_of_tableStatement? hstatement
  exact ⟨split, columns, rows, counted, hrows, hstatement, htext⟩

/-- With row attributes there is a set of rows, and it is the sorted one. -/
theorem sortedSet?_of_rowSet? {split : FilterSplit} {query : TableQuery} {rows : Option SetExpr}
    (hne : query.rows ≠ []) (h : rowSet? split query = .ok rows) :
    ∃ set, rows = some set ∧
      split.sortedSet? query.rows query.options (withData query.measures) = .ok set := by
  rw [rowSet?, List.isEmpty_eq_false_iff.2 hne, if_neg Bool.false_ne_true] at h
  exact eq_ok_of_some_map_eq_ok h

/-- **The rows of an accepted query range over exactly its attributes, in their order.** -/
theorem rows_range_over_attributes (cube : String) :
    (∀ query text, dimensionText? cube query = .ok text →
      ∃ statement, dimensionStatement? cube query = .ok statement ∧
        statement.text? = .ok text ∧ statement.rowHierarchies? = some query.attributes) ∧
    ∀ query text, tableText? cube query = .ok text → query.rows ≠ [] →
      ∃ statement, tableStatement? cube query = .ok statement ∧
        statement.text? = .ok text ∧ statement.rowHierarchies? = some query.rows := by
  constructor
  · intro query text h
    obtain ⟨split, attributes, counted, hset, hstatement, htext⟩ := statement_of_dimensionText? h
    exact ⟨_, hstatement, htext, rowHierarchies?_dimensionStatement hset cube counted⟩
  · intro query text h hne
    obtain ⟨split, columns, rows, counted, hrows, hstatement, htext⟩ := statement_of_tableText? h
    obtain ⟨set, rfl, hset⟩ := sortedSet?_of_rowSet? hne hrows
    exact ⟨_, hstatement, htext, rowHierarchies?_tableStatement hne hset cube columns counted⟩

/-- Options that sort by a measure and by a level of another dimension, and page. -/
private def pagedByYear : Options :=
  ⟨[], [.descending ⟨"[Measures].[Sales]"⟩, .ofLevel ⟨"[Date].[Year]"⟩], some 2, some 3, true⟩

/-- Cities with sales, sorted by year. -/
private def soldCities : DimensionQuery :=
  ⟨[⟨"[Geo].[Country]"⟩, ⟨"[Geo].[City]"⟩], [⟨"[Measures].[Sales]"⟩], some .nonEmpty, pagedByYear⟩

/-- Sales by city, sorted by year. -/
private def salesByCity : TableQuery :=
  ⟨[], [⟨"[Measures].[Sales]"⟩], [⟨"[Geo].[Country]"⟩, ⟨"[Geo].[City]"⟩], pagedByYear⟩

/-- A measure and a foreign sort level join the rows and are projected away. -/
theorem rows_range_over_cities :
    (∃ text, dimensionText? "Sales" soldCities = .ok text ∧
      ∃ statement, dimensionStatement? "Sales" soldCities = .ok statement ∧
        statement.text? = .ok text ∧ statement.rowHierarchies? = some soldCities.attributes) ∧
    ∃ text, tableText? "Sales" salesByCity = .ok text ∧ salesByCity.rows ≠ [] ∧
      ∃ statement, tableStatement? "Sales" salesByCity = .ok statement ∧
        statement.text? = .ok text ∧ statement.rowHierarchies? = some salesByCity.rows :=
  ⟨⟨_, rfl, (rows_range_over_attributes "Sales").1 soldCities _ rfl⟩,
    _, rfl, nofun, (rows_range_over_attributes "Sales").2 salesByCity _ rfl nofun⟩

end CubeQuery.Plan
