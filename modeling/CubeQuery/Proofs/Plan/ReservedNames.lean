import CubeQuery.Proofs.Plan.BoundStatements
import CubeQuery.Proofs.Plan.CountedColumns

set_option autoImplicit false

/-!
# Reserved names

Attributes and measures with reserved names are refused. Levels that are sorted by and filters come
from a caller as well, and they are not checked: with a reserved name among them, a set may be made
of itself.

Main statements: the statement of an accepted query keeps the caller's names apart from the reserved
ones and defines every reserved name that it uses once and ahead of its uses exactly if neither a
sort key nor a filter with a condition brings in a reserved name (`defines_before_use_iff`), and
sorting by the defined set of the attributes makes that set of itself (`attributes_use_themselves`).
-/

namespace CubeQuery.Plan

open Mdx (Level SetExpr Mention Statement reservedNames)
open Request (Filter Options DimensionQuery TableQuery)

/-! ## Names that are brought in -/

/-- What sort keys and filters of a statement bring in is kept apart with all other names. -/
theorem avoidsReservedNames_of_keepsNamesApart {statement : Statement} {options : Options}
    (levels : List Level) (hdistinct : (options.filters.map (·.level)).Nodup)
    (hsubSelect : statement.subSelect = (FilterSplit.between levels options.filters).subSelect)
    (hslicer : statement.slicer = (FilterSplit.between levels options.filters).slicer)
    (hsort : ∀ level ∈ options.sortLevels, level.mention ∈ statement.mentions)
    (h : statement.KeepsNamesApart) : options.AvoidsReservedNames := by
  have hfilters : ∀ filter ∈ options.filters, filter.hasCondition = true →
      ∀ text, FilterMentions filter (.supplied text) → text ∉ reservedNames := by
    intro filter hfilter hcondition text hmention
    apply h text
    rw [Statement.mem_mentions_iff, Statement.clauses, hsubSelect, hslicer]
    rcases (mem_mentions_restrictions_iff levels hdistinct).2
      ⟨filter, hfilter, hcondition, hmention⟩ with ⟨set, hset, hin⟩ | ⟨set, hset, hin⟩
    · exact .inr ⟨set, List.mem_append_left _ (List.mem_append_right _ hset), hin⟩
    · exact .inr ⟨set, List.mem_append_right _ hset, hin⟩
  refine ⟨?_, ?_, ?_⟩
  · intro level hlevel
    exact h level.name (hsort level hlevel)
  · intro filter hfilter hcondition
    exact hfilters filter hfilter hcondition _ .level
  · intro filter hfilter hcomparison value hvalue
    have hcondition : filter.hasCondition = true := by
      rw [Filter.hasCondition, hcomparison]
      rfl
    exact hfilters filter hfilter hcondition _ (.value hcomparison hvalue)

/-- The rows of a dimension query mention the levels it sorts by. -/
theorem sortLevels_mentioned_by_dimension {cube : String} {query : DimensionQuery}
    {split : FilterSplit} {attributes : SetExpr} {counted : Option SetExpr} {level : Level}
    (h : level ∈ query.options.sortLevels) :
    level.mention ∈ (dimensionStatement cube query split attributes counted).mentions := by
  rw [Statement.mem_mentions_iff]
  refine .inr ⟨_, List.mem_append_left _ (List.mem_append_left _
    (List.mem_append_right _ List.mem_cons_self)), ?_⟩
  -- Sort keys are projected away from the rows, but not from their expression.
  have harranged : ∀ rows : SetExpr,
      level.mention ∈ (projected query (query.options.arrange rows)).mentions := by
    intro rows
    have hmention := (@Mdx.mem_mentions_arrange_iff _ query.options rows).2
      (.inr ⟨level, h, rfl⟩)
    rw [projected]
    cases isWidened query with
    | false => exact hmention
    | true =>
      rw [if_pos rfl, SetExpr.mentions]
      exact List.mem_append_left _ hmention
  exact harranged _

/-- The rows of a table query mention the levels it sorts by, or its columns do where there are no
rows. -/
theorem sortLevels_mentioned_by_table {cube : String} {query : TableQuery} {split : FilterSplit}
    {columns rows counted : Option SetExpr} (hrows : rowSet? split query = .ok rows)
    {level : Level} (h : level ∈ query.options.sortLevels) :
    level.mention ∈ (tableStatement cube query split columns rows counted).mentions := by
  rw [Statement.mem_mentions_iff]
  by_cases hnone : query.rows = []
  · -- Without rows the columns are sorted, and a count may stand behind them.
    rw [rowSet?, hnone] at hrows
    cases hrows
    refine .inr ⟨_, List.mem_append_left _ (List.mem_append_left _
      (List.mem_append_left _ List.mem_cons_self)), ?_⟩
    have harranged := (@Mdx.mem_mentions_arrange_iff _ query.options
      (tableColumns (Statement.ofCube cube) query columns).2).2 (.inr ⟨level, h, rfl⟩)
    cases counted with
    | none => exact harranged
    | some set =>
      simp only [countedColumns, SetExpr.mentions]
      exact List.mem_append_left _ harranged
  · -- With rows it is the definition of these that is sorted.
    obtain ⟨set, rfl, hset⟩ := sortedSet?_of_rowSet? hnone hrows
    have hdefined := definition?_tableStatement cube query split columns set counted
    exact .inl ⟨_, List.mem_of_find?_eq_some hdefined,
      (mem_mentions_of_sortedSet? hnone hset).2 (.inl ⟨level, .inr (.inl h), rfl⟩)⟩

/-- **Reserved names are defined once and before use exactly if no caller's name is one of them.**
Attributes and measures never are; sort keys and filters with a condition have to be kept clear. -/
theorem defines_before_use_iff (cube : String) :
    (∀ query text, dimensionText? cube query = .ok text →
      ∃ statement, dimensionStatement? cube query = .ok statement ∧
        statement.text? = .ok text ∧
        (statement.KeepsNamesApart ∧ (∀ name ∈ reservedNames, statement.DefinesBeforeUse name) ↔
          query.options.AvoidsReservedNames)) ∧
    ∀ query text, tableText? cube query = .ok text →
      ∃ statement, tableStatement? cube query = .ok statement ∧ statement.text? = .ok text ∧
        (statement.KeepsNamesApart ∧ (∀ name ∈ reservedNames, statement.DefinesBeforeUse name) ↔
          query.options.AvoidsReservedNames) := by
  constructor
  · intro query text h
    obtain ⟨statement, hstatement, htext⟩ := steps_of_bind_eq_ok h
    refine ⟨statement, hstatement, htext, ?_, ?_⟩
    · rintro ⟨hapart, -⟩
      obtain ⟨split, attributes, counted, hsplit, -, -, rfl⟩ :=
        steps_of_dimensionStatement? hstatement
      obtain ⟨-, -, -, hdistinct⟩ := (splitDimension?_decides query).1.1 ⟨split, hsplit⟩
      obtain rfl := eq_between_of_splitDimension? hsplit
      exact avoidsReservedNames_of_keepsNamesApart (queriedLevels query) hdistinct rfl rfl
        (fun _ => sortLevels_mentioned_by_dimension) hapart
    · intro havoids
      have hbound := isBound_dimensionStatement hstatement havoids
      exact ⟨hbound.keepsNamesApart, fun _ hname => hbound.definesBeforeUse hname⟩
  · intro query text h
    obtain ⟨statement, hstatement, htext⟩ := steps_of_bind_eq_ok h
    refine ⟨statement, hstatement, htext, ?_, ?_⟩
    · rintro ⟨hapart, -⟩
      obtain ⟨split, columns, rows, counted, hsplit, -, -, hrows, -, rfl⟩ :=
        steps_of_tableStatement? hstatement
      obtain ⟨-, -, -, -, hdistinct⟩ := (splitTable?_decides query).1.1 ⟨split, hsplit⟩
      obtain rfl := eq_between_of_splitTable? hsplit
      exact avoidsReservedNames_of_keepsNamesApart (query.columns ++ query.rows) hdistinct rfl rfl
        (fun _ => sortLevels_mentioned_by_table hrows) hapart
    · intro havoids
      have hbound := isBound_tableStatement hstatement havoids
      exact ⟨hbound.keepsNamesApart, fun _ hname => hbound.definesBeforeUse hname⟩

/-- The page of the best sold of some years, counted. -/
private def bestYears : Options :=
  ⟨[(Filter.ofLevel ⟨"[Date].[Year]"⟩).comparing .atLeast (some (.text "2000"))],
    [.descending ⟨"[Measures].[Sales]"⟩, .ofLevel ⟨"[Date].[Year]"⟩], some 1, some 3, true⟩

/-- Cities with sales, by year. -/
private def bestCities : DimensionQuery :=
  ⟨[⟨"[Geo].[City]"⟩], [⟨"[Measures].[Sales]"⟩], some .nonEmpty, bestYears⟩

/-- Sales by city in the given columns. -/
private def salesOfBestCities : TableQuery :=
  ⟨[⟨"[Product].[Name]"⟩], [⟨"[Measures].[Sales]"⟩], [⟨"[Geo].[City]"⟩], bestYears⟩

/-- Sorted, filtered and counted, statements define what they use, and ahead of it. -/
theorem cities_defined_before_use :
    (∃ text, dimensionText? "Sales" bestCities = .ok text ∧
      ∃ statement, dimensionStatement? "Sales" bestCities = .ok statement ∧
        statement.text? = .ok text ∧ statement.KeepsNamesApart ∧
        ∀ name ∈ reservedNames, statement.DefinesBeforeUse name) ∧
    ∃ text, tableText? "Sales" salesOfBestCities = .ok text ∧
      ∃ statement, tableStatement? "Sales" salesOfBestCities = .ok statement ∧
        statement.text? = .ok text ∧ statement.KeepsNamesApart ∧
        ∀ name ∈ reservedNames, statement.DefinesBeforeUse name := by
  have havoids : bestYears.AvoidsReservedNames := by
    refine ⟨by decide, ?_, ?_⟩
    · intro filter hfilter _
      cases List.mem_singleton.1 hfilter
      decide
    · intro filter hfilter _ value hvalue
      cases List.mem_singleton.1 hfilter
      cases hvalue
      decide
  constructor
  · obtain ⟨statement, hstatement, htext, hiff⟩ :=
      (defines_before_use_iff "Sales").1 bestCities _ rfl
    exact ⟨_, rfl, statement, hstatement, htext, hiff.2 havoids⟩
  · obtain ⟨statement, hstatement, htext, hiff⟩ :=
      (defines_before_use_iff "Sales").2 salesOfBestCities _ rfl
    exact ⟨_, rfl, statement, hstatement, htext, hiff.2 havoids⟩

/-- Cities in the order of a level that has the name of the set of attributes. -/
private def citiesByAttributes : DimensionQuery :=
  ⟨[⟨"[Geo].[City]"⟩], [], none, ⟨[], [.ofLevel ⟨"[queryAttributes]"⟩], none, none, false⟩⟩

/-- Sorted by the set of its attributes, a dimension query defines that set by itself. -/
theorem attributes_use_themselves :
    ∃ text statement, dimensionText? "Sales" citiesByAttributes = .ok text ∧
      dimensionStatement? "Sales" citiesByAttributes = .ok statement ∧
      statement.definition? "[queryAttributes]" = some (.set "[queryAttributes]"
        (.crossJoin (.children ⟨"[Geo].[City]"⟩) [.children ⟨"[queryAttributes]"⟩])) ∧
      "[queryAttributes]" ∈ reservedNames ∧ ¬ statement.DefinesBeforeUse "[queryAttributes]" ∧
      ¬ statement.KeepsNamesApart := by
  have hmention : Mention.supplied "[queryAttributes]" ∈ (SetExpr.crossJoin
      (.children ⟨"[Geo].[City]"⟩) [.children ⟨"[queryAttributes]"⟩]).mentions := by
    simp [SetExpr.mentions, Mdx.mentionsOf, Level.mention]
  refine ⟨_, _, rfl, rfl, rfl, by decide, ?_, ?_⟩
  · intro h
    -- Nothing stands ahead of the first definition.
    obtain ⟨earlier, hearlier, -⟩ := h.ahead [] _ _ rfl ⟨_, hmention, rfl⟩
    cases hearlier
  · intro h
    refine h "[queryAttributes]" ?_ (by decide)
    exact List.mem_append_left _ (List.mem_append_left _ hmention)

end CubeQuery.Plan
