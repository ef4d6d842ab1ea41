import CubeQuery.Proofs.Plan.TableStatement

set_option autoImplicit false

/-!
# Which table queries are accepted

A table query is compiled under conditions on its columns, rows, measures and filters. Two of them
are checked late: there must be something for columns, and where a count is asked for there must be
some attribute to count.

Main statement: these conditions are exactly what acceptance takes, and a query without them is
refused for its attributes, its measures, its filters or its shape (`tableText?_accepts`).
-/

namespace CubeQuery.Plan

open Mdx (Level Statement)
open Request (Options TableQuery)

/-- Table queries that have a statement. -/
structure AcceptableTable (query : TableQuery) : Prop where
  columns : Mdx.IsAttributeList query.columns
  rows : Mdx.IsAttributeList query.rows
  disjoint : ∀ level ∈ query.columns, level ∉ query.rows
  measures : Mdx.IsMeasureList query.measures
  filteredOnce : (query.options.filters.map (·.level)).Nodup
  hasColumn : query.columns ≠ [] ∨ query.measures ≠ []
  hasCounted : (query.options.includeTotalCount = true ∨
      ∃ filter ∈ query.options.filters, filter.includeTotalCount = true) →
    query.columns ≠ [] ∨ query.rows ≠ []

theorem acceptableTable_iff (query : TableQuery) :
    AcceptableTable query ↔
      (Mdx.IsAttributeList query.columns ∧ Mdx.IsAttributeList query.rows ∧
        (∀ level ∈ query.columns, level ∉ query.rows) ∧ Mdx.IsMeasureList query.measures ∧
        (query.options.filters.map (·.level)).Nodup) ∧
      (query.columns.isEmpty && query.measures.isEmpty) = false ∧
      (query.options.requestsTotalCount = true → query.columns ≠ [] ∨ query.rows ≠ []) := by
  have hcolumn : (query.columns.isEmpty && query.measures.isEmpty) = false ↔
      query.columns ≠ [] ∨ query.measures ≠ [] := by
    rw [Bool.and_eq_false_iff, List.isEmpty_eq_false_iff, List.isEmpty_eq_false_iff]
  rw [hcolumn, requestsTotalCount_iff]
  constructor
  · intro h
    exact ⟨⟨h.columns, h.rows, h.disjoint, h.measures, h.filteredOnce⟩, h.hasColumn, h.hasCounted⟩
  · rintro ⟨⟨hcolumns, hrows, hdisjoint, hmeasures, hfilters⟩, hcolumn, hcounted⟩
    exact ⟨hcolumns, hrows, hdisjoint, hmeasures, hfilters, hcolumn, hcounted⟩

/-! ## Axes -/

theorem columnSet?_isOk (split : FilterSplit) (query : TableQuery) :
    ∃ columns, columnSet? split query = .ok columns := by
  by_cases h : query.columns = []
  · rw [columnSet?, h]
    exact ⟨none, rfl⟩
  · obtain ⟨set, hset⟩ := split.levelsSet?_isOk h
    rw [columnSet?, List.isEmpty_eq_false_iff.2 h, hset]
    exact ⟨some set, rfl⟩

theorem rowSet?_isOk (split : FilterSplit) (query : TableQuery) :
    ∃ rows, rowSet? split query = .ok rows := by
  by_cases h : query.rows = []
  · rw [rowSet?, h]
    exact ⟨none, rfl⟩
  · obtain ⟨-, set, -, -, hset⟩ :=
      sortedSet?_eq_ok split h query.options (withData query.measures)
    rw [rowSet?, List.isEmpty_eq_false_iff.2 h, hset]
    exact ⟨some set, rfl⟩

/-! ## Counts -/

theorem tableGrain_ne_nil_iff (query : TableQuery) :
    tableGrain query ≠ [] ↔ query.columns ≠ [] ∨ query.rows ≠ [] := by
  rw [tableGrain]
  by_cases h : query.rows = []
  · simp [h]
  · simp [h]

/-- The counted levels of an accepted split are attributes. -/
theorem countSet?_isOk_of_splitTable? {query : TableQuery} {split : FilterSplit}
    (h : splitTable? query = .ok split) :
    (∃ counted, split.countSet? = .ok counted) ∧
      ∀ level ∈ split.countedLevels, level ∈ query.columns ++ query.rows := by
  obtain ⟨hcolumns, hrows, hdisjoint, -, hfilters⟩ := (splitTable?_decides query).1.1 ⟨split, h⟩
  obtain rfl := eq_between_of_splitTable? h
  have hnodup : (query.columns ++ query.rows).Nodup := by
    refine List.nodup_append.2 ⟨hcolumns.distinct, hrows.distinct, ?_⟩
    rintro level hlevel _ hmem rfl
    exact hdisjoint level hlevel hmem
  have hqueried : ∀ level ∈ (FilterSplit.between (query.columns ++ query.rows)
      query.options.filters).countedLevels, level ∈ query.columns ++ query.rows := by
    intro level hlevel
    exact ((mem_countedLevels_between hfilters level).1 hlevel).1
  refine ⟨(countSet?_decides (nodup_countedLevels_between hnodup _)).1.2 ?_, hqueried⟩
  intro level hlevel
  rcases List.mem_append.1 (hqueried level hlevel) with hcolumn | hrow
  · exact ⟨hcolumns.bracketed level hcolumn, hcolumns.ofKind level hcolumn⟩
  · exact ⟨hrows.bracketed level hrow, hrows.ofKind level hrow⟩

/-- A set to count exists if there are attributes. -/
theorem tableCountSet?_decides {query : TableQuery} {split : FilterSplit}
    (h : splitTable? query = .ok split) :
    Decides (query.columns ≠ [] ∨ query.rows ≠ []) (tableCountSet? split query) := by
  obtain ⟨⟨counted, hcount⟩, hqueried⟩ := countSet?_isOk_of_splitTable? h
  rw [tableCountSet?]
  apply Decides.bind_ok hcount
  cases counted with
  | some set =>
    -- A counted level is an attribute, so that there is one.
    have hne : split.countedLevels ≠ [] := by
      intro hnil
      rw [countSet?_of_eq_nil hnil] at hcount
      cases hcount
    obtain ⟨level, hlevel⟩ := List.exists_mem_of_ne_nil _ hne
    have hattribute : query.columns ≠ [] ∨ query.rows ≠ [] :=
      (List.mem_append.1 (hqueried level hlevel)).imp List.ne_nil_of_mem List.ne_nil_of_mem
    exact (Decides.of_eq_ok rfl).congr (iff_of_true trivial hattribute)
  | none =>
    have hrefuse := @refuseIf_decides (.invalidQuery .nothingToCount) rfl (tableGrain query).isEmpty
    rw [← tableGrain_ne_nil_iff, ← List.isEmpty_eq_false_iff]
    apply hrefuse.bind_isOk
    intro _ hpass
    exact split.levelsSet?_isOk (List.isEmpty_eq_false_iff.1 (hrefuse.1.1 ⟨_, hpass⟩))

theorem requestedTableCount?_decides {query : TableQuery} {split : FilterSplit}
    (h : splitTable? query = .ok split) :
    Decides (query.options.requestsTotalCount = true → query.columns ≠ [] ∨ query.rows ≠ [])
      (requestedTableCount? split query) := by
  rw [requestedTableCount?]
  exact ((tableCountSet?_decides h).map some).ite_ok query.options.requestsTotalCount none

/-! ## Acceptance -/

/-- The compilation of a table query decides whether it is acceptable. -/
theorem tableText?_decides (cube : String) (query : TableQuery) :
    Decides (AcceptableTable query) (tableText? cube query) := by
  rw [acceptableTable_iff, tableText?, tableStatement?_eq]
  simp only [bind_assoc]
  apply (splitTable?_decides query).bind
  intro split hsplit _
  apply (refuseIf_decides rfl _).bind
  intro _ _ _
  obtain ⟨columns, hcolumns⟩ := columnSet?_isOk split query
  obtain ⟨rows, hrows⟩ := rowSet?_isOk split query
  apply Decides.bind_ok hcolumns
  apply Decides.bind_ok hrows
  -- Behind the checks only the count can fail: a statement that was made has columns.
  apply (requestedTableCount?_decides hsplit).bind_isOk
  intro counted _
  exact ⟨_, rfl⟩

/-- **Exactly the acceptable table queries are compiled.** Every other one is refused for its
attributes, its measures, its filters or its shape. -/
theorem tableText?_accepts (cube : String) (query : TableQuery) :
    ((∃ text, tableText? cube query = .ok text) ↔ AcceptableTable query) ∧
      ∀ e, tableText? cube query = .error e →
        (∃ fault, e = .invalidAttribute fault) ∨ (∃ fault, e = .invalidMeasure fault) ∨
          (∃ fault, e = .invalidFilter fault) ∨ ∃ fault, e = .invalidQuery fault := by
  obtain ⟨haccepts, hfails⟩ := tableText?_decides cube query
  refine ⟨haccepts, ?_⟩
  intro e he
  exact (Error.isRefusal_iff e).1 (hfails e he)

example :
    tableText? "Sales" ⟨[], [⟨"[Measures].[Sales]"⟩], [], Options.none.counting⟩ =
      .error (.invalidQuery .nothingToCount) := by
  rfl

end CubeQuery.Plan
