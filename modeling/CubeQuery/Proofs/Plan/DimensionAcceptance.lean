import CubeQuery.Proofs.Plan.DimensionStatement

set_option autoImplicit false

/-!
# Which dimension queries are accepted

A dimension query is compiled under conditions on its attributes, measures, filters and sort keys.
The one condition that is checked late concerns levels that are only sorted by: where their filter
asks for a count, they must be shaped as levels.

Main statement: these conditions are exactly what acceptance takes, and a query without them is
refused for its attributes, its measures, its filters or its shape (`dimensionText?_accepts`).
-/

namespace CubeQuery.Plan

open Mdx (Level Statement)
open Request (Options DimensionQuery)

/-- The levels that a query is only sorted by are shaped as levels if their filter asks for a
count. -/
def SortsByCountable (query : DimensionQuery) : Prop :=
  ∀ level ∈ query.options.sortLevels, ¬ level.IsMeasure → level ∉ query.attributes →
    (∃ filter ∈ query.options.filters,
      filter.level = level ∧ filter.includeTotalCount = true) →
    level.IsBracketed

/-- Dimension queries that have a statement. -/
structure AcceptableDimension (query : DimensionQuery) : Prop where
  hasAttribute : query.attributes ≠ []
  attributes : Mdx.IsAttributeList query.attributes
  measures : Mdx.IsMeasureList query.measures
  filteredOnce : (query.options.filters.map (·.level)).Nodup
  countable : SortsByCountable query

/-- Attributes may be counted; of the levels that are only sorted by, the counted ones are to be
shaped as levels. -/
theorem countable_iff {query : DimensionQuery} (hattributes : Mdx.IsAttributeList query.attributes)
    (hfilters : (query.options.filters.map (·.level)).Nodup) :
    (query.options.requestsTotalCount = true →
        ∀ level ∈ (FilterSplit.between (queriedLevels query) query.options.filters).countedLevels,
          level.IsBracketed ∧ ¬ level.IsMeasure) ↔
      SortsByCountable query := by
  constructor
  · rintro h level hsort hmeasure hnot ⟨filter, hfilter, hlevel, hcount⟩
    have hqueried : level ∈ queriedLevels query :=
      List.mem_append_right _ ((mem_foreignLevels_iff _ _ level).2 ⟨hsort, hmeasure, hnot⟩)
    have hcounted := (mem_countedLevels_between hfilters level).2
      ⟨hqueried, filter, hfilter, hlevel, hcount⟩
    have hrequested := (requestsTotalCount_iff _).2 (.inr ⟨filter, hfilter, hcount⟩)
    exact (h hrequested level hcounted).1
  · intro h _ level hcounted
    obtain ⟨hqueried, hfilter⟩ := (mem_countedLevels_between hfilters level).1 hcounted
    rcases List.mem_append.1 hqueried with hattribute | hforeign
    · exact ⟨hattributes.bracketed level hattribute, hattributes.ofKind level hattribute⟩
    · obtain ⟨hsort, hmeasure, hnot⟩ := (mem_foreignLevels_iff _ _ level).1 hforeign
      exact ⟨h level hsort hmeasure hnot hfilter, hmeasure⟩

theorem acceptableDimension_iff (query : DimensionQuery) :
    AcceptableDimension query ↔
      (query.attributes ≠ [] ∧ Mdx.IsAttributeList query.attributes ∧
        Mdx.IsMeasureList query.measures ∧ (query.options.filters.map (·.level)).Nodup) ∧
        SortsByCountable query := by
  constructor
  · intro h
    exact ⟨⟨h.hasAttribute, h.attributes, h.measures, h.filteredOnce⟩, h.countable⟩
  · rintro ⟨⟨hne, hattributes, hmeasures, hfilters⟩, hcountable⟩
    exact ⟨hne, hattributes, hmeasures, hfilters, hcountable⟩

/-- The compilation of a dimension query decides whether it is acceptable. -/
theorem dimensionText?_decides (cube : String) (query : DimensionQuery) :
    Decides (AcceptableDimension query) (dimensionText? cube query) := by
  rw [acceptableDimension_iff, dimensionText?, dimensionStatement?_eq]
  simp only [bind_assoc]
  apply (splitDimension?_decides query).bind
  rintro split hsplit ⟨hne, hattributes, -, hfilters⟩
  obtain rfl := eq_between_of_splitDimension? hsplit
  have hlevels : queriedLevels query ≠ [] := List.append_ne_nil_of_left_ne_nil hne _
  have hcounted := nodup_countedLevels_between
    ((nodup_append_foreignLevels_iff query.attributes query.options).2 hattributes.distinct)
    query.options.filters
  obtain ⟨attributes, hset⟩ := FilterSplit.levelsSet?_isOk _ hlevels
  apply Decides.bind_ok hset
  -- Behind the checks only the count can fail: a statement that was made has columns.
  rw [← countable_iff hattributes hfilters]
  apply (requestedCount?_decides hcounted query.options).bind_isOk
  intro counted _
  exact ⟨_, rfl⟩

/-- **Exactly the acceptable dimension queries are compiled.** Every other one is refused for its
attributes, its measures, its filters or its shape. -/
theorem dimensionText?_accepts (cube : String) (query : DimensionQuery) :
    ((∃ text, dimensionText? cube query = .ok text) ↔ AcceptableDimension query) ∧
      ∀ e, dimensionText? cube query = .error e →
        (∃ fault, e = .invalidAttribute fault) ∨ (∃ fault, e = .invalidMeasure fault) ∨
          (∃ fault, e = .invalidFilter fault) ∨ ∃ fault, e = .invalidQuery fault := by
  obtain ⟨haccepts, hfails⟩ := dimensionText?_decides cube query
  refine ⟨haccepts, ?_⟩
  intro e he
  exact (Error.isRefusal_iff e).1 (hfails e he)

/-- Sorting by a level that is no attribute and not shaped as a level. -/
private def oddlySorted (filters : List Request.Filter) : DimensionQuery :=
  ⟨[⟨"[Geo].[City]"⟩], [], none, ⟨filters, [.ofLevel ⟨"Year"⟩], none, none, false⟩⟩

example : ∃ text, dimensionText? "Sales" (oddlySorted [.ofLevel ⟨"Year"⟩]) = .ok text :=
  ⟨_, rfl⟩

example :
    dimensionText? "Sales" (oddlySorted [(Request.Filter.ofLevel ⟨"Year"⟩).withTotalCount]) =
      .error (.invalidAttribute (.notLevel "Year")) := by
  rfl

end CubeQuery.Plan
