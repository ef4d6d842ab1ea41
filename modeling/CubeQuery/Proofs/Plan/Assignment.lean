import CubeQuery.Proofs.Plan.Checks

set_option autoImplicit false

/-!
# The assignment of filters to levels

What `FilterSplit.assign` finds by moving filters one after another, said without the moves: every
queried level has its own filter, and the filters on other levels remain in their order.

Main statements: filters are split exactly if neither a filtered nor a queried level repeats
(`ofOptions_decides`), the split is the expected one (`eq_between_of_ofOptions`), and levels are
counted if their filters ask for it (`mem_countedLevels_between`).
-/

namespace CubeQuery.Plan

open Mdx (Level SetExpr)
open Request (Filter Options)

/-! ## Levels seen for the first time -/

/-- Levels that repeat neither one another nor those already seen. -/
def AreNew (seen levels : List Level) : Prop :=
  (∀ level ∈ levels, level ∉ seen) ∧ levels.Nodup

theorem areNew_nil (seen : List Level) : AreNew seen [] :=
  ⟨nofun, List.nodup_nil⟩

theorem areNew_of_nil_iff (levels : List Level) : AreNew [] levels ↔ levels.Nodup :=
  and_iff_right fun _ _ => List.not_mem_nil

theorem areNew_cons_iff (seen : List Level) (level : Level) (rest : List Level) :
    AreNew seen (level :: rest) ↔ level ∉ seen ∧ AreNew (level :: seen) rest := by
  rw [AreNew, AreNew, List.nodup_cons, List.forall_mem_cons]
  constructor
  · rintro ⟨⟨hlevel, hrest⟩, hnotMem, hnodup⟩
    refine ⟨hlevel, ?_, hnodup⟩
    intro other hother
    rw [List.mem_cons, not_or]
    exact ⟨fun heq => hnotMem (heq ▸ hother), hrest other hother⟩
  · rintro ⟨hlevel, hrest, hnodup⟩
    refine ⟨⟨hlevel, ?_⟩, ?_, hnodup⟩
    · intro other hother hseen
      exact hrest other hother (List.mem_cons_of_mem level hseen)
    · intro hmem
      exact hrest level hmem List.mem_cons_self

theorem areNew_concat_iff (seen : List Level) (level : Level) (rest : List Level) :
    AreNew (seen ++ [level]) rest ↔ AreNew (level :: seen) rest := by
  have hmem : ∀ other, other ∈ seen ++ [level] ↔ other ∈ level :: seen := by
    intro other
    rw [List.mem_append, List.mem_singleton, List.mem_cons, or_comm]
  simp only [AreNew, hmem]

/-- The check of filters passes if no filtered level repeats. -/
theorem checkFilters_decides (seen : List Level) (filters : List Filter) :
    Decides (AreNew seen (filters.map (·.level))) (checkFilters seen filters) := by
  induction filters generalizing seen with
  | nil => exact (Decides.of_eq_ok rfl).congr (iff_of_true trivial (areNew_nil seen))
  | cons filter rest ih =>
    rw [checkFilters, List.map_cons, areNew_cons_iff]
    by_cases hmem : filter.level ∈ seen
    · rw [if_pos hmem]
      exact (Decides.of_error rfl).congr ⟨False.elim, fun h => h.1 hmem⟩
    · rw [if_neg hmem]
      exact (ih _).congr (and_iff_right hmem).symm

/-- Levels are assigned if none of them repeats. -/
theorem assign_decides (split : FilterSplit) (levels : List Level) :
    Decides (AreNew (split.queried.map (·.level)) levels) (split.assign levels) := by
  induction levels generalizing split with
  | nil => exact (Decides.of_eq_ok rfl).congr (iff_of_true trivial (areNew_nil _))
  | cons level rest ih =>
    have hseen : (split.queried.any fun filter => filter.level == level) = true ↔
        level ∈ split.queried.map (·.level) := by
      simp [List.any_eq_true]
    rw [FilterSplit.assign, areNew_cons_iff]
    by_cases hany : (split.queried.any fun filter => filter.level == level) = true
    · rw [if_pos hany]
      exact (Decides.of_error rfl).congr ⟨False.elim, fun h => h.1 (hseen.1 hany)⟩
    · -- Whatever filter the level gets, it is the level that counts as seen from here on.
      have hrest := ih ⟨split.queried ++ [filterOn level split.remaining],
        filtersOff level split.remaining⟩
      rw [List.map_append, List.map_singleton, FilterSplit.level_filterOn, areNew_concat_iff]
        at hrest
      rw [if_neg hany]
      exact hrest.congr (and_iff_right fun h => hany (hseen.2 h)).symm

/-! ## The split without the moves -/

/-- The filters with those on the given levels, one for each of these, told from the others. -/
def FilterSplit.between (levels : List Level) (filters : List Filter) : FilterSplit :=
  ⟨levels.map fun level => filterOn level filters,
    filters.filter fun filter => !levels.contains filter.level⟩

/-- Of filters on different levels, at most one is taken away. -/
theorem filtersOff_eq_filter {filters : List Filter} (h : (filters.map (·.level)).Nodup)
    (level : Level) :
    filtersOff level filters = filters.filter fun filter => filter.level != level := by
  rw [filtersOff]
  induction filters with
  | nil => rfl
  | cons filter rest ih =>
    rw [List.map_cons, List.nodup_cons] at h
    by_cases heq : filter.level = level
    · have hrest : rest.filter (fun other => other.level != level) = rest := by
        apply List.filter_eq_self.2
        intro other hother
        rw [bne_iff_ne]
        intro hlevel
        exact h.1 (List.mem_map.2 ⟨other, hother, hlevel.trans heq.symm⟩)
      simp [heq, hrest]
    · simp [heq, ih h.2]

/-- The filter on a level is found among the filters on other levels than some. -/
theorem filterOn_filter {done : List Level} {level : Level} (h : level ∉ done)
    (filters : List Filter) :
    filterOn level (filters.filter fun filter => !done.contains filter.level) =
      filterOn level filters := by
  rw [filterOn, filterOn, List.find?_filter]
  congr 2
  funext filter
  by_cases heq : filter.level = level
  · simp [heq, h]
  · simp [heq]

/-- Assigning a further level to a split between levels. -/
theorem FilterSplit.between_concat {filters : List Filter} {done : List Level} {level : Level}
    (hfilters : (filters.map (·.level)).Nodup) (hlevel : level ∉ done) :
    (⟨(between done filters).queried ++ [filterOn level (between done filters).remaining],
      filtersOff level (between done filters).remaining⟩ : FilterSplit) =
      between (done ++ [level]) filters := by
  have hremaining : ((between done filters).remaining.map (·.level)).Nodup :=
    hfilters.sublist (List.filter_sublist.map _)
  rw [filtersOff_eq_filter hremaining]
  simp only [between]
  rw [filterOn_filter hlevel, List.map_append, List.map_singleton, List.filter_filter]
  congr 2
  funext filter
  rw [Bool.eq_iff_iff]
  simp [and_comm]

/-- Assigning further levels to a split between levels. -/
theorem FilterSplit.assign_between {filters : List Filter} {done levels : List Level}
    (hfilters : (filters.map (·.level)).Nodup) (hlevels : AreNew done levels) :
    (between done filters).assign levels = .ok (between (done ++ levels) filters) := by
  -- By induction on the levels to come: behind every step stands the split between those done.
  induction levels generalizing done with
  | nil =>
    rw [List.append_nil]
    rfl
  | cons level rest ih =>
    obtain ⟨hlevel, hrest⟩ := (areNew_cons_iff done level rest).1 hlevels
    have hseen : ((between done filters).queried.any fun filter => filter.level == level)
        = false := by
      rw [List.any_eq_false]
      simp only [between, List.mem_map, beq_iff_eq]
      rintro _ ⟨other, hother, rfl⟩ heq
      rw [level_filterOn] at heq
      exact hlevel (heq ▸ hother)
    have hassign := ih ((areNew_concat_iff done level rest).2 hrest)
    rw [List.append_assoc] at hassign
    rw [assign, hseen, between_concat hfilters hlevel]
    exact hassign

/-- The set of a level is read by the filter on it, whichever side of the split that is on. -/
theorem FilterSplit.levelSet_between (levels : List Level) (filters : List Filter)
    (level : Level) :
    (between levels filters).levelSet level = level.all (filterOn level filters).includeAll := by
  have hread : ∀ split : FilterSplit, split.levelSet level =
      level.all (filterOn level (split.queried ++ split.remaining)).includeAll := by
    intro split
    rw [levelSet, filterOn]
    cases (split.queried ++ split.remaining).find? fun filter => filter.level == level with
    | none => rfl
    | some filter => rfl
  have hqueried : (levels.map fun other => filterOn other filters).find?
      (fun filter => filter.level == level) =
      (levels.find? fun other => other == level).map fun other => filterOn other filters := by
    rw [List.find?_map]
    congr 2
    funext other
    simp only [Function.comp_apply, level_filterOn]
  rw [hread, filterOn, List.find?_append, between, hqueried]
  cases hfind : levels.find? fun other => other == level with
  | some other =>
    have heq : other = level := by simpa using List.find?_some hfind
    rw [heq]
    rfl
  | none =>
    have hlevel : level ∉ levels := by
      intro hmem
      simpa using List.find?_eq_none.1 hfind level hmem
    exact congrArg (fun filter => level.all filter.includeAll) (filterOn_filter hlevel filters)

/-- Filters are split if neither a filtered nor a queried level repeats. -/
theorem ofOptions_decides (levels : List Level) (options : Options) :
    Decides ((options.filters.map (·.level)).Nodup ∧ levels.Nodup)
      (FilterSplit.ofOptions levels options) := by
  rw [← areNew_of_nil_iff, ← areNew_of_nil_iff]
  apply Decides.bind
  · exact checkFilters_decides [] options.filters
  · intro _ _ _
    exact assign_decides ⟨[], options.filters⟩ levels

/-- The split of the filters of options. -/
theorem eq_between_of_ofOptions {levels : List Level} {options : Options} {split : FilterSplit}
    (h : FilterSplit.ofOptions levels options = .ok split) :
    split = FilterSplit.between levels options.filters := by
  obtain ⟨hfilters, hlevels⟩ := (ofOptions_decides levels options).1.1 ⟨split, h⟩
  obtain ⟨-, -, hassign⟩ := steps_of_bind_eq_ok h
  have hbetween := FilterSplit.assign_between hfilters ((areNew_of_nil_iff levels).2 hlevels)
  have hstart : FilterSplit.between [] options.filters = ⟨[], options.filters⟩ := by
    simp [FilterSplit.between]
  rw [hstart, List.nil_append, hassign] at hbetween
  exact Except.ok.inj hbetween

/-! ## Counted levels -/

/-- A count is asked for by the options themselves or by one of their filters. -/
theorem requestsTotalCount_iff (options : Options) :
    options.requestsTotalCount = true ↔
      options.includeTotalCount = true ∨
        ∃ filter ∈ options.filters, filter.includeTotalCount = true := by
  rw [Options.requestsTotalCount, Bool.or_eq_true, List.any_eq_true]

theorem countedLevels_between (levels : List Level) (filters : List Filter) :
    (FilterSplit.between levels filters).countedLevels =
      levels.filter fun level => (filterOn level filters).includeTotalCount := by
  have hlevel : (fun filter : Filter => filter.level) ∘ (fun level => filterOn level filters)
      = id := by
    funext level
    exact FilterSplit.level_filterOn level filters
  rw [FilterSplit.countedLevels, FilterSplit.between, List.filter_map, List.map_map, hlevel,
    List.map_id]
  rfl

/-- No level is counted twice. -/
theorem nodup_countedLevels_between {levels : List Level} (h : levels.Nodup)
    (filters : List Filter) : (FilterSplit.between levels filters).countedLevels.Nodup := by
  rw [countedLevels_between]
  exact h.sublist List.filter_sublist

/-- The filter found for a level asks for a count if some filter on the level does. -/
theorem includeTotalCount_filterOn_iff {filters : List Filter}
    (h : (filters.map (·.level)).Nodup) (level : Level) :
    (filterOn level filters).includeTotalCount = true ↔
      ∃ filter ∈ filters, filter.level = level ∧ filter.includeTotalCount = true := by
  induction filters with
  | nil => simp [filterOn, Filter.ofLevel]
  | cons filter rest ih =>
    rw [List.map_cons, List.nodup_cons] at h
    obtain ⟨hnot, hrest⟩ := h
    by_cases heq : filter.level = level
    · -- The first filter on the level is also the only one.
      have hother : ¬ ∃ other ∈ rest, other.level = level ∧ other.includeTotalCount = true := by
        rintro ⟨other, hother, hlevel, -⟩
        exact hnot (List.mem_map.2 ⟨other, hother, hlevel.trans heq.symm⟩)
      simp [filterOn, heq, hother]
    · have hfilterOn : filterOn level (filter :: rest) = filterOn level rest := by
        simp [filterOn, heq]
      rw [hfilterOn, ih hrest]
      simp [heq]

/-- A queried level is counted if its filter asks for it. -/
theorem mem_countedLevels_between {levels : List Level} {filters : List Filter}
    (h : (filters.map (·.level)).Nodup) (level : Level) :
    level ∈ (FilterSplit.between levels filters).countedLevels ↔
      level ∈ levels ∧
        ∃ filter ∈ filters, filter.level = level ∧ filter.includeTotalCount = true := by
  rw [countedLevels_between, List.mem_filter, includeTotalCount_filterOn_iff h]

/-- No level is counted if no filter on one asks for it. -/
theorem countedLevels_between_eq_nil {levels : List Level} {filters : List Filter}
    (hfilters : (filters.map (·.level)).Nodup)
    (h : ∀ filter ∈ filters, filter.includeTotalCount = true → filter.level ∉ levels) :
    (FilterSplit.between levels filters).countedLevels = [] := by
  rw [List.eq_nil_iff_forall_not_mem]
  intro level hlevel
  obtain ⟨hqueried, filter, hfilter, rfl, hflag⟩ :=
    (mem_countedLevels_between hfilters level).1 hlevel
  exact h filter hfilter hflag hqueried

theorem countSet?_of_eq_nil {split : FilterSplit} (h : split.countedLevels = []) :
    split.countSet? = .ok none := by
  rw [FilterSplit.countSet?, h]
  rfl

/-- Counted levels, of which there are some, only have to pass the check of attributes. -/
theorem countSet?_of_ne_nil {split : FilterSplit} (h : split.countedLevels ≠ []) :
    ∃ set, split.countSet? = (do
      Mdx.checkAttributes split.countedLevels
      .ok (some set)) := by
  obtain ⟨set, hset⟩ := split.levelsSet?_isOk h
  refine ⟨set, ?_⟩
  rw [FilterSplit.countSet?, List.isEmpty_eq_false_iff.2 h, hset]
  rfl

/-- Counted levels have a cross join if they are shaped as attributes. -/
theorem countSet?_decides {split : FilterSplit} (h : split.countedLevels.Nodup) :
    Decides (∀ level ∈ split.countedLevels, level.IsBracketed ∧ ¬ level.IsMeasure)
      split.countSet? := by
  by_cases hnil : split.countedLevels = []
  · have hall : ∀ level ∈ split.countedLevels, level.IsBracketed ∧ ¬ level.IsMeasure := by
      rw [hnil]
      exact nofun
    exact (Decides.of_eq_ok (countSet?_of_eq_nil hnil)).congr (iff_of_true trivial hall)
  · obtain ⟨set, hset⟩ := countSet?_of_ne_nil hnil
    rw [hset]
    have hcheck := Mdx.checkAttributes_decides split.countedLevels
    rw [and_iff_left h] at hcheck
    apply hcheck.bind_isOk
    intro _ _
    exact ⟨some set, rfl⟩

end CubeQuery.Plan
