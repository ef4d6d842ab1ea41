import CubeQuery.Proofs.Mdx.Reading
import CubeQuery.Proofs.Plan.Checks
import CubeQuery.Proofs.Plan.SortGrain

set_option autoImplicit false

/-!
# The tuples of a sorted axis

Sorting is planned to act on as few levels as it needs, and it may need levels that the axis does
not show. None of this changes which tuples the axis has: it is a rearrangement of the cross join of
its attributes. The levels that only take part in sorting must have members for this, since a tuple
of attributes is kept through them.

Main statements: a sorted axis has the tuples of the plain one (`sortedSet?_perm_plain`); where a
counted level outside the attributes has no members, they are lost (`counted_level_empties_axis`).
-/

namespace CubeQuery.Plan

open Mdx (Level SetExpr Reading Tuple RangeOver products crossed)
open Request (Filter Options)

variable {α : Type} (reading : Reading α) (split : FilterSplit)

/-! ## Products of levels -/

/-- The tuples of the cross join of levels. -/
def span (levels : List Level) : List (Tuple α) :=
  products (levels.map fun level => reading.tuples (split.levelSet level))

theorem span_append (levels others : List Level) :
    span reading split (levels ++ others) =
      crossed (span reading split levels) (span reading split others) := by
  rw [span, List.map_append, Mdx.products_append]
  rfl

theorem tuples_of_levelsSet? {levels : List Level} {set : SetExpr}
    (h : split.levelsSet? levels = .ok set) :
    reading.tuples set = span reading split levels := by
  rw [reading.tuples_of_product? h, List.map_map]
  rfl

theorem rangeOver_span (levels : List Level) : RangeOver levels (span reading split levels) := by
  induction levels with
  | nil =>
    intro tuple htuple
    rw [List.mem_singleton.1 htuple]
    rfl
  | cons level rest ih => exact (reading.rangeOver_all level _).crossed ih

/-- A product of levels repeats no tuple if no level repeats a member. -/
theorem nodup_span {levels : List Level}
    (h : ∀ level ∈ levels, (reading.tuples (split.levelSet level)).Nodup) :
    (span reading split levels).Nodup := by
  induction levels with
  | nil => exact List.nodup_singleton []
  | cons level rest ih =>
    rw [List.forall_mem_cons] at h
    exact Mdx.nodup_crossed (reading.rangeOver_all level _) h.1 (ih h.2)

theorem span_ne_nil {levels : List Level}
    (h : ∀ level ∈ levels, reading.tuples (split.levelSet level) ≠ []) :
    span reading split levels ≠ [] := by
  apply Mdx.products_ne_nil
  intro list hlist
  obtain ⟨level, hlevel, rfl⟩ := List.mem_map.1 hlist
  exact h level hlevel

/-! ## Grains -/

variable {reading split}

/-- A product whose second factor is kept by a condition loses nothing that meets the condition as
a whole, if a whole that meets it has a second part that does. -/
theorem filter_crossed_filter {first second : List (Tuple α)} {p : Tuple α → Bool}
    (h : ∀ a ∈ first, ∀ b ∈ second, p (a ++ b) = true → p b = true) :
    (crossed first (second.filter p)).filter p = (crossed first second).filter p := by
  rw [Mdx.crossed_eq_flatMap, Mdx.crossed_eq_flatMap, List.filter_flatMap, List.filter_flatMap]
  apply List.flatMap_congr
  intro a ha
  rw [List.filter_map, List.filter_map, List.filter_filter]
  congr 1
  apply List.filter_congr
  intro b hb
  rw [Function.comp_apply, Bool.and_eq_left_iff_imp]
  exact h a ha b hb

/-- Extracting the attributes from the tuples of a product with further levels that meet a condition
gives those tuples of attributes that meet it with some tuple of the further levels. -/
theorem extract_span_perm {attributes others : List Level} {set : SetExpr} {p : Tuple α → Bool}
    (hdistinct : attributes.Nodup)
    (hmembers : ∀ level ∈ attributes, (reading.tuples (split.levelSet level)).Nodup)
    (hothers : ∀ tuple ∈ span reading split attributes,
      p tuple = true ↔ ∃ other ∈ span reading split others, p (tuple ++ other) = true)
    (h : (reading.tuples set).Perm ((span reading split (attributes ++ others)).filter p)) :
    (reading.tuples (.extract set attributes)).Perm
      ((span reading split attributes).filter p) := by
  -- Extraction drops repeats, so that it is enough to compare members.
  apply (List.perm_ext_iff_of_nodup (reading.nodup_tuples_extract set attributes)
    ((nodup_span reading split hmembers).filter p)).2
  intro tuple
  rw [reading.mem_tuples_extract_iff, List.mem_filter]
  constructor
  · rintro ⟨whole, hwhole, rfl⟩
    rw [h.mem_iff, List.mem_filter, span_append] at hwhole
    obtain ⟨hcrossed, hholds⟩ := hwhole
    obtain ⟨a, ha, b, hb, rfl⟩ := Mdx.mem_crossed_iff.1 hcrossed
    rw [Mdx.at_append hdistinct (rangeOver_span reading split attributes a ha)]
    exact ⟨ha, (hothers a ha).2 ⟨b, hb, hholds⟩⟩
  · rintro ⟨htuple, hholds⟩
    -- Some tuple of the further levels carries the tuple of attributes through the extraction.
    obtain ⟨b, hb, hboth⟩ := (hothers tuple htuple).1 hholds
    refine ⟨tuple ++ b, ?_, Mdx.at_append hdistinct
      (rangeOver_span reading split attributes tuple htuple) b⟩
    rw [h.mem_iff, List.mem_filter, span_append]
    exact ⟨Mdx.mem_crossed_iff.2 ⟨tuple, htuple, b, hb, rfl⟩, hboth⟩

/-- The needed levels that are no attributes. -/
def foreignTo (attributes needed : List Level) : List Level :=
  (nonMeasures needed).filter fun level => !attributes.contains level

theorem mem_foreignTo_iff {attributes needed : List Level} {level : Level} :
    level ∈ foreignTo attributes needed ↔
      level ∈ needed ∧ ¬ level.IsMeasure ∧ level ∉ attributes := by
  rw [foreignTo, List.mem_filter, nonMeasures, List.mem_filter, and_assoc,
    ← Level.isMeasure_eq_false_iff]
  simp

/-- What keeping the tuples of a grain by a condition takes, for the tuples of all attributes to be
kept by the same condition. -/
structure KeepsAttributes (reading : Reading α) (split : FilterSplit)
    (attributes needed : List Level) (p : Tuple α → Bool) : Prop where
  inner : ∀ outer grain, outer ++ grain = attributes →
    ∀ tuple ∈ span reading split outer, ∀ other ∈ span reading split grain,
      p (tuple ++ other) = true → p other = true
  foreign : ∀ tuple ∈ span reading split attributes,
    p tuple = true ↔
      ∃ other ∈ span reading split (foreignTo attributes needed), p (tuple ++ other) = true

/-- A grain of all attributes keeps those of their tuples that meet the condition. -/
theorem perm_of_outer_eq_nil {attributes needed : List Level} {grain : Grain} {sorted : SetExpr}
    {p : Tuple α → Bool} (hgrain : IsGrainFor attributes needed grain) (hne : attributes ≠ [])
    (hdistinct : attributes.Nodup)
    (hmembers : ∀ level ∈ attributes, (reading.tuples (split.levelSet level)).Nodup)
    (hkeeps : KeepsAttributes reading split attributes needed p)
    (hsorted : (reading.tuples sorted).Perm ((span reading split grain.sorted).filter p))
    (houter : grain.outer = []) :
    (reading.tuples (grain.projected sorted)).Perm ((span reading split attributes).filter p) := by
  cases hgrain with
  | unsorted _ => exact hsorted
  | byMeasures _ _ happend =>
    cases houter
    exact happend ▸ hsorted
  | covered _ _ happend _ =>
    cases houter
    exact happend ▸ hsorted
  | widened _ =>
    -- Of all grains only this one has levels besides the attributes.
    have hprojected : Grain.projected ⟨[], attributes ++ foreignTo attributes needed, attributes⟩
        sorted = .extract sorted attributes := by
      simp [Grain.projected, hne]
    change (reading.tuples (Grain.projected ⟨[], attributes ++ foreignTo attributes needed,
      attributes⟩ sorted)).Perm _
    rw [hprojected]
    exact extract_span_perm hdistinct hmembers hkeeps.foreign hsorted

/-- Along a grain that sorting needs, the tuples that meet a condition are those of the attributes
that do, although only those of the grain have been kept by it. -/
theorem grain_filter_perm {attributes needed : List Level} {grain : Grain} {sorted : SetExpr}
    {p : Tuple α → Bool} (hgrain : IsGrainFor attributes needed grain) (hne : attributes ≠ [])
    (hdistinct : attributes.Nodup)
    (hmembers : ∀ level ∈ attributes, (reading.tuples (split.levelSet level)).Nodup)
    (hkeeps : KeepsAttributes reading split attributes needed p)
    (hsorted : (reading.tuples sorted).Perm ((span reading split grain.sorted).filter p)) :
    ((crossed (span reading split grain.outer) (reading.tuples (grain.projected sorted))).filter
      p).Perm ((span reading split attributes).filter p) := by
  -- With levels outside it the grain is made of the inner attributes, and nothing is projected.
  have hcrossed : ∀ outer inner, outer ++ inner = attributes →
      (reading.tuples sorted).Perm ((span reading split inner).filter p) →
      ((crossed (span reading split outer) (reading.tuples sorted)).filter p).Perm
        ((span reading split attributes).filter p) := by
    intro outer inner happend hperm
    have hproduct := (Mdx.crossed_perm (.refl (span reading split outer)) hperm).filter p
    rw [filter_crossed_filter (hkeeps.inner outer inner happend), ← span_append, happend]
      at hproduct
    exact hproduct
  have hgrain' := hgrain
  cases hgrain with
  | unsorted _ => exact hcrossed [] attributes rfl hsorted
  | byMeasures _ _ happend => exact hcrossed _ _ happend hsorted
  | covered _ _ happend _ => exact hcrossed _ _ happend hsorted
  | widened _ =>
    have hperm := perm_of_outer_eq_nil hgrain' hne hdistinct hmembers hkeeps hsorted rfl
    rw [span, List.map_nil, products, Mdx.crossed_nil_left]
    have hkept := hperm.filter p
    rw [List.filter_filter] at hkept
    simpa using hkept

/-- Along a grain that sorting needs, the tuples are those of the attributes. -/
theorem grain_perm {attributes needed : List Level} {grain : Grain} {sorted : SetExpr}
    (hgrain : IsGrainFor attributes needed grain) (hne : attributes ≠ [])
    (hdistinct : attributes.Nodup)
    (hmembers : ∀ level ∈ attributes, (reading.tuples (split.levelSet level)).Nodup)
    (hforeign : ∀ level ∈ needed, ¬ level.IsMeasure → level ∉ attributes →
      reading.tuples (split.levelSet level) ≠ [])
    (hsorted : (reading.tuples sorted).Perm (span reading split grain.sorted)) :
    (crossed (span reading split grain.outer) (reading.tuples (grain.projected sorted))).Perm
      (span reading split attributes) := by
  have hothers : span reading split (foreignTo attributes needed) ≠ [] := by
    apply span_ne_nil
    intro level hlevel
    obtain ⟨hneeded, hmeasure, hnot⟩ := mem_foreignTo_iff.1 hlevel
    exact hforeign level hneeded hmeasure hnot
  have hkeeps : KeepsAttributes reading split attributes needed fun _ => true := by
    refine ⟨fun _ _ _ _ _ _ _ _ => rfl, ?_⟩
    intro tuple _
    obtain ⟨other, hother⟩ := List.exists_mem_of_ne_nil _ hothers
    exact iff_of_true rfl ⟨other, hother, rfl⟩
  have hfiltered : (reading.tuples sorted).Perm
      ((span reading split grain.sorted).filter fun _ => true) := by
    rw [List.filter_true]
    exact hsorted
  have hperm := grain_filter_perm hgrain hne hdistinct hmembers hkeeps hfiltered
  rw [List.filter_true, List.filter_true] at hperm
  exact hperm

/-! ## Sorted axes -/

theorem arrange_of_unpaged {options : Options} (hskip : options.skip = none)
    (htop : options.top = none) (set : SetExpr) : options.arrange set = options.sort set := by
  rw [Options.arrange, Options.page, hskip, htop]

/-- **A sorted axis has exactly the tuples of the plain cross join of its attributes.** -/
theorem sortedSet?_perm_plain (reading : Reading α) (split : FilterSplit)
    {attributes : List Level} {options : Options} (hne : attributes ≠ [])
    (hdistinct : attributes.Nodup) (hskip : options.skip = none) (htop : options.top = none)
    (hmembers : ∀ level ∈ attributes, (reading.tuples (split.levelSet level)).Nodup)
    (hforeign : ∀ level ∈ options.sortLevels ++ split.countedLevels, ¬ level.IsMeasure →
      level ∉ attributes → reading.tuples (split.levelSet level) ≠ []) :
    ∃ sorted plain, split.sortedSet? attributes options id = .ok sorted ∧
      split.levelsSet? attributes = .ok plain ∧
      (reading.tuples sorted).Perm (reading.tuples plain) := by
  obtain ⟨base, sorted, hbase, hproduct, hsorted⟩ := sortedSet?_eq_ok split hne options id
  obtain ⟨plain, hplain⟩ := split.levelsSet?_isOk hne
  refine ⟨sorted, plain, hsorted, hplain, ?_⟩
  have hgrain := isGrainFor_plan hne (split.neededLevels options)
  generalize Grain.plan attributes (split.neededLevels options) = grain at hbase hproduct hgrain
  have hforeign' : ∀ level ∈ split.neededLevels options, ¬ level.IsMeasure →
      level ∉ attributes → reading.tuples (split.levelSet level) ≠ [] := by
    intro level hlevel
    exact hforeign level (List.mem_eraseDups.1 hlevel)
  have harranged : (reading.tuples (options.arrange (id base))).Perm
      (span reading split grain.sorted) := by
    rw [arrange_of_unpaged hskip htop, ← tuples_of_levelsSet? reading split hbase]
    exact reading.tuples_sort_perm options base
  have houter : reading.tuples sorted = crossed (span reading split grain.outer)
      (reading.tuples (grain.projected (options.arrange (id base)))) := by
    rw [reading.tuples_of_product? hproduct, List.map_append, Mdx.products_append, List.map_map,
      List.map_singleton, Mdx.products_singleton]
    rfl
  rw [houter, tuples_of_levelsSet? reading split hplain]
  exact grain_perm hgrain hne hdistinct hmembers hforeign' harranged

private def city : Level := ⟨"[Geo].[City]"⟩

private def year : Level := ⟨"[Date].[Year]"⟩

/-- Two cities, and the given years. -/
private def cityMembers (years : List String) : Level → Bool → List String
  | ⟨"[Geo].[City]"⟩, _ => ["a", "b"]
  | ⟨"[Date].[Year]"⟩, _ => years
  | _, _ => []

/-- Sorting by year. -/
private def byYear : Options :=
  ⟨[], [.ofLevel year], none, none, false⟩

/-- Years that only take part in sorting multiply no city. -/
theorem sortedSet?_perm_plain_byYear :
    [city] ≠ [] ∧ [city].Nodup ∧ byYear.skip = none ∧ byYear.top = none ∧
    (∀ level ∈ [city], ((Reading.unsorted (cityMembers ["1", "2", "3"])).tuples
      ((FilterSplit.mk [.ofLevel city] []).levelSet level)).Nodup) ∧
    (∀ level ∈ byYear.sortLevels ++ (FilterSplit.mk [.ofLevel city] []).countedLevels,
      ¬ level.IsMeasure → level ∉ [city] →
      (Reading.unsorted (cityMembers ["1", "2", "3"])).tuples
        ((FilterSplit.mk [.ofLevel city] []).levelSet level) ≠ []) ∧
    ∃ sorted plain, (FilterSplit.mk [.ofLevel city] []).sortedSet? [city] byYear id = .ok sorted ∧
      (FilterSplit.mk [.ofLevel city] []).levelsSet? [city] = .ok plain ∧
      ((Reading.unsorted (cityMembers ["1", "2", "3"])).tuples sorted).Perm
        ((Reading.unsorted (cityMembers ["1", "2", "3"])).tuples plain) := by
  have hmembers : ∀ level ∈ [city], ((Reading.unsorted (cityMembers ["1", "2", "3"])).tuples
      ((FilterSplit.mk [.ofLevel city] []).levelSet level)).Nodup := by
    decide
  have hyears : ∀ level ∈ byYear.sortLevels ++ (FilterSplit.mk [.ofLevel city] []).countedLevels,
      ¬ level.IsMeasure → level ∉ [city] →
      (Reading.unsorted (cityMembers ["1", "2", "3"])).tuples
        ((FilterSplit.mk [.ofLevel city] []).levelSet level) ≠ [] := by
    intro level hlevel _ _
    cases List.mem_singleton.1 hlevel
    decide
  exact ⟨nofun, List.nodup_singleton city, rfl, rfl, hmembers, hyears,
    sortedSet?_perm_plain _ _ nofun (List.nodup_singleton city) rfl rfl hmembers hyears⟩

/-- Filters that ask for a count of years. -/
private def countingYears : Options :=
  ⟨[(Filter.ofLevel year).withTotalCount], [], none, none, false⟩

/-- Nothing is sorted by, and yet the cities are lost: a counted level outside the attributes that
has no members leaves nothing to extract them from. -/
theorem counted_level_empties_axis :
    ∃ split, FilterSplit.ofOptions [year] countingYears = .ok split ∧
      [city] ≠ [] ∧ [city].Nodup ∧ Options.none.skip = none ∧ Options.none.top = none ∧
      (∀ level ∈ [city],
        ((Reading.unsorted (cityMembers [])).tuples (split.levelSet level)).Nodup) ∧
      (∀ level ∈ Options.none.sortLevels, level ∉ [city] →
        (Reading.unsorted (cityMembers [])).tuples (split.levelSet level) ≠ []) ∧
      ∃ sorted plain, split.sortedSet? [city] Options.none id = .ok sorted ∧
        split.levelsSet? [city] = .ok plain ∧
        ¬ ((Reading.unsorted (cityMembers [])).tuples sorted).Perm
          ((Reading.unsorted (cityMembers [])).tuples plain) := by
  refine ⟨_, rfl, nofun, List.nodup_singleton city, rfl, rfl, by decide, nofun, _, _, rfl, rfl, ?_⟩
  intro hperm
  exact absurd hperm.length_eq (by decide)

end CubeQuery.Plan
