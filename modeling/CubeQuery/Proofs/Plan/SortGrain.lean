import CubeQuery.Plan.Grain
import CubeQuery.Proofs.Plan.SetForms

set_option autoImplicit false

/-!
# The grain that sorting needs

What `Grain.plan` finds by walking the attributes from the innermost outwards, said without the
walk: the grain of covered sort levels is the shortest suffix of the attributes that contains them.

Main statement: the set of a sorted axis is the cross join of the outer attributes and of the
grain, the latter passed through the hook, sorted, paged and, only where levels foreign to the
attributes took part in sorting, projected to the attributes (`sortedSet?_eq_planned`).
-/

namespace CubeQuery.Plan

open Mdx (Level SetExpr)
open Request (Options)

/-! ## The plan without the walk -/

/-- The shortest suffix of levels that contains all needed ones. -/
structure IsShortestSuffix (needed grain levels : List Level) : Prop where
  isSuffix : grain <:+ levels
  contains : ∀ level ∈ needed, level ∈ grain
  shortest : ∀ other, other <:+ levels → (∀ level ∈ needed, level ∈ other) →
    grain.length ≤ other.length

/-- The levels that are no measures. -/
def nonMeasures (levels : List Level) : List Level :=
  levels.filter fun level => !level.isMeasure

/-- How attributes are cut for sorting, by the levels that sort keys and counts need. -/
inductive IsGrainFor (attributes needed : List Level) : Grain → Prop where
  | unsorted : needed = [] → IsGrainFor attributes needed ⟨[], attributes, []⟩
  | byMeasures {outer : List Level} {last : Level} : needed ≠ [] →
      (∀ level ∈ needed, level.isMeasure = true) → outer ++ [last] = attributes →
      IsGrainFor attributes needed ⟨outer, [last], []⟩
  | covered {outer grain : List Level} : nonMeasures needed ≠ [] →
      (∀ level ∈ nonMeasures needed, level ∈ attributes) → outer ++ grain = attributes →
      IsShortestSuffix (nonMeasures needed) grain attributes →
      IsGrainFor attributes needed ⟨outer, grain, []⟩
  | widened : (∃ level ∈ nonMeasures needed, level ∉ attributes) →
      IsGrainFor attributes needed
        ⟨[], attributes ++ (nonMeasures needed).filter (fun level => !attributes.contains level),
          attributes⟩

/-- The projection that `Grain.project?` comes to. -/
def Grain.projected (grain : Grain) (set : SetExpr) : SetExpr :=
  if grain.projection.isEmpty then set else .extract set grain.projection

/-- The shortest suffix is the only one. -/
theorem IsShortestSuffix.unique {needed first second levels : List Level}
    (hfirst : IsShortestSuffix needed first levels)
    (hsecond : IsShortestSuffix needed second levels) : first = second := by
  have hlen : first.length = second.length :=
    Nat.le_antisymm (hfirst.shortest second hsecond.isSuffix hsecond.contains)
      (hsecond.shortest first hfirst.isSuffix hfirst.contains)
  rcases List.suffix_or_suffix_of_suffix hfirst.isSuffix hsecond.isSuffix with hsuffix | hsuffix
  · exact hsuffix.eq_of_length hlen
  · exact (hsuffix.eq_of_length hlen.symm).symm

/-! ## The walk -/

/-- The walk misses those needed levels that it has not taken into the grain. -/
theorem Cover.missing_ofAttributes (needed attributes : List Level) :
    (Cover.ofAttributes needed attributes).missing =
      needed.filter fun level => !(Cover.ofAttributes needed attributes).grain.contains level := by
  induction attributes with
  | nil => exact (List.filter_eq_self.2 fun _ _ => rfl).symm
  | cons level rest ih =>
    by_cases hmissing : (ofAttributes needed rest).missing = []
    · rw [ofAttributes_cons_of_covered hmissing]
      exact ih
    · rw [ofAttributes_cons_of_missing hmissing]
      simp only [ih, List.filter_filter, List.contains_cons]
      apply List.filter_congr
      intro other _
      rw [Bool.not_or]
      rfl

/-- While it misses levels, the walk takes every attribute into the grain. -/
theorem Cover.grain_ofAttributes_of_missing {needed attributes : List Level}
    (h : (Cover.ofAttributes needed attributes).missing ≠ []) :
    (Cover.ofAttributes needed attributes).outer = [] ∧
      (Cover.ofAttributes needed attributes).grain = attributes := by
  obtain ⟨happend, houter⟩ := outer_append_grain needed attributes
  have hnil := houter h
  rw [hnil, List.nil_append] at happend
  exact ⟨hnil, happend⟩

/-- The walk misses a level exactly if some needed level is no attribute. -/
theorem Cover.missing_ofAttributes_eq_nil_iff (needed attributes : List Level) :
    (Cover.ofAttributes needed attributes).missing = [] ↔ ∀ level ∈ needed, level ∈ attributes := by
  obtain ⟨happend, -⟩ := outer_append_grain needed attributes
  constructor
  · intro hnil level hlevel
    rw [missing_ofAttributes, List.filter_eq_nil_iff] at hnil
    have hgrain : level ∈ (ofAttributes needed attributes).grain := by
      simpa using hnil level hlevel
    rw [← happend]
    exact List.mem_append_right _ hgrain
  · intro hall
    apply Decidable.byContradiction
    intro hne
    have hgrain := (grain_ofAttributes_of_missing hne).2
    apply hne
    rw [missing_ofAttributes, List.filter_eq_nil_iff, hgrain]
    intro level hlevel
    simpa using hall level hlevel

/-- Once it misses nothing, the walk has taken the shortest suffix that contains what is needed. -/
theorem Cover.isShortestSuffix_ofAttributes {needed attributes : List Level}
    (h : (Cover.ofAttributes needed attributes).missing = []) :
    IsShortestSuffix needed (Cover.ofAttributes needed attributes).grain attributes := by
  have hcontains : ∀ level ∈ needed, level ∈ (Cover.ofAttributes needed attributes).grain := by
    rw [missing_ofAttributes, List.filter_eq_nil_iff] at h
    simpa using h
  refine ⟨⟨_, (outer_append_grain needed attributes).1⟩, hcontains, ?_⟩
  clear hcontains
  -- By induction from the innermost attribute: a level joins the grain only while the attributes
  -- behind it lack a needed level, so that no suffix of these will do.
  induction attributes with
  | nil => exact fun _ _ _ => Nat.zero_le _
  | cons level rest ih =>
    intro other hother hcovers
    by_cases hmissing : (ofAttributes needed rest).missing = []
    · rw [ofAttributes_cons_of_covered hmissing]
      rcases List.suffix_cons_iff.1 hother with rfl | hother
      · have hsuffix : (ofAttributes needed rest).grain <:+ rest :=
          ⟨_, (outer_append_grain needed rest).1⟩
        exact Nat.le_succ_of_le hsuffix.length_le
      · exact ih hmissing other hother hcovers
    · rw [ofAttributes_cons_of_missing hmissing, (grain_ofAttributes_of_missing hmissing).2]
      rcases List.suffix_cons_iff.1 hother with rfl | hother
      · exact Nat.le_refl _
      · refine absurd ((missing_ofAttributes_eq_nil_iff needed rest).2 ?_) hmissing
        intro l hl
        exact hother.subset (hcovers l hl)

/-! ## The planned grain -/

theorem nonMeasures_eq_nil_iff (needed : List Level) :
    nonMeasures needed = [] ↔ ∀ level ∈ needed, level.isMeasure = true := by
  simp [nonMeasures]

theorem plan_of_measures {needed : List Level} (attributes : List Level) (hne : needed ≠ [])
    (hmeasures : nonMeasures needed = []) :
    Grain.plan attributes needed = ⟨attributes.dropLast, attributes.getLast?.toList, []⟩ := by
  rw [nonMeasures] at hmeasures
  simp [Grain.plan, hne, hmeasures]

theorem plan_of_covered {attributes needed : List Level} (hne : nonMeasures needed ≠ [])
    (hmissing : (Cover.ofAttributes (nonMeasures needed) attributes).missing = []) :
    Grain.plan attributes needed =
      ⟨(Cover.ofAttributes (nonMeasures needed) attributes).outer,
        (Cover.ofAttributes (nonMeasures needed) attributes).grain, []⟩ := by
  have hneeded : needed ≠ [] := by
    rintro rfl
    exact hne rfl
  rw [nonMeasures] at hne hmissing ⊢
  simp [Grain.plan, hneeded, hne, hmissing]

theorem plan_of_missing {attributes needed : List Level}
    (hmissing : (Cover.ofAttributes (nonMeasures needed) attributes).missing ≠ []) :
    Grain.plan attributes needed =
      ⟨[], attributes ++ (nonMeasures needed).filter (fun level => !attributes.contains level),
        attributes⟩ := by
  obtain ⟨houter, hgrain⟩ := Cover.grain_ofAttributes_of_missing hmissing
  have hfilter := Cover.missing_ofAttributes (nonMeasures needed) attributes
  have hne : nonMeasures needed ≠ [] := by
    intro hnil
    rw [hnil] at hmissing
    exact hmissing ((Cover.missing_ofAttributes_eq_nil_iff [] attributes).2 nofun)
  have hneeded : needed ≠ [] := by
    rintro rfl
    exact hne rfl
  rw [hgrain] at hfilter
  rw [← hfilter]
  rw [nonMeasures] at hne hmissing houter hgrain ⊢
  simp [Grain.plan, hneeded, hne, hmissing, houter, hgrain]

/-- The grain that is planned for attributes is the one that sorting needs. -/
theorem isGrainFor_plan {attributes : List Level} (h : attributes ≠ []) (needed : List Level) :
    IsGrainFor attributes needed (Grain.plan attributes needed) := by
  by_cases hneeded : needed = []
  · rw [hneeded]
    exact .unsorted rfl
  by_cases hmeasures : nonMeasures needed = []
  · rw [plan_of_measures attributes hneeded hmeasures, List.getLast?_eq_some_getLast h]
    exact .byMeasures hneeded ((nonMeasures_eq_nil_iff needed).1 hmeasures)
      (List.dropLast_concat_getLast h)
  by_cases hmissing : (Cover.ofAttributes (nonMeasures needed) attributes).missing = []
  · rw [plan_of_covered hmeasures hmissing]
    exact .covered hmeasures ((Cover.missing_ofAttributes_eq_nil_iff _ attributes).1 hmissing)
      (Cover.outer_append_grain _ attributes).1 (Cover.isShortestSuffix_ofAttributes hmissing)
  · rw [plan_of_missing hmissing]
    refine .widened (Decidable.byContradiction fun hnone => hmissing ?_)
    refine (Cover.missing_ofAttributes_eq_nil_iff _ attributes).2 fun level hlevel => ?_
    exact Decidable.byContradiction fun hnot => hnone ⟨level, hlevel, hnot⟩

/-- The grain that sorting needs is the planned one. -/
theorem eq_plan_of_isGrainFor {attributes needed : List Level} {grain : Grain}
    (h : IsGrainFor attributes needed grain) : grain = Grain.plan attributes needed := by
  cases h with
  | unsorted hneeded =>
    rw [hneeded]
    rfl
  | byMeasures hneeded hall happend =>
    rw [plan_of_measures attributes hneeded ((nonMeasures_eq_nil_iff needed).2 hall), ← happend]
    simp
  | covered hne hall happend hshortest =>
    have hmissing := (Cover.missing_ofAttributes_eq_nil_iff _ attributes).2 hall
    rw [plan_of_covered hne hmissing]
    cases hshortest.unique (Cover.isShortestSuffix_ofAttributes hmissing)
    have houter := (Cover.outer_append_grain (nonMeasures needed) attributes).1
    rw [List.append_cancel_right (happend.trans houter.symm)]
  | widened hex =>
    obtain ⟨level, hlevel, hnot⟩ := hex
    refine (plan_of_missing fun hmissing => hnot ?_).symm
    exact (Cover.missing_ofAttributes_eq_nil_iff _ attributes).1 hmissing level hlevel

/-- Some attributes are sorted by at least one level. -/
theorem sorted_plan_ne_nil {attributes : List Level} (h : attributes ≠ []) (needed : List Level) :
    (Grain.plan attributes needed).sorted ≠ [] := by
  have hgrain := isGrainFor_plan h needed
  generalize Grain.plan attributes needed = grain at hgrain ⊢
  cases hgrain with
  | unsorted => exact h
  | byMeasures => exact List.cons_ne_nil _ []
  | covered hlevels _ _ hshortest =>
    obtain ⟨level, hlevel⟩ := List.exists_mem_of_ne_nil _ hlevels
    exact List.ne_nil_of_mem (hshortest.contains level hlevel)
  | widened => exact fun hnil => h (List.append_eq_nil_iff.1 hnil).1

/-! ## The sorted set -/

/-- Projecting never lacks a level: a grain without a projection is left as it is. -/
theorem project?_eq_ok (grain : Grain) (set : SetExpr) :
    grain.project? set = .ok (grain.projected set) := by
  rw [Grain.project?, Grain.projected]
  cases grain.projection with
  | nil => rfl
  | cons level rest => rfl

/-- The set of an axis over some attributes exists, and is made along the planned grain. -/
theorem sortedSet?_eq_ok (split : FilterSplit) {attributes : List Level} (h : attributes ≠ [])
    (options : Options) (setup : SetExpr → SetExpr) :
    ∃ base set,
      split.levelsSet? (Grain.plan attributes (split.neededLevels options)).sorted = .ok base ∧
      SetExpr.product?
        ((Grain.plan attributes (split.neededLevels options)).outer.map split.levelSet ++
          [(Grain.plan attributes (split.neededLevels options)).projected
            (options.arrange (setup base))]) = .ok set ∧
      split.sortedSet? attributes options setup = .ok set := by
  generalize hgrain : Grain.plan attributes (split.neededLevels options) = grain
  have hsorted : grain.sorted ≠ [] := by
    rw [← hgrain]
    exact sorted_plan_ne_nil h _
  obtain ⟨base, hbase⟩ := split.levelsSet?_isOk hsorted
  obtain ⟨set, hset⟩ := (SetExpr.product?_isOk_iff
    (grain.outer.map split.levelSet ++ [grain.projected (options.arrange (setup base))])).2
    (List.append_ne_nil_of_right_ne_nil _ (List.cons_ne_nil _ _))
  refine ⟨base, set, hbase, hset, ?_⟩
  rw [FilterSplit.sortedSet?, hgrain, ← hset]
  simp only [hbase, bind, Except.bind, project?_eq_ok]
  cases grain.outer with
  | nil => rfl
  | cons first rest => rfl

/-- **The set of a sorted axis is made along the grain that sorting needs.** There is always exactly
one such grain. What the order and the page do to tuples is said by
`Mdx.SortReading.isStableSort_sort` and `Mdx.SortReading.tuples_page`. -/
theorem sortedSet?_eq_planned (split : FilterSplit) (attributes : List Level) (options : Options)
    (setup : SetExpr → SetExpr) (h : attributes ≠ []) :
    ∃ grain,
      (∀ other, IsGrainFor attributes
        (options.sortLevels ++ split.countedLevels).eraseDups other ↔ other = grain) ∧
      ∃ base sorted page set,
        joined (grain.sorted.map split.levelSet) = some base ∧
        IsSorted (setup base) options.orderBy sorted ∧
        IsPage (setup base) sorted options.skip options.top page ∧
        joined (grain.outer.map split.levelSet ++ [grain.projected page]) = some set ∧
        split.sortedSet? attributes options setup = .ok set := by
  obtain ⟨base, set, hbase, hset, hplanned⟩ := sortedSet?_eq_ok split h options setup
  refine ⟨Grain.plan attributes (split.neededLevels options), fun other => ⟨?_, ?_⟩,
    base, _, _, set, product?_eq_ok_iff.1 hbase, (isSorted_iff options).2 rfl,
    (isPage_iff options).2 rfl, product?_eq_ok_iff.1 hset, hplanned⟩
  · exact eq_plan_of_isGrainFor
  · rintro rfl
    exact isGrainFor_plan h _

/-- Sorting by a measure and by a level of another dimension, and paging. -/
private def foreignSort : Options :=
  ⟨[], [.descending ⟨"[Measures].[Sales]"⟩, .ofLevel ⟨"[Date].[Year]"⟩], some 2, some 3, false⟩

/-- A counted country and a city. -/
private def countedCountry : FilterSplit :=
  ⟨[(Request.Filter.ofLevel ⟨"[Geo].[Country]"⟩).withTotalCount, .ofLevel ⟨"[Geo].[City]"⟩], []⟩

/-- A foreign sort level widens the grain and is projected away behind sorting. -/
theorem sortedSet?_eq_planned_foreign :
    [Level.mk "[Geo].[Country]", ⟨"[Geo].[City]"⟩] ≠ [] ∧
    ∃ grain,
      (∀ other, IsGrainFor [⟨"[Geo].[Country]"⟩, ⟨"[Geo].[City]"⟩]
        (foreignSort.sortLevels ++ countedCountry.countedLevels).eraseDups other ↔
          other = grain) ∧
      ∃ base sorted page set,
        joined (grain.sorted.map countedCountry.levelSet) = some base ∧
        IsSorted (base.nonEmpty none) foreignSort.orderBy sorted ∧
        IsPage (base.nonEmpty none) sorted (some 2) (some 3) page ∧
        joined (grain.outer.map countedCountry.levelSet ++ [grain.projected page]) = some set ∧
        countedCountry.sortedSet? [⟨"[Geo].[Country]"⟩, ⟨"[Geo].[City]"⟩] foreignSort
          (fun base => base.nonEmpty none) = .ok set :=
  ⟨by decide, sortedSet?_eq_planned countedCountry [⟨"[Geo].[Country]"⟩, ⟨"[Geo].[City]"⟩]
    foreignSort (fun base => base.nonEmpty none) (by decide)⟩

example :
    countedCountry.sortedSet? [⟨"[Geo].[Country]"⟩, ⟨"[Geo].[City]"⟩] foreignSort id =
      .ok (.extract
        (.subset
          (.order
            (.order
              (.crossJoin (.children ⟨"[Geo].[Country]"⟩)
                [.children ⟨"[Geo].[City]"⟩, .children ⟨"[Date].[Year]"⟩])
              (.levelValue ⟨"[Date].[Year]"⟩) none)
            (.levelValue ⟨"[Measures].[Sales]"⟩) (some .descending))
          (.ofCount 2) (some (.ofCount 3)))
        [⟨"[Geo].[Country]"⟩, ⟨"[Geo].[City]"⟩]) := by
  rfl

end CubeQuery.Plan
