import CubeQuery.Plan.FilterSplit

set_option autoImplicit false

/-!
# The grain of sorting

Sorting and paging act on a set of tuples over some levels, its grain. The grain of an axis is no
finer than its sort keys and counts need: from the innermost attribute outwards, attributes join
the grain until every level that is needed is in it, and the outer attributes are cross joined with
the sorted set afterwards. Needed levels that are no attributes join the grain behind all
attributes and are projected away after sorting. Where only measures are needed, the innermost
attribute is the grain.

Main statement: the outer attributes and those of the grain are the attributes in order
(`Cover.outer_append_grain`).
-/

namespace CubeQuery.Plan

open Mdx (Level SetExpr)
open Request (Options)

/-- Attributes cut into outer ones and a grain, and the needed levels that the grain lacks. -/
structure Cover where
  outer : List Level
  grain : List Level
  missing : List Level

/-- Takes attributes into the grain from the innermost outwards while needed levels are missing. -/
def Cover.ofAttributes (needed : List Level) : List Level → Cover
  | [] => ⟨[], [], needed⟩
  | level :: rest =>
    let cover := ofAttributes needed rest
    if cover.missing.isEmpty then { cover with outer := level :: cover.outer }
    else ⟨cover.outer, level :: cover.grain, cover.missing.filter (· != level)⟩

/-- How an axis is sorted: what stays outside, what is sorted, and what it is projected to. -/
structure Grain where
  outer : List Level
  sorted : List Level
  projection : List Level

/-- The grain of attributes for the levels that sorting and counting need. -/
def Grain.plan (attributes needed : List Level) : Grain :=
  if needed.isEmpty then ⟨[], attributes, []⟩
  else
    let levels := needed.filter fun level => !level.isMeasure
    if levels.isEmpty then
      ⟨attributes.dropLast, attributes.getLast?.toList, []⟩
    else
      let cover := Cover.ofAttributes levels attributes
      if cover.missing.isEmpty then ⟨cover.outer, cover.grain, []⟩
      else ⟨cover.outer, cover.grain ++ cover.missing, cover.grain⟩

/-- A set projected to the levels of a grain's projection, where it has one. -/
def Grain.project? (grain : Grain) (set : SetExpr) : Except Error SetExpr :=
  if grain.projection.isEmpty then .ok set else set.extract? grain.projection

/-- The levels that sorting and counting need, without repeats. -/
def FilterSplit.neededLevels (split : FilterSplit) (options : Options) : List Level :=
  (options.sortLevels ++ split.countedLevels).eraseDups

/--
The set of an axis over attributes, of which there must be one, sorted and paged at its grain.
The set of the grain passes through `setup` before it is sorted.
-/
def FilterSplit.sortedSet? (split : FilterSplit) (attributes : List Level) (options : Options)
    (setup : SetExpr → SetExpr) : Except Error SetExpr := do
  let grain := Grain.plan attributes (split.neededLevels options)
  let base ← split.levelsSet? grain.sorted
  let inner ← grain.project? (options.arrange (setup base))
  if grain.outer.isEmpty then .ok inner
  else SetExpr.product? (grain.outer.map split.levelSet ++ [inner])

/-- Once nothing is missing, attributes stay outside the grain. -/
theorem Cover.ofAttributes_cons_of_covered {needed rest : List Level}
    (h : (Cover.ofAttributes needed rest).missing = []) (level : Level) :
    Cover.ofAttributes needed (level :: rest) =
      { Cover.ofAttributes needed rest with
        outer := level :: (Cover.ofAttributes needed rest).outer } := by
  simp [ofAttributes, h]

/-- While a level is missing, attributes join the grain. -/
theorem Cover.ofAttributes_cons_of_missing {needed rest : List Level}
    (h : (Cover.ofAttributes needed rest).missing ≠ []) (level : Level) :
    Cover.ofAttributes needed (level :: rest) =
      ⟨(Cover.ofAttributes needed rest).outer, level :: (Cover.ofAttributes needed rest).grain,
        (Cover.ofAttributes needed rest).missing.filter (· != level)⟩ := by
  simp [ofAttributes, h]

/-- A cover keeps the attributes and their order. -/
theorem Cover.outer_append_grain (needed attributes : List Level) :
    (Cover.ofAttributes needed attributes).outer ++ (Cover.ofAttributes needed attributes).grain
      = attributes ∧
    ((Cover.ofAttributes needed attributes).missing ≠ [] →
      (Cover.ofAttributes needed attributes).outer = []) := by
  induction attributes with
  | nil => exact ⟨rfl, fun _ => rfl⟩
  | cons level rest ih =>
    obtain ⟨happend, houter⟩ := ih
    by_cases hmissing : (Cover.ofAttributes needed rest).missing = []
    · rw [ofAttributes_cons_of_covered hmissing]
      exact ⟨congrArg (level :: ·) happend, fun h => absurd hmissing h⟩
    · have hnil := houter hmissing
      rw [hnil, List.nil_append] at happend
      rw [ofAttributes_cons_of_missing hmissing, hnil, happend]
      exact ⟨rfl, fun _ => rfl⟩

end CubeQuery.Plan
