import CubeQuery.Plan.Dimension
import CubeQuery.Proofs.Outcome

set_option autoImplicit false

/-!
# Lists of attributes and of measures

What a list of attributes and a list of measures are, said by the characters of their names, and the
checks of a query that decide it.

Main statements: each check succeeds exactly on the lists it is meant for and otherwise refuses the
query (`checkAttributes_decides`, `checkMeasures_decides`, `checkReservedNames_decides`).
-/

namespace CubeQuery.Mdx

/-! ## Shapes of levels -/

/-- The name of a level begins with an opening bracket and ends with a closing one. -/
def Level.IsBracketed (level : Level) : Prop :=
  ['['] <+: level.name.toList ∧ [']'] <:+ level.name.toList

/-- The name of a level begins with the word for measures. -/
def Level.IsMeasure (level : Level) : Prop :=
  "[Measures]".toList <+: level.name.toList

theorem Level.isValid_iff (level : Level) : level.isValid = true ↔ level.IsBracketed := by
  rw [isValid, isBracketed, IsBracketed, Bool.and_eq_true, beq_iff_eq, beq_iff_eq]
  apply and_congr
  · cases level.name.toList <;> simp [eq_comm]
  · rw [← List.reverse_prefix, ← List.head?_reverse]
    cases level.name.toList.reverse <;> simp [eq_comm]

theorem Level.isMeasure_iff (level : Level) : level.isMeasure = true ↔ level.IsMeasure :=
  List.isPrefixOf_iff_prefix

theorem Level.isMeasure_eq_false_iff (level : Level) :
    level.isMeasure = false ↔ ¬ level.IsMeasure := by
  rw [← isMeasure_iff, Bool.not_eq_true]

/-- Levels of one kind as a query may list them. -/
structure IsLevelList (kind : Level → Prop) (levels : List Level) : Prop where
  bracketed : ∀ level ∈ levels, level.IsBracketed
  ofKind : ∀ level ∈ levels, kind level
  notReserved : ∀ level ∈ levels, level.name ∉ reservedNames
  distinct : levels.Nodup

/-- Levels that may be the attributes of a query. -/
def IsAttributeList (levels : List Level) : Prop :=
  IsLevelList (fun level => ¬ level.IsMeasure) levels

/-- Levels that may be the measures of a query. -/
def IsMeasureList (levels : List Level) : Prop :=
  IsLevelList Level.IsMeasure levels

/-- A list of levels passes the check of their shape and that of reserved names. -/
theorem isLevelList_iff (kind : Level → Prop) (levels : List Level) :
    IsLevelList kind levels ↔
      ((∀ level ∈ levels, level.IsBracketed ∧ kind level) ∧ levels.Nodup) ∧
        ∀ level ∈ levels, level.name ∉ reservedNames := by
  constructor
  · intro h
    refine ⟨⟨?_, h.distinct⟩, h.notReserved⟩
    intro level hlevel
    exact ⟨h.bracketed level hlevel, h.ofKind level hlevel⟩
  · rintro ⟨⟨hshape, hnodup⟩, hreserved⟩
    refine ⟨?_, ?_, hreserved, hnodup⟩
    · intro level hlevel
      exact (hshape level hlevel).1
    · intro level hlevel
      exact (hshape level hlevel).2

/-! ## Checks of shape -/

/-- The check of attributes, reserved names apart. -/
theorem checkAttributes_decides (levels : List Level) :
    Decides ((∀ level ∈ levels, level.IsBracketed ∧ ¬ level.IsMeasure) ∧ levels.Nodup)
      (checkAttributes levels) := by
  apply Decides.of_mapError
  · intro fault
    rfl
  · rw [← mapError_eq_ok_iff Error.invalidAttribute]
    simp only [← Level.isValid_iff, ← Level.isMeasure_eq_false_iff]
    exact checkAttributes_eq_ok_iff levels

/-- The check of measures, reserved names apart. -/
theorem checkMeasures_decides (levels : List Level) :
    Decides ((∀ level ∈ levels, level.IsBracketed ∧ level.IsMeasure) ∧ levels.Nodup)
      (checkMeasures levels) := by
  apply Decides.of_mapError
  · intro fault
    rfl
  · rw [← mapError_eq_ok_iff Error.invalidMeasure]
    simp only [← Level.isValid_iff, ← Level.isMeasure_iff]
    exact checkMeasures_eq_ok_iff levels

/-! ## Reserved names -/

/-- The check passes exactly on levels without reserved names. -/
theorem checkReserved_eq_ok_iff (levels : List Level) :
    checkReserved levels = .ok () ↔ ∀ level ∈ levels, level.name ∉ reservedNames := by
  rw [checkReserved]
  cases hfind : levels.find? fun level => reservedNames.contains level.name with
  | some level =>
    have hreserved : level.name ∈ reservedNames := by simpa using List.find?_some hfind
    constructor
    · intro h
      cases h
    · intro hall
      exact absurd hreserved (hall level (List.mem_of_find?_eq_some hfind))
  | none =>
    constructor
    · intro _
      simpa using hfind
    · intro _
      rfl

end CubeQuery.Mdx

namespace CubeQuery.Plan

open Mdx (Level)

/-- The check of reserved names. -/
theorem checkReservedNames_decides (attributes measures : List Level) :
    Decides ((∀ level ∈ attributes, level.name ∉ Mdx.reservedNames) ∧
        ∀ level ∈ measures, level.name ∉ Mdx.reservedNames)
      (checkReservedNames attributes measures) := by
  rw [← Mdx.checkReserved_eq_ok_iff, ← Mdx.checkReserved_eq_ok_iff]
  apply Decides.bind
  · exact Decides.of_mapError (fun _ => rfl) Iff.rfl
  · intro _ _ _
    exact Decides.of_mapError (fun _ => rfl) Iff.rfl

/-- A refusal under a condition leaves its negation to be met. -/
theorem refuseIf_decides {e : Error} (he : e.isRefusal = true) (isFault : Bool) :
    Decides (isFault = false) (refuseIf isFault e) := by
  cases isFault with
  | false => exact (Decides.of_eq_ok rfl).congr ⟨fun _ => rfl, fun _ => trivial⟩
  | true => exact (Decides.of_error he).congr ⟨False.elim, nofun⟩

end CubeQuery.Plan
