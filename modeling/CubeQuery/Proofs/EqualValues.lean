import CubeQuery.Value

set_option autoImplicit false

/-!
# Equal values

Values are compared as numbers or as texts. Two numbers are equal if they denote the same quantity,
so that both zeros are equal and not-a-number equals nothing, itself included. Equality is therefore
not reflexive, but it is an equivalence among the values that equal anything.

Main statements: equality of values is symmetric (`Value.same_symm`) and transitive
(`Value.same_trans`), and so it is for optional values (`Value.sameOption_symm`,
`Value.sameOption_trans`).
-/

namespace CubeQuery

/-! ## Numbers -/

section Numbers

open Float.Model (UnpackedFloat)

/-- What equal numbers have in common: the sign of an infinity, or sign, mantissa and exponent.
Mantissas of numbers other than zero are positive; not-a-number has nothing. -/
def quantity? : UnpackedFloat → Option (UnpackedFloat.Sign × Option (Nat × Int))
  | .notANumber => none
  | .infinity sign => some (sign, none)
  | .zero _ => some (.positive, some (0, 0))
  | .finite sign mantissa exponent _ => some (sign, some (mantissa, exponent))

/-- Numbers compare as equal exactly if they have a quantity in common. -/
theorem compare_eq_eq_iff (a b : UnpackedFloat) :
    a.compare b = some .eq ↔ ∃ quantity, quantity? a = some quantity ∧
      quantity? b = some quantity := by
  -- Only the order of two finite numbers of one sign hangs on more than their kinds and signs.
  delta UnpackedFloat.compare quantity?
  cases a with
  | notANumber => simp
  | infinity s =>
    cases b with
    | notANumber => simp
    | infinity t => cases s <;> cases t <;> simp <;> decide
    | zero t => cases s <;> simp
    | finite t m e hm => cases s <;> simp
  | zero s =>
    cases b with
    | notANumber => simp
    | infinity t => cases t <;> simp
    | zero t => simp
    | finite t m e hm =>
      cases t with
      | positive =>
        simp
        omega
      | negative => simp
  | finite s m e hm =>
    cases b with
    | notANumber => simp
    | infinity t => cases t <;> simp
    | zero t =>
      cases s with
      | positive =>
        simp
        omega
      | negative => simp
    | finite t n f hn => cases s <;> cases t <;> simp <;> omega

theorem float_beq_iff (x y : Float) :
    (x == y) = true ↔ ∃ quantity, quantity? x.toModel.unpack = some quantity ∧
      quantity? y.toModel.unpack = some quantity := by
  rw [← compare_eq_eq_iff, ← beq_iff_eq (b := some Ordering.eq)]
  exact Iff.rfl

theorem float_beq_symm {x y : Float} (h : (x == y) = true) : (y == x) = true := by
  obtain ⟨quantity, hx, hy⟩ := (float_beq_iff x y).1 h
  exact (float_beq_iff y x).2 ⟨quantity, hy, hx⟩

theorem float_beq_trans {x y z : Float} (hxy : (x == y) = true) (hyz : (y == z) = true) :
    (x == z) = true := by
  obtain ⟨quantity, hx, hy⟩ := (float_beq_iff x y).1 hxy
  obtain ⟨quantity', hy', hz⟩ := (float_beq_iff y z).1 hyz
  cases hy.symm.trans hy'
  exact (float_beq_iff x z).2 ⟨quantity, hx, hz⟩

end Numbers

/-! ## Values -/

namespace Value

theorem same_symm {v w : Value} (h : v.same w = true) : w.same v = true := by
  cases v with
  | number x =>
    cases w with
    | number y => exact float_beq_symm h
    | text t => cases h
  | text s =>
    cases w with
    | number y => cases h
    | text t => exact beq_iff_eq.2 (beq_iff_eq.1 h).symm

theorem same_trans {u v w : Value} (huv : u.same v = true) (hvw : v.same w = true) :
    u.same w = true := by
  cases v with
  | number y =>
    cases u with
    | text s => cases huv
    | number x =>
      cases w with
      | text t => cases hvw
      | number z => exact float_beq_trans huv hvw
  | text s =>
    cases u with
    | number x => cases huv
    | text r =>
      cases w with
      | number z => cases hvw
      | text t => exact beq_iff_eq.2 ((beq_iff_eq.1 huv).trans (beq_iff_eq.1 hvw))

theorem sameOption_symm {x y : Option Value} (h : sameOption x y = true) :
    sameOption y x = true := by
  cases x with
  | none => cases y with
    | none => rfl
    | some w => cases h
  | some v => cases y with
    | none => cases h
    | some w => exact same_symm h

theorem sameOption_trans {x y z : Option Value} (hxy : sameOption x y = true)
    (hyz : sameOption y z = true) : sameOption x z = true := by
  cases y with
  | none =>
    cases x with
    | some u => cases hxy
    | none => exact hyz
  | some v =>
    cases x with
    | none => cases hxy
    | some u => cases z with
      | none => cases hyz
      | some w => exact same_trans hxy hyz

end Value

end CubeQuery
