import CubeQuery.Proofs.EqualValues
import CubeQuery.Report.Row
import Mathlib.Algebra.Group.Nat.Defs

set_option autoImplicit false

/-!
# Counts of rows

The number of rows that a value stands for, said by the quantity that its number denotes: the whole
part of a positive quantity, the largest count where the whole part does not fit, and 0 for every
other value, infinities included.

Main statement: this is the number that is read (`standsFor_iff`).
-/

namespace CubeQuery.Report

open Float.Model (UnpackedFloat)
open Float.Model.UnpackedFloat (ExtendedMantissa)

/-! ## Whole parts -/

/-- The whole part of a mantissa times a power of two. -/
def wholePart (mantissa : Nat) (exponent : Int) : Nat :=
  mantissa * 2 ^ exponent.toNat / 2 ^ (-exponent).toNat

theorem mantissa_shiftRight (extended : ExtendedMantissa) (places : Nat) :
    (extended >>> places).mantissa = extended.mantissa / 2 ^ places := by
  induction places with
  | zero => exact (Nat.div_one _).symm
  | succ places ih =>
    change (extended >>> places).mantissa / 2 = _
    rw [ih, Nat.div_div_eq_div_mul, Nat.pow_succ]

/-- Rounding a positive number towards zero leaves its whole part. -/
theorem roundToInt_positive (mantissa : Nat) (exponent : Int) :
    UnpackedFloat.roundToInt .positive mantissa exponent = wholePart mantissa exponent := by
  -- At most one of the two shifts moves the mantissa, by the sign of the exponent.
  have hplaces : (0 - (exponent - (exponent - 0).toNat)).toNat = (-exponent).toNat := by omega
  simp only [UnpackedFloat.roundToInt, UnpackedFloat.decreaseExponent,
    UnpackedFloat.shiftToExponent, UnpackedFloat.Sign.apply, mantissa_shiftRight,
    ExtendedMantissa.ofMantissaAndAccuracy, Nat.shiftLeft_eq, Int.sub_zero, wholePart] at hplaces ⊢
  rw [hplaces]

theorem toNat_ofNatClamp (n : Nat) : (UInt64.ofNatClamp n).toNat = min n (UInt64.size - 1) := by
  by_cases h : n < UInt64.size
  · rw [UInt64.ofNatClamp, dif_pos h, UInt64.toNat_ofNatLT]
    omega
  · rw [UInt64.ofNatClamp, dif_neg h, UInt64.toNat_ofNatLT]
    omega

/-! ## Counts -/

/-- A value whose number is the mantissa times a power of two, and neither negative nor infinite. -/
def Denotes (value : Option Value) (mantissa : Nat) (exponent : Int) : Prop :=
  ∃ x, value.bind Value.toNumber? = some x ∧
    quantity? x.toModel.unpack = some (.positive, some (mantissa, exponent))

/-- The number of rows that a value stands for: of a number that is neither negative nor infinite
the whole part, or the largest count if that is smaller; of anything else 0. -/
inductive StandsFor (value : Option Value) : UInt64 → Prop where
  | ofNumber {mantissa : Nat} {exponent : Int} {count : UInt64} :
      Denotes value mantissa exponent →
      count.toNat = min (wholePart mantissa exponent) (UInt64.size - 1) → StandsFor value count
  | ofOther : (∀ mantissa exponent, ¬ Denotes value mantissa exponent) → StandsFor value 0

/-- A quantity that is not negative and not infinite is a zero or has a positive mantissa. -/
theorem eq_zero_or_finite {number : UnpackedFloat} {mantissa : Nat} {exponent : Int}
    (h : quantity? number = some (.positive, some (mantissa, exponent))) :
    (mantissa = 0 ∧ ∃ sign, number = .zero sign) ∨
      ∃ hmantissa, number = .finite .positive mantissa exponent hmantissa := by
  cases number with
  | notANumber => cases h
  | infinity sign => cases h
  | zero sign =>
    cases h
    exact .inl ⟨rfl, sign, rfl⟩
  | finite sign m e hm =>
    cases h
    exact .inr ⟨hm, rfl⟩

/-- The numbers that are counted are those with a positive mantissa. -/
theorem isFinite_and_pos_iff (x : Float) : (x.isFinite && 0 < x) = true ↔
    ∃ mantissa exponent hmantissa,
      x.toModel.unpack = .finite .positive mantissa exponent hmantissa := by
  have hzero : (0 : Float).toModel.unpack = .zero .positive := rfl
  have hfinite : x.isFinite = x.toModel.unpack.isFinite := rfl
  have hlt : 0 < x ↔ (UnpackedFloat.zero .positive).lt x.toModel.unpack = true := by
    rw [← hzero]
    exact decide_eq_true_iff
  rw [Bool.and_eq_true, decide_eq_true_eq, hfinite, hlt]
  cases x.toModel.unpack with
  | notANumber => exact iff_of_false (fun h => nomatch h.1) nofun
  | infinity sign => exact iff_of_false (fun h => nomatch h.1) nofun
  | zero sign => exact iff_of_false (fun h => nomatch h.2) nofun
  | finite sign mantissa exponent hmantissa =>
    cases sign with
    | positive => exact iff_of_true ⟨rfl, rfl⟩ ⟨mantissa, exponent, hmantissa, rfl⟩
    | negative => exact iff_of_false (fun h => nomatch h.2) nofun

theorem toNat_toUInt64 {x : Float} {mantissa : Nat} {exponent : Int} {hmantissa : 0 < mantissa}
    (hx : x.toModel.unpack = .finite .positive mantissa exponent hmantissa) :
    x.toUInt64.toNat = min (wholePart mantissa exponent) (UInt64.size - 1) := by
  have htoUInt64 : x.toUInt64 =
      UInt64.ofNatClamp (x.toModel.unpack.toInt 0 (UInt64.size - 1)).toNat := rfl
  rw [htoUInt64, toNat_ofNatClamp, hx]
  change min (UnpackedFloat.roundToInt .positive mantissa exponent).toNat _ = _
  rw [roundToInt_positive, Int.toNat_natCast]

theorem toNat_countOf {value : Option Value} {mantissa : Nat} {exponent : Int}
    (h : Denotes value mantissa exponent) :
    (countOf value).toNat = min (wholePart mantissa exponent) (UInt64.size - 1) := by
  obtain ⟨x, hvalue, hquantity⟩ := h
  simp only [countOf, hvalue]
  obtain ⟨rfl, sign, hzero⟩ | ⟨hmantissa, hfinite⟩ := eq_zero_or_finite hquantity
  · -- A zero is no positive number, but its whole part is the 0 that it is read as.
    have hpos : ¬ (x.isFinite && 0 < x) = true := by
      rw [isFinite_and_pos_iff, hzero]
      rintro ⟨_, _, _, h⟩
      cases h
    rw [if_neg hpos, wholePart, Nat.zero_mul, Nat.zero_div]
    rfl
  · rw [if_pos ((isFinite_and_pos_iff x).2 ⟨mantissa, exponent, hmantissa, hfinite⟩)]
    exact toNat_toUInt64 hfinite

theorem countOf_eq_zero {value : Option Value}
    (h : ∀ mantissa exponent, ¬ Denotes value mantissa exponent) : countOf value = 0 := by
  unfold countOf
  cases hvalue : value.bind Value.toNumber? with
  | none => rfl
  | some x =>
    refine if_neg fun hpos => ?_
    obtain ⟨mantissa, exponent, hmantissa, hunpack⟩ := (isFinite_and_pos_iff x).1 hpos
    exact h mantissa exponent ⟨x, hvalue, by rw [hunpack]; rfl⟩

theorem standsFor_countOf (value : Option Value) : StandsFor value (countOf value) := by
  by_cases h : ∃ mantissa exponent, Denotes value mantissa exponent
  · obtain ⟨mantissa, exponent, h⟩ := h
    exact .ofNumber h (toNat_countOf h)
  · have hother : ∀ mantissa exponent, ¬ Denotes value mantissa exponent :=
      fun mantissa exponent hdenotes => h ⟨mantissa, exponent, hdenotes⟩
    rw [countOf_eq_zero hother]
    exact .ofOther hother

/-- A value stands for one number of rows, which is the number read. -/
theorem standsFor_iff (value : Option Value) (count : UInt64) :
    StandsFor value count ↔ countOf value = count := by
  constructor
  · intro h
    cases h with
    | ofNumber hdenotes hcount =>
      exact UInt64.toNat.inj ((toNat_countOf hdenotes).trans hcount.symm)
    | ofOther hother => exact countOf_eq_zero hother
  · rintro rfl
    exact standsFor_countOf value

example : countOf (some (.text "2.9")) = 2 := by decide +kernel

end CubeQuery.Report
