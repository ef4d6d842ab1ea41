set_option autoImplicit false

/-!
# Shortest decimals

The text of a number: the fewest decimal digits that read back as the same number, written
positionally without an exponent and without a superfluous fraction.

A finite number is `m · 2 ^ q`. The reals that round to it form an interval around it, closed if
`m` is even and open otherwise. On the decimal grids of falling step the two neighbours of the
number are tried, and the first grid with a neighbour inside the interval gives the digits; of two
neighbours inside, the nearer one, and the upper one if both are equally near.
-/

namespace CubeQuery.Decimal

/-- A positive number `mantissa · 2 ^ power` with whether the gap below it is half the gap above. -/
structure Binary where
  mantissa : Nat
  power : Int
  narrowBelow : Bool

/-- What a number is, apart from its sign. -/
inductive Magnitude where
  | zero
  | finite (b : Binary)
  | infinite
  | undefined

/-- The magnitude that the exponent and fraction fields of a number's 64 bits stand for. -/
def Magnitude.ofFields (exponent fraction : Nat) : Magnitude :=
  if exponent = 2047 then if fraction = 0 then infinite else undefined
  else if exponent = 0 then
    if fraction = 0 then zero else finite ⟨fraction, -1074, false⟩
  else
    finite ⟨Nat.pow 2 52 + fraction, (exponent : Int) - 1075, fraction = 0 && 1 < exponent⟩

/-- The sign of a number, true if it is negative, and its magnitude. -/
def signed (x : Float) : Bool × Magnitude :=
  let bits := x.toBits.toNat
  (bits / Nat.pow 2 63 = 1,
    .ofFields (bits / Nat.pow 2 52 % Nat.pow 2 11) (bits % Nat.pow 2 52))

/-- Decimal digits and the power of ten that they are scaled by. -/
structure Scaled where
  digits : Nat
  power : Int
deriving DecidableEq, Repr

/-- The neighbour of `b` on the grid of step `10 ^ power` that reads back as `b`, if one does. -/
def Binary.onGrid? (b : Binary) (power : Int) : Option Scaled :=
  let scale := Nat.pow 2 (b.power - 2).toNat * Nat.pow 10 (-power).toNat
  let unit := Nat.pow 2 (2 - b.power).toNat * Nat.pow 10 power.toNat
  let value := 4 * b.mantissa * scale
  let low := (4 * b.mantissa - if b.narrowBelow then 1 else 2) * scale
  let high := (4 * b.mantissa + 2) * scale
  let closed := b.mantissa % 2 = 0
  let floor := value / unit
  let below := low < floor * unit ∨ (closed ∧ low = floor * unit)
  let above := (floor + 1) * unit < high ∨ (closed ∧ (floor + 1) * unit = high)
  let rest := value - floor * unit
  if below ∧ above then
    some ⟨if 2 * rest < unit then floor else floor + 1, power⟩
  else if below then some ⟨floor, power⟩
  else if above then some ⟨floor + 1, power⟩
  else none

/-- The first grid hit from step `10 ^ power` on, with at most `tries` further steps. -/
def Binary.firstHit (b : Binary) (power : Int) : Nat → Scaled
  | 0 => ⟨b.mantissa * Nat.pow 2 b.power.toNat, 0⟩
  | tries + 1 =>
    match b.onGrid? power with
    | some hit => hit
    | none => firstHit b (power - 1) tries

/--
The fewest digits that read back as `b`. The search starts at a grid coarser than the number, and
seventeen digits always suffice.
-/
def Binary.shortest (b : Binary) : Scaled :=
  let bits : Int := b.mantissa.log2 + b.power + 1
  b.firstHit (bits * 30103 / 100000 + 1) 20

/-- Digits at their places, with zeros up to the point where needed. -/
def Scaled.positional (s : Scaled) : String :=
  let digits := (Nat.toDigits 10 s.digits)
  if 0 ≤ s.power then String.ofList (digits ++ List.replicate s.power.toNat '0')
  else
    let places := s.power.natAbs
    if places < digits.length then
      let (whole, fraction) := digits.splitAt (digits.length - places)
      String.ofList (whole ++ '.' :: fraction)
    else
      String.ofList ('0' :: '.' :: (List.replicate (places - digits.length) '0' ++ digits))

/-- The text of a number. -/
def text (x : Float) : String :=
  let (negative, magnitude) := signed x
  let sign := if negative then "-" else ""
  match magnitude with
  | .zero => sign ++ "0"
  | .finite b => sign ++ b.shortest.positional
  | .infinite => sign ++ "inf"
  | .undefined => "NaN"

end CubeQuery.Decimal
