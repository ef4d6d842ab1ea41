set_option autoImplicit false

/-!
# Numerals

Reading numbers from decimal text. A real numeral has an optional sign and then either digits with
an optional point and an optional exponent, or one of the words for infinity and for not-a-number
in any case. A counting numeral has an optional plus sign and digits. Nothing else is a numeral: no
blanks, no digit separators, no other base.

Main statement: a number that fits is read back from its decimal digits (`count64?_toDigits`).
-/

namespace CubeQuery.Decimal

/-- The value of a digit, for the ten ASCII digits. -/
def digitValue (c : Char) : Nat :=
  c.toNat - '0'.toNat

/-- The number that a run of digits stands for. -/
def natOfDigits (digits : List Char) : Nat :=
  digits.foldl (fun value c => 10 * value + digitValue c) 0

/-- The sign in front of a numeral, true for a minus, and what follows it. -/
def splitSign : List Char → Bool × List Char
  | '-' :: rest => (true, rest)
  | '+' :: rest => (false, rest)
  | rest => (false, rest)

/-- The exponent part of a numeral: absent, or a letter e, an optional sign and digits. -/
def exponent? : List Char → Option Int
  | [] => some 0
  | e :: rest =>
    if e = 'e' ∨ e = 'E' then
      let (negative, digits) := splitSign rest
      if digits.isEmpty || !digits.all Char.isDigit then none
      else
        let size : Int := natOfDigits digits
        some (if negative then -size else size)
    else none

/-- Whether characters are a word given in small letters, in any case. -/
def isWord (word : String) (cs : List Char) : Bool :=
  cs.map Char.toLower == word.toList

/-- Positive infinity. -/
def infinity : Float := Float.ofBits 0x7FF0000000000000

/-- Not a number. -/
def notANumber : Float := Float.ofBits 0x7FF8000000000000

/--
The number nearest to `digits · 10 ^ power`. Powers far outside the range of numbers are answered
without computing them: the result is then zero or infinity.
-/
def nearest (digits : Nat) (power : Int) : Float :=
  if digits = 0 then 0
  else
    let places : Int := (Nat.toDigits 10 digits).length + power
    if places > 400 then infinity
    else if places < -400 then 0
    else Float.ofScientific digits (power < 0) power.natAbs

/-- The number nearest to a whole number. -/
def ofInt (n : Int) : Float :=
  if n < 0 then -(nearest n.natAbs 0) else nearest n.natAbs 0

/-- The number that an unsigned numeral stands for. -/
def unsigned? (cs : List Char) : Option Float :=
  if isWord "inf" cs || isWord "infinity" cs then some infinity
  else if isWord "nan" cs then some notANumber
  else
    let whole := cs.takeWhile Char.isDigit
    let (fraction, rest) :=
      match cs.dropWhile Char.isDigit with
      | '.' :: rest => (rest.takeWhile Char.isDigit, rest.dropWhile Char.isDigit)
      | rest => ([], rest)
    if whole.isEmpty && fraction.isEmpty then none
    else
      (exponent? rest).map fun exponent =>
        nearest (natOfDigits (whole ++ fraction)) (exponent - fraction.length)

/-- The number that a real numeral stands for, if the characters are one. -/
def real? (cs : List Char) : Option Float :=
  let (negative, rest) := splitSign cs
  (unsigned? rest).map fun x => if negative then -x else x

/-- The number that a counting numeral stands for, if the characters are one. -/
def count? (cs : List Char) : Option Nat :=
  let digits :=
    match cs with
    | '+' :: rest => rest
    | rest => rest
  if digits.isEmpty || !digits.all Char.isDigit then none else some (natOfDigits digits)

/-- A counting numeral of at most 32 bits. -/
def count32? (cs : List Char) : Option UInt32 :=
  (count? cs).bind fun n => if n < UInt32.size then some (UInt32.ofNat n) else none

/-- A counting numeral of at most 64 bits. -/
def count64? (cs : List Char) : Option UInt64 :=
  (count? cs).bind fun n => if n < UInt64.size then some (UInt64.ofNat n) else none

/-- A counting numeral without a sign stands for the number of its digits. -/
theorem count?_of_digits {cs : List Char} (hne : cs ≠ []) (h : ∀ c ∈ cs, c.isDigit = true) :
    count? cs = some (natOfDigits cs) := by
  have hempty : cs.isEmpty = false := List.isEmpty_eq_false_iff.2 hne
  have hall : cs.all Char.isDigit = true := List.all_eq_true.2 h
  unfold count?
  split
  · -- A plus sign is no digit.
    exact absurd (h '+' List.mem_cons_self) (by decide)
  · simp [hempty, hall]

/-- A number that fits is read back from its decimal digits. -/
theorem count64?_toDigits {n : Nat} (h : n < UInt64.size) :
    count64? (Nat.toDigits 10 n) = some (UInt64.ofNat n) := by
  have hcount : count? (Nat.toDigits 10 n) = some n := by
    rw [count?_of_digits Nat.toDigits_ne_nil fun c hc =>
      Nat.isDigit_of_mem_toDigits (by decide) (by decide) hc]
    exact congrArg some Nat.ofDigitChars_ten_toDigits
  rw [count64?, hcount]
  exact if_pos h

end CubeQuery.Decimal
