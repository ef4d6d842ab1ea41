set_option autoImplicit false

/-!
# Hexadecimal digits

The value of a hexadecimal digit in either case, and the digit of a value.
-/

namespace CubeQuery.Text

/-- The value of a hexadecimal digit. -/
def hexValue? (c : Char) : Option Nat :=
  if c.isDigit then some (c.toNat - '0'.toNat)
  else if 'a' ≤ c ∧ c ≤ 'f' then some (c.toNat - 'a'.toNat + 10)
  else if 'A' ≤ c ∧ c ≤ 'F' then some (c.toNat - 'A'.toNat + 10)
  else none

/-- The digit of a value below sixteen. -/
def hexDigit (n : Nat) : Char :=
  (Nat.toDigits 16 n).head?.getD '0'

/-- The value of a run of hexadecimal digits. -/
def hexNat? (digits : List Char) : Option Nat :=
  digits.foldlM (fun value c => (hexValue? c).map fun digit => 16 * value + digit) 0

end CubeQuery.Text
