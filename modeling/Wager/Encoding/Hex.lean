import Wager.Encoding.Positional

/-!
# Hexadecimal digits

The digits of base sixteen. They are read in either case and written in lower case.

## Main definitions

* `Hex.value?`: The value of a digit.
* `Hex.digit`: The digit with a value.
* `Hex.number`: The number that digits write.
-/

namespace Wager.Hex

/-- The value of a digit in either case. -/
def value? (c : Char) : Option Nat :=
  if '0' ≤ c ∧ c ≤ '9' then some (c.toNat - '0'.toNat)
  else if 'a' ≤ c ∧ c ≤ 'f' then some (c.toNat - 'a'.toNat + 10)
  else if 'A' ≤ c ∧ c ≤ 'F' then some (c.toNat - 'A'.toNat + 10)
  else none

/-- The digit for the last place of a number. -/
def digit (n : Nat) : Char := Nat.digitChar (n % 16)

/-- The number that digits write, in which anything else counts as zero. -/
def number (cs : List Char) : Nat := Positional.ofDigits 16 (cs.map fun c => (value? c).getD 0)

end Wager.Hex
