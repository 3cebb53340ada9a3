/-!
# Numbers in a base

Whole numbers as their digits, most significant first, in any base from two up.

Base 58 texts and byte strings are both such digits, of one number; `ofDigits` and `digits` are the
way there and back.

## Main definitions

* `Positional.ofDigits`: The number that digits write.
* `Positional.digits`: The digits of a number, none for zero.
-/

namespace Wager.Positional

/-- The number with the given digits. -/
def ofDigits (base : Nat) (ds : List Nat) : Nat :=
  ds.foldl (fun n d => n * base + d) 0

/-- Puts the digits of `n` before `acc`; `fuel` bounds their number. -/
def digitsOnto (base : Nat) : Nat → Nat → List Nat → List Nat
  | 0, _, acc => acc
  | fuel + 1, n, acc =>
    if n = 0 then acc else digitsOnto base fuel (n / base) (n % base :: acc)

/-- The digits of a number. In no base does it have more of them than in base two. -/
def digits (base n : Nat) : List Nat :=
  digitsOnto base (n.log2 + 1) n []

end Wager.Positional
