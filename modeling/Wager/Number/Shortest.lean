import Wager.Number.Binary64

/-!
# Shortest decimals

The decimal number with the fewest digits that reads back to a given double.

The numbers that round to a double form an interval around it, ends included when its last bit is
even. On the grid of decimals with a given number of digits, only the two neighbours of the double
can be the nearest points inside, so it is enough to test those two on the grids of one, two, up to
seventeen digits: the first grid with a hit has the fewest digits, and of two hits the nearer is
taken. Everything is exact arithmetic on whole numbers.

## Main definitions

* `Decimal`: A decimal number.
* `Binary64.shortest`: The shortest decimal of a positive double.
-/

namespace Wager

/-- The number `digits * 10 ^ scale`. -/
structure Decimal where
  digits : Nat
  scale : Int
  deriving DecidableEq

/-- What to do when two decimals are equally near. -/
inductive Tie
  | toEven
  | up

namespace Decimal

/-- Moves the zeros at the end of the digits into the scale, at most `steps` of them. -/
def strip : Nat → Decimal → Decimal
  | 0, d => d
  | steps + 1, d =>
    if d.digits % 10 = 0 then strip steps ⟨d.digits / 10, d.scale + 1⟩ else d

/-- The digits as text. -/
def text (d : Decimal) : List Char := Nat.toDigits 10 d.digits

/-- The exponent of the leading digit. -/
def leading (d : Decimal) : Int := d.scale + d.text.length - 1

end Decimal

namespace Binary64

/-- Whether `10 ^ e` is at most `num / den`. -/
def powTenLe (num den : Nat) (e : Int) : Bool :=
  den * Nat.pow 10 e.toNat ≤ num * Nat.pow 10 (-e).toNat

/-- The exponent of the leading decimal digit of `num / den`. The binary exponent gives it up to a
few steps. -/
def leadingExponent (num den : Nat) : Int :=
  let guess := ((num.log2 : Int) - den.log2 - 1) * 1233 / 4096 - 1
  let step (e : Int) : Int := if powTenLe num den (e + 1) then e + 1 else e
  step (step (step guess))

/-- An interval around a positive rational number, all over one denominator. -/
structure Interval where
  low : Nat
  middle : Nat
  high : Nat
  den : Nat
  closed : Bool

/-- The numbers that round to the double `m * 2 ^ q`. Below a power of two the doubles lie twice as
dense, so the interval reaches only half as far there. -/
def rounding (m : Nat) (q : Int) : Interval :=
  let unit := Nat.pow 2 q.toNat
  let below := if m = 0x10000000000000 ∧ minExponent < q then 1 else 2
  ⟨(4 * m - below) * unit, 4 * m * unit, (4 * m + 2) * unit, 4 * Nat.pow 2 (-q).toNat, m % 2 = 0⟩

/-- Whether `d * 10 ^ k` lies in the interval. -/
def Interval.holds (i : Interval) (d : Nat) (k : Int) : Bool :=
  let point := d * Nat.pow 10 k.toNat * i.den
  let low := i.low * Nat.pow 10 (-k).toNat
  let high := i.high * Nat.pow 10 (-k).toNat
  if i.closed then low ≤ point && point ≤ high else low < point && point < high

/-- The point of the grid of multiples of `10 ^ k` that lies in the interval and nearest to its
middle. -/
def Interval.nearest? (i : Interval) (tie : Tie) (k : Int) : Option Decimal :=
  let num := i.middle * Nat.pow 10 (-k).toNat
  let den := i.den * Nat.pow 10 k.toNat
  let d := num / den
  let up := match tie with
    | .toEven => den < 2 * (num % den) || (den == 2 * (num % den) && d % 2 == 1)
    | .up => den ≤ 2 * (num % den)
  match i.holds d k, i.holds (d + 1) k with
  | true, true => some ⟨if up then d + 1 else d, k⟩
  | true, false => some ⟨d, k⟩
  | false, true => some ⟨d + 1, k⟩
  | false, false => none

/-- The decimal with the fewest digits that reads back to the positive double `m * 2 ^ q`. -/
def shortestOf (tie : Tie) (m : Nat) (q : Int) : Decimal :=
  let i := rounding m q
  let lead := leadingExponent i.middle i.den
  let found := (List.range 17).findSome? fun (n : Nat) => i.nearest? tie (lead - n)
  (found.getD ⟨i.middle / i.den, 0⟩).strip 20

/-- Sign and shortest decimal of a finite double; zero has no digits. -/
def shortest (tie : Tie) (x : Binary64) : Option (Bool × Decimal) :=
  match x.view with
  | .finite s m q => some (s, if m = 0 then ⟨0, 0⟩ else shortestOf tie m q)
  | _ => none

end Binary64

end Wager
