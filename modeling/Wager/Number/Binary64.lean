/-!
# Doubles

Numbers in the 64-bit binary format, as their bits, with the operations that this library needs
worked out exactly in whole numbers.

A double is kept as its bits, so two of them are equal exactly when they are the same number written
the same way, and everything about them can be computed inside a proof. Every operation is the exact
result rounded once: `ofRatio` rounds a quotient of whole numbers to the nearest double, a tie going
to the one with the even last bit, and product, quotient and reading are given by it.

## Main definitions

* `Binary64`: A double.
* `Binary64.View`: A double seen as a sign and a whole number times a power of two.
* `Binary64.ofRatio`: The double nearest to a quotient.
* `Binary64.ofDecimal`: The double nearest to a decimal number.
* `Binary64.mul`, `Binary64.div`: Product and quotient.
-/

namespace Wager

/-- A number in the 64-bit binary floating-point format. -/
structure Binary64 where
  bits : UInt64
  deriving DecidableEq

namespace Binary64

/-- What a double stands for: `significand * 2 ^ exponent` with a sign, an infinity, or no number. -/
inductive View
  | finite (negative : Bool) (significand : Nat) (exponent : Int)
  | infinite (negative : Bool)
  | notANumber

/-- The exponent of the smallest doubles: they are the multiples of `2 ^ minExponent`. -/
def minExponent : Int := -1074

/-- The bit pattern of infinity, which every larger magnitude is rounded to. -/
def infinityBits : Nat := 0x7FF0000000000000

/-- The double with the given sign and the given pattern in its other bits. -/
def ofPattern (negative : Bool) (pattern : Nat) : Binary64 :=
  ⟨UInt64.ofNat (min pattern infinityBits + if negative then 0x8000000000000000 else 0)⟩

/-- Zero with a sign. -/
def zero (negative : Bool) : Binary64 := ofPattern negative 0

/-- Infinity with a sign. -/
def infinity (negative : Bool) : Binary64 := ofPattern negative infinityBits

/-- The value that stands for no number. -/
def nan : Binary64 := ⟨UInt64.ofNat (infinityBits + 0x8000000000000)⟩

/-- Whether the sign bit is set. -/
def isNegative (x : Binary64) : Bool := 0x8000000000000000 ≤ x.bits.toNat

/-- The meaning of the bits. -/
def view (x : Binary64) : View :=
  let biased : Nat := x.bits.toNat / 0x10000000000000 % 2048
  let fraction : Nat := x.bits.toNat % 0x10000000000000
  if biased = 2047 then (if fraction = 0 then .infinite x.isNegative else .notANumber)
  else if biased = 0 then .finite x.isNegative fraction minExponent
  else .finite x.isNegative (0x10000000000000 + fraction) (biased - 1075 : Int)

/-- Whether the double is a number other than the infinities. -/
def isFinite (x : Binary64) : Bool :=
  match x.view with
  | .finite .. => true
  | _ => false

/-- Whether the double is one of the two zeros. -/
def isZero (x : Binary64) : Bool :=
  match x.view with
  | .finite _ m _ => m == 0
  | _ => false

/-- The double with the other sign. -/
def neg (x : Binary64) : Binary64 := ⟨x.bits ^^^ 0x8000000000000000⟩

/-- The quotient rounded to the nearest whole number, a tie going to the even one. -/
def roundDiv (num den : Nat) : Nat :=
  let q := num / den
  let r := num % den
  if 2 * r < den then q
  else if den < 2 * r then q + 1
  else if q % 2 = 0 then q else q + 1

/-- Numerator and denominator of `num / den / 2 ^ exponent`. -/
def unscale (num den : Nat) (exponent : Int) : Nat × Nat :=
  (num * Nat.pow 2 (-exponent).toNat, den * Nat.pow 2 exponent.toNat)

/-- The double nearest to `num / den` for positive numbers. The exponent is chosen so that the
significand has 53 bits, or is the least one there is; the pattern of a double grows with its
magnitude, so a significand that rounds up to 54 bits is carried into the exponent. -/
def ofRatio (negative : Bool) (num den : Nat) : Binary64 :=
  if num = 0 then zero negative
  else
    let guess := max minExponent ((num.log2 : Int) - den.log2 - 53)
    let wide := unscale num den guess
    let exponent := if 0x20000000000000 ≤ wide.1 / wide.2 then guess + 1 else guess
    let (n, d) := unscale num den exponent
    ofPattern negative ((exponent - minExponent).toNat * 0x10000000000000 + roundDiv n d)

/-- The double nearest to a whole number. -/
def ofNat (n : Nat) : Binary64 := ofRatio false n 1

/-- The double nearest to a whole number with a sign. -/
def ofInt (n : Int) : Binary64 := ofRatio (n < 0) n.natAbs 1

/-- The double nearest to `digits * 10 ^ exponent`. Exponents far outside the range of doubles are
answered without computing the power. -/
def ofDecimal (negative : Bool) (digits : Nat) (exponent : Int) : Binary64 :=
  if digits = 0 then zero negative
  else
    let length : Int := digits.log2 * 3 / 10
    if 400 < exponent + length then infinity negative
    else if exponent + length < -400 then zero negative
    else ofRatio negative (digits * Nat.pow 10 exponent.toNat) (Nat.pow 10 (-exponent).toNat)

/-- The product, rounded once. -/
def mul (x y : Binary64) : Binary64 :=
  match x.view, y.view with
  | .finite s m e, .finite t n f =>
    ofRatio (s != t) (m * n * Nat.pow 2 (e + f).toNat) (Nat.pow 2 (-(e + f)).toNat)
  | .infinite s, .infinite t => infinity (s != t)
  | .infinite s, .finite t n _ | .finite t n _, .infinite s =>
    if n = 0 then nan else infinity (s != t)
  | _, _ => nan

/-- The quotient, rounded once. -/
def div (x y : Binary64) : Binary64 :=
  match x.view, y.view with
  | .finite s m e, .finite t n f =>
    if n = 0 then (if m = 0 then nan else infinity (s != t))
    else ofRatio (s != t) (m * Nat.pow 2 (e - f).toNat) (n * Nat.pow 2 (f - e).toNat)
  | .infinite s, .finite t _ _ => infinity (s != t)
  | .finite s _ _, .infinite t => zero (s != t)
  | _, _ => nan

end Binary64

end Wager
