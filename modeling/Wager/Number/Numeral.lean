import Wager.Number.Binary64

/-!
# Numerals

Decimal numbers as they are written: a sign, digits, perhaps a fraction, perhaps a power of ten; and
the doubles that they stand for.

There are two ways from a numeral to a double. `nearest` is the exact one. `scaled` is the quick one
that documents are read with: it takes as many leading digits as fit 64 bits, rounds them, and
scales the result by one power of ten, so it may be off by the last bit and refuses what grows too
large on the way.

## Main definitions

* `Numeral`: A decimal number as written.
* `Numeral.nearest`: The double nearest to a numeral.
* `Numeral.scaled`: The double that a document's numeral is read as.
* `Binary64.read`: The double that a text stands for.
-/

namespace Wager

/-- A decimal number as written. The fraction is absent when there is no point. -/
structure Numeral where
  negative : Bool
  whole : List Char
  fraction : Option (List Char)
  exponent : Option Int

namespace Numeral

/-- The value of a digit. -/
def digit (c : Char) : Nat := c.toNat - '0'.toNat

/-- The number that the digits write. -/
def digitsValue (cs : List Char) : Nat := cs.foldl (fun n c => n * 10 + digit c) 0

/-- Splits digits from what follows them. -/
def spanDigits (cs : List Char) : List Char × List Char :=
  (cs.takeWhile Char.isDigit, cs.dropWhile Char.isDigit)

/-- Reads an optional sign; true for minus. -/
def readSign : List Char → Bool × List Char
  | '-' :: cs => (true, cs)
  | '+' :: cs => (false, cs)
  | cs => (false, cs)

/-- Reads the power of ten that may follow a number. Nothing if there is a mark without digits. -/
def readExponent (cs : List Char) : Option (Option Int × List Char) :=
  match cs with
  | [] => some (none, [])
  | c :: rest =>
    if c = 'e' ∨ c = 'E' then
      let (negative, rest) := readSign rest
      match spanDigits rest with
      | ([], _) => none
      | (ds, rest) => some (some (if negative then -(digitsValue ds : Int) else digitsValue ds), rest)
    else some (none, cs)

/-- The double nearest to the number. -/
def nearest (n : Numeral) : Binary64 :=
  let fraction := n.fraction.getD []
  .ofDecimal n.negative (digitsValue (n.whole ++ fraction)) (n.exponent.getD 0 - fraction.length)

/-- The largest number of 64 bits. -/
def maxWord : Nat := 0xFFFFFFFFFFFFFFFF

/-- Takes digits on to `acc` while the number fits 64 bits; gives it and the digits left. -/
def takeDigits (acc : Nat) : List Char → Nat × List Char
  | [] => (acc, [])
  | c :: cs =>
    if acc * 10 + digit c ≤ maxWord then takeDigits (acc * 10 + digit c) cs else (acc, c :: cs)

/-- The double nearest to a power of ten. -/
def powTen (e : Nat) : Binary64 := .ofDecimal false 1 e

/-- Divides by `10 ^ e` in steps that powers of ten among the doubles allow. -/
def shrink : Nat → Binary64 → Nat → Binary64
  | 0, x, _ => x
  | fuel + 1, x, e =>
    if e ≤ 308 then x.div (powTen e)
    else if x.isZero then x
    else shrink fuel (x.div (powTen 308)) (e - 308)

/-- Multiplies by `10 ^ e`; nothing if the result is too large. -/
def grow (x : Binary64) (e : Nat) : Option Binary64 :=
  if x.isZero then some x
  else if e ≤ 308 then
    let y := x.mul (powTen e)
    if y.isFinite then some y else none
  else none

/-- The double that a numeral in a document is read as, unless it is too large. -/
def scaled (n : Numeral) : Option Binary64 :=
  let (whole, dropped) := takeDigits 0 n.whole
  let fraction := n.fraction.getD []
  let (digits, unread) := takeDigits whole fraction
  let exponent : Int :=
    n.exponent.getD 0 + dropped.length - (fraction.length - unread.length : Nat)
  let magnitude :=
    if 0 ≤ exponent then grow (.ofNat digits) exponent.toNat
    else some (shrink ((-exponent).toNat / 308 + 1) (.ofNat digits) (-exponent).toNat)
  magnitude.map fun x => if n.negative then x.neg else x

end Numeral

namespace Binary64

/-- Why a text cannot be read as a double. -/
inductive ReadFault
  | empty
  | invalid
  deriving DecidableEq

/-- The wording of a fault. -/
def ReadFault.message : ReadFault → String
  | .empty => "cannot parse float from empty string"
  | .invalid => "invalid float literal"

/-- The names of values that are not finite, in lower case. -/
def named (negative : Bool) (name : List Char) : Option Binary64 :=
  if name = "inf".toList ∨ name = "infinity".toList then some (infinity negative)
  else if name = "nan".toList then some (if negative then nan.neg else nan)
  else none

/-- Reads digits with an optional point and an optional power of ten, up to the end. -/
def readNumeral (negative : Bool) (cs : List Char) : Option Numeral :=
  let (whole, rest) := Numeral.spanDigits cs
  let (fraction, rest) := match rest with
    | '.' :: rest =>
      let (ds, rest) := Numeral.spanDigits rest
      (some ds, rest)
    | _ => (none, rest)
  if whole.isEmpty && (fraction.getD []).isEmpty then none
  else match Numeral.readExponent rest with
    | some (exponent, []) => some ⟨negative, whole, fraction, exponent⟩
    | _ => none

/-- Reads a text as a double, rounding to the nearest. -/
def read (s : String) : Except ReadFault Binary64 :=
  match s.toList with
  | [] => .error .empty
  | cs =>
    let (negative, body) := Numeral.readSign cs
    match readNumeral negative body with
    | some n => .ok n.nearest
    | none => match named negative (body.map Char.toLower) with
      | some x => .ok x
      | none => .error .invalid

end Binary64

end Wager
