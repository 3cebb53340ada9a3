/-!
# Punycode

Texts of any characters written with letters, digits and hyphens only.

The plain characters of a text come first. Behind the last hyphen stand numbers that tell which
other characters are put in and where: places are counted through the text so far again and again,
once for each character from the first beyond ASCII on, and each number says how many places are
passed over before the next character is put in. The digits of a number are letters and digits, the
least one first, and how many of them it takes adapts to the numbers before it.

## Main definitions

* `Punycode.encode`: The written form of a text.
* `Punycode.decode?`: The text that is written.
-/

namespace Wager.Punycode

/-! ### Numbers -/

/-- The digit with a value: letters before digits. -/
def digitChar (d : Nat) : Char := if d < 26 then Char.ofNat (97 + d) else Char.ofNat (22 + d)

/-- The value of a digit. -/
def digitValue? (c : Char) : Option Nat :=
  if c.isLower then some (c.toNat - 97) else if c.isDigit then some (c.toNat - 22) else none

/-- From which value on the digit in a place is not the last one. Places count in steps of the base. -/
def threshold (bias place : Nat) : Nat := max 1 (min 26 (place - bias))

theorem one_le_threshold (bias place : Nat) : 1 ≤ threshold bias place := Nat.le_max_left _ _

/-- Brings a number down into the range where the bias is linear in it. -/
def scaleDown (delta place : Nat) : Nat × Nat :=
  if 455 < delta then scaleDown (delta / 35) (place + 36) else (delta, place)
  termination_by delta
  decreasing_by omega

/-- The bias after a number that has put in the last of so many characters. -/
def adapt (delta count : Nat) (isFirst : Bool) : Nat :=
  let delta := if isFirst then delta / 700 else delta / 2
  let (delta, place) := scaleDown (delta + delta / count) 0
  place + 36 * delta / (delta + 38)

/-- Writes a number. -/
def digits (bias place n : Nat) : List Char :=
  let t := threshold bias place
  if n < t then [digitChar n]
  else digitChar (t + (n - t) % (36 - t)) :: digits bias (place + 36) ((n - t) / (36 - t))
  termination_by n
  decreasing_by
    have := one_le_threshold bias place
    have : (n - threshold bias place) / (36 - threshold bias place) ≤ n - threshold bias place :=
      Nat.div_le_self _ _
    omega

/-- What no number may exceed. -/
def maxNumber : Nat := 0xFFFFFFFF

/-- Reads a number that is added to another one, and gives the rest with it. -/
def number? (bias place weight sum : Nat) : List Char → Option (Nat × List Char)
  | [] => none
  | c :: rest => do
    let d ← digitValue? c
    let t := threshold bias place
    let sum := sum + d * weight
    if maxNumber < sum then none
    else if d < t then some (sum, rest)
    else if maxNumber < weight * (36 - t) then none
    else number? bias (place + 36) (weight * (36 - t)) sum rest

/-! ### Writing -/

/-- What is written so far: the digits in reverse, the places passed over since the last character was
put in, the bias, and how many characters there are. -/
structure Writing where
  written : List Char := []
  passed : Nat := 0
  bias : Nat := 72
  count : Nat

/-- Passes a place of the text while a character is put in everywhere that it stands. -/
def Writing.pass (plain : Nat) (next : Nat) (w : Writing) (c : Char) : Writing :=
  if c.toNat < next then { w with passed := w.passed + 1 }
  else if c.toNat = next then
    { written := (digits w.bias 36 w.passed).reverse ++ w.written
      passed := 0
      bias := adapt w.passed (w.count + 1) (w.count = plain)
      count := w.count + 1 }
  else w

/-- Puts in characters, which are given in order, each everywhere that it stands. -/
def Writing.putIn (text : List Char) (plain : Nat) : (after : Nat) → List Nat → Writing → Writing
  | _, [], w => w
  | after, next :: rest, w =>
    let w := { w with passed := w.passed + (next - after) * (w.count + 1) }
    let w := text.foldl (pass plain next) w
    putIn text plain (next + 1) rest { w with passed := w.passed + 1 }

/-- The written form of a text. -/
def encode (text : List Char) : List Char :=
  let plain := text.filter (·.toNat < 128)
  let others := ((text.filter (128 ≤ ·.toNat)).map Char.toNat).mergeSort (· ≤ ·)
  let w := Writing.putIn text plain.length 128 others.eraseReps { count := plain.length }
  plain ++ (if plain.isEmpty then [] else ['-']) ++ w.written.reverse

/-! ### Reading -/

/-- Reads numbers and puts in the characters that they mean, up to so many of them. -/
def putIn? : Nat → (text : List Char) → (next place bias : Nat) → List Char → Option (List Char)
  | _, text, _, _, _, [] => some text
  | 0, _, _, _, _, _ => none
  | room + 1, text, next, place, bias, cs => do
    let (sum, rest) ← number? bias 36 1 place cs
    let count := text.length + 1
    let next := next + sum / count
    let here := sum % count
    if next < 0xD800 ∨ 0xDFFF < next ∧ next ≤ 0x10FFFF then
      let text := text.take here ++ Char.ofNat next :: text.drop here
      putIn? room text next (here + 1) (adapt (sum - place) count (place = 0)) rest
    else none

/-- The text that is written. -/
def decode? (cs : List Char) : Option (List Char) :=
  if cs.contains '-' then
    let behind := (cs.reverse.takeWhile (· ≠ '-')).reverse
    let plain := cs.take (cs.length - behind.length - 1)
    if plain.isEmpty then none else putIn? behind.length plain 128 0 72 behind
  else putIn? cs.length [] 128 0 72 cs

end Wager.Punycode
