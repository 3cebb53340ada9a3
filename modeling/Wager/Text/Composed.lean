import Wager.Text.CombiningClass
import Wager.Text.Decomposition

/-!
# Composed form

One way of writing a text, where letters and their marks could be written in several.

First every character is taken apart, then marks are put in the order of their classes, and then
each letter takes up the marks that it can be put together with. A mark is out of reach if another
one of its class stands between it and the letter. Texts that differ only in how marks are written
come out the same. The result is Normalization Form C.

Syllables of Hangul are put together by arithmetic and are in no table: a syllable is a leading
consonant, a vowel and perhaps a trailing consonant, and the syllables are numbered in that order.

## Main definitions

* `Text.takenApart`: The parts of a character.
* `Text.ordered`: The characters with their marks in order.
* `Text.paired?`: The character that two are put together to.
* `Text.composed`: The composed form.
-/

namespace Wager.Text

/-! ### Hangul -/

namespace Hangul

/-- The first syllable. -/
def syllables : Nat := 0xAC00

/-- The first leading consonant. -/
def leads : Nat := 0x1100

/-- The first vowel. -/
def vowels : Nat := 0x1161

/-- The place before the first trailing consonant, which stands for none. -/
def trails : Nat := 0x11A7

/-- How many leading consonants there are. -/
def leadCount : Nat := 19

/-- How many vowels there are. -/
def vowelCount : Nat := 21

/-- How many ways there are to end a syllable, with none or one of the trailing consonants. -/
def trailCount : Nat := 28

/-- The number of a character from a first one on, if it is one of so many. -/
def index? (first count c : Nat) : Option Nat :=
  if first ≤ c ∧ c < first + count then some (c - first) else none

/-- The parts of a syllable. -/
def parts? (c : Nat) : Option (List Nat) :=
  (index? syllables (leadCount * vowelCount * trailCount) c).map fun i =>
    let lead := leads + i / (vowelCount * trailCount)
    let vowel := vowels + i / trailCount % vowelCount
    if i % trailCount = 0 then [lead, vowel] else [lead, vowel, trails + i % trailCount]

/-- The syllable of a leading consonant and a vowel, or of a syllable that ends in a vowel and a
trailing consonant. -/
def paired? (a b : Nat) : Option Nat :=
  match index? leads leadCount a, index? vowels vowelCount b with
  | some lead, some vowel => some (syllables + (lead * vowelCount + vowel) * trailCount)
  | _, _ =>
    match index? syllables (leadCount * vowelCount * trailCount) a,
        index? (trails + 1) (trailCount - 1) b with
    | some i, some trail => if i % trailCount = 0 then some (a + trail + 1) else none
    | _, _ => none

end Hangul

/-! ### Taking apart -/

/-- The parts of a character. Only the first part of a composed character has parts again, and taking
them apart so many times is enough. -/
def partsOf : Nat → Nat → List Nat
  | 0, c => [c]
  | depth + 1, c =>
    match Hangul.parts? c with
    | some parts => parts
    | none =>
      match allParts.find? (·.whole == c) with
      | some { parts := first :: rest, isComposed := true, .. } => partsOf depth first ++ rest
      | some { parts, .. } => parts
      | none => [c]

/-- The parts of a character that have no parts themselves. -/
def takenApart (c : Char) : List Char :=
  if c.toNat < 128 then [c] else (partsOf 4 c.toNat).map Char.ofNat

/-! ### Order -/

/-- Puts a character behind others, which stand in reverse, but before the marks of higher classes that
it may be exchanged with. -/
def putBehind (c : Char) : List Char → List Char
  | d :: rest =>
    if combiningClass c ≠ 0 ∧ combiningClass c < combiningClass d then d :: putBehind c rest
    else c :: d :: rest
  | [] => [c]

/-- The characters with their marks in order. -/
def ordered (cs : List Char) : List Char :=
  (cs.foldl (fun before c => putBehind c before) []).reverse

/-! ### Putting together -/

/-- The character that two are put together to. -/
def paired? (a b : Char) : Option Char :=
  match Hangul.paired? a.toNat b.toNat with
  | some n => some (Char.ofNat n)
  | none =>
    (allParts.find? fun p => p.isComposed && p.parts == [a.toNat, b.toNat]).map fun p =>
      Char.ofNat p.whole

/-- Puts together what stands behind a letter. The marks that the letter has not taken up are given in
reverse. -/
def composeFrom (letter : Char) (marks : List Char) : List Char → List Char
  | [] => letter :: marks.reverse
  | c :: rest =>
    let isReached := match marks with
      | [] => true
      | last :: _ => combiningClass last < combiningClass c
    match if isReached then paired? letter c else none with
    | some letter => composeFrom letter marks rest
    | none =>
      if combiningClass c = 0 then letter :: marks.reverse ++ composeFrom c [] rest
      else composeFrom letter (c :: marks) rest

/-- Puts together letters and marks. Marks in front belong to no letter. -/
def compose : List Char → List Char
  | [] => []
  | c :: rest => if combiningClass c = 0 then composeFrom c [] rest else c :: compose rest

/-- The composed form of a text. -/
def composed (cs : List Char) : List Char :=
  if cs.all (·.toNat < 128) then cs else compose (ordered (cs.flatMap takenApart))

end Wager.Text
