/-!
# Blank characters

Which characters count as white space around a value, and trimming by them.

The class is the Unicode property `White_Space`, which is wider than the four blanks of ASCII: a
pasted address may be wrapped in no-break spaces or line separators, and is meant all the same.
Trimming works on the list of characters, where a proof can follow it; the versions on `String`
only change the view.

## Main definitions

* `Text.isBlank`: The class of blank characters.
* `Text.trimStart`, `Text.trim`: A list of characters without its outer blanks.
* `Text.trimmed`: The same of a string.

## Theorems

* `Text.trimStart_eq_self`: A list that starts with no blank is left alone.
* `Text.trimmed_eq_self`: So is a text without blanks.
-/

namespace Wager.Text

/-- The characters with the Unicode property `White_Space`. -/
def isBlank (c : Char) : Bool :=
  (9 ≤ c.toNat && c.toNat ≤ 13) || c.toNat == 0x20 || c.toNat == 0x85 || c.toNat == 0xA0 ||
  c.toNat == 0x1680 || (0x2000 ≤ c.toNat && c.toNat ≤ 0x200A) || c.toNat == 0x2028 ||
  c.toNat == 0x2029 || c.toNat == 0x202F || c.toNat == 0x205F || c.toNat == 0x3000

/-- Drops the blanks in front. -/
def trimStart (cs : List Char) : List Char :=
  cs.dropWhile isBlank

/-- Drops the blanks behind. -/
def trimEnd (cs : List Char) : List Char :=
  (cs.reverse.dropWhile isBlank).reverse

/-- Drops the blanks on both sides. -/
def trim (cs : List Char) : List Char :=
  trimEnd (trimStart cs)

/-- The text without the blanks around it. -/
def trimmed (s : String) : String :=
  String.ofList (trim s.toList)

/-- Whether nothing but blanks is in the text. -/
def isBlankText (s : String) : Bool :=
  s.toList.all isBlank

/-- A list whose first character is no blank has nothing to drop in front. -/
theorem trimStart_eq_self {c : Char} {cs : List Char} (h : isBlank c = false) :
    trimStart (c :: cs) = c :: cs := by
  simp [trimStart, List.dropWhile, h]

/-- A list without blanks has nothing to drop in front. -/
theorem trimStart_of_forall {cs : List Char} (h : ∀ c ∈ cs, isBlank c = false) :
    trimStart cs = cs := by
  cases cs with
  | nil => rfl
  | cons c cs => exact trimStart_eq_self (h c List.mem_cons_self)

/-- A text without blanks has none around it. -/
theorem trimmed_eq_self {s : String} (h : ∀ c ∈ s.toList, isBlank c = false) : trimmed s = s := by
  have hend : trimStart s.toList.reverse = s.toList.reverse :=
    trimStart_of_forall fun c hc => h c (List.mem_reverse.mp hc)
  rw [trimStart] at hend
  rw [trimmed, trim, trimStart_of_forall h, trimEnd, hend, List.reverse_reverse,
    String.ofList_toList]

end Wager.Text
