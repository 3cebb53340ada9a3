import Wager.Number.Whole

/-!
# Which texts are whole numbers

A text is read as a whole number exactly if it writes one that is within the limit.

The limit is checked after each digit. That makes no difference to what is read, since a number that
is too large stays so with more digits behind it.

Fields and arguments are numbers of one byte or of eight. What is read for either is known alike
(`Whole.IsUnsigned`).

## Main definitions

* `Whole.Writes`: A text writes a number in decimal digits.
* `Whole.IsUnsigned`: The numbers up to a limit are those of a type.

## Theorems

* `Whole.readDigits_eq_ok_iff`: Digits are read if what they write is within the limit.
* `Whole.read_eq_ok_iff`: So is a text.
* `Whole.IsUnsigned.exists_read_iff`: A number of a type is read exactly if a text writes it.
-/

namespace Wager.Whole

/-- A text writes a number: it has decimal digits, one at least, with perhaps a plus sign in front,
and nothing else. -/
def Writes (s : String) (n : Nat) : Prop :=
  ∃ ds : List Char, (s.toList = ds ∨ s.toList = '+' :: ds) ∧ ds ≠ [] ∧
    (∀ c ∈ ds, c.isDigit = true) ∧ Nat.ofDigitChars 10 ds 0 = n

/-- More digits do not make a number smaller. -/
theorem le_ofDigitChars (acc : Nat) (cs : List Char) : acc ≤ Nat.ofDigitChars 10 cs acc := by
  induction cs generalizing acc with
  | nil => exact Nat.le_refl acc
  | cons c cs ih =>
    have hmore := ih (10 * acc + (c.toNat - '0'.toNat))
    rw [Nat.ofDigitChars_cons]
    omega

theorem readDigits_eq_ok_iff {limit acc n : Nat} {cs : List Char} (hacc : acc ≤ limit) :
    readDigits limit acc cs = .ok n ↔
      (∀ c ∈ cs, c.isDigit = true) ∧ Nat.ofDigitChars 10 cs acc = n ∧ n ≤ limit := by
  induction cs generalizing acc with
  | nil =>
    rw [readDigits, Except.ok.injEq]
    exact ⟨fun h => ⟨List.forall_mem_nil _, h, h ▸ hacc⟩, fun h => h.2.1⟩
  | cons c cs ih =>
    have hvalue : 10 * acc + (c.toNat - '0'.toNat) = acc * 10 + digitValue c := by
      rw [digitValue, Nat.mul_comm]
    rw [readDigits, Nat.ofDigitChars_cons, hvalue, List.forall_mem_cons]
    by_cases hdigit : c.isDigit = true
    · rw [if_pos hdigit]
      by_cases hnext : acc * 10 + digitValue c ≤ limit
      · rw [if_pos hnext, ih hnext, and_iff_right hdigit]
      · -- The number is too large already.
        have hmore := le_ofDigitChars (acc * 10 + digitValue c) cs
        rw [if_neg hnext]
        constructor
        · intro h
          cases h
        · intro h
          omega
    · rw [if_neg hdigit]
      constructor
      · intro h
        cases h
      · intro h
        exact absurd h.1.1 hdigit

theorem read_eq_ok_iff {limit n : Nat} {s : String} :
    read limit s = .ok n ↔ Writes s n ∧ n ≤ limit := by
  have hread (ds : List Char) : readDigits limit 0 ds = .ok n ↔ _ :=
    readDigits_eq_ok_iff (Nat.zero_le limit)
  constructor
  · intro h
    unfold read readChars at h
    split at h
    case h_1 | h_2 => cases h
    case h_3 ds hne hs =>
      obtain ⟨hdigits, hvalue, hle⟩ := (hread ds).mp h
      exact ⟨⟨ds, Or.inr hs, hne, hdigits, hvalue⟩, hle⟩
    case h_4 hnil _ _ =>
      obtain ⟨hdigits, hvalue, hle⟩ := (hread s.toList).mp h
      exact ⟨⟨s.toList, Or.inl rfl, hnil, hdigits, hvalue⟩, hle⟩
  · rintro ⟨⟨ds, hs, hne, hdigits, hvalue⟩, hle⟩
    have hds := (hread ds).mpr ⟨hdigits, hvalue, hle⟩
    obtain ⟨d, ds, rfl⟩ := List.exists_cons_of_ne_nil hne
    rw [read]
    rcases hs with hs | hs
    · -- A digit is no sign.
      have hplus : d ≠ '+' := by
        rintro rfl
        exact absurd (hdigits '+' List.mem_cons_self) (by decide)
      rw [hs, ← hds]
      simp [readChars, hplus]
    · rw [hs, ← hds, readChars]
      intro h
      cases h

/-- The numbers up to a limit are those of a type. -/
structure IsUnsigned {α : Type} (high : Nat) (ofNat : Nat → α) (toNat : α → Nat) : Prop where
  toNat_ofNat : ∀ n ≤ high, toNat (ofNat n) = n
  ofNat_toNat : ∀ a, ofNat (toNat a) = a
  toNat_le : ∀ a, toNat a ≤ high

theorem isUnsigned_byte : IsUnsigned 255 UInt8.ofNat UInt8.toNat where
  toNat_ofNat _ h := UInt8.toNat_ofNat_of_lt' (Nat.lt_succ_of_le h)
  ofNat_toNat _ := UInt8.ofNat_toNat
  toNat_le b := Nat.le_of_lt_succ b.toNat_lt

theorem isUnsigned_word : IsUnsigned 0xFFFFFFFFFFFFFFFF UInt64.ofNat UInt64.toNat where
  toNat_ofNat _ h := UInt64.toNat_ofNat_of_lt' (Nat.lt_succ_of_le h)
  ofNat_toNat _ := UInt64.ofNat_toNat
  toNat_le n := Nat.le_of_lt_succ n.toNat_lt

/-- A number of a type is read exactly if the text writes it. -/
theorem IsUnsigned.exists_read_iff {α : Type} {high : Nat} {ofNat : Nat → α} {toNat : α → Nat}
    (h : IsUnsigned high ofNat toNat) {s : String} {a : α} :
    (∃ n, read high s = .ok n ∧ ofNat n = a) ↔ Writes s (toNat a) := by
  constructor
  · rintro ⟨n, hread, rfl⟩
    obtain ⟨hwrites, hle⟩ := read_eq_ok_iff.mp hread
    rwa [h.toNat_ofNat n hle]
  · exact fun hwrites =>
      ⟨toNat a, read_eq_ok_iff.mpr ⟨hwrites, h.toNat_le a⟩, h.ofNat_toNat a⟩

end Wager.Whole
