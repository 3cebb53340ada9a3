import Wager.Encoding.Codec

/-!
# Laws of wire codecs

What makes a codec one: reading undoes writing, and writing undoes reading.

`Codec.IsLawful` says both with the rest of the bytes on either side. Reading what was written gives
the value and leaves what comes after it alone; and whatever reading accepts is what writing the
value gives, followed by the bytes that were left. The second half is the stronger one: it says that
every value has a single wire form, so a message that was read is known to the byte.

Both halves pass from the parts of a codec to the whole. The only arithmetic is in the compact
length, whose three forms cover three ranges that do not overlap; `readLength_writeLength` and
`eq_writeLength_of_readLength` go through them one by one. A reader of `n` values is no codec
itself, since `n` stands elsewhere, and has its two laws apart.

## Main definitions

* `Codec.IsLawful`: A codec reads exactly what it writes.

## Theorems

* `Codec.isLawful_byte`, `Codec.isLawful_fixed`: The codecs of bytes are lawful.
* `Codec.isLawful_pair`, `Codec.isLawful_equiv`: Lawful parts make a lawful whole.
* `Codec.readLength_one`, `Codec.readLength_two`, `Codec.readLength_three`: What is read from one,
  two and three bytes.
* `Codec.readLength_writeLength`: A compact length is read back.
* `Codec.eq_writeLength_of_readLength`: What is read as a compact length has the one form it is
  written in, and is at most 65535.
* `Codec.readMany_flatMap_write`, `Codec.eq_flatMap_write_of_readMany`: The same for values one
  after another.
* `Codec.isLawful_compactList`: Lists with their length have a lawful codec if their members have.
-/

namespace Wager.Codec

variable {α β : Type}

/-- A codec reads exactly what it writes. -/
structure IsLawful (c : Codec α) : Prop where
  read_write : ∀ (v : α) (rest : List UInt8), c.read (c.write v ++ rest) = some (v, rest)
  eq_write : ∀ (bs : List UInt8) (v : α) (rest : List UInt8),
    c.read bs = some (v, rest) → bs = c.write v ++ rest

/-! ### Bytes -/

theorem isLawful_byte : byte.IsLawful where
  read_write v rest := rfl
  eq_write bs v rest h := by
    cases bs with
    | nil => simp only [byte, reduceCtorEq] at h
    | cons b bs =>
      simp only [byte, Option.some.injEq, Prod.mk.injEq] at h
      rw [h.1, h.2]
      rfl

theorem isLawful_fixed (n : Nat) : (fixed n).IsLawful where
  read_write v rest := by
    have htake : (v.toList ++ rest).take n = v.toList := List.take_left' v.length_eq
    have hdrop : (v.toList ++ rest).drop n = rest := List.drop_left' v.length_eq
    simp only [fixed, htake, hdrop, FixedBytes.ofList?, v.length_eq, ↓reduceDIte, Option.map_some]
  eq_write bs v rest h := by
    simp only [fixed, FixedBytes.ofList?] at h
    by_cases hlen : (bs.take n).length = n
    · simp only [hlen, ↓reduceDIte, Option.map_some, Option.some.injEq, Prod.mk.injEq] at h
      rw [← h.1, ← h.2]
      exact (List.take_append_drop n bs).symm
    · simp only [hlen, ↓reduceDIte, Option.map_none, reduceCtorEq] at h

/-! ### Putting codecs together -/

theorem isLawful_pair {a : Codec α} {b : Codec β} (ha : a.IsLawful) (hb : b.IsLawful) :
    (a.pair b).IsLawful where
  read_write v rest := by
    simp only [pair, List.append_assoc, ha.read_write, hb.read_write, Option.bind_eq_bind,
      Option.bind_some, Option.pure_def]
  eq_write bs v rest h := by
    simp only [pair, Option.bind_eq_bind, Option.pure_def, Option.bind_eq_some_iff] at h
    rcases h with ⟨⟨x, mid⟩, hx, ⟨y, after⟩, hy, hv⟩
    simp only [Option.some.injEq, Prod.mk.injEq] at hv
    rw [ha.eq_write bs x mid hx, hb.eq_write mid y after hy, ← hv.1, hv.2]
    simp only [pair, List.append_assoc]

/-- A change of type keeps the laws if the two directions undo each other. -/
theorem isLawful_equiv {a : Codec α} (ha : a.IsLawful) {forth : α → β} {back : β → α}
    (hfb : ∀ y, forth (back y) = y) (hbf : ∀ x, back (forth x) = x) :
    (a.equiv forth back).IsLawful where
  read_write v rest := by
    simp only [equiv, ha.read_write, Option.map_some, hfb]
  eq_write bs v rest h := by
    simp only [equiv, Option.map_eq_some_iff] at h
    rcases h with ⟨⟨x, after⟩, hx, hv⟩
    simp only [Prod.mk.injEq] at hv
    rw [ha.eq_write bs x after hx, ← hv.1, hv.2]
    simp only [equiv, hbf]

/-! ### Compact lengths -/

/-- A byte that is not the last one of a length. -/
theorem not_lt_iff_le_toNat (b : UInt8) : ¬ b < 128 ↔ 128 ≤ b.toNat := by
  rw [UInt8.lt_iff_toNat_lt]
  exact Nat.not_lt

/-- What is read from a byte below 128. -/
theorem readLength_one (a : UInt8) (rest : List UInt8) (ha : a.toNat < 128) :
    readLength (a :: rest) = some (a.toNat, rest) := by
  have hlt : a < 128 := UInt8.lt_iff_toNat_lt.mpr ha
  simp only [readLength, hlt, ↓reduceIte]

/-- What is read from two bytes. -/
theorem readLength_two (a b : UInt8) (rest : List UInt8) (ha : 128 ≤ a.toNat) (hb0 : b.toNat ≠ 0)
    (hb : b.toNat < 128) :
    readLength (a :: b :: rest) = some (a.toNat - 128 + b.toNat * 128, rest) := by
  have hage : ¬ a < 128 := (not_lt_iff_le_toNat a).mpr ha
  have hbne : b ≠ 0 := fun h => hb0 (congrArg UInt8.toNat h)
  have hblt : b < 128 := UInt8.lt_iff_toNat_lt.mpr hb
  simp only [readLength, hage, hbne, hblt, ↓reduceIte]

/-- What is read from three bytes, the last of which is below four. -/
theorem readLength_three (a b c : UInt8) (rest : List UInt8) (ha : 128 ≤ a.toNat)
    (hb : 128 ≤ b.toNat) (hc0 : c.toNat ≠ 0) (hc : c.toNat < 4) :
    readLength (a :: b :: c :: rest)
      = some (a.toNat - 128 + (b.toNat - 128) * 128 + c.toNat * 16384, rest) := by
  have hage : ¬ a < 128 := (not_lt_iff_le_toNat a).mpr ha
  have hbge : ¬ b < 128 := (not_lt_iff_le_toNat b).mpr hb
  have hbne : b ≠ 0 := by
    rintro rfl
    exact absurd hb (by decide)
  have hcok : ¬ (c = 0 ∨ 4 ≤ c) := by
    rintro (h | h)
    · exact hc0 (congrArg UInt8.toNat h)
    · exact Nat.not_le.mpr hc (UInt8.le_iff_toNat_le.mp h)
  simp only [readLength, hage, hbne, hbge, hcok, ↓reduceIte]

/-- A compact length is read back, whatever follows it. -/
theorem readLength_writeLength (n : Nat) (hn : n ≤ 65535) (rest : List UInt8) :
    readLength (writeLength n ++ rest) = some (n, rest) := by
  unfold writeLength
  by_cases h1 : n < 128
  · have ha : (UInt8.ofNat n).toNat = n := UInt8.toNat_ofNat_of_lt' (show _ < 256 by omega)
    rw [if_pos h1, List.cons_append, List.nil_append, readLength_one _ rest (by omega), ha]
  · have ha : (UInt8.ofNat (n % 128 + 128)).toNat = n % 128 + 128 :=
      UInt8.toNat_ofNat_of_lt' (show _ < 256 by omega)
    by_cases h2 : n < 16384
    · -- The second byte is not zero, or one would have been enough.
      have hb : (UInt8.ofNat (n / 128)).toNat = n / 128 :=
        UInt8.toNat_ofNat_of_lt' (show _ < 256 by omega)
      have hvalue : n % 128 + 128 - 128 + n / 128 * 128 = n := by omega
      rw [if_neg h1, if_pos h2, List.cons_append, List.cons_append, List.nil_append,
        readLength_two _ _ rest (by omega) (by omega) (by omega), ha, hb, hvalue]
    · -- The third byte is below four, since the length is at most 65535.
      have hb : (UInt8.ofNat (n / 128 % 128 + 128)).toNat = n / 128 % 128 + 128 :=
        UInt8.toNat_ofNat_of_lt' (show _ < 256 by omega)
      have hc : (UInt8.ofNat (n / 16384)).toNat = n / 16384 :=
        UInt8.toNat_ofNat_of_lt' (show _ < 256 by omega)
      have hvalue : n % 128 + 128 - 128 + (n / 128 % 128 + 128 - 128) * 128 + n / 16384 * 16384
          = n := by omega
      rw [if_neg h1, if_neg h2, List.cons_append, List.cons_append, List.cons_append,
        List.nil_append, readLength_three _ _ _ rest (by omega) (by omega) (by omega) (by omega),
        ha, hb, hc, hvalue]

/-- The bytes of a length that takes two. -/
theorem writeLength_two (a b : UInt8) (ha : 128 ≤ a.toNat) (hb0 : b.toNat ≠ 0)
    (hb : b.toNat < 128) : writeLength (a.toNat - 128 + b.toNat * 128) = [a, b] := by
  have ha256 := a.toNat_lt
  have h1 : ¬ a.toNat - 128 + b.toNat * 128 < 128 := by omega
  have h2 : a.toNat - 128 + b.toNat * 128 < 16384 := by omega
  have hlow : (a.toNat - 128 + b.toNat * 128) % 128 + 128 = a.toNat := by omega
  have hhigh : (a.toNat - 128 + b.toNat * 128) / 128 = b.toNat := by omega
  simp only [writeLength, h1, h2, hlow, hhigh, ↓reduceIte, UInt8.ofNat_toNat]

/-- The bytes of a length that takes three. -/
theorem writeLength_three (a b c : UInt8) (ha : 128 ≤ a.toNat) (hb : 128 ≤ b.toNat)
    (hc0 : c.toNat ≠ 0) :
    writeLength (a.toNat - 128 + (b.toNat - 128) * 128 + c.toNat * 16384) = [a, b, c] := by
  have ha256 := a.toNat_lt
  have hb256 := b.toNat_lt
  have h1 : ¬ a.toNat - 128 + (b.toNat - 128) * 128 + c.toNat * 16384 < 128 := by omega
  have h2 : ¬ a.toNat - 128 + (b.toNat - 128) * 128 + c.toNat * 16384 < 16384 := by omega
  have hlow : (a.toNat - 128 + (b.toNat - 128) * 128 + c.toNat * 16384) % 128 + 128 = a.toNat := by
    omega
  have hmid : (a.toNat - 128 + (b.toNat - 128) * 128 + c.toNat * 16384) / 128 % 128 + 128
      = b.toNat := by omega
  have hhigh : (a.toNat - 128 + (b.toNat - 128) * 128 + c.toNat * 16384) / 16384 = c.toNat := by
    omega
  simp only [writeLength, h1, h2, hlow, hmid, hhigh, ↓reduceIte, UInt8.ofNat_toNat]

/-- What is read as a compact length has the one form it is written in. The three forms are told
apart by which bytes reach 128, and a byte that adds nothing is never accepted, so the number of
bytes is the least possible. -/
theorem eq_writeLength_of_readLength (bs : List UInt8) (n : Nat) (rest : List UInt8)
    (h : readLength bs = some (n, rest)) : bs = writeLength n ++ rest ∧ n ≤ 65535 := by
  rcases bs with _ | ⟨a, bs⟩
  · simp only [readLength, reduceCtorEq] at h
  have ha256 := a.toNat_lt
  by_cases ha : a < 128
  · -- One byte.
    simp only [readLength, ha, ↓reduceIte, Option.some.injEq, Prod.mk.injEq] at h
    rcases h with ⟨rfl, rfl⟩
    have ha' : a.toNat < 128 := UInt8.lt_iff_toNat_lt.mp ha
    refine ⟨?_, by omega⟩
    simp only [writeLength, ha', ↓reduceIte, UInt8.ofNat_toNat, List.cons_append, List.nil_append]
  have ha' := (not_lt_iff_le_toNat a).mp ha
  rcases bs with _ | ⟨b, bs⟩
  · simp only [readLength, ha, ↓reduceIte, reduceCtorEq] at h
  have hb256 := b.toNat_lt
  by_cases hb0 : b = 0
  · simp only [readLength, ha, hb0, ↓reduceIte, reduceCtorEq] at h
  by_cases hb : b < 128
  · -- Two bytes.
    simp only [readLength, ha, hb0, hb, ↓reduceIte, Option.some.injEq, Prod.mk.injEq] at h
    rcases h with ⟨rfl, rfl⟩
    have hb' : b.toNat < 128 := UInt8.lt_iff_toNat_lt.mp hb
    refine ⟨?_, by omega⟩
    rw [writeLength_two a b ha' (fun hc => hb0 (UInt8.toNat_inj.mp hc)) hb']
    rfl
  have hb' := (not_lt_iff_le_toNat b).mp hb
  rcases bs with _ | ⟨c, bs⟩
  · simp only [readLength, ha, hb0, hb, ↓reduceIte, reduceCtorEq] at h
  by_cases hc : c = 0 ∨ 4 ≤ c
  · simp only [readLength, ha, hb0, hb, hc, ↓reduceIte, reduceCtorEq] at h
  -- Three bytes.
  simp only [readLength, ha, hb0, hb, hc, ↓reduceIte, Option.some.injEq, Prod.mk.injEq] at h
  rcases h with ⟨rfl, rfl⟩
  have hc0 : c.toNat ≠ 0 := fun he => hc (Or.inl (UInt8.toNat_inj.mp he))
  have hc4 : c.toNat < 4 := Nat.lt_of_not_le fun hge => hc (Or.inr (UInt8.le_iff_toNat_le.mpr hge))
  refine ⟨?_, by omega⟩
  rw [writeLength_three a b c ha' hb' hc0]
  rfl

/-! ### Lists -/

theorem readMany_flatMap_write {a : Codec α} (ha : a.IsLawful) (xs : List α) (rest : List UInt8) :
    a.readMany xs.length (xs.flatMap a.write ++ rest) = some (xs, rest) := by
  induction xs with
  | nil => rfl
  | cons x xs ih =>
    simp only [List.length_cons, readMany, List.flatMap_cons, List.append_assoc, ha.read_write, ih,
      Option.bind_eq_bind, Option.bind_some, Option.pure_def]

theorem eq_flatMap_write_of_readMany {a : Codec α} (ha : a.IsLawful) (n : Nat) (bs : List UInt8)
    (xs : List α) (rest : List UInt8) (h : a.readMany n bs = some (xs, rest)) :
    bs = xs.flatMap a.write ++ rest ∧ xs.length = n := by
  induction n generalizing bs xs with
  | zero =>
    simp only [readMany, Option.some.injEq, Prod.mk.injEq] at h
    rcases h with ⟨rfl, rfl⟩
    exact ⟨rfl, rfl⟩
  | succ n ih =>
    simp only [readMany, Option.bind_eq_bind, Option.pure_def, Option.bind_eq_some_iff] at h
    rcases h with ⟨⟨x, mid⟩, hx, ⟨ys, after⟩, hys, hxs⟩
    simp only [Option.some.injEq, Prod.mk.injEq] at hxs
    rcases hxs with ⟨rfl, rfl⟩
    rcases ih mid ys hys with ⟨hmid, hlen⟩
    refine ⟨?_, by rw [List.length_cons, hlen]⟩
    rw [ha.eq_write bs x mid hx, hmid, List.flatMap_cons, List.append_assoc]

theorem isLawful_compactList {a : Codec α} (ha : a.IsLawful) : (compactList a).IsLawful where
  read_write v rest := by
    simp only [compactList, List.append_assoc, readLength_writeLength _ v.length_le,
      readMany_flatMap_write ha, Option.bind_eq_bind, Option.bind_some, v.length_le, ↓reduceDIte,
      Option.pure_def]
  eq_write bs v rest h := by
    simp only [compactList, Option.bind_eq_bind, Option.pure_def, Option.bind_eq_some_iff] at h
    rcases h with ⟨⟨n, mid⟩, hn, ⟨xs, after⟩, hxs, hv⟩
    rcases eq_writeLength_of_readLength bs n mid hn with ⟨hbs, -⟩
    rcases eq_flatMap_write_of_readMany ha n mid xs after hxs with ⟨hmid, hlen⟩
    by_cases hle : xs.length ≤ 65535
    · simp only [hle, ↓reduceDIte, Option.some.injEq, Prod.mk.injEq] at hv
      rcases hv with ⟨rfl, rfl⟩
      rw [hbs, hmid, ← hlen]
      simp only [compactList, List.append_assoc]
    · simp only [hle, ↓reduceDIte, reduceCtorEq] at hv

end Wager.Codec
