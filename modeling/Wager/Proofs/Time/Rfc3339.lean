import Mathlib.Data.List.Induction
import Mathlib.Data.List.TakeWhile
import Wager.Proofs.Time.Calendar
import Wager.Time.Rfc3339

/-!
# Times that are read back

A point in time is read back from its text, and every point in time that is read is one for which
this holds.

Reading is more lenient than writing, but every reader takes the longest number there is and goes on
from where it ends. So all that has to be known of a number in a text is how many digits it has and
that no digit follows; each reader then has one lemma, which says what it makes of a written number
with the rest of the text behind it, and the text of a point in time is read part by part.

Not every point has a text that names it. It has to lie within the years there are, and a second may
have two seconds' worth of nanoseconds only if it is the last one of its minute, since otherwise the
text names the next second (`IsProper`).

## Main definitions

* `Timestamp.IsProper`: A point in time that its text names.

## Theorems

* `Timestamp.digitsValue_padded`, `Timestamp.spanDigits_append`: Digits and their value.
* `Timestamp.readYear_yearText`, `Timestamp.readDate_dateText`, `Timestamp.readFraction_fractionText`,
  `Timestamp.readClock_clockText`: The parts of a text.
* `Timestamp.parse?_text`: A proper point in time is read back from its text.
* `Timestamp.isProper_of_parse?`: What is read is proper.
-/

namespace Wager.Timestamp

/-- A point in time that its text names: it lies within the years there are, and if it has more
nanoseconds than a second has, it is the last second of a minute. -/
structure IsProper (t : Timestamp) : Prop where
  inRange : t.inRange = true
  nanos : t.nanos < 1000000000 ∨ t.seconds % 60 = 59 ∧ t.nanos < 2000000000

/-! ### Digits -/

/-- What follows a number does not begin with a digit. -/
def NoDigit (cs : List Char) : Prop := ∀ c rest, cs = c :: rest → c.isDigit = false

theorem noDigit_cons {c : Char} {rest : List Char} (h : c.isDigit = false) : NoDigit (c :: rest) := by
  intro c' rest' heq
  rw [← (List.cons.inj heq).1]
  exact h

theorem isDigit_of_mem_padded {width n : Nat} {c : Char} (h : c ∈ padded width n) :
    c.isDigit = true := by
  rcases List.mem_append.mp h with hzero | hdigit
  · rw [List.eq_of_mem_replicate hzero]
    rfl
  · exact Nat.isDigit_of_mem_toDigits (by omega) (by omega) hdigit

theorem length_padded {width n : Nat} (hwidth : 0 < width) (h : n < 10 ^ width) :
    (padded width n).length = width := by
  have hle := (Nat.length_toDigits_le_iff (by omega) hwidth).mpr h
  simp only [padded, List.length_append, List.length_replicate]
  omega

/-- A number has a first digit. -/
theorem exists_padded_eq_cons (width n : Nat) :
    ∃ d ds, padded width n = d :: ds ∧ d.isDigit = true := by
  cases hds : padded width n with
  | nil => exact absurd (List.append_eq_nil_iff.mp hds).2 Nat.toDigits_ne_nil
  | cons d ds =>
    have hmem : d ∈ padded width n := by
      rw [hds]
      exact List.mem_cons_self
    exact ⟨d, ds, rfl, isDigit_of_mem_padded hmem⟩

theorem digitsValue_eq_ofDigitChars (cs : List Char) :
    Numeral.digitsValue cs = Nat.ofDigitChars 10 cs 0 := by
  simp only [Numeral.digitsValue, Nat.ofDigitChars_eq_foldl, Numeral.digit, Nat.mul_comm]

/-- Zeros in front do not count. -/
theorem digitsValue_padded (width n : Nat) : Numeral.digitsValue (padded width n) = n := by
  rw [digitsValue_eq_ofDigitChars, padded, Nat.ofDigitChars_append, Nat.ofDigitChars_replicate_zero,
    Nat.mul_zero, Nat.ofDigitChars_ten_toDigits]

theorem spanDigits_append {ds rest : List Char} (hds : ∀ c ∈ ds, c.isDigit = true)
    (hrest : NoDigit rest) : Numeral.spanDigits (ds ++ rest) = (ds, rest) := by
  have hstop : rest.takeWhile Char.isDigit = [] ∧ rest.dropWhile Char.isDigit = rest := by
    cases rest with
    | nil => exact ⟨rfl, rfl⟩
    | cons c rest =>
      have hc := hrest c rest rfl
      simp only [List.takeWhile_cons, List.dropWhile_cons, hc, Bool.false_eq_true, if_false, and_self]
  rw [Numeral.spanDigits, List.takeWhile_append_of_pos hds, List.dropWhile_append_of_pos hds,
    hstop.1, hstop.2, List.append_nil]

/-- A digit is no blank. -/
theorem isBlank_of_isDigit {c : Char} (h : c.isDigit = true) : Text.isBlank c = false := by
  have hcode : 48 ≤ c.toNat ∧ c.toNat ≤ 57 := by
    simp only [Char.isDigit, ge_iff_le, Bool.and_eq_true, decide_eq_true_eq] at h
    exact ⟨h.1, h.2⟩
  simp only [Text.isBlank, Bool.or_eq_false_iff, Bool.and_eq_false_iff, decide_eq_false_iff_not,
    beq_eq_false_iff_ne]
  omega

theorem trimStart_padded (width n : Nat) (rest : List Char) :
    Text.trimStart (padded width n ++ rest) = padded width n ++ rest := by
  obtain ⟨d, ds, hds, hd⟩ := exists_padded_eq_cons width n
  rw [hds]
  exact Text.trimStart_eq_self (isBlank_of_isDigit hd)

/-! ### Readers -/

theorem readNumber_padded {width n : Nat} (hwidth : 0 < width) (h : n < 10 ^ width)
    (rest : List Char) : readNumber width (padded width n ++ rest) = some (n, rest) := by
  have htake : ((padded width n ++ rest).take width).takeWhile Char.isDigit = padded width n := by
    rw [List.take_left' (length_padded hwidth h), List.takeWhile_eq_self_iff]
    exact fun c hc => isDigit_of_mem_padded hc
  have hvalue := digitsValue_padded width n
  obtain ⟨d, ds, hds, -⟩ := exists_padded_eq_cons width n
  rw [readNumber, trimStart_padded, htake]
  rw [hds] at hvalue ⊢
  simp only [hvalue, List.drop_left]

theorem readWithin_padded {low high n : Nat} (hlow : low ≤ n) (hhigh : n ≤ high) (h : n < 100)
    (rest : List Char) : readWithin low high (padded 2 n ++ rest) = some (n, rest) := by
  rw [readWithin, readNumber_padded (by omega) h]
  exact if_pos ⟨hlow, hhigh⟩

theorem readMark_cons (mark : Char) (h : Text.isBlank mark = false) (rest : List Char) :
    readMark mark (mark :: rest) = some rest := by
  rw [readMark, Text.trimStart_eq_self h]
  exact if_pos rfl

theorem digitsHere_padded (width n : Nat) {rest : List Char} (hrest : NoDigit rest) :
    readYear.digitsHere (padded width n ++ rest) = some (n, rest) := by
  have hvalue := digitsValue_padded width n
  obtain ⟨d, ds, hds, -⟩ := exists_padded_eq_cons width n
  rw [readYear.digitsHere, spanDigits_append (fun c hc => isDigit_of_mem_padded hc) hrest]
  rw [hds] at hvalue ⊢
  simp only [hvalue]

/-- A year is read back, with a sign or without one. -/
theorem readYear_yearText (year : Int) {rest : List Char} (hrest : NoDigit rest) :
    readYear (yearText year ++ rest) = some (year, rest) := by
  unfold yearText
  split
  · rename_i hplain
    -- Without a sign there are four digits.
    have hsmall : year.toNat < 10 ^ 4 := by omega
    have hnumber : readNumber 4 (padded 4 year.toNat ++ rest) = some (year.toNat, rest) :=
      readNumber_padded (by omega) hsmall rest
    obtain ⟨d, ds, hds, hd⟩ := exists_padded_eq_cons 4 year.toNat
    rw [readYear, trimStart_padded]
    rw [hds, List.cons_append] at hnumber ⊢
    split
    · rename_i heq
      rw [(List.cons.inj heq).1] at hd
      exact nomatch hd
    · rename_i heq
      rw [(List.cons.inj heq).1] at hd
      exact nomatch hd
    · rw [hnumber, Option.map_some]
      simp only [Option.some.injEq, Prod.mk.injEq, and_true]
      omega
  · rename_i hsigned
    by_cases hnegative : year < 0
    · simp only [if_pos hnegative, List.cons_append]
      rw [readYear, Text.trimStart_eq_self (by decide)]
      simp only [digitsHere_padded 4 year.natAbs hrest, Option.map_some, Option.some.injEq,
        Prod.mk.injEq, and_true]
      omega
    · simp only [if_neg hnegative, List.cons_append]
      rw [readYear, Text.trimStart_eq_self (by decide)]
      simp only [digitsHere_padded 4 year.natAbs hrest, Option.map_some, Option.some.injEq,
        Prod.mk.injEq, and_true]
      omega

/-- A date is read back if there is such a day. -/
theorem readDate_dateText {d : Date} (h : d.isValid = true) (rest : List Char) :
    readDate (dateText d ++ rest) = some (d, rest) := by
  have hmonth : 1 ≤ d.month ∧ d.month ≤ 12 := by
    simp only [Date.isValid, Bool.and_eq_true, decide_eq_true_eq] at h
    exact ⟨h.1.1.1, h.1.1.2⟩
  have hday : 1 ≤ d.day ∧ d.day ≤ 31 := by
    have hle : Date.daysInMonth d.year d.month ≤ 31 := by
      unfold Date.daysInMonth
      split
      · split <;> omega
      · split <;> omega
    simp only [Date.isValid, Bool.and_eq_true, decide_eq_true_eq] at h
    exact ⟨h.1.2, Nat.le_trans h.2 hle⟩
  have hdash : ∀ tail, NoDigit ('-' :: tail) := fun _ => noDigit_cons rfl
  rw [readDate, dateText]
  simp only [List.append_assoc, List.cons_append]
  rw [readYear_yearText d.year (hdash _)]
  simp only [Option.bind_eq_bind, Option.bind_some, readMark_cons '-' (by decide),
    readWithin_padded hmonth.1 hmonth.2 (by omega), readWithin_padded hday.1 hday.2 (by omega)]
  exact if_pos h

/-- A written fraction, with the number of its digits. -/
theorem readFraction_padded {width n : Nat} (hwidth : 0 < width) (hle : width ≤ 9)
    (h : n < 10 ^ width) {rest : List Char} (hrest : NoDigit rest) :
    readFraction ('.' :: (padded width n ++ rest)) = some (n * 10 ^ (9 - width), rest) := by
  have hlength := length_padded hwidth h
  have htake : (padded width n).take 9 = padded width n := List.take_of_length_le (by omega)
  have hvalue := digitsValue_padded width n
  obtain ⟨d, ds, hds, -⟩ := exists_padded_eq_cons width n
  rw [readFraction, spanDigits_append (fun c hc => isDigit_of_mem_padded hc) hrest]
  rw [hds] at hvalue hlength htake ⊢
  simp only [htake, hvalue, hlength, Nat.pow_eq]

/-- Nanoseconds are read back, however many digits are written. -/
theorem readFraction_fractionText {nanos : Nat} (h : nanos < 1000000000) {rest : List Char}
    (hrest : NoDigit rest) (hpoint : ∀ tail, rest ≠ '.' :: tail) :
    readFraction (fractionText nanos ++ rest) = some (nanos, rest) := by
  unfold fractionText
  split
  · rename_i hzero
    rw [hzero, List.nil_append, readFraction]
    · exact fun tail => hpoint tail
  · split
    · rename_i hmillis
      rw [List.cons_append, readFraction_padded (by omega) (by omega) (by omega) hrest]
      simp only [Option.some.injEq, Prod.mk.injEq, and_true]
      omega
    · split
      · rename_i hmicros
        rw [List.cons_append, readFraction_padded (by omega) (by omega) (by omega) hrest]
        simp only [Option.some.injEq, Prod.mk.injEq, and_true]
        omega
      · rw [List.cons_append, readFraction_padded (by omega) (by omega) (by omega) hrest]
        simp only [Option.some.injEq, Prod.mk.injEq, and_true]
        omega

/-- A time of day is read back; the second is that of the day, and what the nanoseconds have on top
of a second is written as the sixtieth second. -/
theorem readClock_clockText {second nanos : Nat} (hsecond : second < 86400)
    (hnanos : nanos < 1000000000 ∨ second % 60 = 59 ∧ nanos < 2000000000) {rest : List Char}
    (hrest : NoDigit rest) (hpoint : ∀ tail, rest ≠ '.' :: tail) :
    readClock (clockText second nanos ++ rest) = some (second, nanos, rest) := by
  have hfraction : readFraction (fractionText (nanos % 1000000000) ++ rest)
      = some (nanos % 1000000000, rest) :=
    readFraction_fractionText (by omega) hrest hpoint
  rw [readClock, clockText]
  simp only [List.append_assoc, List.cons_append, Option.bind_eq_bind, Option.bind_some,
    readMark_cons ':' (by decide), hfraction,
    readWithin_padded (Nat.zero_le _) (show second / 3600 ≤ 23 by omega) (by omega),
    readWithin_padded (Nat.zero_le _) (show second / 60 % 60 ≤ 59 by omega) (by omega),
    readWithin_padded (Nat.zero_le _)
      (show second % 60 + nanos / 1000000000 ≤ 60 by omega) (by omega)]
  by_cases hleap : nanos < 1000000000
  · have hnot : ¬ second % 60 + nanos / 1000000000 = 60 := by omega
    simp only [if_neg hnot]
    exact congrArg some (Prod.ext (by simp only; omega) (Prod.ext (by simp only; omega) rfl))
  · have hsixty : second % 60 + nanos / 1000000000 = 60 := by omega
    simp only [if_pos hsixty]
    exact congrArg some (Prod.ext (by simp only; omega) (Prod.ext (by simp only; omega) rfl))

/-- A proper point in time is read back from its text. -/
theorem parse?_text {t : Timestamp} (h : t.IsProper) : parse? t.text = some t := by
  have hnanos := h.nanos
  have hdate : t.date.toDays = t.seconds / 86400 := Date.toDays_ofDays _
  have hvalid : t.date.isValid = true := Date.isValid_ofDays _
  have hsecond : (t.seconds % 86400).toNat < 86400 := by omega
  have hclock : readClock (clockText (t.seconds % 86400).toNat t.nanos ++ ['Z'])
      = some ((t.seconds % 86400).toNat, t.nanos, ['Z']) :=
    readClock_clockText hsecond (by omega) (noDigit_cons rfl) (by simp)
  have hlocal : (⟨t.date.toDays * 86400 + ((t.seconds % 86400).toNat : Nat), t.nanos⟩ : Timestamp)
      = t := by
    rw [hdate]
    refine congrArg (fun seconds => Timestamp.mk seconds t.nanos) ?_
    omega
  have hsame : t.addSeconds (-0) = t := by
    rw [Int.neg_zero, addSeconds, Int.add_zero]
  rw [parse?, text, String.toList_ofList, chars, ofChars?]
  simp only [List.append_assoc, List.cons_append]
  rw [readDate_dateText hvalid]
  simp only [Option.bind_eq_bind, Option.bind_some, true_or, if_true, hclock]
  have hoffset : readOffset ['Z'] = some (0, []) := by decide
  simp only [hoffset, Option.bind_some, List.all_nil, if_true, hlocal, hsame, h.inRange,
    Bool.and_self]
  rfl

/-! ### What is read -/

/-- A number has no more value than its digits can have. -/
theorem digitsValue_lt {ds : List Char} (h : ∀ c ∈ ds, c.isDigit = true) :
    Numeral.digitsValue ds < 10 ^ ds.length := by
  induction ds using List.reverseRecOn with
  | nil => decide
  | append_singleton ds d ih =>
    have hd : Numeral.digit d ≤ 9 := by
      have hdigit := h d (by simp)
      simp only [Char.isDigit, ge_iff_le, Bool.and_eq_true, decide_eq_true_eq] at hdigit
      have hle : d.toNat ≤ 57 := hdigit.2
      have hzero : '0'.toNat = 48 := rfl
      rw [Numeral.digit, hzero]
      omega
    have hds := ih fun c hc => h c (List.mem_append_left [d] hc)
    rw [Numeral.digitsValue, List.foldl_append, ← Numeral.digitsValue, List.length_append,
      List.length_singleton, Nat.pow_succ, List.foldl_cons, List.foldl_nil]
    omega

/-- A fraction is less than a second. -/
theorem readFraction_lt {cs rest : List Char} {nanos : Nat}
    (h : readFraction cs = some (nanos, rest)) : nanos < 1000000000 := by
  unfold readFraction at h
  split at h
  · rename_i digits
    split at h
    · exact nomatch h
    · rename_i ds after _ hspan
      simp only [Option.some.injEq, Prod.mk.injEq] at h
      have hds : ∀ c ∈ ds.take 9, c.isDigit = true := by
        intro c hc
        rw [Numeral.spanDigits, Prod.mk.injEq] at hspan
        have hmem := List.mem_of_mem_take hc
        rw [← hspan.1] at hmem
        exact List.mem_takeWhile_imp hmem
      have hlt := digitsValue_lt hds
      have hle : (ds.take 9).length ≤ 9 := by
        rw [List.length_take]
        omega
      calc nanos = Numeral.digitsValue (ds.take 9) * 10 ^ (9 - (ds.take 9).length) := h.1.symm
        _ < 10 ^ (ds.take 9).length * 10 ^ (9 - (ds.take 9).length) :=
          Nat.mul_lt_mul_of_pos_right hlt (Nat.pow_pos (by omega))
        _ = 1000000000 := by
          rw [← Nat.pow_add, Nat.add_sub_cancel' hle]
  · simp only [Option.some.injEq, Prod.mk.injEq] at h
    omega

/-- A time of day that is read is one, and only the last second of a minute has two seconds' worth of
nanoseconds. -/
theorem readClock_nanos {cs rest : List Char} {second nanos : Nat}
    (h : readClock cs = some (second, nanos, rest)) :
    nanos < 1000000000 ∨ second % 60 = 59 ∧ nanos < 2000000000 := by
  unfold readClock at h
  simp only [Option.bind_eq_bind, Option.pure_def, Option.bind_eq_some_iff, Option.some.injEq,
    Prod.mk.injEq] at h
  obtain ⟨⟨hour, _⟩, _, _, _, ⟨minute, _⟩, _, _, _, ⟨sec, _⟩, _, ⟨fraction, _⟩, hfraction, hsecond,
    hnanos, -⟩ := h
  have hlt := readFraction_lt hfraction
  simp only at hsecond hnanos
  split at hnanos
  · rename_i hsixty
    rw [if_pos hsixty] at hsecond
    right
    omega
  · left
    omega

/-- Clocks are ahead of universal time by whole minutes. -/
theorem readOffset_mod {cs rest : List Char} {ahead : Int}
    (h : readOffset cs = some (ahead, rest)) : ahead % 60 = 0 := by
  unfold readOffset at h
  split at h
  · exact nomatch h
  · split at h
    · simp only [Option.some.injEq, Prod.mk.injEq] at h
      omega
    · split at h
      · simp only [Option.some.injEq, Prod.mk.injEq] at h
        omega
      · split at h
        · simp only [Option.bind_eq_bind, Option.pure_def, Option.bind_eq_some_iff] at h
          obtain ⟨⟨hours, _⟩, _, ⟨minutes, _⟩, _, h⟩ := h
          simp only at h
          split at h
          · simp only [Option.some.injEq, Prod.mk.injEq] at h
            obtain ⟨h, -⟩ := h
            split at h <;> omega
          · exact nomatch h
        · exact nomatch h

/-- Whatever point in time is read is proper. -/
theorem isProper_of_parse? {s : String} {t : Timestamp} (h : parse? s = some t) : t.IsProper := by
  rw [parse?, ofChars?] at h
  simp only [Option.bind_eq_bind, Option.pure_def, Option.bind_eq_some_iff] at h
  obtain ⟨⟨date, cs⟩, -, h⟩ := h
  simp only at h
  split at h
  · rename_i c rest
    split at h
    · simp only [Option.bind_eq_some_iff] at h
      obtain ⟨⟨second, nanos, afterClock⟩, hclock, ⟨ahead, afterOffset⟩, hoffset, h⟩ := h
      simp only at h
      split at h
      · split at h
        · rename_i hrange
          rw [Bool.and_eq_true] at hrange
          rw [Option.some.injEq] at h
          subst h
          have hnanos := readClock_nanos hclock
          have hahead := readOffset_mod hoffset
          refine ⟨hrange.2, ?_⟩
          -- Neither the days nor the distance from universal time change the second of the minute.
          simp only [addSeconds]
          omega
        · exact nomatch h
      · exact nomatch h
    · exact nomatch h
  · exact nomatch h

end Wager.Timestamp
