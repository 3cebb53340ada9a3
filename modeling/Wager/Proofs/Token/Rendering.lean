import Mathlib.Algebra.Order.Field.Rat
import Mathlib.Data.List.DropRight
import Mathlib.Tactic.FieldSimp
import Mathlib.Tactic.Ring
import Wager.Proofs.Json.Documents
import Wager.Token.Amount

/-!
# The text of an amount is exact

The decimal text of an amount of a token names the amount, and it is the only text of its kind that
does.

The text is cut from one row of digits, with so many zeros in front that there is a digit before the
point. So all that is to be known of it is known of rows of digits: a row has a value, zeros in front
do not count, each zero at the end is a factor of ten, and a row of a given length is given by its
value (`eq_of_digitsValue`). The point is where the decimals begin, so the zeros that are dropped and
the decimals that are left make up the decimals of the token.

What a text names is not told by its parts but read off by the reader of numerals, the one for
prices. So an amount is never shown as another one to anybody who reads decimals.

## Main definitions

* `Numeral.value`: The number that a numeral stands for.
* `TokenAmount.value?`: The number that a decimal text names.
* `TokenAmount.AreCanonical`, `TokenAmount.IsCanonical`: Decimals that are written in the one way.

## Theorems

* `TokenAmount.dropZeros_append`: The zeros that are dropped.
* `TokenAmount.eq_of_digitsValue`: A row of digits is given by its value and its length.
* `TokenAmount.isCanonical_chars`, `TokenAmount.value?_chars`: The text is canonical, and exact.
* `TokenAmount.eq_chars_of_value?`: No other canonical text names the amount.
* `TokenAmount.text_exact`: The text of an amount is exact.
-/

namespace Wager

/-- The number that a numeral stands for. -/
def Numeral.value (n : Numeral) : ℚ :=
  let fraction := n.fraction.getD []
  (if n.negative then -1 else 1) * digitsValue (n.whole ++ fraction) *
    10 ^ (n.exponent.getD 0 - fraction.length : ℤ)

namespace TokenAmount

open Numeral (digitsValue)
open Timestamp (padded digitsValue_eq_ofDigitChars)

/-- The number that a decimal text without a sign names. -/
def value? (cs : List Char) : Option ℚ := (Binary64.readNumeral false cs).map Numeral.value

/-- A decimal with the digits before and after the point. Without digits after it there is no
point. -/
def pointed (whole fraction : List Char) : List Char :=
  match fraction with
  | [] => whole
  | fraction => whole ++ '.' :: fraction

/-- Digits before and after a point, as they are in a decimal that is written in the one way: there
are some before it, without a zero in front of others, and so many after it as there may be, the
last of which is not zero. -/
structure AreCanonical (places : Nat) (whole fraction : List Char) : Prop where
  whole_digits : ∀ c ∈ whole, c.isDigit = true
  whole_ne_nil : whole ≠ []
  whole_leading : whole.head? = some '0' → whole = ['0']
  fraction_digits : ∀ c ∈ fraction, c.isDigit = true
  fraction_length : fraction.length ≤ places
  fraction_last : fraction.getLast? ≠ some '0'

/-- A decimal of at most so many places that is written in the one way. -/
def IsCanonical (places : Nat) (cs : List Char) : Prop :=
  ∃ whole fraction, cs = pointed whole fraction ∧ AreCanonical places whole fraction

/-! ### Rows of digits -/

theorem digitsValue_concat (ds : List Char) (d : Char) :
    digitsValue (ds ++ [d]) = digitsValue ds * 10 + Numeral.digit d := by
  rw [digitsValue, List.foldl_append, ← digitsValue, List.foldl_cons, List.foldl_nil]

/-- A digit counts for the digits behind it. -/
theorem digitsValue_cons (d : Char) (ds : List Char) :
    digitsValue (d :: ds) = Numeral.digit d * 10 ^ ds.length + digitsValue ds := by
  induction ds using List.reverseRecOn with
  | nil => simp [digitsValue]
  | append_singleton ds e ih =>
    rw [← List.cons_append, digitsValue_concat, ih, digitsValue_concat, List.length_append,
      List.length_singleton, Nat.pow_succ]
    ring

/-- Each zero at the end is a factor of ten. -/
theorem digitsValue_append_zeros (ds : List Char) (k : Nat) :
    digitsValue (ds ++ List.replicate k '0') = digitsValue ds * 10 ^ k := by
  rw [digitsValue_eq_ofDigitChars, digitsValue_eq_ofDigitChars, Nat.ofDigitChars_append,
    Nat.ofDigitChars_replicate_zero, Nat.mul_comm]

theorem digit_of_isDigit {c : Char} (h : c.isDigit = true) :
    Numeral.digit c < 10 ∧ c.toNat = Numeral.digit c + 48 := by
  have hcode : 48 ≤ c.toNat ∧ c.toNat ≤ 57 := by
    simp only [Char.isDigit, ge_iff_le, Bool.and_eq_true, decide_eq_true_eq] at h
    exact ⟨h.1, h.2⟩
  have hzero : '0'.toNat = 48 := rfl
  rw [Numeral.digit, hzero]
  omega

/-- A row of digits is given by its length and its value. -/
theorem eq_of_digitsValue {ds es : List Char} (hds : ∀ c ∈ ds, c.isDigit = true)
    (hes : ∀ c ∈ es, c.isDigit = true) (hlength : ds.length = es.length)
    (hvalue : digitsValue ds = digitsValue es) : ds = es := by
  -- On the rows from their ends: the last digits are what ten leaves of the values.
  induction ds using List.reverseRecOn generalizing es with
  | nil => exact (List.eq_nil_of_length_eq_zero hlength.symm).symm
  | append_singleton ds d ih =>
    rcases List.eq_nil_or_concat' es with rfl | ⟨es, e, rfl⟩
    · simp at hlength
    · have hd := digit_of_isDigit (hds d (by simp))
      have he := digit_of_isDigit (hes e (by simp))
      rw [digitsValue_concat, digitsValue_concat] at hvalue
      have hlast : d = e := Char.toNat_inj.mp (by omega)
      have hfront : ds = es := by
        refine ih (fun c hc => hds c (by simp [hc])) (fun c hc => hes c (by simp [hc])) ?_ (by omega)
        simpa using hlength
      rw [hfront, hlast]

/-- A row that does not begin with a zero has the value of its first digit's place at least. -/
theorem le_digitsValue {d : Char} {ds : List Char} (hd : d.isDigit = true) (hzero : d ≠ '0') :
    10 ^ ds.length ≤ digitsValue (d :: ds) := by
  have hdigit := digit_of_isDigit hd
  have hpos : 0 < Numeral.digit d := by
    refine Nat.pos_of_ne_zero fun h => hzero (Char.toNat_inj.mp ?_)
    rw [hdigit.2, h]
    rfl
  rw [digitsValue_cons]
  exact Nat.le_add_right_of_le (Nat.le_mul_of_pos_left _ hpos)

/-! ### Zeros at the end -/

/-- What is dropped is zeros. -/
theorem dropZeros_append (ds : List Char) : ∃ k, ds = dropZeros ds ++ List.replicate k '0' := by
  have hsplit := List.rdropWhile_append_rtakeWhile (p := (· == '0')) (l := ds)
  have hzeros : ds.rtakeWhile (· == '0') = List.replicate (ds.rtakeWhile (· == '0')).length '0' := by
    refine List.eq_replicate_iff.mpr ⟨rfl, fun c hc => ?_⟩
    have hzero : (c == '0') = true := List.mem_rtakeWhile_imp (p := (· == '0')) hc
    exact beq_iff_eq.mp hzero
  refine ⟨(ds.rtakeWhile (· == '0')).length, ?_⟩
  rw [← hzeros]
  exact hsplit.symm

theorem getLast?_dropZeros (ds : List Char) : (dropZeros ds).getLast? ≠ some '0' := by
  intro hlast
  have hne : dropZeros ds ≠ [] := by
    intro hnil
    rw [hnil] at hlast
    exact nomatch hlast
  have hnot := List.rdropWhile_last_not (· == '0') ds hne
  rw [List.getLast?_eq_some_getLast hne, Option.some.injEq] at hlast
  exact hnot (beq_iff_eq.mpr hlast)

/-- Digits that do not end in zero are all that is left if zeros are put behind them. -/
theorem dropZeros_append_zeros {ds : List Char} (h : ds.getLast? ≠ some '0') (k : Nat) :
    dropZeros (ds ++ List.replicate k '0') = ds := by
  induction k with
  | zero =>
    rw [List.replicate_zero, List.append_nil]
    refine List.rdropWhile_eq_self_iff.mpr fun hne hlast => h ?_
    rw [List.getLast?_eq_some_getLast hne, beq_iff_eq.mp hlast]
  | succ k ih =>
    rw [List.replicate_succ', ← List.append_assoc]
    exact (List.rdropWhile_concat_pos (· == '0') _ '0' rfl).trans ih

/-! ### The text of an amount -/

theorem digits_eq (amount decimals : Nat) : digits amount decimals = padded (decimals + 1) amount :=
  rfl

/-- There is a digit before the point. -/
theorem lt_length_digits (amount decimals : Nat) : decimals < (digits amount decimals).length := by
  simp only [digits, List.length_append, List.length_replicate]
  omega

/-- The row of an amount begins with a zero only if that is the digit before the point. -/
theorem length_digits_of_leading {amount decimals : Nat} {ds : List Char}
    (h : digits amount decimals = '0' :: ds) : ds.length = decimals := by
  have hlength := congrArg List.length h
  simp only [digits, List.length_append, List.length_replicate, List.length_cons] at hlength
  by_cases hshort : (Nat.toDigits 10 amount).length ≤ decimals
  · omega
  · -- There are no zeros in front, so the amount is zero.
    have hnone : decimals + 1 - (Nat.toDigits 10 amount).length = 0 := by omega
    rw [digits, hnone, List.replicate_zero, List.nil_append] at h
    have hzero : amount = 0 := by
      refine Nat.eq_zero_of_not_pos fun hpos => ?_
      exact Json.toDigits_ne_zero_cons hpos ds h
    subst hzero
    have hone : (Nat.toDigits 10 0).length = 1 := rfl
    omega

/-- The text is the row with the point in it, without the zeros at its end. -/
theorem chars_eq (amount decimals : Nat) :
    chars amount decimals =
      pointed ((digits amount decimals).take ((digits amount decimals).length - decimals))
        (dropZeros ((digits amount decimals).drop ((digits amount decimals).length - decimals))) :=
  rfl

/-- No other digit stands before the point together with a zero in front. -/
theorem take_digits_of_leading {amount decimals : Nat}
    (h : ((digits amount decimals).take ((digits amount decimals).length - decimals)).head?
      = some '0') :
    (digits amount decimals).take ((digits amount decimals).length - decimals) = ['0'] := by
  have hleading : ∀ ds, digits amount decimals = '0' :: ds → ds.length = decimals :=
    fun ds h => length_digits_of_leading h
  have hlt := lt_length_digits amount decimals
  generalize digits amount decimals = row at *
  obtain ⟨d, ds, rfl⟩ := List.exists_cons_of_length_pos (Nat.zero_lt_of_lt hlt)
  obtain ⟨n, hn⟩ := Nat.exists_eq_succ_of_ne_zero (Nat.sub_ne_zero_of_lt hlt)
  rw [hn, List.take_succ_cons, List.head?_cons, Option.some.injEq] at h
  subst h
  have hall := hleading ds rfl
  rw [List.length_cons] at hn
  obtain rfl : n = 0 := by omega
  rw [List.length_cons, hn]
  rfl

/-- The row of an amount, with the digits before the point, those after it, and the zeros that are
dropped. -/
theorem digits_parts (amount decimals : Nat) : ∃ whole fraction k,
    digits amount decimals = whole ++ (fraction ++ List.replicate k '0') ∧
      chars amount decimals = pointed whole fraction ∧ fraction.length + k = decimals ∧
        AreCanonical decimals whole fraction := by
  have hdigits : ∀ c ∈ digits amount decimals, c.isDigit = true :=
    fun c hc => Timestamp.isDigit_of_mem_padded hc
  have hlt := lt_length_digits amount decimals
  have hchars := chars_eq amount decimals
  have hleading : ((digits amount decimals).take
      ((digits amount decimals).length - decimals)).head? = some '0' → _ := take_digits_of_leading
  -- From here on the row is any row with these properties.
  generalize digits amount decimals = row at *
  obtain ⟨k, hk⟩ := dropZeros_append (row.drop (row.length - decimals))
  have hrow := List.take_append_drop (row.length - decimals) row
  have hplaces := congrArg List.length hk
  simp only [List.length_drop, List.length_append, List.length_replicate] at hplaces
  refine ⟨_, _, k, ?_, hchars, by omega, ?_⟩
  · rw [← hk, hrow]
  constructor
  case whole_digits => exact fun c hc => hdigits c (List.mem_of_mem_take hc)
  case whole_ne_nil =>
    rw [← List.length_pos_iff, List.length_take]
    omega
  case whole_leading => exact hleading
  case fraction_digits =>
    intro c hc
    have hmem : c ∈ row.drop (row.length - decimals) := hk ▸ List.mem_append_left _ hc
    exact hdigits c (List.mem_of_mem_drop hmem)
  case fraction_length => omega
  case fraction_last => exact getLast?_dropZeros _

/-- The text is written in the one way. -/
theorem isCanonical_chars (amount decimals : Nat) :
    IsCanonical decimals (chars amount decimals) := by
  obtain ⟨whole, fraction, _, -, hchars, -, hparts⟩ := digits_parts amount decimals
  exact ⟨whole, fraction, hchars, hparts⟩

/-! ### What a text names -/

/-- A decimal is read with the digits before and after its point. -/
theorem readNumeral_pointed {whole fraction : List Char} (hwhole : ∀ c ∈ whole, c.isDigit = true)
    (hne : whole ≠ []) (hfraction : ∀ c ∈ fraction, c.isDigit = true) :
    ∃ o, Binary64.readNumeral false (pointed whole fraction) = some ⟨false, whole, o, none⟩ ∧
      o.getD [] = fraction := by
  have hempty : whole.isEmpty = false := List.isEmpty_eq_false_iff.mpr hne
  have hend : Timestamp.NoDigit [] := nofun
  cases fraction with
  | nil =>
    have hspan := Timestamp.spanDigits_append hwhole hend
    rw [List.append_nil] at hspan
    refine ⟨none, ?_, rfl⟩
    simp [pointed, Binary64.readNumeral, hspan, hempty, Numeral.readExponent]
  | cons e es =>
    have hpoint : Timestamp.NoDigit ('.' :: e :: es) := Timestamp.noDigit_cons rfl
    have hspan := Timestamp.spanDigits_append hwhole hpoint
    have hspan' := Timestamp.spanDigits_append hfraction hend
    rw [List.append_nil] at hspan'
    refine ⟨some (e :: es), ?_, rfl⟩
    simp [pointed, Binary64.readNumeral, hspan, hspan', hempty, Numeral.readExponent]

/-- A decimal names the number of all its digits, divided by ten for each one after the point. -/
theorem value?_pointed {whole fraction : List Char} (hwhole : ∀ c ∈ whole, c.isDigit = true)
    (hne : whole ≠ []) (hfraction : ∀ c ∈ fraction, c.isDigit = true) :
    value? (pointed whole fraction)
      = some ((digitsValue (whole ++ fraction) : ℚ) / 10 ^ fraction.length) := by
  obtain ⟨o, hread, rfl⟩ := readNumeral_pointed hwhole hne hfraction
  rw [value?, hread, Option.map_some, Numeral.value]
  simp only [Bool.false_eq_true, if_false, one_mul, Option.getD_none, zero_sub, zpow_neg,
    zpow_natCast, div_eq_mul_inv]

/-- What a canonical decimal names is a number of units, if its digits and the zeros that may be put
behind them are the digits of that number. -/
theorem AreCanonical.value?_eq {places k : Nat} {whole fraction : List Char}
    (h : AreCanonical places whole fraction) (hk : fraction.length + k = places) :
    value? (pointed whole fraction)
      = some ((digitsValue (whole ++ (fraction ++ List.replicate k '0')) : ℚ) / 10 ^ places) := by
  rw [value?_pointed h.whole_digits h.whole_ne_nil h.fraction_digits, ← List.append_assoc,
    digitsValue_append_zeros, ← hk, pow_add, Nat.cast_mul, Nat.cast_pow, Nat.cast_ofNat,
    mul_div_mul_right _ _ (by positivity)]

/-- The text names the amount, divided by ten for each decimal. -/
theorem value?_chars (amount decimals : Nat) :
    value? (chars amount decimals) = some ((amount : ℚ) / 10 ^ decimals) := by
  obtain ⟨whole, fraction, k, hdigits, hchars, hk, hparts⟩ := digits_parts amount decimals
  rw [hchars, hparts.value?_eq hk, ← hdigits, digits_eq, Timestamp.digitsValue_padded]

/-- A number that is not less than a power of ten has a digit more than that. -/
theorem lt_length_toDigits {n k : Nat} (h : 10 ^ k ≤ n) : k < (Nat.toDigits 10 n).length := by
  rcases Nat.eq_zero_or_pos k with rfl | hk
  · exact List.length_pos_iff.mpr Nat.toDigits_ne_nil
  · refine Nat.not_le.mp fun hshort => ?_
    rw [Nat.length_toDigits_le_iff (by omega) hk] at hshort
    omega

theorem AreCanonical.isDigit_of_mem {places k : Nat} {whole fraction : List Char}
    (h : AreCanonical places whole fraction) :
    ∀ c ∈ whole ++ (fraction ++ List.replicate k '0'), c.isDigit = true := by
  intro c hc
  simp only [List.mem_append, List.mem_replicate] at hc
  rcases hc with hc | hc | ⟨-, rfl⟩
  · exact h.whole_digits c hc
  · exact h.fraction_digits c hc
  · rfl

/-- The digits of a canonical decimal, with the zeros that may be put behind them, are the row of
the number that they write. -/
theorem AreCanonical.eq_digits {places k : Nat} {whole fraction : List Char}
    (h : AreCanonical places whole fraction) (hk : fraction.length + k = places) :
    let row := whole ++ (fraction ++ List.replicate k '0')
    digits (digitsValue row) places = row := by
  intro row
  have hrow : ∀ c ∈ row, c.isDigit = true := h.isDigit_of_mem
  refine eq_of_digitsValue (fun c hc => Timestamp.isDigit_of_mem_padded hc) hrow ?_
    (Timestamp.digitsValue_padded _ _)
  -- It remains to count the digits of the number.
  obtain ⟨d, ds, rfl⟩ := List.exists_cons_of_ne_nil h.whole_ne_nil
  have hlength : row.length = ds.length + 1 + places := by
    simp only [row, List.length_append, List.length_cons, List.length_replicate]
    omega
  have hle : (Nat.toDigits 10 (digitsValue row)).length ≤ row.length :=
    (Nat.length_toDigits_le_iff (by omega) (by omega)).mpr (Timestamp.digitsValue_lt hrow)
  have hpos : 0 < (Nat.toDigits 10 (digitsValue row)).length :=
    List.length_pos_iff.mpr Nat.toDigits_ne_nil
  simp only [digits, List.length_append, List.length_replicate]
  by_cases hzero : d = '0'
  · subst hzero
    have hone := congrArg List.length (h.whole_leading rfl)
    simp only [List.length_cons, List.length_nil] at hone
    omega
  · have hge : 10 ^ (ds ++ (fraction ++ List.replicate k '0')).length ≤ digitsValue row :=
      le_digitsValue (hrow d List.mem_cons_self) hzero
    have hlong := lt_length_toDigits hge
    simp only [List.length_append, List.length_replicate, hk] at hlong
    omega

/-- A canonical decimal is the text of the number of units that it names. -/
theorem AreCanonical.eq_chars {places k : Nat} {whole fraction : List Char}
    (h : AreCanonical places whole fraction) (hk : fraction.length + k = places) :
    pointed whole fraction
      = chars (digitsValue (whole ++ (fraction ++ List.replicate k '0'))) places := by
  have hlength : (whole ++ (fraction ++ List.replicate k '0')).length - places = whole.length := by
    simp only [List.length_append, List.length_replicate]
    omega
  rw [chars_eq, h.eq_digits hk, hlength, List.take_left, List.drop_left,
    dropZeros_append_zeros h.fraction_last]

/-- No other canonical text names the amount. -/
theorem eq_chars_of_value? {amount decimals : Nat} {cs : List Char} (h : IsCanonical decimals cs)
    (hvalue : value? cs = some ((amount : ℚ) / 10 ^ decimals)) : cs = chars amount decimals := by
  obtain ⟨whole, fraction, rfl, hparts⟩ := h
  have hk : fraction.length + (decimals - fraction.length) = decimals := by
    have := hparts.fraction_length
    omega
  have hpow : (10 : ℚ) ^ decimals ≠ 0 := by positivity
  rw [hparts.value?_eq hk, Option.some.injEq, div_left_inj' hpow, Nat.cast_inj] at hvalue
  rw [hparts.eq_chars hk, hvalue]

/-- The text of an amount is exact. It is a decimal of at most so many places as the token has,
written in the one way; the number that it names is the amount divided by ten for each decimal; it
is the only such text; and so, for one token, no other amount is shown by it. -/
theorem text_exact (amount : UInt64) (decimals : UInt8) :
    IsCanonical decimals.toNat (text ⟨amount, decimals⟩).toList ∧
      (∃ q, value? (text ⟨amount, decimals⟩).toList = some q ∧
        q * 10 ^ decimals.toNat = amount.toNat) ∧
      (∀ s : String, text ⟨amount, decimals⟩ = s ↔ IsCanonical decimals.toNat s.toList ∧
        ∃ q, value? s.toList = some q ∧ q * 10 ^ decimals.toNat = amount.toNat) ∧
      ∀ other : UInt64, text ⟨other, decimals⟩ = text ⟨amount, decimals⟩ ↔ other = amount := by
  have hpow : (10 : ℚ) ^ decimals.toNat ≠ 0 := by positivity
  have hcanonical : IsCanonical decimals.toNat (text ⟨amount, decimals⟩).toList := by
    rw [text, String.toList_ofList]
    exact isCanonical_chars _ _
  have hexact : ∀ amount : UInt64, ∃ q, value? (text ⟨amount, decimals⟩).toList = some q ∧
      q * 10 ^ decimals.toNat = amount.toNat := by
    intro amount
    rw [text, String.toList_ofList]
    exact ⟨_, value?_chars _ _, div_mul_cancel₀ _ hpow⟩
  refine ⟨hcanonical, hexact amount, fun s => ⟨?_, ?_⟩, fun other => ⟨fun h => ?_, ?_⟩⟩
  · rintro rfl
    exact ⟨hcanonical, hexact amount⟩
  · rintro ⟨hs, q, hq, hvalue⟩
    rw [eq_div_of_mul_eq hpow hvalue] at hq
    rw [text, ← eq_chars_of_value? hs hq, String.ofList_toList]
  · -- One text names one number.
    obtain ⟨q, hq, hamount⟩ := hexact amount
    obtain ⟨q', hq', hother⟩ := hexact other
    rw [h, hq, Option.some.injEq] at hq'
    rw [← hq', hamount, Nat.cast_inj] at hother
    exact (UInt64.toNat_inj.mp hother).symm
  · rintro rfl
    rfl

/-- Zeros are put in front of a small amount, and dropped behind a round one. -/
example : text ⟨42, 6⟩ = "0.000042" ∧ text ⟨3000000, 6⟩ = "3" ∧ text ⟨0, 9⟩ = "0" := by decide

end TokenAmount

end Wager
