import Mathlib.Data.Nat.Digits.Lemmas
import Wager.Encoding.Base58

/-!
# Texts in base 58

A byte string is read back from its text in base 58, and what is read is the one byte string that has
the text.

Bytes and characters are digits of one number, so this is about changing bases. The digits of a number
have no zero in front, and there is one list of such digits for each number. But byte strings may begin
with zeros. Both directions count the zeros in front, put as many in front of what they make, and
convert the rest, which has none. So zeros in front and number together are what a text and its bytes
have in common (`Base58.Writes`), and nothing else has to be known of either direction.

## Main definitions

* `Base58.Writes`: A text writes bytes.

## Theorems

* `Positional.ofDigits_digits`, `Positional.digits_ofDigits`: Digits and numbers determine each other.
* `Base58.Writes.encode_eq`, `Base58.Writes.decode_eq`: Either direction gives what the text and the
  bytes are.
* `Base58.decode_eq_some_iff`: Reading gives nothing else.
* `Base58.Writes.length_le`: How long the text may be.
-/

namespace Wager

/-! ### Digits in a base -/

namespace Positional

theorem ofDigits_eq (base : Nat) (ds : List Nat) : ofDigits base ds = Nat.ofDigits base ds.reverse := by
  rw [Nat.ofDigits_eq_foldr, List.foldr_reverse, ofDigits]
  simp only [Nat.cast_id, Nat.mul_comm, Nat.add_comm]

theorem digitsOnto_eq {base : Nat} (hbase : 2 ≤ base) {fuel n : Nat} (hfuel : n < 2 ^ fuel)
    (acc : List Nat) : digitsOnto base fuel n acc = (Nat.digits base n).reverse ++ acc := by
  induction fuel generalizing n acc with
  | zero =>
    obtain rfl : n = 0 := by omega
    rw [digitsOnto, Nat.digits_zero, List.reverse_nil, List.nil_append]
  | succ fuel ih =>
    rw [digitsOnto]
    split
    case isTrue h => rw [h, Nat.digits_zero, List.reverse_nil, List.nil_append]
    case isFalse h =>
      -- In no base is more left than half of the number.
      have hhalf : n / base ≤ n / 2 := Nat.div_le_div_left hbase Nat.two_pos
      have hrest : n / base < 2 ^ fuel := by
        rw [Nat.pow_succ] at hfuel
        omega
      rw [ih hrest, Nat.digits_def' hbase (Nat.pos_of_ne_zero h), List.reverse_cons,
        List.append_assoc, List.singleton_append]

theorem digits_eq {base : Nat} (hbase : 2 ≤ base) (n : Nat) :
    digits base n = (Nat.digits base n).reverse := by
  rw [digits, digitsOnto_eq hbase Nat.lt_log2_self, List.append_nil]

theorem ofDigits_digits {base : Nat} (hbase : 2 ≤ base) (n : Nat) :
    ofDigits base (digits base n) = n := by
  rw [ofDigits_eq, digits_eq hbase, List.reverse_reverse, Nat.ofDigits_digits]

/-- Digits without a zero in front are those of their number. -/
theorem digits_ofDigits {base : Nat} (hbase : 2 ≤ base) {ds : List Nat} (hlt : ∀ d ∈ ds, d < base)
    (hfirst : ds.head? ≠ some 0) : digits base (ofDigits base ds) = ds := by
  rw [digits_eq hbase, ofDigits_eq, Nat.digits_ofDigits base hbase, List.reverse_reverse]
  · exact fun d hd => hlt d (List.mem_reverse.mp hd)
  · intro hne hlast
    rw [List.getLast_reverse] at hlast
    rw [← hlast] at hfirst
    exact hfirst (List.head?_eq_some_head _)

theorem lt_of_mem_digits {base : Nat} (hbase : 2 ≤ base) {n d : Nat} (h : d ∈ digits base n) :
    d < base := by
  rw [digits_eq hbase, List.mem_reverse] at h
  exact Nat.digits_lt_base hbase h

theorem head?_digits {base : Nat} (hbase : 2 ≤ base) (n : Nat) : (digits base n).head? ≠ some 0 := by
  rw [digits_eq hbase, List.head?_reverse]
  intro hlast
  obtain ⟨hne, hzero⟩ := List.mem_getLast?_eq_getLast hlast
  exact Nat.getLast_digit_ne_zero base (Nat.digits_ne_nil_iff_ne_zero.mp hne) hzero.symm

/-- Zeros in front do not change the number. -/
theorem ofDigits_replicate_append (base count : Nat) (ds : List Nat) :
    ofDigits base (List.replicate count 0 ++ ds) = ofDigits base ds := by
  rw [ofDigits_eq, List.reverse_append, List.reverse_replicate, Nat.ofDigits_append_replicate_zero,
    ← ofDigits_eq]

theorem ofDigits_lt {base : Nat} (hbase : 2 ≤ base) {ds : List Nat} (hlt : ∀ d ∈ ds, d < base) :
    ofDigits base ds < base ^ ds.length := by
  rw [ofDigits_eq, ← List.length_reverse]
  exact Nat.ofDigits_lt_base_pow_length hbase fun d hd => hlt d (List.mem_reverse.mp hd)

/-- A number below a power has no more digits than the exponent says. -/
theorem length_digits_le {base : Nat} (hbase : 2 ≤ base) {n count : Nat} (h : n < base ^ count) :
    (digits base n).length ≤ count := by
  rw [digits_eq hbase, List.length_reverse]
  exact (Nat.digits_length_le_iff hbase n).mpr h

/-! ### Zeros in front -/

section

variable {α : Type} [DecidableEq α] (zero : α)

/-- A list begins with a number of zeros, perhaps none, and what comes then is no zero. -/
theorem exists_eq_replicate_append (l : List α) :
    ∃ count rest, l = List.replicate count zero ++ rest ∧ rest.head? ≠ some zero := by
  induction l with
  | nil => exact ⟨0, [], rfl, nofun⟩
  | cons a l ih =>
    by_cases ha : a = zero
    · obtain ⟨count, rest, rfl, hrest⟩ := ih
      exact ⟨count + 1, rest, by rw [ha]; rfl, hrest⟩
    · exact ⟨0, a :: l, rfl, fun h => ha (Option.some.inj h)⟩

theorem takeWhile_replicate_append {count : Nat} {rest : List α} (h : rest.head? ≠ some zero) :
    (List.replicate count zero ++ rest).takeWhile (· == zero) = List.replicate count zero := by
  rw [List.takeWhile_append_of_pos]
  · cases rest with
    | nil => rw [List.takeWhile_nil, List.append_nil]
    | cons a rest =>
      have ha : ¬ (a == zero) = true := fun heq => h (congrArg some (eq_of_beq heq))
      rw [List.takeWhile_cons_of_neg (p := (· == zero)) ha, List.append_nil]
  · intro a ha
    rw [List.eq_of_mem_replicate ha]
    exact beq_self_eq_true zero

end

end Positional

namespace Base58

/-! ### Characters -/

theorem value?_symbol : ∀ d < 58, value? (symbol d) = some d := by decide

theorem symbol_of_value? {c : Char} {d : Nat} (h : value? c = some d) : symbol d = c ∧ d < 58 := by
  obtain ⟨hlt, hc, -⟩ := List.idxOf?_eq_some_iff.mp h
  exact ⟨by rw [symbol, List.getD_eq_getElem?_getD, List.getElem?_eq_getElem hlt, hc]; rfl, hlt⟩

theorem mapM_value?_map_symbol {ds : List Nat} (h : ∀ d ∈ ds, d < 58) :
    (ds.map symbol).mapM value? = some ds := by
  induction ds with
  | nil => rfl
  | cons d ds ih =>
    rw [List.forall_mem_cons] at h
    rw [List.map_cons, List.mapM_cons, value?_symbol d h.1, ih h.2]
    rfl

/-- Characters are read if they are in the alphabet. -/
theorem mapM_value?_eq_some {cs : List Char} {ds : List Nat} (h : cs.mapM value? = some ds) :
    cs = ds.map symbol ∧ ∀ d ∈ ds, d < 58 := by
  induction cs generalizing ds with
  | nil =>
    obtain rfl : ds = [] := (Option.some.inj h).symm
    exact ⟨rfl, List.forall_mem_nil _⟩
  | cons c cs ih =>
    simp only [List.mapM_cons, Option.bind_eq_bind, Option.bind_eq_some_iff, Option.pure_def,
      Option.some.injEq] at h
    obtain ⟨d, hd, rest, hrest, rfl⟩ := h
    obtain ⟨rfl, hlt⟩ := symbol_of_value? hd
    obtain ⟨rfl, hall⟩ := ih hrest
    exact ⟨rfl, List.forall_mem_cons.mpr ⟨hlt, hall⟩⟩

theorem mapM_value?_eq_none_iff {cs : List Char} :
    cs.mapM value? = none ↔ ∃ c ∈ cs, c ∉ alphabet := by
  induction cs with
  | nil => exact ⟨nofun, fun ⟨_, hc, _⟩ => absurd hc List.not_mem_nil⟩
  | cons c cs ih =>
    rw [List.mapM_cons, List.exists_mem_cons_iff, ← ih, ← List.idxOf?_eq_none_iff, ← value?]
    cases value? c <;> cases cs.mapM value? <;> simp

/-! ### Texts and their bytes -/

/-- A text writes bytes: it has a `1` in front for every zero byte in front, and the rest of it are the
digits of the number that the rest of the bytes are. -/
inductive Writes : List Char → List UInt8 → Prop
  | mk (zeros : Nat) {ds : List Nat} {bs : List UInt8} (hlt : ∀ d ∈ ds, d < 58)
    (hds : ds.head? ≠ some 0) (hbs : bs.head? ≠ some 0)
    (hvalue : Positional.ofDigits 58 ds = Positional.ofDigits 256 (bs.map UInt8.toNat)) :
    Writes (List.replicate zeros '1' ++ ds.map symbol) (List.replicate zeros 0 ++ bs)

theorem head?_map_toNat {bs : List UInt8} (h : bs.head? ≠ some 0) :
    (bs.map UInt8.toNat).head? ≠ some 0 := by
  rw [List.head?_map]
  intro heq
  obtain ⟨b, hb, hzero⟩ := Option.map_eq_some_iff.mp heq
  rw [hb, UInt8.toNat_inj.mp (hzero.trans UInt8.toNat_zero.symm)] at h
  exact h rfl

theorem lt_of_mem_map_toNat {bs : List UInt8} : ∀ n ∈ bs.map UInt8.toNat, n < 256 := by
  intro n hn
  obtain ⟨b, -, rfl⟩ := List.mem_map.mp hn
  exact b.toNat_lt

/-- Bytes are those with the digits of their number. -/
theorem map_ofNat_digits {bs : List UInt8} (h : bs.head? ≠ some 0) :
    (Positional.digits 256 (Positional.ofDigits 256 (bs.map UInt8.toNat))).map UInt8.ofNat = bs := by
  rw [Positional.digits_ofDigits (by omega) lt_of_mem_map_toNat (head?_map_toNat h), List.map_map]
  exact List.map_id'' (fun b => UInt8.ofNat_toNat) bs

theorem Writes.encode_eq {cs : List Char} {bs : List UInt8} (h : Writes cs bs) : encode bs = cs := by
  obtain ⟨zeros, hlt, hds, hbs, hvalue⟩ := h
  simp only [encode, Positional.takeWhile_replicate_append 0 hbs, List.map_append,
    List.map_replicate, UInt8.toNat_zero, Positional.ofDigits_replicate_append, ← hvalue]
  rw [Positional.digits_ofDigits (by omega) hlt hds]

theorem Writes.decode_eq {cs : List Char} {bs : List UInt8} (h : Writes cs bs) :
    decode cs = some bs := by
  obtain ⟨zeros, hlt, hds, hbs, hvalue⟩ := h
  rename_i ds bs
  have hone : symbol 0 = '1' := by decide
  have hall : ∀ d ∈ List.replicate zeros 0 ++ ds, d < 58 := by
    intro d hd
    rcases List.mem_append.mp hd with hd | hd
    · rw [List.eq_of_mem_replicate hd]
      omega
    · exact hlt d hd
  have hread := mapM_value?_map_symbol hall
  rw [List.map_append, List.map_replicate, hone] at hread
  simp only [decode, hread, Option.map_some, Positional.takeWhile_replicate_append 0 hds,
    Positional.ofDigits_replicate_append, hvalue, map_ofNat_digits hbs, List.map_replicate]

/-- Every byte string has a text. -/
theorem writes_encode (bs : List UInt8) : Writes (encode bs) bs := by
  obtain ⟨zeros, rest, rfl, hrest⟩ := Positional.exists_eq_replicate_append 0 bs
  have hwrites : Writes _ (List.replicate zeros 0 ++ rest) :=
    .mk zeros (fun d => Positional.lt_of_mem_digits (by omega)) (Positional.head?_digits (by omega) _)
      hrest (Positional.ofDigits_digits (by omega) _)
  rwa [hwrites.encode_eq]

/-- Every text of characters in the alphabet writes bytes. -/
theorem exists_writes {ds : List Nat} (h : ∀ d ∈ ds, d < 58) : ∃ bs, Writes (ds.map symbol) bs := by
  obtain ⟨zeros, rest, rfl, hrest⟩ := Positional.exists_eq_replicate_append 0 ds
  -- The bytes are the digits of the number to the other base.
  generalize hes : Positional.digits 256 (Positional.ofDigits 58 rest) = es
  have hlt : ∀ e ∈ es, e < 256 := fun e he =>
    Positional.lt_of_mem_digits (by omega) (hes ▸ he)
  have hfirst : es.head? ≠ some 0 := hes ▸ Positional.head?_digits (by omega) _
  have hback : (es.map UInt8.ofNat).map UInt8.toNat = es := by
    rw [List.map_map]
    exact (List.map_congr_left fun e he => UInt8.toNat_ofNat_of_lt' (hlt e he)).trans (List.map_id es)
  have hone : symbol 0 = '1' := by decide
  refine ⟨List.replicate zeros 0 ++ es.map UInt8.ofNat, ?_⟩
  rw [List.map_append, List.map_replicate, hone]
  refine .mk zeros (fun d hd => h d (List.mem_append_right _ hd)) hrest ?_ ?_
  · intro heq
    rw [← hback, List.head?_map, heq] at hfirst
    exact hfirst rfl
  · rw [hback, ← hes, Positional.ofDigits_digits (by omega)]

/-- The bytes of a text are those that it writes. -/
theorem decode_eq_some_iff {cs : List Char} {bs : List UInt8} : decode cs = some bs ↔ Writes cs bs := by
  refine ⟨fun h => ?_, Writes.decode_eq⟩
  obtain ⟨ds, hds, -⟩ := Option.map_eq_some_iff.mp h
  obtain ⟨rfl, hlt⟩ := mapM_value?_eq_some hds
  obtain ⟨bs', hwrites⟩ := exists_writes hlt
  rw [hwrites.decode_eq, Option.some.injEq] at h
  rwa [← h]

/-- A text with a foreign character writes none. -/
theorem decode_eq_none_iff {cs : List Char} : decode cs = none ↔ ∃ c ∈ cs, c ∉ alphabet := by
  rw [decode, Option.map_eq_none_iff, mapM_value?_eq_none_iff]

/-- A text has at most so many characters if the number of its bytes allows for no more. -/
theorem Writes.length_le {cs : List Char} {bs : List UInt8} (h : Writes cs bs) {count : Nat}
    (hcount : 256 ^ bs.length ≤ 58 ^ count) : cs.length ≤ count := by
  obtain ⟨zeros, hlt, hds, hbs, hvalue⟩ := h
  rename_i ds bs
  simp only [List.length_append, List.length_replicate, List.length_map] at hcount ⊢
  have hzeros : zeros ≤ count := by
    by_contra hmore
    have hless : 58 ^ count < 256 ^ (zeros + bs.length) :=
      calc 58 ^ count < 58 ^ (zeros + bs.length) := Nat.pow_lt_pow_right (by omega) (by omega)
        _ ≤ 256 ^ (zeros + bs.length) := Nat.pow_le_pow_left (by omega) _
    omega
  -- Each zero byte takes one character less than it would have room for.
  have hroom : 256 ^ bs.length ≤ 58 ^ (count - zeros) := by
    refine Nat.le_of_mul_le_mul_left ?_ (Nat.pow_pos (by omega) : 0 < 58 ^ zeros)
    calc 58 ^ zeros * 256 ^ bs.length ≤ 256 ^ zeros * 256 ^ bs.length :=
          Nat.mul_le_mul_right _ (Nat.pow_le_pow_left (by omega) zeros)
      _ = 256 ^ (zeros + bs.length) := (Nat.pow_add ..).symm
      _ ≤ 58 ^ count := hcount
      _ = 58 ^ zeros * 58 ^ (count - zeros) := by rw [← Nat.pow_add, Nat.add_sub_cancel' hzeros]
  have hvaluelt : Positional.ofDigits 256 (bs.map UInt8.toNat) < 256 ^ (bs.map UInt8.toNat).length :=
    Positional.ofDigits_lt (by omega) lt_of_mem_map_toNat
  rw [List.length_map, ← hvalue] at hvaluelt
  have hlen := Positional.length_digits_le (by omega) (hvaluelt.trans_le hroom)
  rw [Positional.digits_ofDigits (by omega) hlt hds] at hlen
  omega

theorem utf8Size_of_mem_alphabet {c : Char} (h : c ∈ alphabet) : c.utf8Size = 1 := by
  have hall : alphabet.all (fun c => c.utf8Size == 1) = true := by decide
  exact eq_of_beq (List.all_eq_true.mp hall c h)

theorem Writes.mem_alphabet {cs : List Char} {bs : List UInt8} (h : Writes cs bs) :
    ∀ c ∈ cs, c ∈ alphabet := by
  by_contra hforeign
  simp only [not_forall] at hforeign
  obtain ⟨c, hc, hnot⟩ := hforeign
  have hnone := decode_eq_none_iff.mpr ⟨c, hc, hnot⟩
  rw [h.decode_eq] at hnone
  exact nomatch hnone

end Base58

end Wager
