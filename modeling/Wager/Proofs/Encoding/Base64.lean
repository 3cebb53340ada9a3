import Wager.Encoding.Base64
import Wager.Text.Blank
import Wager.Text.Utf8

/-!
# Strict base 64

A text that is accepted as base 64 is the one text of its bytes, and the text of bytes is accepted.

Reading accepts padding only where writing puts it and only zeros in the bits that no byte uses,
so nothing is lost in between. The proof goes through the six-bit values: `finalValues_eq_ok` says
which symbols the values of the last group came from and how much padding may follow them, and
`encodeBytes_join` says that joining the values to bytes and cutting these again gives the symbols
and the padding back. The two meet in the number of symbols modulo four, which decides how many
bytes the last group holds. The other way, bytes are cut into values (`Base64.values`) whose symbols
the reader takes for what they are (`decode_map_symbol`).

## Main definitions

* `Base64.padding`: The padding after a number of symbols.
* `Base64.values`: The values that bytes are cut into.

## Theorems

* `Base64.symbol_of_value?`: A symbol is found again from its value, which is below 64.
* `Base64.eq_map_symbol_of_plainValues`: Plain values stand for the symbols they came from.
* `Base64.finalValues_eq_ok`: The last group is symbols and then padding.
* `Base64.encodeBytes_join`: Joined values are cut into their symbols again.
* `Base64.replicate_pad_eq_padding`: Padding that fills the last group is the right one.
* `Base64.encodeBytes_of_decode`: Accepted symbols are the ones of their bytes.
* `Base64.decode_encodeBytes`: Written symbols are accepted.
* `Base64.encode_of_decode`, `Base64.decode_bytes_encode`: The same for texts.
-/

namespace Wager.Base64

/-! ### Symbols and values -/

theorem length_alphabet : alphabet.length = 64 := by
  rfl

/-- A symbol is found again from its value. -/
theorem symbol_of_value? (b : UInt8) (v : Nat) (h : value? b = some v) : symbol v = b ∧ v < 64 := by
  rcases List.idxOf?_eq_some_iff.mp h with ⟨hlt, hget, -⟩
  refine ⟨?_, by rwa [length_alphabet] at hlt⟩
  rw [symbol, List.getD_eq_getElem?_getD, List.getElem?_eq_getElem hlt]
  exact hget

/-- What stands for a value is in the alphabet, or padding for want of such a symbol. -/
theorem symbol_mem (v : Nat) : symbol v ∈ pad :: alphabet := by
  by_cases hv : v < alphabet.length
  · rw [symbol, List.getD_eq_getElem?_getD, List.getElem?_eq_getElem hv]
    exact List.mem_cons_of_mem pad (List.getElem_mem hv)
  · rw [symbol, List.getD_eq_getElem?_getD, List.getElem?_eq_none (Nat.le_of_not_lt hv)]
    exact List.mem_cons_self

/-- Symbols and padding are plain characters other than blanks. -/
theorem isPlain_of_mem : ∀ b ∈ pad :: alphabet,
    b < 128 ∧ Text.isBlank (Char.ofNat b.toNat) = false := by
  decide +kernel

theorem eq_map_symbol_of_plainValues (offset : Nat) (bs : List UInt8) (vs : List Nat)
    (h : plainValues offset bs = .ok vs) : bs = vs.map symbol ∧ ∀ v ∈ vs, v < 64 := by
  induction bs generalizing offset vs with
  | nil =>
    simp only [plainValues, Except.ok.injEq] at h
    subst h
    exact ⟨rfl, fun v hv => absurd hv (List.not_mem_nil)⟩
  | cons b bs ih =>
    rw [plainValues] at h
    cases hb : value? b with
    | none => simp only [hb, reduceCtorEq] at h
    | some v =>
      simp only [hb] at h
      cases hrest : plainValues (offset + 1) bs with
      | error f => simp only [hrest, Except.map, reduceCtorEq] at h
      | ok ws =>
        simp only [hrest, Except.map, Except.ok.injEq] at h
        subst h
        rcases ih (offset + 1) ws hrest with ⟨hbs, hlt⟩
        rcases symbol_of_value? b v hb with ⟨hsym, hv⟩
        refine ⟨by rw [List.map_cons, hsym, ← hbs], fun w hw => ?_⟩
        rcases List.mem_cons.mp hw with rfl | hw
        · exact hv
        · exact hlt w hw

/-! ### The last group -/

/-- After padding has begun there is nothing but padding, and it ends with its group of four. -/
theorem finalValues_padded (start index first : Nat) (bs : List UInt8) (ws : List Nat) (pads : Nat)
    (h : finalValues start index (some first) bs = .ok (ws, pads)) :
    ws = [] ∧ bs = List.replicate pads pad ∧
      (pads = 0 ∨ 2 ≤ index % 4 ∧ index % 4 + pads ≤ 4) := by
  induction bs generalizing index ws pads with
  | nil =>
    simp only [finalValues, Except.ok.injEq, Prod.mk.injEq] at h
    rcases h with ⟨rfl, rfl⟩
    exact ⟨rfl, rfl, Or.inl rfl⟩
  | cons b bs ih =>
    rw [finalValues] at h
    by_cases hb : b = pad
    · by_cases hi : index % 4 < 2
      · simp only [hb, hi, ↓reduceIte, reduceCtorEq] at h
      · simp only [hb, hi, ↓reduceIte, Option.getD_some] at h
        cases hrest : finalValues start (index + 1) (some first) bs with
        | error f => simp only [hrest, Except.map, reduceCtorEq] at h
        | ok r =>
          rcases r with ⟨us, more⟩
          simp only [hrest, Except.map, Except.ok.injEq, Prod.mk.injEq] at h
          rcases h with ⟨rfl, rfl⟩
          rcases ih (index + 1) us more hrest with ⟨hus, hbs, hmore⟩
          refine ⟨hus, by rw [List.replicate_succ, ← hbs, hb], Or.inr ?_⟩
          omega
    · simp only [hb, ↓reduceIte, reduceCtorEq] at h

/-- The last group is symbols and then padding. Padding begins at the third or fourth place of a
group of four and goes to its end at most. -/
theorem finalValues_eq_ok (start index : Nat) (bs : List UInt8) (ws : List Nat) (pads : Nat)
    (h : finalValues start index none bs = .ok (ws, pads)) :
    bs = ws.map symbol ++ List.replicate pads pad ∧ (∀ w ∈ ws, w < 64) ∧
      (pads = 0 ∨ 2 ≤ (index + ws.length) % 4 ∧ (index + ws.length) % 4 + pads ≤ 4) := by
  induction bs generalizing index ws with
  | nil =>
    simp only [finalValues, Except.ok.injEq, Prod.mk.injEq] at h
    rcases h with ⟨rfl, rfl⟩
    exact ⟨rfl, fun w hw => absurd hw List.not_mem_nil, Or.inl rfl⟩
  | cons b bs ih =>
    rw [finalValues] at h
    -- From the first padding on there is nothing else, so the induction ends there.
    by_cases hb : b = pad
    · by_cases hi : index % 4 < 2
      · simp only [hb, hi, ↓reduceIte, reduceCtorEq] at h
      · simp only [hb, hi, ↓reduceIte, Option.getD_none] at h
        cases hrest : finalValues start (index + 1) (some index) bs with
        | error f => simp only [hrest, Except.map, reduceCtorEq] at h
        | ok r =>
          rcases r with ⟨us, more⟩
          simp only [hrest, Except.map, Except.ok.injEq, Prod.mk.injEq] at h
          rcases h with ⟨rfl, rfl⟩
          rcases finalValues_padded start (index + 1) index bs us more hrest with ⟨rfl, hbs, hmore⟩
          refine ⟨?_, fun w hw => absurd hw List.not_mem_nil, Or.inr ?_⟩
          · rw [List.replicate_succ, ← hbs, hb]
            rfl
          · simp only [List.length_nil, Nat.add_zero]
            omega
    · simp only [hb, ↓reduceIte] at h
      cases hv : value? b with
      | none => simp only [hv, reduceCtorEq] at h
      | some v =>
        simp only [hv] at h
        cases hrest : finalValues start (index + 1) none bs with
        | error f => simp only [hrest, Except.map, reduceCtorEq] at h
        | ok r =>
          rcases r with ⟨us, more⟩
          simp only [hrest, Except.map, Except.ok.injEq, Prod.mk.injEq] at h
          rcases h with ⟨rfl, rfl⟩
          rcases ih (index + 1) us hrest with ⟨hbs, hlt, hpads⟩
          rcases symbol_of_value? b v hv with ⟨hsym, hv64⟩
          refine ⟨by rw [hbs, List.map_cons, List.cons_append, hsym], fun w hw => ?_, ?_⟩
          · rcases List.mem_cons.mp hw with rfl | hw
            · exact hv64
            · exact hlt w hw
          · rw [List.length_cons, show index + (us.length + 1) = index + 1 + us.length by omega]
            exact hpads

/-! ### Bytes and values -/

/-- The padding after a number of symbols. -/
def padding (count : Nat) : List UInt8 :=
  if count % 4 = 2 then [pad, pad] else if count % 4 = 3 then [pad] else []

theorem padding_add_four (count : Nat) : padding (count + 4) = padding count := by
  simp only [padding, Nat.add_mod_right]

/-- Whether bits are left over is decided in the last group. -/
theorem hasUnusedBits_append (vs ws : List Nat) (h : vs.length % 4 = 0) :
    hasUnusedBits (vs ++ ws) = hasUnusedBits ws := by
  have hmod : (vs ++ ws).length % 4 = ws.length % 4 := by
    rw [List.length_append]
    omega
  rcases ws with _ | ⟨w, ws⟩
  · rw [List.append_nil]
    simp only [hasUnusedBits, h, List.length_nil, Nat.zero_mod]
  · have hlast : (vs ++ w :: ws).getLast? = (w :: ws).getLast? := by
      rw [List.getLast?_append, List.getLast?_cons, Option.some_or]
    simp only [hasUnusedBits, hmod, hlast]

/-- Three bytes are cut into the symbols of the four values that they were joined from. -/
theorem encodeBytes_join_four (a b c d : Nat) (rest : List Nat) (ha : a < 64) (hb : b < 64)
    (hc : c < 64) (hd : d < 64) :
    encodeBytes (join (a :: b :: c :: d :: rest))
      = symbol a :: symbol b :: symbol c :: symbol d :: encodeBytes (join rest) := by
  have hx : (UInt8.ofNat ((a * 262144 + b * 4096 + c * 64 + d) / 65536)).toNat
      = (a * 262144 + b * 4096 + c * 64 + d) / 65536 :=
    UInt8.toNat_ofNat_of_lt' (show _ < 256 by omega)
  have hy : (UInt8.ofNat ((a * 262144 + b * 4096 + c * 64 + d) / 256 % 256)).toNat
      = (a * 262144 + b * 4096 + c * 64 + d) / 256 % 256 :=
    UInt8.toNat_ofNat_of_lt' (show _ < 256 by omega)
  have hz : (UInt8.ofNat ((a * 262144 + b * 4096 + c * 64 + d) % 256)).toNat
      = (a * 262144 + b * 4096 + c * 64 + d) % 256 :=
    UInt8.toNat_ofNat_of_lt' (show _ < 256 by omega)
  -- The three bytes hold the number that the four values make up.
  have hnum : (a * 262144 + b * 4096 + c * 64 + d) / 65536 * 65536
      + (a * 262144 + b * 4096 + c * 64 + d) / 256 % 256 * 256
      + (a * 262144 + b * 4096 + c * 64 + d) % 256 = a * 262144 + b * 4096 + c * 64 + d := by
    omega
  have ha' : (a * 262144 + b * 4096 + c * 64 + d) / 262144 = a := by omega
  have hb' : (a * 262144 + b * 4096 + c * 64 + d) / 4096 % 64 = b := by omega
  have hc' : (a * 262144 + b * 4096 + c * 64 + d) / 64 % 64 = c := by omega
  have hd' : (a * 262144 + b * 4096 + c * 64 + d) % 64 = d := by omega
  simp only [join, encodeBytes, hx, hy, hz, hnum, ha', hb', hc', hd']

/-- Two bytes are cut into the symbols of three values, the last of which has two bits to spare. -/
theorem encodeBytes_join_three (a b c : Nat) (ha : a < 64) (hb : b < 64) (hc : c < 64)
    (hspare : c % 4 = 0) :
    encodeBytes (join [a, b, c]) = [symbol a, symbol b, symbol c, pad] := by
  have hx : (UInt8.ofNat ((a * 4096 + b * 64 + c) / 1024)).toNat
      = (a * 4096 + b * 64 + c) / 1024 :=
    UInt8.toNat_ofNat_of_lt' (show _ < 256 by omega)
  have hy : (UInt8.ofNat ((a * 4096 + b * 64 + c) / 4 % 256)).toNat
      = (a * 4096 + b * 64 + c) / 4 % 256 :=
    UInt8.toNat_ofNat_of_lt' (show _ < 256 by omega)
  -- The two bytes hold that number but for the bits to spare.
  have hnum : (a * 4096 + b * 64 + c) / 1024 * 256 + (a * 4096 + b * 64 + c) / 4 % 256
      = (a * 4096 + b * 64 + c) / 4 := by omega
  have ha' : (a * 4096 + b * 64 + c) / 4 / 1024 = a := by omega
  have hb' : (a * 4096 + b * 64 + c) / 4 / 16 % 64 = b := by omega
  have hc' : (a * 4096 + b * 64 + c) / 4 % 16 * 4 = c := by omega
  simp only [join, encodeBytes, hx, hy, hnum, ha', hb', hc']

/-- A byte is cut into the symbols of two values, the last of which has four bits to spare. -/
theorem encodeBytes_join_two (a b : Nat) (ha : a < 64) (hb : b < 64) (hspare : b % 16 = 0) :
    encodeBytes (join [a, b]) = [symbol a, symbol b, pad, pad] := by
  have hx : (UInt8.ofNat ((a * 64 + b) / 16)).toNat = (a * 64 + b) / 16 :=
    UInt8.toNat_ofNat_of_lt' (show _ < 256 by omega)
  have ha' : (a * 64 + b) / 16 / 4 = a := by omega
  have hb' : (a * 64 + b) / 16 % 4 * 16 = b := by omega
  simp only [join, encodeBytes, hx, ha', hb']

/-- Joined values are cut into their symbols again. Four values fill three bytes; of a shorter last
group the bits that no byte uses are zero, so they can be left out and come back as zeros. -/
theorem encodeBytes_join (vs : List Nat) (hlt : ∀ v ∈ vs, v < 64) (hmod : vs.length % 4 ≠ 1)
    (hspare : hasUnusedBits vs = false) :
    encodeBytes (join vs) = vs.map symbol ++ padding vs.length := by
  -- On the groups of four that are joined at a time.
  induction vs using join.induct with
  | case1 a b c d rest ih =>
    simp only [List.forall_mem_cons] at hlt
    rcases hlt with ⟨ha, hb, hc, hd, hlt⟩
    have hmod' : rest.length % 4 ≠ 1 := by
      simp only [List.length_cons] at hmod
      omega
    have hspare' : hasUnusedBits rest = false := by
      rw [← hasUnusedBits_append [a, b, c, d] rest (Nat.mod_self 4)]
      exact hspare
    rw [encodeBytes_join_four a b c d rest ha hb hc hd, ih hlt hmod' hspare']
    simp only [List.map_cons, List.length_cons, padding_add_four, List.cons_append]
  | case2 a b c =>
    simp only [List.forall_mem_cons] at hlt
    rcases hlt with ⟨ha, hb, hc, -⟩
    have hzero : c % 4 = 0 := by simpa [hasUnusedBits] using hspare
    exact encodeBytes_join_three a b c ha hb hc hzero
  | case3 a b =>
    simp only [List.forall_mem_cons] at hlt
    rcases hlt with ⟨ha, hb, -⟩
    have hzero : b % 16 = 0 := by simpa [hasUnusedBits] using hspare
    exact encodeBytes_join_two a b ha hb hzero
  | case4 vs h4 h3 h2 =>
    -- Nothing is left, since a single value is ruled out.
    rcases vs with _ | ⟨a, _ | ⟨b, _ | ⟨c, _ | ⟨d, rest⟩⟩⟩⟩
    · rfl
    · exact absurd rfl hmod
    · exact absurd rfl (h2 a b)
    · exact absurd rfl (h3 a b c)
    · exact absurd rfl (h4 a b c d rest)

/-- Padding that fills the last group of four is the one that the number of symbols calls for. -/
theorem replicate_pad_eq_padding (count pads : Nat) (hgroup : (count + pads) % 4 = 0)
    (hpads : pads = 0 ∨ 2 ≤ count % 4 ∧ count % 4 + pads ≤ 4) :
    List.replicate pads pad = padding count := by
  have hcases : (pads = 0 ∧ count % 4 = 0) ∨ (pads = 2 ∧ count % 4 = 2) ∨
      (pads = 1 ∧ count % 4 = 3) := by omega
  rcases hcases with ⟨rfl, hcount⟩ | ⟨rfl, hcount⟩ | ⟨rfl, hcount⟩
  · rw [padding, hcount]
    rfl
  · rw [padding, hcount]
    rfl
  · rw [padding, hcount]
    rfl

/-! ### Accepted texts, as symbols -/

/-- Accepted symbols are the ones of their bytes. -/
theorem encodeBytes_of_decode (text bs : List UInt8) (h : decode text = .ok bs) :
    encodeBytes bs = text := by
  unfold decode at h
  by_cases hone : text.length % 4 = 1
  · simp only [hone, ↓reduceIte] at h
    split at h <;> simp only [reduceCtorEq] at h
  simp only [hone, ↓reduceIte] at h
  cases hvs : plainValues 0 (text.take (8 * ((text.length - 1) / 8))) with
  | error f => simp only [hvs, reduceCtorEq] at h
  | ok vs =>
    cases hws : finalValues (8 * ((text.length - 1) / 8)) 0 none
        (text.drop (8 * ((text.length - 1) / 8))) with
    | error f => simp only [hvs, hws, reduceCtorEq] at h
    | ok r =>
      rcases r with ⟨ws, pads⟩
      simp only [hvs, hws] at h
      by_cases hgroup : (ws.length + pads) % 4 = 0
      · by_cases hspare : hasUnusedBits ws = true
        · simp only [hgroup, hspare, ne_eq, not_true_eq_false, ↓reduceIte, reduceCtorEq] at h
        · simp only [hgroup, hspare, ne_eq, not_true_eq_false, ↓reduceIte, Bool.false_eq_true,
            Except.ok.injEq] at h
          rcases eq_map_symbol_of_plainValues 0 _ vs hvs with ⟨hfront, hvlt⟩
          rcases finalValues_eq_ok _ 0 _ ws pads hws with ⟨hback, hwlt, hpads⟩
          have hvlen : vs.length % 4 = 0 := by
            have hlen := congrArg List.length hfront
            rw [List.length_take, List.length_map] at hlen
            omega
          -- The symbols before the last group are a multiple of four.
          have hpadding : List.replicate pads pad = padding (vs ++ ws).length := by
            rw [Nat.zero_add] at hpads
            have hmod : (vs ++ ws).length % 4 = ws.length % 4 := by
              rw [List.length_append]
              omega
            refine replicate_pad_eq_padding _ pads ?_ ?_
            · rw [List.length_append]
              omega
            · rw [hmod]
              exact hpads
          rw [← h, encodeBytes_join (vs ++ ws)]
          · rw [List.map_append, ← hpadding, List.append_assoc, ← hfront, ← hback,
              List.take_append_drop]
          · intro v hv
            rcases List.mem_append.mp hv with hv | hv
            · exact hvlt v hv
            · exact hwlt v hv
          · rw [List.length_append]
            omega
          · rw [hasUnusedBits_append vs ws hvlen]
            exact Bool.eq_false_iff.mpr hspare
      · simp only [hgroup, ne_eq, not_false_eq_true, ↓reduceIte, reduceCtorEq] at h

/-! ### Written texts, as symbols -/

/-- A symbol has its value, and padding has none. -/
theorem value?_symbol : ∀ v < 64, value? (symbol v) = some v ∧ symbol v ≠ pad := by
  decide +kernel

/-- The values that the bytes are cut into. -/
def values : List UInt8 → List Nat
  | a :: b :: c :: rest =>
    let n := a.toNat * 65536 + b.toNat * 256 + c.toNat
    n / 262144 :: n / 4096 % 64 :: n / 64 % 64 :: n % 64 :: values rest
  | [a, b] =>
    let n := a.toNat * 256 + b.toNat
    [n / 1024, n / 16 % 64, n % 16 * 4]
  | [a] => [a.toNat / 4, a.toNat % 4 * 16]
  | [] => []

/-- What is written are the symbols of the values, and padding. -/
theorem encodeBytes_eq (bs : List UInt8) :
    encodeBytes bs = (values bs).map symbol ++ padding (values bs).length := by
  induction bs using values.induct with
  | case1 a b c rest ih =>
    simp only [encodeBytes, values, ih, List.map_cons, List.length_cons, padding_add_four,
      List.cons_append]
  | case2 a b => rfl
  | case3 a => rfl
  | case4 => rfl

theorem values_lt (bs : List UInt8) : ∀ v ∈ values bs, v < 64 := by
  induction bs using values.induct with
  | case1 a b c rest ih =>
    have ha := a.toNat_lt
    have hb := b.toNat_lt
    have hc := c.toNat_lt
    simp only [values, List.forall_mem_cons]
    refine ⟨?_, ?_, ?_, ?_, ih⟩ <;> omega
  | case2 a b =>
    have ha := a.toNat_lt
    have hb := b.toNat_lt
    simp only [values, List.forall_mem_cons]
    refine ⟨?_, ?_, ?_, List.forall_mem_nil _⟩ <;> omega
  | case3 a =>
    have ha := a.toNat_lt
    simp only [values, List.forall_mem_cons]
    refine ⟨?_, ?_, List.forall_mem_nil _⟩ <;> omega
  | case4 => exact List.forall_mem_nil _

/-- No group of values has a single one, and the bits that no byte uses are zero. -/
theorem isWhole_values (bs : List UInt8) :
    (values bs).length % 4 ≠ 1 ∧ hasUnusedBits (values bs) = false := by
  induction bs using values.induct with
  | case1 a b c rest ih =>
    refine ⟨?_, ?_⟩
    · simp only [values, List.length_cons]
      omega
    · rw [← ih.2]
      exact hasUnusedBits_append [_, _, _, _] (values rest) (Nat.mod_self 4)
  | case2 a b =>
    refine ⟨show 3 % 4 ≠ 1 by decide, ?_⟩
    simp only [values, hasUnusedBits, List.length_cons, List.length_nil, List.getLast?_cons,
      List.getLast?_nil, Option.getD_none, Option.getD_some, Nat.mul_mod_left, bne_self_eq_false]
  | case3 a =>
    refine ⟨show 2 % 4 ≠ 1 by decide, ?_⟩
    simp only [values, hasUnusedBits, List.length_cons, List.length_nil, List.getLast?_cons,
      List.getLast?_nil, Option.getD_none, Option.getD_some, Nat.mul_mod_left, bne_self_eq_false]
  | case4 => exact ⟨by decide, rfl⟩

/-- A number that is that of a byte gives the byte back. -/
theorem ofNat_eq_of_toNat {n : Nat} {b : UInt8} (h : n = b.toNat) : UInt8.ofNat n = b := by
  rw [h, UInt8.ofNat_toNat]

/-- The values of bytes are joined to these again. -/
theorem join_values (bs : List UInt8) : join (values bs) = bs := by
  induction bs using values.induct with
  | case1 a b c rest ih =>
    have ha := a.toNat_lt
    have hb := b.toNat_lt
    have hc := c.toNat_lt
    simp only [values, join, ih, List.cons.injEq, and_true]
    refine ⟨?_, ?_, ?_⟩ <;> refine ofNat_eq_of_toNat ?_ <;> omega
  | case2 a b =>
    have ha := a.toNat_lt
    have hb := b.toNat_lt
    simp only [values, join, List.cons.injEq, and_true]
    refine ⟨?_, ?_⟩ <;> refine ofNat_eq_of_toNat ?_ <;> omega
  | case3 a =>
    have ha := a.toNat_lt
    simp only [values, join, List.cons.injEq, and_true]
    refine ofNat_eq_of_toNat ?_
    omega
  | case4 => rfl

theorem plainValues_map_symbol (offset : Nat) (vs : List Nat) (hlt : ∀ v ∈ vs, v < 64) :
    plainValues offset (vs.map symbol) = .ok vs := by
  induction vs generalizing offset with
  | nil => rfl
  | cons v vs ih =>
    rw [List.forall_mem_cons] at hlt
    simp only [List.map_cons, plainValues, (value?_symbol v hlt.1).1, ih (offset + 1) hlt.2,
      Except.map]

/-- Padding at the end of the last group is counted. -/
theorem finalValues_replicate_pad (start index pads : Nat) (firstPad : Option Nat)
    (hpads : pads = 0 ∨ 2 ≤ index % 4 ∧ index % 4 + pads ≤ 4) :
    finalValues start index firstPad (List.replicate pads pad) = .ok ([], pads) := by
  induction pads generalizing index firstPad with
  | zero => rfl
  | succ pads ih =>
    have hplace : ¬ index % 4 < 2 := by omega
    have hrest : pads = 0 ∨ 2 ≤ (index + 1) % 4 ∧ (index + 1) % 4 + pads ≤ 4 := by omega
    simp only [List.replicate_succ, finalValues, ↓reduceIte, hplace, ih _ _ hrest, Except.map]

theorem finalValues_map_symbol (start index pads : Nat) (ws : List Nat) (hlt : ∀ w ∈ ws, w < 64)
    (hpads : pads = 0 ∨ 2 ≤ (index + ws.length) % 4 ∧ (index + ws.length) % 4 + pads ≤ 4) :
    finalValues start index none (ws.map symbol ++ List.replicate pads pad) = .ok (ws, pads) := by
  induction ws generalizing index with
  | nil => exact finalValues_replicate_pad start index pads none hpads
  | cons w ws ih =>
    rw [List.forall_mem_cons] at hlt
    rw [List.length_cons, show index + (ws.length + 1) = index + 1 + ws.length by omega] at hpads
    have hw := value?_symbol w hlt.1
    have hrest := ih (index + 1) hlt.2 hpads
    simp only [List.map_cons, List.cons_append, finalValues, hw.1, hw.2, ↓reduceIte, hrest,
      Except.map]

/-- The padding after a number of symbols, as the reader counts it. -/
theorem padding_eq_replicate (count : Nat) (h : count % 4 ≠ 1) :
    ∃ pads, padding count = List.replicate pads pad ∧ (count + pads) % 4 = 0 ∧
      (pads = 0 ∨ 2 ≤ count % 4 ∧ count % 4 + pads ≤ 4) ∧ pads ≤ 2 := by
  have hcases : count % 4 = 0 ∨ count % 4 = 2 ∨ count % 4 = 3 := by omega
  rcases hcases with hcount | hcount | hcount
  · exact ⟨0, by rw [padding, hcount]; rfl, by omega, by omega, by omega⟩
  · exact ⟨2, by rw [padding, hcount]; rfl, by omega, by omega, by omega⟩
  · exact ⟨1, by rw [padding, hcount]; rfl, by omega, by omega, by omega⟩

/-- Symbols and the padding that fills their last group are read. -/
theorem decode_map_symbol (vs : List Nat) (hlt : ∀ v ∈ vs, v < 64) (hmod : vs.length % 4 ≠ 1)
    (hspare : hasUnusedBits vs = false) :
    decode (vs.map symbol ++ padding vs.length) = .ok (join vs) := by
  obtain ⟨pads, hpadding, hgroup, hpads, htwo⟩ := padding_eq_replicate vs.length hmod
  rw [hpadding]
  generalize htext : vs.map symbol ++ List.replicate pads pad = text
  have hlen : text.length = vs.length + pads := by
    rw [← htext, List.length_append, List.length_map, List.length_replicate]
  have hone : text.length % 4 ≠ 1 := by omega
  -- All of the padding is in the last group, which has no less than four symbols.
  generalize hstart : 8 * ((text.length - 1) / 8) = start
  have hle : start ≤ vs.length := by omega
  have htake : text.take start = (vs.take start).map symbol := by
    rw [← htext, List.take_append_of_le_length (by rwa [List.length_map]), List.map_take]
  have hdrop : text.drop start = (vs.drop start).map symbol ++ List.replicate pads pad := by
    rw [← htext, List.drop_append_of_le_length (by rwa [List.length_map]), List.map_drop]
  have hdroplen : (vs.drop start).length = vs.length - start := List.length_drop
  have hplain : plainValues 0 (text.take start) = .ok (vs.take start) := by
    rw [htake]
    exact plainValues_map_symbol 0 _ fun v hv => hlt v (List.mem_of_mem_take hv)
  have hfinal : finalValues start 0 none (text.drop start) = .ok (vs.drop start, pads) := by
    rw [hdrop]
    refine finalValues_map_symbol start 0 pads _ (fun v hv => hlt v (List.mem_of_mem_drop hv)) ?_
    omega
  have hunused : hasUnusedBits (vs.drop start) = false := by
    rw [← hasUnusedBits_append (vs.take start) (vs.drop start), List.take_append_drop]
    · exact hspare
    · rw [List.length_take]
      omega
  have hfull : ((vs.drop start).length + pads) % 4 = 0 := by omega
  simp only [decode, hone, ↓reduceIte, hstart, hplain, hfinal, hfull, hunused, ne_eq,
    not_true_eq_false, Bool.false_eq_true, List.take_append_drop]

/-- Written symbols are read. -/
theorem decode_encodeBytes (bs : List UInt8) : decode (encodeBytes bs) = .ok bs := by
  obtain ⟨hmod, hspare⟩ := isWhole_values bs
  rw [encodeBytes_eq, decode_map_symbol _ (values_lt bs) hmod hspare, join_values]

/-! ### Texts as characters -/

/-- Nothing is written but symbols and padding. -/
theorem mem_of_mem_encodeBytes (bs : List UInt8) : ∀ b ∈ encodeBytes bs, b ∈ pad :: alphabet := by
  intro b hb
  rw [encodeBytes_eq, List.mem_append, List.mem_map] at hb
  rcases hb with ⟨v, -, rfl⟩ | hb
  · exact symbol_mem v
  · obtain ⟨pads, hpadding, -⟩ := padding_eq_replicate _ (isWhole_values bs).1
    rw [hpadding] at hb
    rw [List.eq_of_mem_replicate hb]
    exact List.mem_cons_self

/-- A plain character is a single byte. -/
theorem utf8EncodeChar_ofNat (b : UInt8) (h : b < 128) :
    String.utf8EncodeChar (Char.ofNat b.toNat) = [b] := by
  have hall : ∀ n < 128, String.utf8EncodeChar (Char.ofNat n) = [UInt8.ofNat n] := by decide
  have hb := hall b.toNat (UInt8.lt_iff_toNat_lt.mp h)
  rwa [UInt8.ofNat_toNat] at hb

/-- The bytes of a text of plain characters. -/
theorem bytes_ofList_plain (bs : List UInt8) (h : ∀ b ∈ bs, b < 128) :
    Text.bytes (String.ofList (bs.map fun b => Char.ofNat b.toNat)) = bs := by
  rw [Text.bytes, String.toUTF8, String.toByteArray_ofList, List.utf8Encode,
    List.toList_data_toByteArray]
  induction bs with
  | nil => rfl
  | cons b bs ih =>
    rw [List.map_cons, List.flatMap_cons, utf8EncodeChar_ofNat b (h b List.mem_cons_self),
      ih fun c hc => h c (List.mem_cons_of_mem b hc)]
    rfl

/-- The bytes of a written text are what was written. -/
theorem bytes_encode (bs : List UInt8) : Text.bytes (encode bs) = encodeBytes bs :=
  bytes_ofList_plain _ fun b hb => (isPlain_of_mem b (mem_of_mem_encodeBytes bs b hb)).1

/-- An accepted text is the one of its bytes. -/
theorem encode_of_decode (s : String) (bs : List UInt8) (h : decode (Text.bytes s) = .ok bs) :
    encode bs = s := by
  have hsymbols := encodeBytes_of_decode (Text.bytes s) bs h
  have hbytes : Text.bytes (encode bs) = Text.bytes s := by
    rw [bytes_encode, hsymbols]
  have hread := Text.ofBytes?_bytes (encode bs)
  rw [hbytes, Text.ofBytes?_bytes] at hread
  exact (Option.some.inj hread).symm

/-- A written text is read. -/
theorem decode_bytes_encode (bs : List UInt8) : decode (Text.bytes (encode bs)) = .ok bs := by
  rw [bytes_encode, decode_encodeBytes]

/-- A written text has no blanks around it. -/
theorem trimmed_encode (bs : List UInt8) : Text.trimmed (encode bs) = encode bs := by
  refine Text.trimmed_eq_self fun c hc => ?_
  rw [encode, String.toList_ofList, List.mem_map] at hc
  obtain ⟨b, hb, rfl⟩ := hc
  exact (isPlain_of_mem b (mem_of_mem_encodeBytes bs b hb)).2

end Wager.Base64
