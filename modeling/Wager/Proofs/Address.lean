import Wager.Address
import Wager.Proofs.Encoding.Base58
import Wager.Proofs.Text.Cutting

/-!
# Texts of addresses

Each address has one text, and what is read as the address is this text with any blanks around it.

What base 58 says of byte strings is not quite enough for this. Texts of more than 44 bytes are not
looked at, so the text of an address has to be shown to be within that: 44 digits in base 58 have room
for 32 bytes. And a text must not lose anything to the trimming, so no blank is in the alphabet.

Why a text names no address is told without the way it is read (`Address.Fault.Of`). The rules exclude
each other, so the order of the checks shows in the message.

## Main definitions

* `Address.Fault.Of`: What is wrong with a text that names no address.

## Theorems

* `Address.utf8ByteSize_text_le`: The text of an address is not too long to be looked at.
* `Address.read_eq_ok_iff`, `Address.read_eq_error_iff`: Reading a text.
* `Address.parse_canonical`: Texts of addresses, with blanks around them.
-/

namespace Wager.Address

/-! ### The text of an address -/

theorem utf8ByteSize_ofList {cs : List Char} (h : ∀ c ∈ cs, c.utf8Size = 1) :
    (String.ofList cs).utf8ByteSize = cs.length := by
  induction cs with
  | nil => rfl
  | cons c cs ih =>
    rw [List.forall_mem_cons] at h
    rw [String.ofList_cons, String.utf8ByteSize_append, String.utf8ByteSize_singleton, h.1, ih h.2,
      List.length_cons, Nat.add_comm]

theorem writes_text (a : Address) : Base58.Writes a.text.toList a.bytes.toList := by
  rw [text, String.toList_ofList]
  exact Base58.writes_encode _

/-- A text that writes 32 bytes is not too long to be looked at. -/
theorem utf8ByteSize_le {s : String} {bs : List UInt8} (h : Base58.Writes s.toList bs)
    (hlen : bs.length = 32) : s.utf8ByteSize ≤ maxTextBytes := by
  have hroom : 256 ^ bs.length ≤ 58 ^ maxTextBytes := by
    rw [hlen, maxTextBytes]
    norm_num
  have hsize := utf8ByteSize_ofList fun c hc => Base58.utf8Size_of_mem_alphabet (h.mem_alphabet c hc)
  rw [String.ofList_toList] at hsize
  rw [hsize]
  exact h.length_le hroom

theorem utf8ByteSize_text_le (a : Address) : a.text.utf8ByteSize ≤ maxTextBytes :=
  utf8ByteSize_le a.writes_text a.bytes.length_eq

theorem isBlank_of_mem_alphabet {c : Char} (h : c ∈ Base58.alphabet) : Text.isBlank c = false := by
  have hall : Base58.alphabet.all (fun c => !Text.isBlank c) = true := by decide
  exact (Bool.not_eq_true' _).mp (List.all_eq_true.mp hall c h)

theorem isBlank_of_mem_text {a : Address} {c : Char} (h : c ∈ a.text.toList) :
    Text.isBlank c = false :=
  isBlank_of_mem_alphabet (a.writes_text.mem_alphabet c h)

/-! ### Reading a text -/

/-- What is wrong with a text that names no address: it is too long to be looked at, or some character
of it is none of base 58, or it writes another number of bytes. -/
inductive Fault.Of (s : String) : Fault → Prop
  | long (h : maxTextBytes < s.utf8ByteSize) : Fault.Of s .wrongSize
  | foreign (h : s.utf8ByteSize ≤ maxTextBytes) {c : Char} (hc : c ∈ s.toList)
    (hforeign : c ∉ Base58.alphabet) : Fault.Of s .invalidText
  | misfit (h : s.utf8ByteSize ≤ maxTextBytes) {bs : List UInt8} (hbs : Base58.Writes s.toList bs)
    (hlen : bs.length ≠ 32) : Fault.Of s .wrongSize

theorem read_text (a : Address) : read a.text = .ok a := by
  simp only [read, if_neg (Nat.not_lt.mpr a.utf8ByteSize_text_le), a.writes_text.decode_eq,
    FixedBytes.ofList?, dif_pos a.bytes.length_eq]

/-- A text that is not the text of an address has something wrong with it, and reading tells what. -/
theorem read_cases (s : String) :
    (∃ a : Address, s = a.text) ∨ ∃ f, read s = .error f ∧ Fault.Of s f := by
  by_cases hlong : maxTextBytes < s.utf8ByteSize
  · exact .inr ⟨.wrongSize, if_pos hlong, .long hlong⟩
  cases hbs : Base58.decode s.toList with
  | none =>
    obtain ⟨c, hc, hforeign⟩ := Base58.decode_eq_none_iff.mp hbs
    exact .inr ⟨.invalidText, by simp only [read, if_neg hlong, hbs],
      .foreign (Nat.not_lt.mp hlong) hc hforeign⟩
  | some bs =>
    have hwrites := Base58.decode_eq_some_iff.mp hbs
    by_cases hlen : bs.length = 32
    · refine .inl ⟨⟨bs, hlen⟩, ?_⟩
      rw [text, hwrites.encode_eq, String.ofList_toList]
    · exact .inr ⟨.wrongSize, by simp only [read, if_neg hlong, hbs, FixedBytes.ofList?, dif_neg hlen],
        .misfit (Nat.not_lt.mp hlong) hwrites hlen⟩

/-- A text is read as the address that it is the text of. -/
theorem read_eq_ok_iff {s : String} {a : Address} : read s = .ok a ↔ s = a.text := by
  constructor
  · intro h
    obtain ⟨a', rfl⟩ | ⟨f, herror, -⟩ := read_cases s
    · rw [read_text] at h
      rw [Except.ok.inj h]
    · exact nomatch herror.symm.trans h
  · rintro rfl
    exact a.read_text

/-- Nothing is wrong with the text of an address. -/
theorem Fault.Of.ne_text {s : String} {f : Fault} (h : Fault.Of s f) (a : Address) : s ≠ a.text := by
  rintro rfl
  cases h with
  | long h => exact Nat.not_lt.mpr a.utf8ByteSize_text_le h
  | foreign h hc hforeign => exact hforeign (a.writes_text.mem_alphabet _ hc)
  | misfit h hbs hlen =>
    have hsame := hbs.decode_eq.symm.trans a.writes_text.decode_eq
    rw [Option.some.inj hsame] at hlen
    exact hlen a.bytes.length_eq

/-- Only one thing is wrong with a text. -/
theorem Fault.Of.unique {s : String} {f f' : Fault} (h : Fault.Of s f) (h' : Fault.Of s f') :
    f = f' := by
  cases h with
  | long h =>
    cases h' with
    | long => rfl
    | foreign h' => exact absurd h (Nat.not_lt.mpr h')
    | misfit => rfl
  | foreign h hc hforeign =>
    cases h' with
    | long h' => exact absurd h' (Nat.not_lt.mpr h)
    | foreign => rfl
    | misfit _ hbs => exact absurd (hbs.mem_alphabet _ hc) hforeign
  | misfit _ hbs =>
    cases h' with
    | long => rfl
    | foreign _ hc hforeign => exact absurd (hbs.mem_alphabet _ hc) hforeign
    | misfit => rfl

/-- Reading fails with what is wrong with the text. -/
theorem read_eq_error_iff {s : String} {f : Fault} : read s = .error f ↔ Fault.Of s f := by
  obtain ⟨a, rfl⟩ | ⟨f', herror, hof⟩ := read_cases s
  · rw [read_text]
    exact ⟨nofun, fun h => absurd rfl (h.ne_text a)⟩
  · rw [herror, Except.error.injEq]
    exact ⟨fun h => h ▸ hof, fun h => hof.unique h⟩

theorem parse_eq_ok_iff {s : String} {a : Address} : parse s = .ok a ↔ Text.trimmed s = a.text := by
  rw [← read_eq_ok_iff, parse]
  cases read (Text.trimmed s) <;> simp

theorem parse_of_fault {s : String} {f : Fault} (h : Fault.Of (Text.trimmed s) f) :
    parse s = .error (.invalidAddress (Text.trimmed s ++ ": " ++ f.message)) := by
  rw [parse, read_eq_error_iff.mpr h]

/-- Blanks around the text of an address are trimmed, and nothing else. -/
theorem trimmed_around {a : Address} {before after : String}
    (hbefore : ∀ c ∈ before.toList, Text.isBlank c = true)
    (hafter : ∀ c ∈ after.toList, Text.isBlank c = true) :
    Text.trimmed (before ++ a.text ++ after) = a.text := by
  refine ((Text.isTrimmed_iff _ _).mp ⟨⟨before.toList, after.toList, ?_, hbefore, hafter⟩, ?_, ?_⟩).symm
  · rw [String.toList_append, String.toList_append]
  · exact fun c hc => isBlank_of_mem_text (List.mem_of_mem_head? hc)
  · exact fun c hc => isBlank_of_mem_text (List.mem_of_getLast? hc)

/-- An address has one text: it is read as the address with any blanks around it, and no text is read as
the address that is not this one once it is trimmed. A text that is read as no address gives an error
with the trimmed text, a colon and what is wrong with it. -/
theorem parse_canonical :
    (∀ (a : Address) (before after : String), (∀ c ∈ before.toList, Text.isBlank c = true) →
      (∀ c ∈ after.toList, Text.isBlank c = true) → parse (before ++ a.text ++ after) = .ok a) ∧
    (∀ a : Address, Base58.Writes a.text.toList a.bytes.toList) ∧
    (∀ s t : String, Text.IsTrimmed s t →
      (∃ a, parse s = .ok a ∧ a.text = t) ∨
      ∃ f, parse s = .error (.invalidAddress (t ++ ": " ++ f.message)) ∧ Fault.Of t f) ∧
    ∀ (s t s' t' : String) (a : Address), Text.IsTrimmed s t → Text.IsTrimmed s' t' →
      parse s = .ok a → parse s' = .ok a → t = t' := by
  refine ⟨?_, writes_text, ?_, ?_⟩
  · intro a before after hbefore hafter
    exact parse_eq_ok_iff.mpr (trimmed_around hbefore hafter)
  · intro s t ht
    obtain rfl := (Text.isTrimmed_iff s t).mp ht
    -- What is read has been trimmed, so its text is the trimmed one.
    obtain ⟨a, ha⟩ | ⟨f, -, hof⟩ := read_cases (Text.trimmed s)
    · exact .inl ⟨a, parse_eq_ok_iff.mpr ha, ha.symm⟩
    · exact .inr ⟨f, parse_of_fault hof, hof⟩
  · intro s t s' t' a ht ht' h h'
    rw [(Text.isTrimmed_iff s t).mp ht, (Text.isTrimmed_iff s' t').mp ht', parse_eq_ok_iff.mp h,
      parse_eq_ok_iff.mp h']

/-- A program that is known by its text, read with blanks around it, and a text with an `l`, which is
missing in the alphabet. -/
theorem parse_canonical_sample :
    let program := known "TokenkegQfeZyiNwAJbNbGKPFXCWuBvf9Ss623VQ5DA"
    program.text = "TokenkegQfeZyiNwAJbNbGKPFXCWuBvf9Ss623VQ5DA" ∧
    parse ("\t" ++ program.text ++ "\n") = .ok program ∧
    (∃ f, parse " 0l " = .error (.invalidAddress ("0l" ++ ": " ++ f.message)) ∧ Fault.Of "0l" f) ∧
    Text.trimmed (" " ++ program.text) = Text.trimmed (program.text ++ " ") := by
  intro program
  have htext : program.text = "TokenkegQfeZyiNwAJbNbGKPFXCWuBvf9Ss623VQ5DA" := by decide +kernel
  have hblank : ∀ s ∈ ["", " ", "\t", "\n"], ∀ c ∈ s.toList, Text.isBlank c = true := by
    simp only [← List.all_eq_true]
    decide
  obtain ⟨hback, -, hsplit, hone⟩ := parse_canonical
  refine ⟨htext, hback program "\t" "\n" (hblank _ (by simp)) (hblank _ (by simp)), ?_, ?_⟩
  · refine (hsplit " 0l " "0l" ((Text.isTrimmed_iff _ _).mpr (by decide))).resolve_left ?_
    rintro ⟨a, h, -⟩
    exact nomatch (show parse " 0l " = .error (.invalidAddress "0l: Invalid Base58 string") from rfl)
      |>.symm.trans h
  · have hfront := hback program " " "" (hblank _ (by simp)) (hblank _ (by simp))
    have hbehind := hback program "" " " (hblank _ (by simp)) (hblank _ (by simp))
    rw [String.append_empty] at hfront
    rw [String.empty_append] at hbehind
    exact hone _ _ _ _ program (Text.isTrimmed_trimmed _) (Text.isTrimmed_trimmed _) hfront hbehind

end Wager.Address
