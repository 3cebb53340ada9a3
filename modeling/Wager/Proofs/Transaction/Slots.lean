import Wager.Proofs.Transaction.Signing
import Wager.Proofs.Transaction.Wire
import Mathlib.Data.List.Induction

/-!
# Filling slots

What becomes of a transaction when one signature after another is put in.

Whether a signature can be put in is decided by the required signers, and these never change, so an
attempt that fails fails whatever was put in before. An attempt that succeeds touches one slot, the
first of its signer. What a slot holds in the end is therefore decided by the last attempt of the
one signer whose first slot it is (`getElem?_attempts`), and attempts of different signers can be
exchanged (`attempts_congr`). A slot that is not the first of its signer is never touched.

The type of transactions says that there is a slot and an address for each required signer, so
nothing is ever looked for where there is nothing. That this is owed to what is checked on reading
is told with `Parts`, of which nothing is known: looking up a slice of addresses or a slot may fail
there, and does not for what has passed the checks (`attempts?_parts`).

## Main definitions

* `Transaction.attempt`, `Transaction.attempts`: A transaction after attempts to put in signatures.
* `Transaction.Parts`: Slots and a message whose numbers need not agree.
* `Transaction.Attempted`: What attempts make of a transaction.

## Theorems

* `Transaction.ofBytes_eq_ok_iff`: What is read when the numbers are compared.
* `Transaction.attempts?_parts`: Nothing is looked for where there is nothing.
* `Transaction.getElem?_attempts`: What a slot holds after attempts.
* `Transaction.attempts_congr`: The last attempts of the signers decide.
* `Transaction.attempted`: Whatever was accepted, attempts make of it what they should.
-/

namespace Wager

/-- An empty signature consists of zeros. -/
theorem Signature.eq_empty_iff (s : Signature) :
    s = .empty ↔ s.bytes.toList = List.replicate 64 0 := by
  rcases s with ⟨⟨bs, hlen⟩⟩
  simp only [Signature.empty, FixedBytes.zero, Signature.mk.injEq, FixedBytes.mk.injEq]

namespace Transaction

/-- The transaction after an attempt to put in a signature. One that fails changes nothing. -/
def attempt (tx : Transaction) (call : Address × Signature) : Transaction :=
  match tx.addSignature call.1 call.2 with
  | .ok signed => signed
  | .error _ => tx

/-- The transaction after one attempt after another. -/
def attempts (tx : Transaction) (calls : List (Address × Signature)) : Transaction :=
  calls.foldl attempt tx

theorem attempts_concat (tx : Transaction) (calls : List (Address × Signature))
    (call : Address × Signature) :
    tx.attempts (calls ++ [call]) = (tx.attempts calls).attempt call := by
  rw [attempts, List.foldl_append, List.foldl_cons, List.foldl_nil, attempts]

/-! ### Parts -/

/-- The slots and the message of a transaction, whatever their numbers are. -/
structure Parts where
  signatures : List Signature
  message : Message
  deriving DecidableEq

/-- The slots and the message of the transaction. -/
def parts (tx : Transaction) : Parts := ⟨tx.signatures, tx.message⟩

theorem parts_injective {tx tx' : Transaction} (h : tx.parts = tx'.parts) : tx = tx' := by
  rcases tx with ⟨signatures, message, slots_eq, keys_le⟩
  rcases tx' with ⟨signatures', message', slots_eq', keys_le'⟩
  simp only [parts, Parts.mk.injEq] at h
  obtain ⟨rfl, rfl⟩ := h
  rfl

namespace Parts

/-- The parts at the front of the bytes, with no number compared to another. -/
def read? (bs : List UInt8) : Option Parts :=
  (partsCodec.read bs).map fun r => ⟨r.1.1.toList, r.1.2⟩

/-- As many of the first addresses as there are slots, if there are that many. -/
def requiredSigners? (p : Parts) : Option (List Address) :=
  if p.signatures.length ≤ p.message.keys.length then
    some (p.message.keys.take p.signatures.length)
  else none

/-- The parts with a signature in the slot of the given number, if there is such a slot. -/
def setSlot? (p : Parts) (i : Nat) (s : Signature) : Option Parts :=
  if i < p.signatures.length then some ⟨p.signatures.set i s, p.message⟩ else none

/-- Puts a signature into the first slot of its signer. Gives whether that worked, and the parts
afterwards, unless addresses or a slot are looked for where there are none. -/
def addSignature? (p : Parts) (signer : Address) (s : Signature) :
    Option (Result Unit × Parts) := do
  let signers ← p.requiredSigners?
  match signers.idxOf? signer with
  | some i =>
    let p ← p.setSlot? i s
    return (.ok (), p)
  | none => return (.error (.invalidTransaction (signer.text ++ " is not a required signer")), p)

/-- The parts after one attempt to put in a signature after another. -/
def attempts? (p : Parts) (calls : List (Address × Signature)) : Option Parts :=
  calls.foldlM (fun p call => (p.addSignature? call.1 call.2).map Prod.snd) p

end Parts

/-- Bytes are accepted exactly if the numbers of slots and addresses of the parts they begin with
are those of a transaction. -/
theorem ofBytes_eq_ok_iff (bs : List UInt8) (tx : Transaction) :
    ofBytes bs = .ok tx ↔ Parts.read? bs = some tx.parts := by
  constructor
  · intro h
    obtain ⟨ignored, rfl⟩ := eq_toBytes_of_ofBytes bs tx h
    rw [← write_slots_message, Parts.read?, isLawful_partsCodec.read_write]
    rfl
  · intro h
    rw [Parts.read?, Option.map_eq_some_iff] at h
    obtain ⟨⟨⟨slots, message⟩, ignored⟩, hread, hparts⟩ := h
    simp only [parts, Parts.mk.injEq] at hparts
    obtain ⟨hslots, rfl⟩ := hparts
    have hbs := isLawful_partsCodec.eq_write bs _ ignored hread
    have heq : slots = tx.slots := by
      rcases slots with ⟨l, hl⟩
      simp only at hslots
      subst hslots
      rfl
    rw [hbs, heq, write_slots_message, ofBytes_toBytes_append]

/-- There is an address for every slot. -/
theorem requiredSigners?_parts (tx : Transaction) :
    tx.parts.requiredSigners? = some tx.requiredSigners := by
  have hle : tx.signatures.length ≤ tx.message.keys.length := by
    rw [tx.slots_eq]
    exact tx.keys_le
  rw [Parts.requiredSigners?, parts, if_pos hle, requiredSigners, tx.slots_eq]

/-- One attempt looks for nothing where there is nothing. -/
theorem addSignature?_parts (tx : Transaction) (signer : Address) (s : Signature) :
    tx.parts.addSignature? signer s =
      some ((tx.addSignature signer s).map fun _ => (), (tx.attempt (signer, s)).parts) := by
  unfold Parts.addSignature? attempt addSignature
  rw [requiredSigners?_parts, Option.bind_eq_bind, Option.bind_some]
  cases hi : tx.requiredSigners.idxOf? signer with
  | none => rfl
  | some i =>
    -- The slot is there because the address is that of a slot.
    have hlt := ((idxOf?_requiredSigners_eq_some_iff tx signer i).mp hi).lt
    have hset : tx.parts.setSlot? i s = some (tx.setSlot i s).parts := if_pos hlt
    simp only [hset, Option.bind_eq_bind, Option.bind_some, Option.pure_def, Except.map]

/-- Attempts look for nothing where there is nothing. -/
theorem attempts?_parts (tx : Transaction) (calls : List (Address × Signature)) :
    tx.parts.attempts? calls = some (tx.attempts calls).parts := by
  unfold Parts.attempts? attempts
  induction calls generalizing tx with
  | nil => rfl
  | cons call calls ih =>
    rw [List.foldlM_cons, addSignature?_parts, List.foldl_cons]
    exact ih (tx.attempt call)

/-! ### One attempt -/

/-- An attempt of somebody who has no slot fails. -/
theorem addSignature_of_not_mem {tx : Transaction} {signer : Address}
    (h : signer ∉ tx.requiredSigners) (s : Signature) :
    tx.addSignature signer s =
      .error (.invalidTransaction (signer.text ++ " is not a required signer")) := by
  rw [addSignature, List.idxOf?_eq_none_iff.mpr h]

theorem attempt_of_not_mem {tx : Transaction} {signer : Address}
    (h : signer ∉ tx.requiredSigners) (s : Signature) : tx.attempt (signer, s) = tx := by
  simp only [attempt, addSignature_of_not_mem h]

theorem attempt_of_isFirstSlot {tx : Transaction} {signer : Address} {i : Nat}
    (h : tx.IsFirstSlot signer i) (s : Signature) : tx.attempt (signer, s) = tx.setSlot i s := by
  have hok := (addSignature_eq_ok_iff tx (tx.setSlot i s) signer s).mpr ⟨i, h, rfl⟩
  simp only [attempt, hok]

/-- An attempt fills a slot or does nothing. -/
theorem attempt_cases (tx : Transaction) (call : Address × Signature) :
    (∃ i, tx.IsFirstSlot call.1 i ∧ tx.attempt call = tx.setSlot i call.2) ∨
      call.1 ∉ tx.requiredSigners ∧ tx.attempt call = tx := by
  by_cases hmem : call.1 ∈ tx.requiredSigners
  · obtain ⟨i, hi⟩ := (mem_requiredSigners_iff tx call.1).mp hmem
    exact Or.inl ⟨i, hi, attempt_of_isFirstSlot hi call.2⟩
  · exact Or.inr ⟨hmem, attempt_of_not_mem hmem call.2⟩

theorem message_attempt (tx : Transaction) (call : Address × Signature) :
    (tx.attempt call).message = tx.message := by
  rcases tx.attempt_cases call with ⟨i, -, heq⟩ | ⟨-, heq⟩
  · rw [heq]
    rfl
  · rw [heq]

instance (tx : Transaction) (signer : Address) (i : Nat) : Decidable (tx.IsFirstSlot signer i) :=
  decidable_of_iff _ (idxOf?_requiredSigners_eq_some_iff tx signer i)

/-- What a slot holds after an attempt: the signature if it is the first slot of the signer, and
what it held otherwise. -/
theorem getElem?_attempt {tx : Transaction} {key : Address} {i : Nat}
    (hkey : tx.requiredSigners[i]? = some key) (call : Address × Signature) :
    (tx.attempt call).signatures[i]? =
      if call.1 = key ∧ tx.IsFirstSlot key i then some call.2 else tx.signatures[i]? := by
  rcases tx.attempt_cases call with ⟨j, hj, heq⟩ | ⟨hmem, heq⟩
  · rw [heq, setSlot]
    by_cases hij : j = i
    · subst hij
      have hsame : call.1 = key := Option.some.inj (hj.1.symm.trans hkey)
      rw [List.getElem?_set_self hj.lt, if_pos ⟨hsame, hsame ▸ hj⟩]
    · rw [List.getElem?_set_ne hij, if_neg]
      rintro ⟨hsame, hfirst⟩
      rw [← hsame] at hfirst
      exact hij (hj.unique hfirst)
  · rw [heq, if_neg]
    rintro ⟨hsame, -⟩
    rw [hsame] at hmem
    exact hmem (List.mem_of_getElem? hkey)

/-! ### Attempts -/

/-- The message is never altered. -/
theorem message_attempts (tx : Transaction) (calls : List (Address × Signature)) :
    (tx.attempts calls).message = tx.message := by
  induction calls using List.reverseRecOn with
  | nil => rfl
  | append_singleton calls call ih => rw [attempts_concat, message_attempt, ih]

theorem requiredSigners_attempts (tx : Transaction) (calls : List (Address × Signature)) :
    (tx.attempts calls).requiredSigners = tx.requiredSigners := by
  rw [requiredSigners, message_attempts, requiredSigners]

theorem length_signatures_attempts (tx : Transaction) (calls : List (Address × Signature)) :
    (tx.attempts calls).signatures.length = tx.signatures.length := by
  rw [slots_eq, message_attempts, slots_eq]

theorem isFirstSlot_attempts (tx : Transaction) (calls : List (Address × Signature))
    (key : Address) (i : Nat) : (tx.attempts calls).IsFirstSlot key i ↔ tx.IsFirstSlot key i := by
  rw [IsFirstSlot, IsFirstSlot, requiredSigners_attempts]

/-- What a slot holds after attempts: the last signature of its signer if it is the first slot of
that signer and there is one, and what it held otherwise. -/
theorem getElem?_attempts {tx : Transaction} {key : Address} {i : Nat}
    (hkey : tx.requiredSigners[i]? = some key) (calls : List (Address × Signature)) :
    (tx.attempts calls).signatures[i]? =
      if tx.IsFirstSlot key i then (calls.reverse.lookup key).or tx.signatures[i]?
      else tx.signatures[i]? := by
  -- The last attempt decides, or else those before it.
  induction calls using List.reverseRecOn with
  | nil =>
    rw [List.reverse_nil, List.lookup_nil, Option.none_or, ite_self, attempts, List.foldl_nil]
  | append_singleton calls call ih =>
    have hkey' : (tx.attempts calls).requiredSigners[i]? = some key := by
      rw [requiredSigners_attempts, hkey]
    have hfirst' := isFirstSlot_attempts tx calls key i
    rw [attempts_concat, getElem?_attempt hkey', ih, List.reverse_append, List.reverse_singleton,
      List.singleton_append, List.lookup_cons]
    by_cases hfirst : tx.IsFirstSlot key i
    · by_cases hsame : call.1 = key
      · simp only [hsame, hfirst, hfirst', and_self, ↓reduceIte, BEq.rfl, Option.some_or]
      · have hne : (key == call.1) = false := beq_eq_false_iff_ne.mpr (Ne.symm hsame)
        simp only [hsame, hfirst, hne, false_and, ↓reduceIte]
    · simp only [hfirst, hfirst', and_false, ↓reduceIte]

/-- Of the attempts of each signer only the last counts, and in which order the signers come does
not. -/
theorem attempts_congr (tx : Transaction) {calls calls' : List (Address × Signature)}
    (h : ∀ key, calls.reverse.lookup key = calls'.reverse.lookup key) :
    tx.attempts calls = tx.attempts calls' := by
  refine parts_injective ?_
  rw [parts, parts, message_attempts, message_attempts, Parts.mk.injEq]
  refine ⟨List.ext_getElem? fun i => ?_, rfl⟩
  cases hkey : tx.requiredSigners[i]? with
  | some key => rw [getElem?_attempts hkey, getElem?_attempts hkey, h key]
  | none =>
    -- There is no such slot.
    rw [List.getElem?_eq_none_iff, length_requiredSigners] at hkey
    rw [List.getElem?_eq_none, List.getElem?_eq_none]
    · rwa [length_signatures_attempts]
    · rwa [length_signatures_attempts]

/-- Attempts of different signers can be exchanged. -/
theorem attempt_comm (tx : Transaction) {a b : Address} (hne : a ≠ b) (s t : Signature) :
    (tx.attempt (a, s)).attempt (b, t) = (tx.attempt (b, t)).attempt (a, s) := by
  have hlast : ∀ key, [(a, s), (b, t)].reverse.lookup key = [(b, t), (a, s)].reverse.lookup key := by
    intro key
    simp only [List.reverse_cons, List.reverse_nil, List.nil_append, List.cons_append,
      List.lookup_cons, List.lookup_nil]
    by_cases ha : key = a
    · have hb : (key == b) = false := beq_eq_false_iff_ne.mpr (ha ▸ hne)
      simp only [hb]
    · have ha' : (key == a) = false := beq_eq_false_iff_ne.mpr ha
      simp only [ha']
  exact attempts_congr tx hlast

/-! ### What the slots tell -/

/-- The text of a transaction is the one of its first signature, which is there and not empty. -/
theorem id_eq_some_iff (tx : Transaction) (text : String) :
    tx.id = some text ↔ ∃ s, tx.signatures.head? = some s ∧ s ≠ .empty ∧ s.text = text := by
  unfold id
  cases tx.signatures with
  | nil => simp only [List.head?_nil, reduceCtorEq, false_and, exists_false]
  | cons s ss =>
    by_cases hs : s = .empty
    · simp only [hs, ↓reduceIte, List.head?_cons, reduceCtorEq, Option.some.injEq, false_iff]
      rintro ⟨u, rfl, hne, -⟩
      exact hne rfl
    · simp only [hs, ↓reduceIte, List.head?_cons, Option.some.injEq]
      constructor
      · intro htext
        exact ⟨s, rfl, hs, htext⟩
      · rintro ⟨u, rfl, -, htext⟩
        exact htext

/-- A transaction is read back from its bytes. -/
theorem ofBytes_toBytes (tx : Transaction) : ofBytes tx.toBytes = .ok tx := by
  have h := ofBytes_toBytes_append tx []
  rwa [List.append_nil] at h

/-- A transaction is read back from its text. -/
theorem ofBase64_toBase64 (tx : Transaction) : ofBase64 tx.toBase64 = .ok tx := by
  have hdecode := Base64.decode_bytes_encode tx.toBytes
  rw [Text.bytes] at hdecode
  rw [ofBase64, toBase64, Base64.trimmed_encode, hdecode]
  exact ofBytes_toBytes tx

/-- What attempts to put in signatures make of a transaction. -/
structure Attempted (tx : Transaction) (calls : List (Address × Signature)) (filled : Transaction) :
    Prop where
  /-- The message and the number of slots are those of before. -/
  message : filled.message = tx.message
  slotCount : filled.signatures.length = tx.signatures.length
  /-- Nothing was looked for where there is nothing, nor will it be in the next attempt. -/
  inRange : tx.parts.attempts? calls = some filled.parts
  nextInRange : filled.parts.requiredSigners? = some tx.requiredSigners ∧
    ∀ signer s, filled.parts.addSignature? signer s =
      some ((filled.addSignature signer s).map fun _ => (), (filled.attempt (signer, s)).parts)
  /-- Who has no slot is refused, and that changes nothing; who has one is not. -/
  refused : ∀ signer s, signer ∉ tx.requiredSigners →
    filled.addSignature signer s =
        .error (.invalidTransaction (signer.text ++ " is not a required signer")) ∧
      filled.attempt (signer, s) = filled
  accepted : ∀ signer s, signer ∈ tx.requiredSigners →
    ∃ signed, filled.addSignature signer s = .ok signed
  /-- What the slots hold. -/
  slot : ∀ i key, tx.requiredSigners[i]? = some key → filled.signatures[i]? =
    if tx.IsFirstSlot key i then (calls.reverse.lookup key).or tx.signatures[i]?
    else tx.signatures[i]?
  comm : ∀ a b s t, a ≠ b →
    (filled.attempt (a, s)).attempt (b, t) = (filled.attempt (b, t)).attempt (a, s)
  /-- What the slots tell. -/
  isFullySigned_iff : filled.isFullySigned = true ↔
    ∀ s ∈ filled.signatures, s.bytes.toList ≠ List.replicate 64 0
  id_iff : ∀ text, filled.id = some text ↔ ∃ s, filled.signatures.head? = some s ∧
    s.bytes.toList ≠ List.replicate 64 0 ∧ s.text = text
  /-- It is read back as it is. -/
  ofBytes : ofBytes filled.toBytes = .ok filled
  ofBase64 : ofBase64 filled.toBase64 = .ok filled

/-- Whatever was accepted, attempts make of it what they should. -/
theorem attempted (bs : List UInt8) (tx : Transaction) (h : ofBytes bs = .ok tx)
    (calls : List (Address × Signature)) :
    Parts.read? bs = some tx.parts ∧ Attempted tx calls (tx.attempts calls) := by
  refine ⟨(ofBytes_eq_ok_iff bs tx).mp h, ?_⟩
  -- Attempts leave the signers as they are, so each part may be said of those at the start.
  have hsigners := requiredSigners_attempts tx calls
  exact {
    message := message_attempts tx calls
    slotCount := length_signatures_attempts tx calls
    inRange := attempts?_parts tx calls
    nextInRange := by
      refine ⟨?_, addSignature?_parts _⟩
      rw [requiredSigners?_parts, hsigners]
    refused := by
      intro signer s hmem
      rw [← hsigners] at hmem
      exact ⟨addSignature_of_not_mem hmem s, attempt_of_not_mem hmem s⟩
    accepted := by
      intro signer s hmem
      rw [← hsigners] at hmem
      obtain ⟨i, hi⟩ := (mem_requiredSigners_iff _ signer).mp hmem
      exact ⟨_, (addSignature_eq_ok_iff _ _ signer s).mpr ⟨i, hi, rfl⟩⟩
    slot := fun i key hkey => getElem?_attempts hkey calls
    comm := fun a b s t hne => attempt_comm _ hne s t
    isFullySigned_iff := by
      rw [Transaction.isFullySigned_iff]
      simp only [ne_eq, Signature.eq_empty_iff]
    id_iff := by
      intro text
      rw [id_eq_some_iff]
      simp only [ne_eq, Signature.eq_empty_iff]
    ofBytes := ofBytes_toBytes _
    ofBase64 := ofBase64_toBase64 _ }

/-- A transaction in which the first of two signers has a second slot. -/
def repeatedSample : Transaction where
  signatures := [.empty, .empty, .empty]
  message := .plain 3 (by decide)
    { plainSample.message.body with
      keys := ⟨[⟨⟨List.replicate 32 11, rfl⟩⟩, ⟨⟨List.replicate 32 12, rfl⟩⟩,
        ⟨⟨List.replicate 32 11, rfl⟩⟩], by decide⟩ }
  slots_eq := rfl
  keys_le := by decide

/-- Four attempts, of which one fails and the last takes the place of the first. The second slot of
the first signer stays empty. -/
theorem attempted_sample :
    let key (n : UInt8) : Address := ⟨⟨List.replicate 32 n, List.length_replicate⟩⟩
    let signature (n : UInt8) : Signature := ⟨⟨List.replicate 64 n, List.length_replicate⟩⟩
    let calls := [(key 11, signature 4), (key 18, signature 5), (key 12, signature 6),
      (key 11, signature 7)]
    ofBytes repeatedSample.toBytes = .ok repeatedSample ∧
      (repeatedSample.attempts calls).signatures = [signature 7, signature 6, .empty] ∧
      Attempted repeatedSample calls (repeatedSample.attempts calls) := by
  intro key signature calls
  have hread := ofBytes_toBytes repeatedSample
  refine ⟨hread, ?_, (attempted repeatedSample.toBytes repeatedSample hread calls).2⟩
  decide +kernel

end Transaction

end Wager
