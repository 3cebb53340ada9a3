import Wager.Proofs.Encoding.Base64
import Wager.Proofs.Encoding.Codec
import Wager.Transaction.Basic

/-!
# The wire form of transactions

A transaction that was read is written as it was read.

The wallet signs what `messageBytes` gives, and the server checks the signature against what it
sent. That the two agree needs every part of a transaction to have a single wire form, compact
lengths of all sizes included, and this is what `Codec.IsLawful` says of each codec below. Reading
ignores what stands behind the transaction, so the bytes that come back are a prefix of the bytes
that came in.

The slot count of a transaction is bounded by the byte that holds the number of required signatures,
hence it always has a compact length; this is why writing cannot fail.

## Theorems

* `Transaction.isLawful_bodyCodec`, `Transaction.Message.isLawful_codec`: Messages have a lawful
  codec.
* `Transaction.slots_le`: There are few enough slots for a compact length.
* `Transaction.parts_of_ofBytes`: What an accepted byte string consists of.
* `Transaction.ofBytes_toBytes_append`: A transaction is read back, whatever follows it.
* `Transaction.wire_codec`: Reading and writing undo each other, for bytes and for texts.
-/

namespace Wager.Transaction

/-! ### Messages -/

theorem isLawful_addressCodec : addressCodec.IsLawful :=
  Codec.isLawful_equiv (Codec.isLawful_fixed 32) (fun _ => rfl) (fun _ => rfl)

theorem isLawful_bytesCodec : bytesCodec.IsLawful :=
  Codec.isLawful_compactList Codec.isLawful_byte

theorem isLawful_instructionCodec : instructionCodec.IsLawful :=
  Codec.isLawful_equiv
    (Codec.isLawful_pair Codec.isLawful_byte
      (Codec.isLawful_pair isLawful_bytesCodec isLawful_bytesCodec))
    (fun _ => rfl) (fun _ => rfl)

theorem isLawful_lookupCodec : lookupCodec.IsLawful :=
  Codec.isLawful_equiv
    (Codec.isLawful_pair isLawful_addressCodec
      (Codec.isLawful_pair isLawful_bytesCodec isLawful_bytesCodec))
    (fun _ => rfl) (fun _ => rfl)

theorem isLawful_bodyCodec : bodyCodec.IsLawful :=
  Codec.isLawful_equiv
    (Codec.isLawful_pair Codec.isLawful_byte (Codec.isLawful_pair Codec.isLawful_byte
      (Codec.isLawful_pair (Codec.isLawful_compactList isLawful_addressCodec)
        (Codec.isLawful_pair (Codec.isLawful_fixed 32)
          (Codec.isLawful_compactList isLawful_instructionCodec)))))
    (fun _ => rfl) (fun _ => rfl)

theorem isLawful_lookupsCodec : (Codec.compactList lookupCodec).IsLawful :=
  Codec.isLawful_compactList isLawful_lookupCodec

theorem isLawful_signatureCodec : signatureCodec.IsLawful :=
  Codec.isLawful_equiv (Codec.isLawful_fixed 64) (fun _ => rfl) (fun _ => rfl)

/-- The first byte tells the two kinds apart: it is below 128 in a plain message and the mark in a
versioned one. -/
theorem Message.isLawful_codec : Message.codec.IsLawful where
  read_write m rest := by
    cases m with
    | plain n small b =>
      -- The number of signers is below the mark, so it is taken for what it is.
      simp only [codec, write, List.cons_append, read, small, ↓reduceDIte,
        isLawful_bodyCodec.read_write, Option.bind_eq_bind, Option.bind_some, Option.pure_def]
    | versioned n b ls =>
      have hmark : ¬ versionMark < 128 := by decide
      have hbyte : ∀ bs, Codec.byte.read (n :: bs) = some (n, bs) := fun bs => rfl
      simp only [codec, write, List.cons_append, List.append_assoc, read, hmark, ↓reduceDIte,
        ↓reduceIte, hbyte, isLawful_bodyCodec.read_write, isLawful_lookupsCodec.read_write,
        Option.bind_eq_bind, Option.bind_some, Option.pure_def]
  eq_write bs m rest h := by
    rcases bs with _ | ⟨n, bs⟩
    · simp only [codec, read, reduceCtorEq] at h
    simp only [codec, read] at h
    by_cases small : n < 128
    · -- A plain message keeps its first byte.
      simp only [small, ↓reduceDIte, Option.bind_eq_bind, Option.pure_def,
        Option.bind_eq_some_iff] at h
      rcases h with ⟨⟨b, after⟩, hb, hm⟩
      simp only [Option.some.injEq, Prod.mk.injEq] at hm
      rcases hm with ⟨rfl, rfl⟩
      rw [isLawful_bodyCodec.eq_write bs b after hb]
      rfl
    · by_cases hmark : n = versionMark
      · subst hmark
        rw [dif_neg small, if_pos rfl] at h
        simp only [Option.bind_eq_bind, Option.pure_def, Option.bind_eq_some_iff] at h
        rcases h with ⟨⟨k, bs1⟩, hk, ⟨b, bs2⟩, hb, ⟨ls, bs3⟩, hls, hm⟩
        simp only [Option.some.injEq, Prod.mk.injEq] at hm
        rcases hm with ⟨rfl, rfl⟩
        rw [Codec.isLawful_byte.eq_write bs k bs1 hk, isLawful_bodyCodec.eq_write bs1 b bs2 hb,
          isLawful_lookupsCodec.eq_write bs2 ls bs3 hls]
        simp only [codec, write, Codec.byte, List.cons_append, List.nil_append, List.append_assoc]
      · simp only [small, hmark, ↓reduceDIte, ↓reduceIte, reduceCtorEq] at h

/-! ### Transactions -/

theorem Message.required_le (m : Message) : m.required ≤ 255 := by
  cases m with
  | plain n small b => exact Nat.le_of_lt_succ n.toNat_lt
  | versioned n b ls => exact Nat.le_of_lt_succ n.toNat_lt

/-- There are few enough slots for a compact length. -/
theorem slots_le (tx : Transaction) : tx.signatures.length ≤ 65535 := by
  have h := tx.message.required_le
  rw [tx.slots_eq]
  omega

/-- The slots of a transaction with their number. -/
def slots (tx : Transaction) : CompactList Signature := ⟨tx.signatures, tx.slots_le⟩

/-- The wire form of slots and message. -/
def partsCodec : Codec (CompactList Signature × Message) :=
  (Codec.compactList signatureCodec).pair Message.codec

theorem isLawful_partsCodec : partsCodec.IsLawful :=
  Codec.isLawful_pair (Codec.isLawful_compactList isLawful_signatureCodec) Message.isLawful_codec

theorem write_slots_message (tx : Transaction) :
    partsCodec.write (tx.slots, tx.message) = tx.toBytes :=
  rfl

/-- A transaction is read back, whatever follows it. -/
theorem ofBytes_toBytes_append (tx : Transaction) (rest : List UInt8) :
    ofBytes (tx.toBytes ++ rest) = .ok tx := by
  have hread : partsCodec.read (tx.toBytes ++ rest) = some ((tx.slots, tx.message), rest) := by
    rw [← write_slots_message]
    exact isLawful_partsCodec.read_write _ rest
  -- The checks that follow the reading are what makes it a transaction.
  have hslots : tx.slots.toList.length = tx.message.required := tx.slots_eq
  rw [partsCodec] at hread
  simp only [ofBytes, read, hread, hslots, tx.keys_le, ↓reduceDIte]
  rfl

/-- What is accepted was read. -/
theorem read_of_ofBytes {bs : List UInt8} {tx : Transaction} (h : ofBytes bs = .ok tx) :
    read bs = .ok tx := by
  cases hread : read bs with
  | error f =>
    have herror : ofBytes bs = .error (.invalidTransaction f.message) := by
      rw [ofBytes, hread]
      rfl
    rw [herror] at h
    simp only [reduceCtorEq] at h
  | ok tx' =>
    have hok : ofBytes bs = .ok tx' := by
      rw [ofBytes, hread]
      rfl
    rw [hok, Except.ok.injEq] at h
    rw [h]

/-- An accepted byte string is that of its transaction, and something that is ignored. -/
theorem eq_toBytes_of_ofBytes (bs : List UInt8) (tx : Transaction) (h : ofBytes bs = .ok tx) :
    ∃ ignored, bs = tx.toBytes ++ ignored := by
  replace h := read_of_ofBytes h
  unfold read at h
  cases hread : ((Codec.compactList signatureCodec).pair Message.codec).read bs with
  | none => simp only [hread, reduceCtorEq] at h
  | some r =>
    rcases r with ⟨⟨ss, m⟩, ignored⟩
    simp only [hread] at h
    by_cases hslots : ss.toList.length = m.required
    · by_cases hkeys : m.required ≤ m.keys.length
      · simp only [hslots, hkeys, ↓reduceDIte, Except.ok.injEq] at h
        subst h
        exact ⟨ignored, isLawful_partsCodec.eq_write bs (ss, m) ignored hread⟩
      · simp only [hslots, hkeys, ↓reduceDIte, reduceCtorEq] at h
    · simp only [hslots, ↓reduceDIte, reduceCtorEq] at h

theorem length_flatMap_signature (ss : List Signature) :
    (ss.flatMap signatureCodec.write).length = 64 * ss.length := by
  induction ss with
  | nil => rfl
  | cons s ss ih =>
    have hs : (signatureCodec.write s).length = 64 := s.bytes.length_eq
    rw [List.flatMap_cons, List.length_append, hs, ih, List.length_cons]
    omega

/-- What an accepted byte string consists of: the number of slots, the slots, the message, and
what is ignored. -/
theorem parts_of_ofBytes (bs : List UInt8) (tx : Transaction) (h : ofBytes bs = .ok tx) :
    ∃ after ignored, bs = tx.toBytes ++ ignored ∧
      Codec.readLength bs = some (tx.signatures.length, after) ∧
      after.take (64 * tx.signatures.length) = tx.signatures.flatMap (·.bytes.toList) ∧
      after.drop (64 * tx.signatures.length) = tx.messageBytes ++ ignored := by
  rcases eq_toBytes_of_ofBytes bs tx h with ⟨ignored, hbs⟩
  have hlen := length_flatMap_signature tx.signatures
  refine ⟨tx.signatures.flatMap signatureCodec.write ++ (tx.messageBytes ++ ignored), ignored, hbs,
    ?_, ?_, ?_⟩
  · rw [hbs, toBytes, List.append_assoc, List.append_assoc]
    exact Codec.readLength_writeLength _ tx.slots_le _
  · exact List.take_left' hlen
  · exact List.drop_left' hlen

/-- The text of the bytes that a payload stands for is the payload without the blanks around it. -/
theorem toBase64_of_ofBase64 (payload : String) (bs : List UInt8) (tx : Transaction)
    (hbs : Base64.decode (Text.bytes (Text.trimmed payload)) = .ok bs)
    (htx : ofBase64 payload = .ok tx) (hlen : bs.length = tx.toBytes.length) :
    tx.toBase64 = Text.trimmed payload := by
  have hread : ofBytes bs = .ok tx := by
    rw [← htx, ofBase64, show (Text.trimmed payload).toUTF8.data.toList
      = Text.bytes (Text.trimmed payload) from rfl, hbs]
  rcases eq_toBytes_of_ofBytes bs tx hread with ⟨ignored, hsplit⟩
  -- The lengths agree, so nothing is ignored.
  have hnone : ignored = [] := by
    rw [hsplit, List.length_append] at hlen
    exact List.eq_nil_of_length_eq_zero (by omega)
  rw [hnone, List.append_nil] at hsplit
  rw [toBase64, ← hsplit]
  exact Base64.encode_of_decode (Text.trimmed payload) bs hbs

/-- Reading and writing undo each other. An accepted byte string begins with the bytes of its
transaction, in which the message is all that stands between the last slot and what is ignored;
the bytes of a transaction are read back whatever follows them; and a payload in which nothing is
ignored is the text of its transaction. -/
theorem wire_codec :
    (∀ (bs : List UInt8) (tx : Transaction), ofBytes bs = .ok tx →
      ∃ after ignored, bs = tx.toBytes ++ ignored ∧
        Codec.readLength bs = some (tx.signatures.length, after) ∧
        after.take (64 * tx.signatures.length) = tx.signatures.flatMap (·.bytes.toList) ∧
        after.drop (64 * tx.signatures.length) = tx.messageBytes ++ ignored) ∧
    (∀ (tx : Transaction) (rest : List UInt8), ofBytes (tx.toBytes ++ rest) = .ok tx) ∧
    (∀ (payload : String) (bs : List UInt8) (tx : Transaction),
      Base64.decode (Text.bytes (Text.trimmed payload)) = .ok bs → ofBase64 payload = .ok tx →
      bs.length = tx.toBytes.length → tx.toBase64 = Text.trimmed payload) :=
  ⟨parts_of_ofBytes, ofBytes_toBytes_append, toBase64_of_ofBase64⟩

/-- A versioned transaction of one signer with a lookup and a call whose 130 bytes of data need a
length of two bytes. -/
def versionedSample : Transaction where
  signatures := [.empty]
  message := .versioned 1
    { readonlySigned := 0
      readonlyUnsigned := 1
      keys := ⟨[⟨⟨List.replicate 32 1, rfl⟩⟩, ⟨⟨List.replicate 32 9, rfl⟩⟩], by decide⟩
      blockhash := ⟨List.replicate 32 3, rfl⟩
      instructions := ⟨[⟨1, ⟨[0, 2], by decide⟩,
        ⟨List.replicate 130 7, by simp only [List.length_replicate, Nat.reduceLeDiff]⟩⟩],
      by decide⟩ }
    ⟨[⟨⟨⟨List.replicate 32 5, rfl⟩⟩, ⟨[4], by decide⟩, ⟨[], by decide⟩⟩], by decide⟩
  slots_eq := rfl
  keys_le := by decide

/-- A plain transaction that nobody signs and that calls nothing. -/
def plainSample : Transaction where
  signatures := []
  message := .plain 0 (by decide)
    { readonlySigned := 0
      readonlyUnsigned := 0
      keys := ⟨[], by decide⟩
      blockhash := ⟨List.replicate 32 3, rfl⟩
      instructions := ⟨[], by decide⟩ }
  slots_eq := rfl
  keys_le := by decide

set_option maxRecDepth 4096 in
/-- The versioned sample with two bytes behind it, and the plain one as a payload between blanks. -/
theorem wire_codec_samples :
    (∃ after ignored, versionedSample.toBytes ++ [1, 2] = versionedSample.toBytes ++ ignored ∧
      Codec.readLength (versionedSample.toBytes ++ [1, 2])
        = some (versionedSample.signatures.length, after) ∧
      after.take (64 * versionedSample.signatures.length)
        = versionedSample.signatures.flatMap (·.bytes.toList) ∧
      after.drop (64 * versionedSample.signatures.length)
        = versionedSample.messageBytes ++ ignored) ∧
    plainSample.toBase64
      = Text.trimmed " AAAAAAADAwMDAwMDAwMDAwMDAwMDAwMDAwMDAwMDAwMDAwMDAwA=\n" :=
  ⟨wire_codec.1 (versionedSample.toBytes ++ [1, 2]) versionedSample rfl,
    wire_codec.2.2 " AAAAAAADAwMDAwMDAwMDAwMDAwMDAwMDAwMDAwMDAwMDAwMDAwA=\n" plainSample.toBytes
      plainSample rfl rfl rfl⟩

end Wager.Transaction
