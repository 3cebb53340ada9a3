import Wager.Program.Command
import Wager.Proofs.Json.Records
import Wager.Proofs.Number.Whole
import Wager.Proofs.Profile.Written

/-!
# Opening a duel with a command

Which arguments open a duel, and what the server is sent for them.

Each argument is read by itself, and a duel is opened if all of them can be read. What the server is
sent is made of the parameters that were read, and they can be read back from it, with one
exception: a price is read as any double is, so it may be infinite or no number at all, by its name
or because its digits stand for more than there are doubles. Documents have no number for such a
price. It is sent as null, and no parameters can be read back then.

## Main definitions

* `Command.Describes`: What arguments say of a duel.

## Theorems

* `Command.opening_eq_ok_iff`: Arguments open the duel that they describe.
* `Duel.Opening.decoder_toTree`: Parameters with a finite price are read back.
* `Duel.Opening.decoder_toTree_eq_none`: Without one they are not.
* `Command.opening_sent`: What the server is sent for arguments.
* `Command.unnumbered_price`: A price that is accepted and is sent as null.
-/

namespace Wager

/-! ### Parameters in documents -/

theorem Json.Value.ofBinary64_of_finite {x : Binary64} (h : x.isFinite = true) :
    ofBinary64 x = .number (.real x) :=
  if_pos h

theorem Json.Value.ofBinary64_of_not_finite {x : Binary64} (h : x.isFinite = false) :
    ofBinary64 x = .null :=
  if_neg (Bool.eq_false_iff.mp h)

namespace Duel.Opening

/-- The members of the document. They are sorted by their names. -/
theorem toValue_eq (o : Opening) : o.toValue = .object [
    ("answer", byteValue o.answer), ("bg_url", .text o.backgroundUrl),
    ("commission", wordValue o.commission), ("duel_info", .object o.info),
    ("duel_price", .ofBinary64 o.price), ("event_date", o.eventDate.toValue),
    ("image_url", .text o.imageUrl), ("question", .text o.question)] :=
  rfl

section

variable {o : Opening}

/-- Parameters are read back if the price is finite and the free members are. -/
theorem decoder_toTree_of_info {budget : Nat}
    (hinfo : Json.Decoder.freeObject (budget + 1) (Json.Value.object o.info).toTree = some o.info)
    (hdate : o.eventDate.IsProper) (hprice : o.price.isFinite = true) :
    decoder (budget + 2) o.toValue.toTree = some o := by
  obtain ⟨imageUrl, backgroundUrl, question, price, commission, info, eventDate, answer⟩ := o
  have hnumber : Json.Value.ofBinary64 price = .number (.real price) :=
    Json.Value.ofBinary64_of_finite hprice
  have hdouble : Json.Decoder.double (budget + 1) (.number (some (.real price))) = some price := rfl
  have hcommission : Json.Decoder.word (budget + 1) (wordValue commission).toTree
      = some commission := Json.Decoder.word_eq_some_iff.mpr rfl
  have hanswer : Json.Decoder.byte (budget + 1) (byteValue answer).toTree = some answer :=
    Json.Decoder.byte_eq_some_iff.mpr rfl
  rw [Json.Value.toTree] at hinfo
  rw [toValue_eq]
  simp [decoder, Json.Value.toTree, Json.memberTrees, Json.Decoder.record,
    Json.slots?, Json.slotOf?, Json.Decoder.required, Json.Decoder.defaulted, Json.Decoder.text,
    hnumber, hdouble, hcommission, hinfo, Timestamp.decoder_toTree hdate, hanswer]

theorem decoder_toTree (hinfo : o.info = []) (hdate : o.eventDate.IsProper)
    (hprice : o.price.isFinite = true) (budget : Nat) :
    decoder (budget + 2) o.toValue.toTree = some o :=
  decoder_toTree_of_info (by rw [hinfo]; rfl) hdate hprice

/-- They are not if it is not. -/
theorem decoder_toTree_eq_none (hprice : o.price.isFinite = false) (budget : Nat) :
    decoder budget o.toValue.toTree = none := by
  have hnull := Json.Value.ofBinary64_of_not_finite hprice
  have hdouble : ∀ budget, Json.Decoder.double budget .null = none := fun _ => rfl
  rw [toValue_eq]
  cases budget with
  | zero => rfl
  | succ budget =>
    simp [decoder, Json.Value.toTree, Json.memberTrees, Json.Decoder.record, Json.slots?,
      Json.slotOf?, Json.Decoder.required, Json.Decoder.defaulted, Json.Decoder.text, hnull,
      hdouble]

end

end Duel.Opening

/-! ### Arguments -/

namespace Command

/-- Arguments describe a duel: the first four say what is asked, for which price, until when, and
what the answer is, and a fifth one, if there is one, says the commission. -/
inductive Describes : List String → Duel.Opening → Prop
  | mk {question amount day guess : String} {rest : List String} {price : Binary64}
      {eventDate : Timestamp} {answer : UInt8} {commission : UInt64}
      (hprice : Binary64.read amount = .ok price) (hdate : Timestamp.parse? day = some eventDate)
      (hanswer : Whole.Writes guess answer.toNat)
      (hdefault : rest = [] → commission = 3)
      (hcommission : ∀ arg ∈ rest.head?, Whole.Writes arg commission.toNat) :
      Describes (question :: amount :: day :: guess :: rest)
        { imageUrl := "", backgroundUrl := "", question, price, commission, info := [], eventDate,
          answer }

theorem price_eq_ok_iff {arg : String} {x : Binary64} :
    price arg = .ok x ↔ Binary64.read arg = .ok x := by
  rw [price]
  cases Binary64.read arg <;> simp [invalid]

theorem date_eq_ok_iff {arg : String} {t : Timestamp} :
    date arg = .ok t ↔ Timestamp.parse? arg = some t := by
  rw [date]
  cases Timestamp.parse? arg <;> simp [invalid]

theorem answer_eq_ok_iff {arg : String} {b : UInt8} :
    answer arg = .ok b ↔ Whole.Writes arg b.toNat := by
  rw [answer, ← Whole.isUnsigned_byte.exists_read_iff]
  cases Whole.read 255 arg <;> simp [invalid]

theorem commission_eq_ok_iff {rest : List String} {n : UInt64} :
    commission rest = .ok n ↔
      (rest = [] → n = 3) ∧ ∀ arg ∈ rest.head?, Whole.Writes arg n.toNat := by
  cases rest with
  | nil => simp [commission, defaultCommission, eq_comm]
  | cons arg rest =>
    have hwrites := Whole.isUnsigned_word.exists_read_iff (s := arg) (a := n)
    rw [commission]
    cases hread : Whole.read 0xFFFFFFFFFFFFFFFF arg <;> simp [invalid, ← hwrites, hread]

/-- What may fail gives a value if it succeeds and what comes after it does. -/
theorem bind_eq_ok_iff {ε α β : Type} {x : Except ε α} {f : α → Except ε β} {b : β} :
    x >>= f = .ok b ↔ ∃ a, x = .ok a ∧ f a = .ok b := by
  cases x <;> simp [Bind.bind, Except.bind]

/-- Arguments open the duel that they describe, and otherwise none. -/
theorem opening_eq_ok_iff (args : List String) (o : Duel.Opening) :
    opening args = .ok o ↔ Describes args o := by
  unfold opening
  split
  case h_1 question amount day guess rest =>
    simp only [bind_eq_ok_iff, date_eq_ok_iff, commission_eq_ok_iff, price_eq_ok_iff,
      answer_eq_ok_iff, Pure.pure, Except.pure, Except.ok.injEq]
    constructor
    · rintro ⟨eventDate, hdate, n, ⟨hdefault, hcommission⟩, x, hprice, b, hanswer, rfl⟩
      exact .mk hprice hdate hanswer hdefault hcommission
    · rintro ⟨hprice, hdate, hanswer, hdefault, hcommission⟩
      exact ⟨_, hdate, _, ⟨hdefault, hcommission⟩, _, hprice, _, hanswer, rfl⟩
  case h_2 hne =>
    refine ⟨nofun, ?_⟩
    rintro ⟨_, _, _, _, _⟩
    exact (hne _ _ _ _ _ rfl).elim

/-! ### What is sent -/

/-- The bodies that the server is sent for a duel, the second one with the hash of a transaction. -/
def bodies (o : Duel.Opening) (hash : String) : List Json.Value :=
  [(Duel.Action.create o).signBody, (Duel.Action.create o).finalizeBody hash]

/-- Both bodies have the price of the parameters. -/
theorem member?_bodies (o : Duel.Opening) (hash : String) :
    ∀ body ∈ bodies o hash, body.member? "duel_price" = some (.ofBinary64 o.price) := by
  simp only [bodies, List.forall_mem_cons, List.not_mem_nil, false_imp_iff, implies_true, and_true]
  exact ⟨rfl, rfl⟩

/-- What the server is sent for arguments that are accepted. They are those that describe a duel.
Both bodies have its price as a number, and its parameters are read back from the first one, exactly
if the price is finite; otherwise the price is null, and no parameters are read. -/
theorem opening_sent {args : List String} {o : Duel.Opening} (h : opening args = .ok o)
    (hash : String) :
    Describes args o ∧
      (o.price.isFinite = true →
        (∀ body ∈ bodies o hash, body.member? "duel_price" = some (.number (.real o.price))) ∧
          Json.Value.decode? Duel.Opening.decoder (Duel.Action.create o).signBody = some o) ∧
      (o.price.isFinite = false →
        (∀ body ∈ bodies o hash, body.member? "duel_price" = some .null) ∧
          Json.Value.decode? Duel.Opening.decoder (Duel.Action.create o).signBody = none) := by
  have hdescribes := (opening_eq_ok_iff args o).mp h
  have hmember := member?_bodies o hash
  refine ⟨hdescribes, fun hprice => ⟨?_, ?_⟩, fun hprice => ⟨?_, ?_⟩⟩
  · rwa [Json.Value.ofBinary64_of_finite hprice] at hmember
  · -- The date comes from a text, so it is named by one.
    cases hdescribes with
    | mk _ hdate =>
      have hproper := Timestamp.isProper_of_parse? hdate
      exact Duel.Opening.decoder_toTree rfl hproper hprice 125
  · rwa [Json.Value.ofBinary64_of_not_finite hprice] at hmember
  · exact Duel.Opening.decoder_toTree_eq_none hprice _

/-- A duel for two and a half, with a commission of seven. -/
theorem opening_sent_sample :
    let args := ["q", "2.5", "2026-11-01T00:00:00Z", "1", "7"]
    let o : Duel.Opening := {
      imageUrl := "", backgroundUrl := "", question := "q", price := ⟨0x4004000000000000⟩
      commission := 7, info := [], eventDate := ⟨1793491200, 0⟩, answer := 1 }
    opening args = .ok o ∧ o.price.isFinite = true ∧ Describes args o ∧
      (∀ body ∈ bodies o "hash", body.member? "duel_price" = some (.number (.real o.price))) ∧
        Json.Value.decode? Duel.Opening.decoder (Duel.Action.create o).signBody = some o := by
  intro args o
  have hopening : opening args = .ok o := rfl
  have hprice : o.price.isFinite = true := by decide +kernel
  obtain ⟨hdescribes, hfinite, -⟩ := opening_sent hopening "hash"
  exact ⟨hopening, hprice, hdescribes, hfinite hprice⟩

/-- An infinite price is accepted. It is sent as null in both bodies, and no parameters can be read
from the first one. -/
theorem unnumbered_price :
    let args := ["q", "inf", "2026-11-01T00:00:00Z", "1"]
    let o : Duel.Opening := {
      imageUrl := "", backgroundUrl := "", question := "q", price := ⟨0x7FF0000000000000⟩
      commission := 3, info := [], eventDate := ⟨1793491200, 0⟩, answer := 1 }
    opening args = .ok o ∧ (∀ body ∈ bodies o "hash", body.member? "duel_price" = some .null) ∧
      Json.Value.decode? Duel.Opening.decoder (Duel.Action.create o).signBody = none := by
  intro args o
  have hopening : opening args = .ok o := rfl
  have hprice : o.price.isFinite = false := by decide +kernel
  have hmember := member?_bodies o "hash"
  rw [Json.Value.ofBinary64_of_not_finite hprice] at hmember
  exact ⟨hopening, hmember, Duel.Opening.decoder_toTree_eq_none hprice _⟩

end Command

end Wager
