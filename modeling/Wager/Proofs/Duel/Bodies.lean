import Wager.Proofs.Duel.Opening
import Wager.Proofs.Json.Values

/-!
# The two request bodies of an action

The transaction that a person pays for and the duel that is then reported as paid are one duel.

The bodies are made separately. For opening a duel they are made of the same document. For joining one
the first body has less: it leaves out who invited the player and from where, whether they are known or
not. Either way what is in the first body is in the second one too, and the second one is the document
of all parameters with one more member, the hash. No parameter goes by that name, and what is called so
inside a parameter stays there.

That the parameters are read back from their document says that nothing of them is lost on the way.
There is one exception. A point in time may have nanoseconds that its text adds to the seconds, and
then another point in time is read (`Timestamp.IsProper`); the text of any other names it.

## Main definitions

* `Duel.Action.options`: The parameters that may be absent, with the names of their members.
* `Duel.Action.IsWritable`: What is in the parameters can be in a document.
* `Duel.Action.HasProperDate`: The point in time in the parameters is the one that its text names.
* `Duel.Action.IsReadFrom`: The parameters are those read from a document.

## Theorems

* `Duel.Opening.decoder_toTree_iff`, `Duel.Entry.decoder_toTree`: Parameters are read back.
* `Duel.Action.without_finalizeBody`: Without the hash the second body has the parameters.
* `Duel.Action.bodies_agree`: What the two bodies have in common.
-/

namespace Wager.Duel

namespace Opening

/-- Whatever document parameters are read from, their point in time is proper. -/
theorem isProper_of_decoder {budget : Nat} {tree : Json.Tree} {o : Opening}
    (h : decoder budget tree = some o) : o.eventDate.IsProper := by
  unfold decoder Json.Decoder.record at h
  split at h
  · rw [Option.bind_eq_some_iff] at h
    obtain ⟨slots, -, h⟩ := h
    simp only at h
    split at h
    · simp only [Option.bind_eq_bind, Option.pure_def, Option.bind_eq_some_iff] at h
      obtain ⟨_, _, _, _, _, _, _, _, _, _, _, _, eventDate, hdate, _, _, h⟩ := h
      obtain ⟨t, -, ht⟩ := Json.Decoder.required_eq_some_iff.mp hdate
      rw [Option.some.injEq] at h
      subst h
      exact Timestamp.isProper_of_decoder ht
    · exact nomatch h
  · exact nomatch h

theorem decoder_toTree_iff {o : Opening} (hinfo : (Json.Value.object o.info).IsKeyed)
    (hprice : o.price.isFinite = true) {budget : Nat} (hbudget : o.toValue.depth ≤ budget) :
    decoder budget o.toValue.toTree = some o ↔ o.eventDate.IsProper := by
  refine ⟨isProper_of_decoder, fun hdate => ?_⟩
  -- The free members are the only ones that are nested.
  have hdepth : (Json.Value.object o.info).depth + 1 ≤ budget := by
    refine le_trans ?_ hbudget
    rw [toValue_eq]
    simp only [Json.Value.depth, Json.Value.membersDepth]
    omega
  have hpos : 1 ≤ (Json.Value.object o.info).depth := Nat.le_add_left 1 _
  obtain ⟨more, rfl⟩ : ∃ more, budget = more + 2 := ⟨budget - 2, by omega⟩
  exact decoder_toTree_of_info (Json.Decoder.freeObject_toTree hinfo (by omega)) hdate hprice

end Opening

namespace Entry

/-- The members of the document. They are sorted by their names. -/
theorem toValue_eq (e : Entry) : e.toValue = .object (
    [("answer", byteValue e.answer), ("duel_id", .text e.duelId)] ++
      optionalMember "external_source" e.externalSource ++ optionalMember "invited_by" e.invitedBy) := by
  obtain ⟨duelId, answer, _ | invitedBy, _ | externalSource⟩ := e <;> rfl

theorem decoder_toTree (e : Entry) (budget : Nat) :
    decoder (budget + 1) e.toValue.toTree = some e := by
  have hanswer : ∀ b : UInt8, Json.Decoder.byte budget (byteValue b).toTree = some b :=
    fun b => Json.Decoder.byte_eq_some_iff.mpr rfl
  rw [toValue_eq]
  obtain ⟨duelId, answer, _ | invitedBy, _ | externalSource⟩ := e <;>
    simp [decoder, optionalMember, Json.Value.toTree, Json.memberTrees, Json.Decoder.record,
      Json.slots?, Json.slotOf?, Json.Decoder.required, Json.Decoder.optional, Json.Decoder.nullOr,
      Json.Decoder.text, hanswer]

end Entry

namespace Action

/-- The parameters that may be absent, with the names of their members. -/
def options : Action → List (String × Option String)
  | .create _ => []
  | .join e => [("invited_by", e.invitedBy), ("external_source", e.externalSource)]

/-- What is in the parameters can be in a document: the price is a number, and no key is there twice in
an object among the free members. -/
def IsWritable : Action → Prop
  | .create o => o.price.isFinite = true ∧ (Json.Value.object o.info).IsKeyed
  | .join _ => True

/-- The point in time in the parameters, if there is one, is the one that its text names. -/
def HasProperDate : Action → Prop
  | .create o => o.eventDate.IsProper
  | .join _ => True

/-- The parameters are those read from a document by a reader that may open so many containers. -/
def IsReadFrom (budget : Nat) (v : Json.Value) : Action → Prop
  | .create o => Opening.decoder budget v.toTree = some o
  | .join e => Entry.decoder budget v.toTree = some e

variable (a : Action)

/-- No parameter is named like the hash. -/
theorem ne_of_mem_parameters : ∀ m ∈ a.parameters.members, m.1 ≠ "tx_hash" := by
  cases a with
  | create o =>
    rw [parameters, Opening.toValue_eq]
    simp [Json.Value.members]
  | join e =>
    rw [parameters, Entry.toValue_eq]
    obtain ⟨duelId, answer, _ | invitedBy, _ | externalSource⟩ := e <;>
      simp [Json.Value.members, Entry.optionalMember]

/-- The first body has some of the parameters, in their order. -/
theorem sublist_parameters : a.signBody.members.Sublist a.parameters.members := by
  cases a with
  | create o => exact List.Sublist.refl _
  | join e =>
    rw [parameters, Entry.toValue_eq]
    exact (List.sublist_append_left _ _).trans (List.sublist_append_left _ _)

/-- The parameters are sorted by their names. -/
theorem pairwise_parameters : a.parameters.members.Pairwise fun m m' => m.1 < m'.1 := by
  cases a with
  | create o =>
    rw [parameters, Opening.toValue_eq]
    simp [Json.Value.members, -String.lt_iff_ltb]
  | join e =>
    rw [parameters, Entry.toValue_eq]
    obtain ⟨duelId, answer, _ | invitedBy, _ | externalSource⟩ := e <;>
      simp [Json.Value.members, Entry.optionalMember, -String.lt_iff_ltb]

theorem object_parameters : .object a.parameters.members = a.parameters := by
  cases a with
  | create o => rw [parameters, Opening.toValue_eq, Json.Value.members]
  | join e => rw [parameters, Entry.toValue_eq, Json.Value.members]

theorem member?_parameters {key : String} {o : Option String} (h : (key, o) ∈ a.options) :
    a.parameters.member? key = o.map .text ∧ key ≠ "tx_hash" := by
  cases a with
  | create _ => exact absurd h List.not_mem_nil
  | join e =>
    rw [parameters, Entry.toValue_eq]
    obtain ⟨duelId, answer, _ | invitedBy, _ | externalSource⟩ := e <;>
      rcases List.mem_pair.mp h with h | h <;> obtain ⟨rfl, rfl⟩ := Prod.mk.inj h <;>
      simp [Json.Value.member?, Json.Value.members, Entry.optionalMember, List.lookup_cons]

/-- Without the hash the second body has the parameters. -/
theorem without_finalizeBody (hash : String) :
    (a.finalizeBody hash).without "tx_hash" = a.parameters := by
  rw [Json.Value.without, finalizeBody, Json.Value.members, Json.filter_put a.ne_of_mem_parameters,
    object_parameters]

theorem isReadFrom_parameters_iff (h : a.IsWritable) {budget : Nat}
    (hbudget : a.parameters.depth ≤ budget) : a.IsReadFrom budget a.parameters ↔ a.HasProperDate := by
  cases a with
  | create o => exact Opening.decoder_toTree_iff h.2 h.1 hbudget
  | join e =>
    obtain ⟨more, rfl⟩ : ∃ more, budget = more + 1 := by
      rw [← object_parameters, Json.Value.depth] at hbudget
      exact ⟨budget - 1, by omega⟩
    exact ⟨fun _ => trivial, fun _ => e.decoder_toTree more⟩

/-- The two bodies of an action are about one duel. Either has each of its members once. What is in the
first one is in the second one, which has the hash and an option if it is there; the first one has no
hash. Without the hash the parameters are read from the second one, if they can be in a document at all
and a point in time among them is named by its text. -/
theorem bodies_agree (a : Action) (hash : String) :
    (∀ body ∈ [a.signBody, a.finalizeBody hash],
      body.members.Pairwise fun m m' => m.1 < m'.1) ∧
    (∀ m ∈ a.signBody.members, m ∈ (a.finalizeBody hash).members) ∧
    (a.finalizeBody hash).member? "tx_hash" = some (.text hash) ∧
    a.signBody.member? "tx_hash" = none ∧
    (∀ option ∈ a.options, (a.finalizeBody hash).member? option.1 = option.2.map .text) ∧
    (a.IsWritable → ∀ budget, ((a.finalizeBody hash).without "tx_hash").depth ≤ budget →
      (a.IsReadFrom budget ((a.finalizeBody hash).without "tx_hash") ↔ a.HasProperDate)) := by
  have hsorted := a.pairwise_parameters
  refine ⟨?_, ?_, Json.lookup_put_self _ _ _, ?_, ?_, ?_⟩
  · refine List.forall_mem_cons.mpr ⟨?_, List.forall_mem_singleton.mpr (Json.pairwise_put hsorted)⟩
    exact hsorted.sublist a.sublist_parameters
  · exact fun m hm => Json.mem_put a.ne_of_mem_parameters (a.sublist_parameters.subset hm)
  · refine List.lookup_eq_none_iff.mpr fun m hm => ?_
    exact bne_iff_ne.mpr (Ne.symm (a.ne_of_mem_parameters m (a.sublist_parameters.subset hm)))
  · rintro ⟨key, o⟩ ho
    obtain ⟨hmember, hkey⟩ := a.member?_parameters ho
    exact (Json.lookup_put_of_ne hkey _).trans hmember
  · rw [without_finalizeBody]
    exact fun h budget hbudget => a.isReadFrom_parameters_iff h hbudget

/-- A duel with a member named like the hash among its free members. -/
theorem bodies_agree_sample :
    let o : Opening := {
      imageUrl := "", backgroundUrl := "", question := "q", price := ⟨0x4004000000000000⟩
      commission := 3, eventDate := ⟨1793491200, 0⟩, answer := 1
      info := [("coin", .object [("id", .ofNat 5426), ("tx_hash", .null)]),
        ("tx_hash", .array [.text "mine", .bool true])] }
    let a : Action := .create o
    a.IsWritable ∧ a.HasProperDate ∧
      (a.finalizeBody "5sig").member? "tx_hash" = some (.text "5sig") ∧
      a.IsReadFrom 127 ((a.finalizeBody "5sig").without "tx_hash") := by
  intro o a
  have hwritable : a.IsWritable := by
    refine ⟨by decide +kernel, ?_⟩
    simp [o, Json.Value.IsKeyed, Json.Value.itemsAreKeyed, Json.Value.membersAreKeyed,
      Json.Value.ofNat, -String.lt_iff_ltb]
  have hdate : a.HasProperDate := ⟨by decide +kernel, by decide⟩
  obtain ⟨-, -, hhash, -, -, hread⟩ := bodies_agree a "5sig"
  refine ⟨hwritable, hdate, hhash, (hread hwritable 127 ?_).mpr hdate⟩
  rw [without_finalizeBody]
  decide

/-- What is not so of every point in time. The event is in a leap second that is not the last of its
minute. The text of this is that of a point in the next second, so the parameters that are read from
the body are those of another duel. -/
theorem misread_date :
    let o : Opening := {
      imageUrl := "", backgroundUrl := "", question := "q", price := ⟨0x4004000000000000⟩
      commission := 3, eventDate := ⟨1793491200, 1500000000⟩, answer := 1, info := [] }
    let a : Action := .create o
    let other : Action := .create { o with eventDate := ⟨1793491201, 500000000⟩ }
    let body := (a.finalizeBody "5sig").without "tx_hash"
    a.IsWritable ∧ other.IsReadFrom 127 body ∧ ¬ a.IsReadFrom 127 body := by
  intro o a other body
  have hwritable : a.IsWritable := ⟨by decide +kernel, .nil, trivial⟩
  have hbody : body = a.parameters := a.without_finalizeBody "5sig"
  have htext : Timestamp.text ⟨1793491200, 1500000000⟩ = Timestamp.text ⟨1793491201, 500000000⟩ := by
    decide +kernel
  have hsame : a.parameters = other.parameters := by
    simp only [a, other, o, parameters, Opening.toValue, Timestamp.toValue, htext]
  have hdepth : a.parameters.depth ≤ 127 := by decide
  rw [hbody]
  refine ⟨hwritable, ?_, fun hread => ?_⟩
  · rw [hsame] at hdepth ⊢
    exact (other.isReadFrom_parameters_iff hwritable hdepth).mpr ⟨by decide +kernel, by decide⟩
  · have hdate := (a.isReadFrom_parameters_iff hwritable hdepth).mp hread
    exact absurd hdate.2 (by decide)

end Action

end Wager.Duel
