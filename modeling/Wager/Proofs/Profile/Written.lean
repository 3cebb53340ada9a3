import Wager.Proofs.Json.Documents
import Wager.ProfileCache

/-!
# Profiles that are read back

A profile is read back from the document it is written as, and so is a cached one.

Identifiers are written as texts, so one that looks like a number is not taken for one. What need not
be given is written as null. Points in time are the only parts that do not always have a text of
their own: a leap second that is not the last one of its minute is written as the second after it. No
clock shows such a point and no text names it, so all that is ever read is proper
(`Profile.isProper_of_decode?`), and exactly what is proper is read back
(`Profile.decode?_pretty_iff`).

## Main definitions

* `Profile.IsProper`, `CachedProfile.IsProper`: All points in time are proper.

## Theorems

* `Profile.decoder_toTree`, `CachedProfile.decoder_toTree`: The tree of a proper one is read as it.
* `Profile.isProper_of_decoder`, `CachedProfile.isProper_of_decoder`: What is read is proper.
* `Profile.decode?_pretty_iff`, `Profile.decode?_compact_iff`: Which profiles are read back.
* `CachedProfile.decode?_pretty`: A proper cached profile is read back.
-/

namespace Wager

/-! ### Points in time -/

namespace Timestamp

/-- The point in time, if there is one, is proper. -/
def AreProper (o : Option Timestamp) : Prop := ∀ t ∈ o, t.IsProper

theorem decoder_toTree {t : Timestamp} (h : t.IsProper) (budget : Nat) :
    decoder budget t.toValue.toTree = some t := by
  rw [decoder, toValue, Json.Value.toTree, Json.Decoder.text, Option.bind_some, parse?_text h]

theorem nullOr_decoder_toTree {o : Option Timestamp} (h : AreProper o) (budget : Nat) :
    Json.Decoder.nullOr decoder budget (Json.Value.ofOption toValue o).toTree = some o := by
  cases o with
  | none => rfl
  | some t =>
    have ht : Json.Decoder.nullOr decoder budget t.toValue.toTree =
        (decoder budget t.toValue.toTree).map some := rfl
    rw [Json.Value.ofOption, ht, decoder_toTree (h t rfl), Option.map_some]

theorem isProper_of_decoder {budget : Nat} {tree : Json.Tree} {t : Timestamp}
    (h : decoder budget tree = some t) : t.IsProper := by
  rw [decoder, Option.bind_eq_some_iff] at h
  obtain ⟨s, -, hs⟩ := h
  exact isProper_of_parse? hs

theorem areProper_of_optional {budget : Nat} {slot : Json.Slot} {o : Option Timestamp}
    (h : Json.Decoder.optional decoder budget slot = some o) : AreProper o := by
  unfold Json.Decoder.optional at h
  split at h
  · unfold Json.Decoder.nullOr at h
    split at h
    · rw [Option.some.injEq] at h
      subst h
      exact fun t ht => nomatch ht
    · rw [Option.map_eq_some_iff] at h
      obtain ⟨t, ht, rfl⟩ := h
      intro t' ht'
      rw [Option.mem_some] at ht'
      rw [← ht']
      exact isProper_of_decoder ht
  · rw [Option.some.injEq] at h
    subst h
    exact fun t ht => nomatch ht

end Timestamp

/-! ### Profiles -/

namespace Profile

/-- The points in time are proper. -/
structure IsProper (p : Profile) : Prop where
  createdAt : Timestamp.AreProper p.createdAt
  updatedAt : Timestamp.AreProper p.updatedAt

theorem nullOr_text_toTree (o : Option String) (budget : Nat) :
    Json.Decoder.nullOr .text budget (Json.Value.ofOption .text o).toTree = some o := by
  cases o <;> rfl

/-- The tree of a proper profile is read as it. -/
theorem decoder_toTree {p : Profile} (h : p.IsProper) (budget : Nat) :
    decoder (budget + 1) p.toValue.toTree = some p := by
  simp [decoder, toValue, Json.Value.toTree, Json.memberTrees, Json.Decoder.record, Json.slots?,
    Json.slotOf?, Json.Decoder.required, Json.Decoder.optional, idDecoder, Json.Decoder.text,
    nullOr_text_toTree, Timestamp.nullOr_decoder_toTree h.createdAt,
    Timestamp.nullOr_decoder_toTree h.updatedAt]

/-- What is read is proper. -/
theorem isProper_of_decoder {budget : Nat} {tree : Json.Tree} {p : Profile}
    (h : decoder budget tree = some p) : p.IsProper := by
  unfold decoder Json.Decoder.record at h
  split at h
  · rw [Option.bind_eq_some_iff] at h
    obtain ⟨slots, -, h⟩ := h
    simp only at h
    split at h
    · simp only [Option.bind_eq_bind, Option.pure_def, Option.bind_eq_some_iff] at h
      obtain ⟨_, _, _, _, _, _, _, _, createdAt, hcreated, updatedAt, hupdated, h⟩ := h
      rw [Option.some.injEq] at h
      subst h
      exact ⟨Timestamp.areProper_of_optional hcreated, Timestamp.areProper_of_optional hupdated⟩
    · exact nomatch h
  · exact nomatch h

theorem isLegible_toValue (p : Profile) : p.toValue.IsLegible := by
  have htext : ∀ o, (Json.Value.ofOption .text o).IsLegible :=
    Json.Value.isLegible_ofOption fun _ => trivial
  have htime : ∀ o, (Json.Value.ofOption Timestamp.toValue o).IsLegible :=
    Json.Value.isLegible_ofOption fun _ => trivial
  exact ⟨trivial, htext _, htext _, htext _, htime _, htime _, trivial⟩

theorem decoder_toTree_iff (p : Profile) (budget : Nat) :
    decoder (budget + 1) p.toValue.toTree = some p ↔ p.IsProper :=
  ⟨isProper_of_decoder, fun h => decoder_toTree h budget⟩

/-- A profile is read back from its document exactly if its points in time are proper. -/
theorem decode?_pretty_iff (p : Profile) :
    Json.decode? decoder p.toValue.pretty = some p ↔ p.IsProper := by
  rw [Json.decode?, Json.parse?_pretty _ p.isLegible_toValue, Option.bind_some, Json.maxDepth,
    decoder_toTree_iff p]

/-- So it is from its document on one line. -/
theorem decode?_compact_iff (p : Profile) :
    Json.decode? decoder p.toValue.compact = some p ↔ p.IsProper := by
  rw [Json.decode?, Json.parse?_compact _ p.isLegible_toValue, Option.bind_some, Json.maxDepth,
    decoder_toTree_iff p]

/-- Whatever document a profile is read from, its points in time are proper. -/
theorem isProper_of_decode? {s : String} {p : Profile} (h : Json.decode? decoder s = some p) :
    p.IsProper := by
  rw [Json.decode?, Option.bind_eq_some_iff] at h
  obtain ⟨tree, -, h⟩ := h
  exact isProper_of_decoder h

end Profile

namespace CachedProfile

/-- The points in time of the profile are proper, and so is the one since when it is cached. -/
structure IsProper (c : CachedProfile) : Prop where
  profile : c.profile.IsProper
  cachedAt : c.cachedAt.IsProper

/-- A proper cached profile is read back from its document. -/
theorem decode?_pretty {c : CachedProfile} (h : c.IsProper) :
    Json.decode? decoder c.toValue.pretty = some c := by
  have hlegible : c.toValue.IsLegible := ⟨c.profile.isLegible_toValue, trivial, trivial⟩
  have hprofile := Profile.decoder_toTree h.profile 125
  rw [Json.decode?, Json.parse?_pretty _ hlegible, Option.bind_some]
  simp [decoder, toValue, Json.Value.toTree, Json.memberTrees, Json.maxDepth, Json.Decoder.record,
    Json.slots?, Json.slotOf?, Json.Decoder.required, hprofile,
    Timestamp.decoder_toTree h.cachedAt]

end CachedProfile

end Wager
