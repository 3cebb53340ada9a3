import Wager.Proofs.Json.Documents
import Wager.Proofs.Store.Working
import Wager.Proofs.Time.Rfc3339

/-!
# Entries of a store

What is kept under a name, and what reading, writing and removing make of it.

A store in memory keeps credentials as they are, a keychain keeps them as bytes of a document. Both
keep an entry under each name (`Store.stored?`), and on a store that works nothing more has to be known
of a store than its entries: what is read is the entry unless it has expired, and every operation
changes the entry of its own name only. In a keychain the entry that is written is the entry that is
found later because documents of credentials are read back, which they are if the time of expiry has
a text of its own. Of a keychain that may fail it is still true that other entries are left alone,
and that a write is either accepted or changes nothing.

## Main definitions

* `Keychain.Accepts`: The next write is accepted.
* `Keychain.AgreesBut`: Two keychains keep the same but for one entry.
* `Store.stored?`: What is kept under a name, expired or not.
* `Store.lasting?`: What is kept under a name and has not expired.
* `Store.Keeps`: A credential is kept, or readers have removed it.

## Theorems

* `StoredCredential.decode?_compact_eq`, `StoredCredential.decode?_compact`: A stored credential is read
  back from its document.
* `Store.agreesBut_getKeychain`, `Store.agreesBut_setKeychain`, `Store.agreesBut_removeKeychain`: Every
  operation leaves the other entries alone.
* `Store.secrets_setKeychain_of_accepts`, `Store.secrets_setKeychain_of_not_accepts`: What a write
  comes to.
* `Store.get_eq`: What is read.
* `Store.stored?_get_self`, `Store.stored?_set_self`, `Store.stored?_remove_self`: What is kept under the
  name of an operation.
* `Store.value_of_stored?_set`: What is found after writing.
* `Store.stored?_get_of_ne`, `Store.stored?_set_of_ne`, `Store.stored?_remove_of_ne`: What is kept under
  another name.
* `Store.Keeps.get`, `Store.Keeps.get_eq`: What readers leave, and what the next one gets.
-/

namespace Wager

namespace StoredCredential

/-- What is read from the document of a stored credential: its value, and a time if the time of
expiry has a text of its own. -/
theorem decode?_compact_eq (c : StoredCredential) : Json.decode? decoder c.toValue.compact
    = (Timestamp.parse? c.expiresAt.text).map fun expiresAt => ⟨c.value, expiresAt⟩ := by
  have hlegible : c.toValue.IsLegible := ⟨trivial, trivial, trivial⟩
  rw [Json.decode?, Json.parse?_compact _ hlegible, Option.bind_some]
  cases htime : Timestamp.parse? c.expiresAt.text <;>
  simp [toValue, Timestamp.toValue, Json.Value.toTree, Json.memberTrees, decoder,
    Json.Decoder.record, Json.maxDepth, Json.slots?, Json.slotOf?, Json.Decoder.required,
    Json.Decoder.text, Timestamp.decoder, htime]

/-- A stored credential is read back from its document. -/
theorem decode?_compact {c : StoredCredential} (h : c.expiresAt.IsProper) :
    Json.decode? decoder c.toValue.compact = some c := by
  rw [decode?_compact_eq, Timestamp.parse?_text h]
  rfl

end StoredCredential

/-! ### Keychains -/

namespace Keychain

/-- The next write is accepted: neither opening the entry fails nor writing it. -/
def Accepts (k : Keychain) : Prop :=
  k.faults k.steps .enter = none ∧ k.faults (k.steps + 1) .write = none

instance (k : Keychain) : Decidable k.Accepts := inferInstanceAs (Decidable (_ ∧ _))

/-- A keychain keeps what another one keeps, but for one entry. -/
def AgreesBut (e : Entry) (k k' : Keychain) : Prop :=
  ∀ e', e' ≠ e → k'.secrets.get? e' = k.secrets.get? e'

namespace AgreesBut

variable {e : Entry} {k k' k'' : Keychain}

theorem of_eq (h : k'.secrets = k.secrets) : AgreesBut e k k' := fun e' _ => by rw [h]

theorem trans (h : AgreesBut e k k') (h' : AgreesBut e k' k'') : AgreesBut e k k'' :=
  fun e' hne => (h' e' hne).trans (h e' hne)

theorem delete (h : AgreesBut e k k') : AgreesBut e k (k'.delete e).2 := by
  refine h.trans fun e' hne => ?_
  unfold Keychain.delete
  split
  · rfl
  · split
    · rfl
    · exact Table.get?_erase_of_ne k'.secrets hne.symm

theorem write (h : AgreesBut e k k') (s : String) : AgreesBut e k (k'.write e s).2 := by
  refine h.trans fun e' hne => ?_
  unfold Keychain.write
  split
  · rfl
  · exact Table.get?_set_of_ne k'.secrets _ hne.symm

end AgreesBut

end Keychain

/-! ### Stores -/

namespace Store

theorem qualified_ne {name other : String} (h : name ≠ other) : qualified name ≠ qualified other :=
  fun heq => h (String.append_right_inj "duels::" |>.mp heq)

theorem entryOf_ne {name other : String} (h : name ≠ other) : entryOf name ≠ entryOf other :=
  fun heq => qualified_ne h (congrArg Keychain.Entry.user heq)

/-- What is kept under a name, expired or not. -/
def stored? (name : String) : Store → Option StoredCredential
  | .memory entries => entries.get? (qualified name)
  | .keychain k => ((k.secrets.get? (entryOf name)).bind Text.ofBytes?).bind
      (Json.decode? StoredCredential.decoder)

/-- What is kept under a name and has not expired. -/
def lasting? (s : Store) (now : Timestamp) (name : String) : Option StoredCredential :=
  (s.stored? name).filter fun c => !c.isExpired now

section

variable {s : Store} {now : Timestamp} {name : String} {c : StoredCredential}

theorem lasting?_of_fresh (h : s.stored? name = some c) (hfresh : c.isExpired now = false) :
    s.lasting? now name = some c := by
  rw [lasting?, h, Option.filter_some, hfresh]
  rfl

theorem lasting?_of_expired (h : s.stored? name = some c) (hexpired : c.isExpired now = true) :
    s.lasting? now name = none := by
  rw [lasting?, h, Option.filter_some, hexpired]
  rfl

theorem lasting?_of_none (h : s.stored? name = none) : s.lasting? now name = none := by
  rw [lasting?, h, Option.filter_none]

end

theorem stored?_of_lacks {s : Store} {name : String} (h : s.Lacks name) : s.stored? name = none := by
  cases s with
  | memory entries => exact h
  | keychain k =>
    have hget : k.secrets.get? (entryOf name) = none := h
    simp only [stored?, hget, Option.bind_none]

/-- Of a keychain only the secrets count. -/
theorem stored?_congr {k k' : Keychain} (h : k'.secrets = k.secrets) (name : String) :
    (Store.keychain k').stored? name = (Store.keychain k).stored? name := by
  simp only [stored?, h]

/-! #### Keychains that fail -/

theorem agreesBut_getKeychain (k : Keychain) (now : Timestamp) (name : String) :
    Keychain.AgreesBut (entryOf name) k (getKeychain k now name).2 := by
  have henter : Keychain.AgreesBut (entryOf name) k k.enter.2 := .of_eq (Keychain.enter_secrets k)
  unfold getKeychain
  generalize k.enter = entered at henter ⊢
  rcases entered with ⟨_ | _, k'⟩
  · exact henter
  · have hread : Keychain.AgreesBut (entryOf name) k (k'.read (entryOf name)).2 :=
      Keychain.AgreesBut.trans henter (.of_eq (Keychain.read_secrets k' (entryOf name)))
    simp only
    generalize k'.read (entryOf name) = found at hread ⊢
    rcases found with ⟨_ | raw, k''⟩
    · exact hread
    · -- What is no credential is deleted, and so is what has expired.
      simp only
      split
      · exact hread.delete
      · split
        · exact hread.delete
        · exact hread

theorem agreesBut_setKeychain (k : Keychain) (name : String) (c : StoredCredential) :
    Keychain.AgreesBut (entryOf name) k (setKeychain k name c) := by
  have henter : Keychain.AgreesBut (entryOf name) k k.enter.2 := .of_eq (Keychain.enter_secrets k)
  unfold setKeychain
  generalize k.enter = entered at henter ⊢
  rcases entered with ⟨_ | _, k'⟩
  · exact henter
  · exact henter.write _

theorem agreesBut_removeKeychain (k : Keychain) (name : String) :
    Keychain.AgreesBut (entryOf name) k (removeKeychain k name) := by
  have henter : Keychain.AgreesBut (entryOf name) k k.enter.2 := .of_eq (Keychain.enter_secrets k)
  unfold removeKeychain
  generalize k.enter = entered at henter ⊢
  rcases entered with ⟨_ | _, k'⟩
  · exact henter
  · exact henter.delete

theorem secrets_setKeychain_of_accepts {k : Keychain} (name : String) (c : StoredCredential)
    (h : k.Accepts) : (setKeychain k name c).secrets
      = k.secrets.set (entryOf name) (Text.bytes c.toValue.compact) := by
  have hwrite : k.tick.faults k.tick.steps .write = none := h.2
  simp only [setKeychain, Keychain.enter, h.1, Keychain.write, hwrite]
  rfl

/-- A write that is not accepted changes nothing. -/
theorem secrets_setKeychain_of_not_accepts {k : Keychain} (name : String) (c : StoredCredential)
    (h : ¬ k.Accepts) : (setKeychain k name c).secrets = k.secrets := by
  unfold setKeychain Keychain.enter
  cases henter : k.faults k.steps .enter with
  | some fault => rfl
  | none =>
    cases hwrite : k.tick.faults k.tick.steps .write with
    | some fault =>
      simp only [Keychain.write, hwrite]
      rfl
    | none => exact absurd ⟨henter, hwrite⟩ h

/-- A write that is accepted is found again. -/
theorem stored?_setKeychain_self {k : Keychain} (name : String) {c : StoredCredential}
    (h : k.Accepts) (hc : c.expiresAt.IsProper) :
    (Store.keychain (setKeychain k name c)).stored? name = some c := by
  simp only [stored?, secrets_setKeychain_of_accepts name c h, Table.get?_set_self, Option.bind_some,
    Text.ofBytes?_bytes, StoredCredential.decode?_compact hc]

/-! #### Other names -/

theorem stored?_get_of_ne (s : Store) (now : Timestamp) {name other : String} (h : other ≠ name) :
    (s.get now other).2.stored? name = s.stored? name := by
  cases s with
  | memory entries =>
    simp only [get, getMemory]
    split
    · rfl
    · split
      · exact Table.get?_erase_of_ne entries (qualified_ne h)
      · rfl
  | keychain k =>
    have hsame := agreesBut_getKeychain k now other (entryOf name) (entryOf_ne h.symm)
    simp only [get, stored?, hsame]

theorem stored?_set_of_ne (s : Store) {name other : String} (value : String) (expiresAt : Timestamp)
    (h : other ≠ name) : (s.set other value expiresAt).stored? name = s.stored? name := by
  cases s with
  | memory entries => exact Table.get?_set_of_ne entries _ (qualified_ne h)
  | keychain k =>
    have hsame := agreesBut_setKeychain k other ⟨value, expiresAt⟩ (entryOf name) (entryOf_ne h.symm)
    simp only [set, stored?, hsame]

theorem stored?_remove_of_ne (s : Store) {name other : String} (h : other ≠ name) :
    (s.remove other).stored? name = s.stored? name := by
  cases s with
  | memory entries => exact Table.get?_erase_of_ne entries (qualified_ne h)
  | keychain k =>
    have hsame := agreesBut_removeKeychain k other (entryOf name) (entryOf_ne h.symm)
    simp only [remove, stored?, hsame]

/-! #### The name of the operation -/

/-- A credential that is looked up is read and left where it is, or it is absent afterwards. -/
theorem get_self (s : Store) (now : Timestamp) (name : String) (hw : s.IsWorking) :
    (s.get now name).1 = (s.lasting? now name).map StoredCredential.value ∧
      (s.get now name).2.stored? name = s.lasting? now name := by
  cases s with
  | memory entries =>
    simp only [get, getMemory, lasting?, stored?]
    cases hget : entries.get? (qualified name) with
    | none => exact ⟨rfl, hget⟩
    | some c =>
      cases hexpired : c.isExpired now with
      | true =>
        simp only [if_true, Table.get?_erase_self, Option.filter_some, hexpired, Bool.not_true,
          Bool.false_eq_true, if_false, Option.map_none, and_self]
      | false =>
        simp only [Bool.false_eq_true, if_false, hget, Option.filter_some, hexpired, Bool.not_false,
          if_true, Option.map_some, and_self]
  | keychain k =>
    have hk : ∀ step operation, k.faults step operation = none := hw
    have hticked : k.tick.secrets = k.secrets := rfl
    have hfaults : k.tick.tick.faults k.tick.tick.steps .delete = none := hk _ _
    have hdelete := Keychain.delete_get?_self k.tick.tick (entryOf name) hfaults
    have htick : ∀ step operation, k.tick.faults step operation = none := hk
    simp only [get, getKeychain, Keychain.enter, hk, lasting?, stored?, Keychain.read, htick, hticked]
    cases hget : k.secrets.get? (entryOf name) with
    | none =>
      simp only [Keychain.tick, hget, Option.bind_none, Option.filter_none, Option.map_none, and_self]
    | some secret =>
      cases htext : Text.ofBytes? secret with
      | none =>
        -- What is no text stays where it is, and is no entry.
        simp only [Option.bind_some, htext, Option.bind_none, Option.filter_none, Option.map_none,
          Keychain.tick, hget, and_self]
      | some raw =>
        cases hdecode : Json.decode? StoredCredential.decoder raw with
        | none =>
          simp only [Option.bind_some, htext, hdecode, hdelete, Option.bind_none,
            Option.filter_none, Option.map_none, and_self]
        | some c =>
          cases hexpired : c.isExpired now with
          | true =>
            simp only [Option.bind_some, htext, hdecode, hexpired, if_true, hdelete,
              Option.bind_none, Option.filter_some, Bool.not_true, Bool.false_eq_true, if_false,
              Option.map_none, and_self]
          | false =>
            simp only [Option.bind_some, htext, hdecode, hexpired, Bool.false_eq_true, if_false,
              Keychain.tick, hget, Option.filter_some, Bool.not_false, if_true, Option.map_some,
              and_self]

/-- What is read is what is kept and has not expired. -/
theorem get_eq (s : Store) (now : Timestamp) (name : String) (hw : s.IsWorking) :
    (s.get now name).1 = (s.lasting? now name).map StoredCredential.value :=
  (get_self s now name hw).1

/-- A reader removes what has expired. -/
theorem stored?_get_self (s : Store) (now : Timestamp) (name : String) (hw : s.IsWorking) :
    (s.get now name).2.stored? name = s.lasting? now name :=
  (get_self s now name hw).2

theorem stored?_set_self (s : Store) (name value : String) {expiresAt : Timestamp} (hw : s.IsWorking)
    (h : expiresAt.IsProper) :
    (s.set name value expiresAt).stored? name = some ⟨value, expiresAt⟩ := by
  cases s with
  | memory entries => exact Table.get?_set_self entries (qualified name) _
  | keychain k =>
    have haccepts : k.Accepts := ⟨hw k.steps .enter, hw (k.steps + 1) .write⟩
    exact stored?_setKeychain_self name haccepts h

/-- What is found after writing has the value that was written, even if the time cannot be written.
-/
theorem value_of_stored?_set {s : Store} {name value : String} {expiresAt : Timestamp}
    {c : StoredCredential} (hw : s.IsWorking)
    (h : (s.set name value expiresAt).stored? name = some c) : c.value = value := by
  cases s with
  | memory entries =>
    have hset : (Store.memory entries).set name value expiresAt
        = .memory (entries.set (qualified name) ⟨value, expiresAt⟩) := rfl
    rw [hset, stored?, Table.get?_set_self, Option.some.injEq] at h
    rw [← h]
  | keychain k =>
    have haccepts : k.Accepts := ⟨hw k.steps .enter, hw (k.steps + 1) .write⟩
    simp only [set, stored?, secrets_setKeychain_of_accepts name _ haccepts, Table.get?_set_self,
      Option.bind_some, Text.ofBytes?_bytes, StoredCredential.decode?_compact_eq,
      Option.map_eq_some_iff] at h
    rcases h with ⟨time, -, rfl⟩
    rfl

theorem stored?_remove_self (s : Store) (name : String) (hw : s.IsWorking) :
    (s.remove name).stored? name = none :=
  stored?_of_lacks (lacks_remove_self s name hw)

/-! #### Readers -/

/-- A credential is kept under a name; or nothing is kept there, because a reader has found it
expired. `readings` is what the clock has shown to readers. -/
def Keeps (s : Store) (name : String) (c : StoredCredential) (readings : List Timestamp) : Prop :=
  s.stored? name = some c ∨ s.stored? name = none ∧ ∃ reading ∈ readings, c.isExpired reading = true

namespace Keeps

variable {s : Store} {name : String} {c : StoredCredential} {readings : List Timestamp}

theorem mono (h : s.Keeps name c readings) {more : List Timestamp}
    (hmore : ∀ reading ∈ readings, reading ∈ more) : s.Keeps name c more := by
  rcases h with hsome | ⟨hnone, reading, hmem, hexpired⟩
  · exact Or.inl hsome
  · exact Or.inr ⟨hnone, reading, hmore reading hmem, hexpired⟩

/-- Where nobody has read yet, it is there. -/
theorem stored? (h : s.Keeps name c []) : s.stored? name = some c :=
  h.resolve_right fun ⟨_, _, hmem, _⟩ => List.not_mem_nil hmem

/-- A reader only removes what has expired. -/
theorem get (h : s.Keeps name c readings) (hw : s.IsWorking) {now : Timestamp}
    (hnow : now ∈ readings) (other : String) : (s.get now other).2.Keeps name c readings := by
  unfold Keeps
  by_cases hname : other = name
  · rw [hname, stored?_get_self s now name hw]
    rcases h with hsome | ⟨hnone, hexpired⟩
    · cases hexpired : c.isExpired now with
      | true => exact Or.inr ⟨lasting?_of_expired hsome hexpired, now, hnow, hexpired⟩
      | false => exact Or.inl (lasting?_of_fresh hsome hexpired)
    · exact Or.inr ⟨lasting?_of_none hnone, hexpired⟩
  · rw [stored?_get_of_ne s now hname]
    exact h

/-- The next reader gets the credential, or nothing if it has expired. -/
theorem get_eq (h : s.Keeps name c readings) (hw : s.IsWorking) (now : Timestamp) :
    (s.get now name).1 = some c.value ∨
      (s.get now name).1 = none ∧ ∃ reading ∈ now :: readings, c.isExpired reading = true := by
  rw [Store.get_eq s now name hw]
  rcases h with hsome | ⟨hnone, reading, hmem, hexpired⟩
  · cases hexpired : c.isExpired now with
    | true =>
      rw [lasting?_of_expired hsome hexpired]
      exact Or.inr ⟨rfl, now, List.mem_cons_self, hexpired⟩
    | false =>
      rw [lasting?_of_fresh hsome hexpired]
      exact Or.inl rfl
  · rw [lasting?_of_none hnone]
    exact Or.inr ⟨rfl, reading, List.mem_cons_of_mem now hmem, hexpired⟩

end Keeps

end Store

end Wager
