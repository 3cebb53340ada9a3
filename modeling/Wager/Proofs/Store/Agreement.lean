import Wager.Proofs.Store.Entries

/-!
# Stores that agree

A keychain that works and a store in memory cannot be told apart.

The two keep credentials in different forms, but each operation is determined by the entries that a
store keeps under its names (`Store.stored?`), and so is what it leaves. So it is enough that two
stores keep the same entries, whatever else is in them: `Store.Agrees` is preserved by every
operation, and stores that agree give the same answers for good.

A keychain has entries that are no credentials of ours: those of other services, those of other
users, and those of ours that cannot be read. `Store.mirror` takes from a keychain what is left, and
that is the store in memory that agrees with it. The entries that were left out are not forgotten by
the keychain: an operation touches no entry but the one of its own name, unreadable ones of that
name included.

## Main definitions

* `Store.Use`, `Store.apply`, `Store.run`, `Store.answers`: What is asked of a store, once and many
  times.
* `Store.Agrees`: Two stores keep the same credentials.
* `Store.credential?`, `Store.mirror`: The credentials in a keychain, and the table of them.
* `Store.secret?`: What a keychain keeps, as it is.

## Theorems

* `Store.Agrees.apply`, `Store.Agrees.run`: Stores that agree answer alike and agree afterwards.
* `Store.get?_mirror`: The mirror holds exactly the credentials.
* `Store.secret?_apply`: An operation touches the entry of its own name only.
* `Store.keychain_agrees_with_memory`: A working keychain answers as its mirror does.
-/

namespace Wager

/-- What is found in a table that was made from another one, entry by entry, if only the entry of
`k` can give anything under `key`. -/
theorem Table.find?_filterMap {κ κ' α β : Type} [DecidableEq κ] [DecidableEq κ']
    {f : κ → Option (κ' × α)} {k : κ} {key : κ'} {v : Option α}
    (hself : f k = v.map fun a => (key, a)) (hother : ∀ k', k' ≠ k → ∀ a, f k' ≠ some (key, a))
    (l : List (κ × β)) : find? key (l.filterMap fun entry => f entry.1)
      = if (find? k l).isSome then v else none := by
  induction l with
  | nil => rfl
  | cons entry l ih =>
    obtain ⟨k', b⟩ := entry
    by_cases hk : k' = k
    · subst hk
      cases v with
      | none => simp only [List.filterMap_cons, hself, Option.map_none, ih, ite_self]
      | some a =>
        simp only [List.filterMap_cons, hself, Option.map_some, find?, if_true, Option.isSome_some]
    · simp only [List.filterMap_cons, find?, hk, if_false]
      cases hf : f k' with
      | none => exact ih
      | some made =>
        obtain ⟨key', a⟩ := made
        have hkey : key' ≠ key := fun heq => hother k' hk a (heq ▸ hf)
        simp only [find?, hkey, if_false, ih]

namespace Store

/-! ### Uses of a store -/

/-- What is asked of a store. -/
inductive Use
  | get (name : String)
  | set (name value : String) (expiresAt : Timestamp)
  | remove (name : String)
  deriving DecidableEq

namespace Use

/-- The name of the credential that is asked for. -/
def name : Use → String
  | .get name => name
  | .set name .. => name
  | .remove name => name

/-- A time of expiry, if there is one, has a text that names it. -/
def IsProper : Use → Prop
  | .set _ _ expiresAt => expiresAt.IsProper
  | _ => True

end Use

/-- What a store answers at some time, which is something for readers only, and what it is
afterwards. -/
def apply (s : Store) : Timestamp × Use → Option String × Store
  | (now, .get name) => s.get now name
  | (_, .set name value expiresAt) => (none, s.set name value expiresAt)
  | (_, .remove name) => (none, s.remove name)

/-- The store after some uses. -/
def run (s : Store) (uses : List (Timestamp × Use)) : Store :=
  uses.foldl (fun s u => (s.apply u).2) s

/-- What a store answers to some uses, one after the other. -/
def answers (s : Store) : List (Timestamp × Use) → List (Option String)
  | [] => []
  | u :: uses => (s.apply u).1 :: (s.apply u).2.answers uses

theorem isWorking_apply {s : Store} (hw : s.IsWorking) (u : Timestamp × Use) :
    (s.apply u).2.IsWorking := by
  rcases u with ⟨now, name | ⟨name, value, expiresAt⟩ | name⟩
  · exact isWorking_get s now name hw
  · exact isWorking_set s name value expiresAt hw
  · exact isWorking_remove s name hw

theorem isWorking_run {s : Store} (hw : s.IsWorking) (uses : List (Timestamp × Use)) :
    (s.run uses).IsWorking := by
  induction uses generalizing s with
  | nil => exact hw
  | cons u uses ih => exact ih (isWorking_apply hw u)

/-- What is kept under the name of a use depends on what was kept there before and on nothing
else. -/
theorem stored?_apply_self {s t : Store} (hs : s.IsWorking) (ht : t.IsWorking)
    {u : Timestamp × Use} (hu : u.2.IsProper) (h : s.stored? u.2.name = t.stored? u.2.name) :
    (s.apply u).2.stored? u.2.name = (t.apply u).2.stored? u.2.name := by
  rcases u with ⟨now, name | ⟨name, value, expiresAt⟩ | name⟩
  · have hlasting : s.lasting? now name = t.lasting? now name := congrArg (Option.filter _) h
    exact (stored?_get_self s now name hs).trans
      (hlasting.trans (stored?_get_self t now name ht).symm)
  · exact (stored?_set_self s name value hs hu).trans (stored?_set_self t name value ht hu).symm
  · exact (stored?_remove_self s name hs).trans (stored?_remove_self t name ht).symm

/-- A use leaves alone what is kept under other names. -/
theorem stored?_apply_of_ne (s : Store) {u : Timestamp × Use} {name : String}
    (h : u.2.name ≠ name) : (s.apply u).2.stored? name = s.stored? name := by
  rcases u with ⟨now, other | ⟨other, value, expiresAt⟩ | other⟩
  · exact stored?_get_of_ne s now h
  · exact stored?_set_of_ne s value expiresAt h
  · exact stored?_remove_of_ne s h

/-! ### Agreement -/

/-- Two stores keep the same credentials, with the same times of expiry. -/
def Agrees (s t : Store) : Prop := ∀ name, s.stored? name = t.stored? name

namespace Agrees

variable {s t : Store}

/-- Stores that agree can be read alike. -/
theorem get_eq (h : s.Agrees t) (hs : s.IsWorking) (ht : t.IsWorking) (now : Timestamp)
    (name : String) : (s.get now name).1 = (t.get now name).1 := by
  rw [Store.get_eq s now name hs, Store.get_eq t now name ht, lasting?, lasting?, h name]

/-- Stores that agree answer alike, and agree afterwards. -/
theorem apply (h : s.Agrees t) (hs : s.IsWorking) (ht : t.IsWorking) {u : Timestamp × Use}
    (hu : u.2.IsProper) :
    (s.apply u).1 = (t.apply u).1 ∧ (s.apply u).2.Agrees (t.apply u).2 := by
  refine ⟨?_, fun name => ?_⟩
  · rcases u with ⟨now, name | ⟨name, value, expiresAt⟩ | name⟩
    · exact h.get_eq hs ht now name
    · rfl
    · rfl
  · by_cases hname : u.2.name = name
    · subst hname
      exact stored?_apply_self hs ht hu (h _)
    · rw [stored?_apply_of_ne s hname, stored?_apply_of_ne t hname, h name]

theorem run (h : s.Agrees t) (hs : s.IsWorking) (ht : t.IsWorking) {uses : List (Timestamp × Use)}
    (huses : ∀ u ∈ uses, u.2.IsProper) :
    s.answers uses = t.answers uses ∧ (s.run uses).Agrees (t.run uses) := by
  induction uses generalizing s t with
  | nil => exact ⟨rfl, h⟩
  | cons u uses ih =>
    rw [List.forall_mem_cons] at huses
    obtain ⟨hanswer, hagrees⟩ := h.apply hs ht huses.1
    obtain ⟨hanswers, hrun⟩ := ih hagrees (isWorking_apply hs u) (isWorking_apply ht u) huses.2
    exact ⟨congrArg₂ List.cons hanswer hanswers, hrun⟩

end Agrees

/-! ### The credentials in a keychain -/

/-- The credential in an entry of a keychain, if the entry is there and is the document of one. -/
def credential? (k : Keychain) (e : Keychain.Entry) : Option StoredCredential :=
  ((k.secrets.get? e).bind Text.ofBytes?).bind (Json.decode? StoredCredential.decoder)

/-- Whether a user of a keychain is the qualified name of a credential. -/
def isQualified (user : String) : Bool := "duels::".toList.isPrefixOf user.toList

theorem isQualified_qualified (name : String) : isQualified (qualified name) = true := by
  rw [isQualified, List.isPrefixOf_iff_prefix, qualified, String.toList_append]
  exact List.prefix_append _ _

/-- An entry of a keychain as a store in memory keeps it, if it is a credential of the service under
a qualified name. -/
def mirrored? (k : Keychain) (e : Keychain.Entry) : Option (String × StoredCredential) :=
  if e.service = service ∧ isQualified e.user = true then
    (credential? k e).map fun c => (e.user, c)
  else none

/-- The credentials in a keychain, as a store in memory keeps them. -/
def mirror (k : Keychain) : Table String StoredCredential :=
  ⟨k.secrets.entries.filterMap fun entry => mirrored? k entry.1⟩

/-- The mirror of a keychain holds exactly the credentials that the keychain holds for the service
under qualified names. -/
theorem get?_mirror (k : Keychain) (user : String) : (mirror k).get? user =
    if isQualified user = true then credential? k ⟨service, user⟩ else none := by
  have hself : mirrored? k ⟨service, user⟩ =
      (if isQualified user = true then credential? k ⟨service, user⟩ else none).map
        fun c => (user, c) := by
    by_cases huser : isQualified user = true
    · simp only [mirrored?, huser, and_self, if_true]
    · simp only [mirrored?, huser, Bool.false_eq_true, and_false, if_false, Option.map_none]
  have hother : ∀ e, e ≠ ⟨service, user⟩ → ∀ c, mirrored? k e ≠ some (user, c) := by
    rintro ⟨service', user'⟩ hne c hsome
    unfold mirrored? at hsome
    split at hsome
    · rename_i hours
      obtain ⟨c', -, heq⟩ := Option.map_eq_some_iff.mp hsome
      exact hne (by rw [← (Prod.mk.inj heq).1, ← hours.1])
    · exact nomatch hsome
  refine (Table.find?_filterMap hself hother k.secrets.entries).trans ?_
  cases hfound : Table.find? (⟨service, user⟩ : Keychain.Entry) k.secrets.entries with
  | some secret => rfl
  | none =>
    -- What is not there is no credential.
    have hget : k.secrets.get? ⟨service, user⟩ = none := hfound
    simp only [credential?, hget, Option.bind_none, ite_self, Option.isSome_none, Bool.false_eq_true]

theorem agrees_mirror (k : Keychain) : (Store.keychain k).Agrees (.memory (mirror k)) := by
  intro name
  refine ((get?_mirror k (qualified name)).trans ?_).symm
  rw [if_pos (isQualified_qualified name)]
  rfl

/-! ### Other entries of a keychain -/

/-- What a keychain keeps in an entry, as it is. -/
def secret? (e : Keychain.Entry) : Store → Option (List UInt8)
  | .memory _ => none
  | .keychain k => k.secrets.get? e

/-- A use touches the entry of its own name only. -/
theorem secret?_apply (s : Store) {u : Timestamp × Use} {e : Keychain.Entry}
    (h : e ≠ entryOf u.2.name) : (s.apply u).2.secret? e = s.secret? e := by
  cases s with
  | memory entries => rcases u with ⟨now, name | ⟨name, value, expiresAt⟩ | name⟩ <;> rfl
  | keychain k =>
    rcases u with ⟨now, name | ⟨name, value, expiresAt⟩ | name⟩
    · exact agreesBut_getKeychain k now name e h
    · exact agreesBut_setKeychain k name ⟨value, expiresAt⟩ e h
    · exact agreesBut_removeKeychain k name e h

/-- Entries that no use is about are as they were. -/
theorem secret?_run (s : Store) {uses : List (Timestamp × Use)} {e : Keychain.Entry}
    (h : ∀ u ∈ uses, e ≠ entryOf u.2.name) : (s.run uses).secret? e = s.secret? e := by
  induction uses generalizing s with
  | nil => rfl
  | cons u uses ih =>
    rw [List.forall_mem_cons] at h
    exact (ih (s.apply u).2 h.2).trans (secret?_apply s h.1)

/-! ### Keychain and memory -/

/-- A keychain that works cannot be told from a store in memory that holds exactly its credentials:
after any uses the answers were the same, the same credentials are kept under every name, and they
can be read alike at any time. The keychain's other entries are as they were, and each use touches
the entry of its own name only. -/
theorem keychain_agrees_with_memory (k : Keychain) (hk : (Store.keychain k).IsWorking)
    (uses : List (Timestamp × Use)) (huses : ∀ u ∈ uses, u.2.IsProper) :
    let kept := (Store.keychain k).run uses
    let mirrored := (Store.memory (mirror k)).run uses
    (∀ user, (mirror k).get? user =
        if isQualified user = true then credential? k ⟨service, user⟩ else none) ∧
      (Store.keychain k).answers uses = (Store.memory (mirror k)).answers uses ∧
      (∀ name, kept.stored? name = mirrored.stored? name) ∧
      (∀ now name, (kept.get now name).1 = (mirrored.get now name).1) ∧
      (∀ e, (∀ u ∈ uses, e ≠ entryOf u.2.name) → kept.secret? e = k.secrets.get? e) ∧
      ∀ u e, e ≠ entryOf u.2.name → (kept.apply u).2.secret? e = kept.secret? e := by
  intro kept mirrored
  have hmirror : (Store.memory (mirror k)).IsWorking := trivial
  obtain ⟨hanswers, hagrees⟩ := (agrees_mirror k).run hk hmirror huses
  refine ⟨get?_mirror k, hanswers, hagrees, ?_, fun e he => secret?_run (.keychain k) he, ?_⟩
  · exact hagrees.get_eq (isWorking_run hk uses) (isWorking_run hmirror uses)
  · exact fun u e he => secret?_apply kept he

/-- A keychain with a credential that is written as an array, one that has expired, one that cannot
be read, and entries of another user and of another service. A credential is kept in it that needs
escapes and expires in a leap second of a year before the first. -/
theorem keychain_agrees_with_memory_sample :
    let k : Keychain := {
      secrets := ⟨[(⟨"duels", "duels::array"⟩, Text.bytes "[\"a\",\"2999-01-01T00:00:00Z\"]"),
        (⟨"duels", "duels::old"⟩,
          Text.bytes "\x7b\"value\":\"b\",\"expires_at\":\"1999-01-01T00:00:00Z\"\x7d"),
        (⟨"duels", "duels::odd"⟩, Text.bytes "c"), (⟨"duels", "array"⟩, Text.bytes "d"),
        (⟨"mail", "duels::array"⟩, Text.bytes "e")]⟩ }
    let now : Timestamp := { seconds := 1700000000, nanos := 0 }
    let early : Timestamp := { seconds := -62167219201, nanos := 1500000000 }
    let uses : List (Timestamp × Use) := [(now, .get "array"), (now, .get "old"), (now, .get "odd"),
      (now, .set "old" "\"\n" early), (early.addSeconds (-1), .get "old"), (early, .get "old"),
      (now, .remove "array"), (now, .get "array")]
    let kept := (Store.keychain k).run uses
    ((Store.keychain k).answers uses = (Store.memory (mirror k)).answers uses ∧
        kept.stored? "old" = ((Store.memory (mirror k)).run uses).stored? "old" ∧
        kept.secret? ⟨"mail", "duels::array"⟩ = some (Text.bytes "e") ∧
        kept.secret? ⟨"duels", "array"⟩ = some (Text.bytes "d")) ∧
      (Store.keychain k).answers uses
        = [some "a", none, none, none, some "\"\n", none, none, none] := by
  intro k now early uses kept
  have hearly : early.IsProper := ⟨by decide +kernel, Or.inr ⟨by decide, by decide⟩⟩
  have huses : ∀ u ∈ uses, u.2.IsProper := by
    simp only [uses, List.forall_mem_cons]
    exact ⟨trivial, trivial, trivial, hearly, trivial, trivial, trivial, trivial,
      fun _ h => absurd h List.not_mem_nil⟩
  obtain ⟨-, hanswers, hstored, -, hothers, -⟩ :=
    keychain_agrees_with_memory k (fun _ _ => rfl) uses huses
  refine ⟨⟨hanswers, hstored "old", ?_, ?_⟩, by decide +kernel⟩
  · exact hothers ⟨"mail", "duels::array"⟩ (by decide +kernel)
  · exact hothers ⟨"duels", "array"⟩ (by decide +kernel)

/-- What is not so of every expiry. A credential expires halfway through a leap second that is not the
last of its minute. The text of this in the keychain is that of a point in the next second, so for a
while the credential can be read there and no longer in memory. -/
theorem misread_expiry :
    let expiry : Timestamp := { seconds := 1700000030, nanos := 1500000000 }
    let uses : List (Timestamp × Use) := [(⟨1700000000, 0⟩, .set "access_token" "a" expiry),
      (⟨1700000031, 200000000⟩, .get "access_token")]
    (Store.keychain {}).IsWorking ∧ (Store.keychain {}).answers uses = [none, some "a"] ∧
      (Store.memory (mirror {})).answers uses = [none, none] :=
  ⟨fun _ _ => rfl, by decide +kernel, by decide +kernel⟩

end Store

end Wager
