import Wager.Proofs.Session.Pairs

/-!
# A caller alone

What a caller gets that asks a session for access while nobody else does.

If no renewal is outstanding, what happens is decided by what is stored and has not expired: an
access credential is returned at once, else a refresh credential is spent on one renewal whose
outcome is returned, else there is nothing to return. `answer` carries out the renewal; it is asked
once at most. Up to that wait the caller has only read the store, and readers leave what lasts
(`Store.Pruned`).

## Main definitions

* `Store.Pruned`: What readers leave of a store.
* `Session.names`: The names of the credentials of a pair.

## Theorems

* `Store.Pruned.lasting?`: What lasts can be read as before.
* `Session.run_access_of_access`, `Session.run_access_of_refresh`, `Session.run_access_of_none`:
  What a caller gets.
* `Session.outstanding?_leave_self`: A caller that has waited leaves nothing outstanding.
-/

namespace Wager

/-! ### Readers -/

namespace Store

/-- A store and what readers of some names at some time leave of it: each entry is as it was, or it
is gone because it was read and had expired. -/
def Pruned (now : Timestamp) (names : List String) (s s' : Store) : Prop :=
  ∀ name, s'.stored? name = s.stored? name ∨
    name ∈ names ∧ s'.stored? name = none ∧ s.lasting? now name = none

namespace Pruned

variable {now : Timestamp} {names : List String} {s s' : Store}

theorem refl (now : Timestamp) (names : List String) (s : Store) : Pruned now names s s :=
  fun _ => Or.inl rfl

/-- What lasts now and later can be read as before. -/
theorem lasting? (h : Pruned now names s s') {time : Timestamp} (hle : now.le time = true)
    (name : String) : s'.lasting? time name = s.lasting? time name := by
  rcases h name with hsame | ⟨-, hgone, hexpired⟩
  · rw [Store.lasting?, hsame]
    rfl
  · rw [lasting?_of_none hgone]
    rw [Store.lasting?, Option.filter_eq_none_iff] at hexpired
    refine (Option.filter_eq_none_iff.mpr fun c hc => ?_).symm
    have hnow := hexpired c hc
    simp only [Bool.not_eq_true', Bool.not_eq_false] at hnow ⊢
    exact StoredCredential.isExpired_of_le hle hnow

theorem lasting?_self (h : Pruned now names s s') (name : String) :
    s'.lasting? now name = s.lasting? now name := by
  refine h.lasting? ?_ name
  simp only [Timestamp.le, beq_self_eq_true, Nat.le_refl, decide_true, Bool.and_true, Bool.or_true]

theorem get (h : Pruned now names s s') (hw : s'.IsWorking) {name : String} (hmem : name ∈ names) :
    Pruned now names s (s'.get now name).2 := by
  intro other
  by_cases hname : name = other
  · subst hname
    rw [stored?_get_self s' now name hw, h.lasting?_self name]
    cases hlasting : s.lasting? now name with
    | none => exact Or.inr ⟨hmem, rfl, rfl⟩
    | some c =>
      rw [Store.lasting?, Option.filter_eq_some_iff] at hlasting
      exact Or.inl hlasting.1.symm
  · rw [stored?_get_of_ne s' now hname]
    exact h other

end Pruned

/-- A reader of what lasts removes nothing. -/
theorem stored?_get_of_lasting {s : Store} (hw : s.IsWorking) {now : Timestamp} {name : String}
    {c : StoredCredential} (h : s.lasting? now name = some c) (other : String) :
    (s.get now name).2.stored? other = s.stored? other := by
  by_cases hname : name = other
  · subst hname
    rw [stored?_get_self s now name hw, h]
    rw [lasting?, Option.filter_eq_some_iff] at h
    exact h.1.symm
  · exact stored?_get_of_ne s now hname

theorem get_of_lasting {s : Store} (hw : s.IsWorking) {now : Timestamp} {name : String}
    {c : StoredCredential} (h : s.lasting? now name = some c) :
    (s.get now name).1 = some c.value := by
  rw [get_eq s now name hw, h, Option.map_some]

theorem get_of_not_lasting {s : Store} (hw : s.IsWorking) {now : Timestamp} {name : String}
    (h : s.lasting? now name = none) : (s.get now name).1 = none := by
  rw [get_eq s now name hw, h, Option.map_none]

end Store

namespace Session

/-! ### Access -/

/-- The names of the credentials of a pair. -/
def names : List String := [accessName, refreshName]

theorem accessName_mem : accessName ∈ names := by decide

theorem refreshName_mem : refreshName ∈ names := by decide

section

variable {τ : Type} (clock : τ → Timestamp)
  (answer : (id : Nat) → StateM (Session × τ) (Result String)) {s : Session} {t : τ}

/-- With an access credential that lasts nothing is waited for and nothing is removed. -/
theorem run_access_of_access (hw : s.store.IsWorking) {c : StoredCredential}
    (haccess : s.store.lasting? (clock t) accessName = some c) :
    ∃ store, store.IsWorking ∧ (∀ name, store.stored? name = s.store.stored? name) ∧
      access.run clock answer (s, t) = (.ok (some c.value), ({ s with store }, t)) := by
  refine ⟨(s.store.get (clock t) accessName).2, Store.isWorking_get s.store _ _ hw,
    Store.stored?_get_of_lasting hw haccess, ?_⟩
  rw [Routine.run_proceed,
    proceed_access_of_some (clock t) s c.value (Store.get_of_lasting hw haccess)]
  rfl

/-- Without credentials there is nothing to wait for. -/
theorem run_access_of_none (hw : s.store.IsWorking) (hout : s.outstanding? = none)
    (haccess : s.store.lasting? (clock t) accessName = none)
    (hrefresh : s.store.lasting? (clock t) refreshName = none) :
    ∃ store, store.IsWorking ∧ s.store.Pruned (clock t) names store ∧
      access.run clock answer (s, t) = (.ok none, ({ s with store }, t)) := by
  have hpruned := (Store.Pruned.refl (clock t) names s.store).get hw accessName_mem
  have hworking := Store.isWorking_get s.store (clock t) accessName hw
  have hnone := Store.get_of_not_lasting hworking
    ((hpruned.lasting?_self refreshName).trans hrefresh)
  refine ⟨_, Store.isWorking_get _ (clock t) refreshName hworking,
    hpruned.get hworking refreshName_mem, ?_⟩
  rw [Routine.run_proceed, proceed_access_of_none (clock t) s
    (Store.get_of_not_lasting hw haccess) hout hnone]
  rfl

/-- With a refresh credential alone there is one renewal to wait for, which spends it. -/
theorem run_access_of_refresh (hw : s.store.IsWorking) (hout : s.outstanding? = none)
    (haccess : s.store.lasting? (clock t) accessName = none) {c : StoredCredential}
    (hrefresh : s.store.lasting? (clock t) refreshName = some c) :
    ∃ store, store.IsWorking ∧ s.store.Pruned (clock t) names store ∧
      let started := (({ s with store } : Session).publish c.value s.epoch).2
      let (outcome, renewed) := answer s.renewals.length (started, t)
      access.run clock answer (s, t)
        = (outcome.map some, (renewed.1.leave s.renewals.length, renewed.2)) := by
  have hpruned := (Store.Pruned.refl (clock t) names s.store).get hw accessName_mem
  have hworking := Store.isWorking_get s.store (clock t) accessName hw
  have hfirst := (hpruned.lasting?_self refreshName).trans hrefresh
  have hpruned' := hpruned.get hworking refreshName_mem
  have hworking' := Store.isWorking_get _ (clock t) refreshName hworking
  have hsecond := (hpruned'.lasting?_self refreshName).trans hrefresh
  -- The refresh credential is looked for twice.
  refine ⟨_, Store.isWorking_get _ (clock t) refreshName hworking',
    hpruned'.get hworking' refreshName_mem, ?_⟩
  have hjoin := proceed_joinRenewal_of_refresh (clock t)
    ((s.read accessName (clock t)).2.read refreshName (clock t)).2 c.value hout
    (Store.get_of_lasting hworking' hsecond)
  rw [Routine.run_proceed, proceed_access_of_refresh (clock t) s c.value
    (Store.get_of_not_lasting hw haccess) hout (Store.get_of_lasting hworking hfirst)]
  rw [proceed_renew_of_ok _ (clock t) _ _ _ hjoin]
  simp only [Routine.run]
  rw [Routine.run_proceed, Routine.proceed_bind, proceed_afterwards]
  rfl

end

/-! ### Its renewal -/

section

variable (s : Session) (refresh : String)

theorem getElem?_publish : (s.publish refresh s.epoch).2.renewals[s.renewals.length]?
    = some { refresh, epoch := s.epoch } :=
  List.getElem?_concat_length

theorem unfinished?_publish : (s.publish refresh s.epoch).2.unfinished? s.renewals.length
    = some { refresh, epoch := s.epoch } :=
  (unfinished?_eq_some_iff _ _ _).mpr ⟨getElem?_publish s refresh, rfl⟩

theorem lt_length_publish : s.renewals.length < (s.publish refresh s.epoch).2.renewals.length :=
  (List.getElem?_eq_some_iff.mp (getElem?_publish s refresh)).1

end

/-- Whoever has waited for the renewal in the slot leaves the slot empty. -/
theorem outstanding?_leave_self {s : Session} {id : Nat} (h : s.slot = some id) :
    (s.leave id).outstanding? = none := by
  rw [leave, if_pos h]
  rfl

end Session

end Wager
