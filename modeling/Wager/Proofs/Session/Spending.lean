import Wager.Proofs.Session.SigningOut
import Wager.Proofs.Session.SingleFlight
import Wager.Proofs.Store.Entries

/-!
# Spent credentials

Which refresh credentials are sent to the server, and that none is sent again once it is spent.

The server takes each refresh credential once. It is spent when the server has answered a renewal
with a new pair, whether or not the session keeps that pair, and when the session is ended while the
credential is stored. A renewal that fails spends nothing, so its credential may be sent again.

A renewal spends what is stored when it is started. So it is enough to know that what was spent is
not stored, and does not come to be stored later. The second half is where the credentials have to
be new: what an event brings is none of those that were seen before (`Session.Known`). The first
half has two cases. A renewal of the present epoch that succeeds puts its new pair in the place of
the credential. A renewal of an earlier epoch does not touch the store, but its credential went when
the session was ended. This is the third part of the invariant, and it survives all that happens
later because no renewal becomes older in any other way.

## Main definitions

* `Session.calls`: The calls that renewals have made, with the refresh credential of each.
* `Session.spendable?`: The refresh credential that the next renewal would spend.
* `Session.Known`: All refresh credentials in a session are known ones.
* `Event.brings?`: The refresh credential that an event brings.
* `Traffic.Spends`: An event after which a refresh credential is spent.

## Theorems

* `Traffic.Steps.spendable?`: Where the credential comes from that is stored after an event.
* `Traffic.Steps.calls`: An event makes one call at most, with what was stored before it.
* `Traffic.Sound.known`, `Traffic.known_run`: All refresh credentials have come from somewhere.
* `Traffic.Sound.spends`: What is spent is not stored.
* `Traffic.spent_not_sent`: What is spent is never sent again.
-/

namespace Wager.Session

/-- The calls that renewals have made, in the order in which they were started: the refresh
credential that each has sent and the epoch in which it did. -/
def calls (s : Session) : List (String × Nat) := s.renewals.map fun r => (r.refresh, r.epoch)

/-- The refresh credential that the next renewal would spend, unless it has expired. -/
def spendable? (s : Session) : Option String :=
  (s.store.stored? refreshName).map StoredCredential.value

/-! ### Calls -/

theorem calls_record (s : Session) (id : Nat) (outcome : Result String) :
    (s.record id outcome).calls = s.calls := by
  refine List.ext_getElem? fun i => ?_
  simp only [calls, List.getElem?_map, renewals_record, Option.map_map]
  congr 1
  funext r
  simp only [Function.comp_apply]
  split <;> rfl

theorem calls_publish (s : Session) (refresh : String) (epoch : Nat) :
    (s.publish refresh epoch).2.calls = s.calls ++ [(refresh, epoch)] := by
  simp only [calls, publish, List.map_append, List.map_cons, List.map_nil]

theorem calls_leave (s : Session) (id : Nat) : (s.leave id).calls = s.calls := by
  rw [calls, renewals_leave]
  rfl

/-- No answer makes a call. -/
theorem calls_finishes {s s' : Session} {id : Nat} {answer : Result Credentials} {now : Timestamp}
    (hf : s.Finishes id answer now s') : s'.calls = s.calls := by
  cases hf with
  | ignored hid => rfl
  | failed r e hid hanswer => exact calls_record s id _
  | kept r pair hid hanswer hepoch => exact calls_record (s.kept pair now) id _
  | dropped r pair hid hanswer hepoch => exact calls_record s id _

theorem mem_calls_of_unfinished {s : Session} {id : Nat} {r : Renewal}
    (h : s.unfinished? id = some r) : (r.refresh, r.epoch) ∈ s.calls :=
  List.mem_map_of_mem (List.mem_of_getElem? ((unfinished?_eq_some_iff s id r).mp h).1)

/-! ### The stored credential -/

/-- What readers leave was there before. -/
theorem stored?_of_readTo {s t : Store} (h : s.ReadTo t) (hw : s.IsWorking) {name : String}
    {c : StoredCredential} (hc : t.stored? name = some c) : s.stored? name = some c := by
  induction h with
  | refl => exact hc
  | get t now other hread ih =>
    by_cases hname : other = name
    · rw [hname, Store.stored?_get_self t now name (hread.isWorking hw), Store.lasting?,
        Option.filter_eq_some_iff] at hc
      exact ih hc.1
    · rw [Store.stored?_get_of_ne t now hname] at hc
      exact ih hc

/-- What is read is stored. -/
theorem stored?_of_get {s : Store} (hw : s.IsWorking) {now : Timestamp} {name value : String}
    (h : (s.get now name).1 = some value) :
    (s.stored? name).map StoredCredential.value = some value := by
  rw [Store.get_eq s now name hw, Option.map_eq_some_iff] at h
  rcases h with ⟨c, hc, hvalue⟩
  rw [Store.lasting?, Option.filter_eq_some_iff] at hc
  rw [hc.1, Option.map_some, hvalue]

theorem spendable?_of_readTo {s : Session} {store : Store} (h : s.store.ReadTo store)
    (hw : s.store.IsWorking) {value : String}
    (hvalue : ({ s with store } : Session).spendable? = some value) : s.spendable? = some value := by
  rw [spendable?, Option.map_eq_some_iff] at hvalue ⊢
  rcases hvalue with ⟨c, hc, hvalue⟩
  exact ⟨c, stored?_of_readTo h hw hc, hvalue⟩

/-- A pair that is kept puts its refresh credential in the place of the one that was stored. -/
theorem spendable?_kept (s : Session) (pair : Credentials) (now : Timestamp)
    (hw : s.store.IsWorking) {value : String} (h : (s.kept pair now).spendable? = some value) :
    value = pair.refresh := by
  rw [spendable?, Option.map_eq_some_iff] at h
  rcases h with ⟨c, hc, hvalue⟩
  rw [← hvalue]
  exact Store.value_of_stored?_set (Store.isWorking_set s.store accessName _ _ hw) hc

/-- Once the session is ended there is none. -/
theorem spendable?_cleared (s : Session) (hw : s.store.IsWorking) : s.cleared.spendable? = none := by
  have hnone := Store.stored?_remove_self _ refreshName
    (Store.isWorking_remove s.store accessName hw)
  simp only [spendable?, Session.cleared, hnone, Option.map_none]

/-! ### Known credentials -/

/-- The refresh credential that an event brings, whether or not the session keeps it. -/
def Event.brings? : Event → Option String
  | .call (.establish pair) => some pair.refresh
  | .answer _ (.ok pair) => some pair.refresh
  | _ => none

/-- All refresh credentials in a session are known ones; and the one that is stored is none of those
that were sent in an earlier epoch. -/
structure Known (seen : List String) (s : Session) : Prop where
  stored : ∀ value, s.spendable? = some value → value ∈ seen
  sent : ∀ call ∈ s.calls, call.1 ∈ seen
  older : ∀ call ∈ s.calls, call.2 < s.epoch → s.spendable? ≠ some call.1

namespace Traffic

/-- The refresh credentials that some events bring, in this order. -/
def brought (events : List (Timestamp × Event)) : List String :=
  events.flatMap fun e => e.2.brings?.toList

/-- The refresh credentials that there are to begin with and those that some events bring. -/
def credentials (store : Store) (events : List (Timestamp × Event)) : List String :=
  (start store).state.spendable?.toList ++ brought events

/-- A refresh credential is spent: a call that was made with it has succeeded, or the session was
ended while it was stored. -/
inductive Spends (t : Traffic) : Timestamp × Event → String → Prop
  | succeeded (now : Timestamp) (id : Nat) (pair : Credentials) (r : Renewal)
    (hid : t.state.unfinished? id = some r) : Spends t (now, .answer id (.ok pair)) r.refresh
  | ended (now : Timestamp) (refresh : String) (hstored : t.state.spendable? = some refresh) :
    Spends t (now, .call .clear) refresh

section

variable {t t' : Traffic} {e : Timestamp × Event} {seen : List String}

/-- What is stored after an event was stored before, or the event has brought it. -/
theorem Steps.spendable? (hsteps : t.Steps e t') (hw : t.state.store.IsWorking) {value : String}
    (h : t'.state.spendable? = some value) :
    t.state.spendable? = some value ∨ e.2.brings? = some value := by
  cases hsteps with
  | called now q rest session hbegins =>
    cases hbegins with
    | returned reply store hread => exact Or.inl (spendable?_of_readTo hread hw h)
    | joined id store hread hout => exact Or.inl (spendable?_of_readTo hread hw h)
    | started refresh store hread hout hrefresh =>
      exact Or.inl (spendable?_of_readTo (.get store now refreshName hread) hw h)
    | established pair hq =>
      -- The pair that is kept was brought by this event.
      rw [hq, spendable?_kept t.state pair now hw h]
      exact Or.inr rfl
    | cleared hq =>
      rw [spendable?_cleared t.state hw] at h
      exact nomatch h
  | answered now id reply session hfinishes =>
    cases hfinishes with
    | ignored hid => exact Or.inl h
    | failed r e hid hanswer => exact Or.inl h
    | kept r pair hid hanswer hepoch =>
      rw [hanswer, spendable?_kept t.state pair now hw h]
      exact Or.inr rfl
    | dropped r pair hid hanswer hepoch => exact Or.inl h
  | resumed now n q id outcome hcaller hout =>
    rw [Session.spendable?, store_leave] at h
    exact Or.inl h
  | idle now n => exact Or.inl h

/-- An event makes no call, or one with the refresh credential that was stored before it. -/
theorem Steps.calls (hsteps : t.Steps e t') (hw : t.state.store.IsWorking) :
    t'.state.calls = t.state.calls ∨
      ∃ refresh, t.state.spendable? = some refresh ∧
        t'.state.calls = t.state.calls ++ [(refresh, t'.state.epoch)] := by
  cases hsteps with
  | called now q rest session hbegins =>
    cases hbegins with
    | returned reply store hread => exact Or.inl rfl
    | joined id store hread hout => exact Or.inl rfl
    | started refresh store hread hout hrefresh =>
      have hstored := stored?_of_get (hread.isWorking hw) hrefresh
      refine Or.inr ⟨refresh, spendable?_of_readTo hread hw hstored, ?_⟩
      exact calls_publish { t.state with store := (store.get now refreshName).2 } refresh _
    | established pair hq => exact Or.inl rfl
    | cleared hq => exact Or.inl rfl
  | answered now id reply session hfinishes => exact Or.inl (calls_finishes hfinishes)
  | resumed now n q id outcome hcaller hout => exact Or.inl (calls_leave t.state id)
  | idle now n => exact Or.inl rfl

/-- The session stays in its epoch, or nothing is stored afterwards. -/
theorem Sound.epoch_eq_or (h : t.Sound) (hw : t.state.store.IsWorking) (e : Timestamp × Event) :
    (t.step e).state.epoch = t.state.epoch ∨ (t.step e).state.spendable? = none := by
  by_cases hclear : e.2 = .call .clear
  · rcases e with ⟨now, event⟩
    have hevent : event = .call .clear := hclear
    subst hevent
    exact Or.inr (spendable?_cleared t.state hw)
  · exact Or.inl ((h.steps e).epoch_eq hclear)

/-- A call that is known after an event was known before, or it was made with what was stored. -/
theorem Steps.call_mem (hsteps : t.Steps e t') (hw : t.state.store.IsWorking)
    {call : String × Nat} (h : call ∈ t'.state.calls) : call ∈ t.state.calls ∨
      t.state.spendable? = some call.1 ∧ call.2 = t'.state.epoch := by
  rcases hsteps.calls hw with hsame | ⟨refresh, hstored, hmore⟩
  · rw [hsame] at h
    exact Or.inl h
  · rw [hmore, List.mem_append, List.mem_singleton] at h
    rcases h with h | rfl
    · exact Or.inl h
    · exact Or.inr ⟨hstored, rfl⟩

/-- With what an event brings, all refresh credentials are known again. -/
theorem Sound.known (h : t.Sound) (hw : t.state.store.IsWorking) (hknown : Known seen t.state)
    (hnew : ∀ value, e.2.brings? = some value → value ∉ seen) :
    Known (seen ++ e.2.brings?.toList) (t.step e).state where
  stored value hvalue := by
    rw [List.mem_append, Option.mem_toList]
    exact ((h.steps e).spendable? hw hvalue).imp (hknown.stored value) id
  sent call hcall := by
    rw [List.mem_append]
    left
    rcases (h.steps e).call_mem hw hcall with hold | ⟨hstored, -⟩
    · exact hknown.sent call hold
    · exact hknown.stored call.1 hstored
  older call hcall hlt hstored := by
    rcases h.epoch_eq_or hw e with hepoch | hnone
    · rcases (h.steps e).call_mem hw hcall with hold | ⟨-, heq⟩
      · -- It was older before, so what is stored now would be new and yet have been sent.
        rw [hepoch] at hlt
        rcases (h.steps e).spendable? hw hstored with hbefore | hbrings
        · exact hknown.older call hold hlt hbefore
        · exact hnew call.1 hbrings (hknown.sent call hold)
      · omega
    · rw [hnone] at hstored
      exact nomatch hstored

/-- What is spent is known, and it is not what is stored afterwards. -/
theorem Sound.spends (h : t.Sound) (hw : t.state.store.IsWorking) (hknown : Known seen t.state)
    (hnew : ∀ value, e.2.brings? = some value → value ∉ seen) {refresh : String}
    (hspends : t.Spends e refresh) :
    refresh ∈ seen ∧ (t.step e).state.spendable? ≠ some refresh := by
  cases hspends with
  | succeeded now id pair r hid =>
    have hsent := mem_calls_of_unfinished hid
    have hmem := hknown.sent _ hsent
    refine ⟨hmem, fun hstored => ?_⟩
    have hstep : (t.step (now, .answer id (.ok pair))).state
        = t.state.finish id (.ok pair) now := rfl
    rw [hstep] at hstored
    by_cases hepoch : t.state.epoch = r.epoch
    · -- The new pair has taken its place.
      rw [finish_ok id pair now t.state r hid hepoch] at hstored
      rw [spendable?_kept t.state pair now hw hstored] at hmem
      exact hnew pair.refresh rfl hmem
    · -- It went when the session was ended.
      rw [finish_ok_of_ne id pair now t.state r hid hepoch] at hstored
      have hle := h.state.epoch_le id r ((unfinished?_eq_some_iff _ id r).mp hid).1
      exact hknown.older _ hsent (Nat.lt_of_le_of_ne hle fun heq => hepoch heq.symm) hstored
  | ended now refresh hstored =>
    refine ⟨hknown.stored refresh hstored, ?_⟩
    have hstep : (t.step (now, .call .clear)).state = t.state.cleared := rfl
    rw [hstep, spendable?_cleared t.state hw]
    exact nofun

/-- The event by which a credential is spent makes no call. -/
theorem Spends.calls_eq {refresh : String} (hspends : t.Spends e refresh) :
    (t.step e).state.calls = t.state.calls := by
  cases hspends with
  | succeeded now id pair r hid => exact calls_finishes (finishes id (.ok pair) now t.state)
  | ended now refresh hstored => rfl

end

/-! ### Runs -/

/-- What the first of some events brings is not known before. -/
theorem new_of_nodup {seen later : List String} {e : Timestamp × Event}
    (h : (seen ++ e.2.brings?.toList ++ later).Nodup) (value : String)
    (hvalue : e.2.brings? = some value) : value ∉ seen := by
  have hdisjoint := (List.nodup_append.mp (List.nodup_append.mp h).1).2.2
  exact fun hmem => hdisjoint value hmem value (Option.mem_toList.mpr hvalue) rfl

theorem known_start (store : Store) :
    Known (start store).state.spendable?.toList (start store).state where
  stored _ h := Option.mem_toList.mpr h
  sent _ h := absurd h List.not_mem_nil
  older _ h := absurd h List.not_mem_nil

/-- As long as new ones come, all refresh credentials are known. -/
theorem known_run {t : Traffic} (h : t.Sound) (hw : t.state.store.IsWorking) {seen : List String}
    (hknown : Known seen t.state) {events : List (Timestamp × Event)}
    (hnew : (seen ++ brought events).Nodup) :
    Known (seen ++ brought events) (t.run events).state := by
  induction events generalizing t seen with
  | nil =>
    rw [brought, List.flatMap_nil, List.append_nil]
    exact hknown
  | cons e events ih =>
    have hcons : seen ++ brought (e :: events) = seen ++ e.2.brings?.toList ++ brought events := by
      rw [brought, List.flatMap_cons, ← List.append_assoc]
      rfl
    rw [hcons] at hnew ⊢
    exact ih (h.step e) ((h.steps e).isWorking hw) (h.known hw hknown (new_of_nodup hnew)) hnew

/-- What is not stored is not sent as long as no event brings it. -/
theorem calls_run {t : Traffic} (h : t.Sound) (hw : t.state.store.IsWorking) {refresh : String}
    (hstored : t.state.spendable? ≠ some refresh) {events : List (Timestamp × Event)}
    (hnew : ∀ e ∈ events, e.2.brings? ≠ some refresh) :
    ∃ since, (t.run events).state.calls = t.state.calls ++ since ∧
      ∀ call ∈ since, call.1 ≠ refresh := by
  induction events generalizing t with
  | nil => exact ⟨[], (List.append_nil _).symm, fun _ h => absurd h List.not_mem_nil⟩
  | cons e events ih =>
    rw [List.forall_mem_cons] at hnew
    have hsteps := h.steps e
    have hstored' : (t.step e).state.spendable? ≠ some refresh := by
      intro hafter
      exact (hsteps.spendable? hw hafter).elim hstored hnew.1
    rcases ih (h.step e) (hsteps.isWorking hw) hstored' hnew.2 with ⟨since, hsince, hne⟩
    rcases hsteps.calls hw with hsame | ⟨other, hother, hmore⟩
    · rw [hsame] at hsince
      exact ⟨since, hsince, hne⟩
    · -- The first call was made with what was stored.
      rw [hmore, List.append_assoc] at hsince
      refine ⟨_, hsince, ?_⟩
      rw [List.singleton_append, List.forall_mem_cons]
      refine ⟨fun heq => hstored ?_, hne⟩
      rw [hother]
      exact congrArg some heq

/-- Spent credentials are not sent again. In a working store, whatever comes in whatever order, if
all refresh credentials that come are new: once a call with one of them has succeeded, or the
session was ended while it was stored, no call that is made from then on is made with it. -/
theorem spent_not_sent (store : Store) (hw : store.IsWorking)
    (earlier : List (Timestamp × Event)) (e : Timestamp × Event) (later : List (Timestamp × Event))
    (hnew : (credentials store (earlier ++ e :: later)).Nodup) (refresh : String)
    (hspends : ((start store).run earlier).Spends e refresh) :
    ∃ since, ((start store).run (earlier ++ e :: later)).state.calls
        = ((start store).run earlier).state.calls ++ since ∧
      ∀ call ∈ since, call.1 ≠ refresh := by
  have hsound := sound_run (sound_start store) earlier
  have hworking := isWorking_run (sound_start store) hw earlier
  have hsplit : credentials store (earlier ++ e :: later)
      = credentials store earlier ++ e.2.brings?.toList ++ brought later := by
    simp only [credentials, brought, List.flatMap_append, List.flatMap_cons, List.append_assoc]
  rw [hsplit] at hnew
  have hseen := (List.nodup_append.mp (List.nodup_append.mp hnew).1).1
  have hknown : Known (credentials store earlier) ((start store).run earlier).state :=
    known_run (sound_start store) hw (known_start store) hseen
  rcases hsound.spends hworking hknown (new_of_nodup hnew) hspends with ⟨hmem, hstored⟩
  -- It is known by now, and what comes later is new.
  have hbrought : ∀ e' ∈ later, e'.2.brings? ≠ some refresh := by
    intro e' he' hbrings
    have hlater : refresh ∈ brought later :=
      List.mem_flatMap.mpr ⟨e', he', Option.mem_toList.mpr hbrings⟩
    exact (List.nodup_append.mp hnew).2.2 refresh (List.mem_append_left _ hmem) refresh hlater rfl
  rcases calls_run (hsound.step e) ((hsound.steps e).isWorking hworking) hstored hbrought with
    ⟨since, hsince, hne⟩
  refine ⟨since, ?_, hne⟩
  rw [run, Usage.run_append, ← hspends.calls_eq]
  exact hsince

/-- A renewal that is left behind by the end of the session and succeeds after the next session has
begun and is being renewed. That renewal fails, and the next one sends its credential once more. -/
theorem spent_not_sent_sample :
    let now : Timestamp := { seconds := 0, nanos := 0 }
    let earlier : List (Timestamp × Event) :=
      [(now, .call (.establish { access := "a", refresh := "r" })), (now, .call .renew),
        (now, .call .clear), (now, .call (.establish { access := "b", refresh := "s" })),
        (now, .call .renew)]
    let e : Timestamp × Event := (now, .answer 0 (.ok { access := "c", refresh := "t" }))
    let later : List (Timestamp × Event) :=
      [(now, .answer 1 (.error .authExpired)), (now, .resume 4), (now, .call .renew)]
    (∃ since, ((start .inMemory).run (earlier ++ e :: later)).state.calls
        = ((start .inMemory).run earlier).state.calls ++ since ∧
      ∀ call ∈ since, call.1 ≠ "r") ∧
    ((start .inMemory).run (earlier ++ e :: later)).state.calls = [("r", 0), ("s", 1), ("s", 1)] := by
  intro now earlier e later
  have hunfinished : (((start .inMemory).run earlier).state.unfinished? 0).map Renewal.refresh
      = some "r" := by decide +kernel
  rcases Option.map_eq_some_iff.mp hunfinished with ⟨r, hid, hr⟩
  have hspends : ((start .inMemory).run earlier).Spends e "r" := by
    rw [← hr]
    exact .succeeded now 0 { access := "c", refresh := "t" } r hid
  exact ⟨spent_not_sent .inMemory trivial earlier e later (by decide +kernel) "r" hspends,
    by decide +kernel⟩

end Traffic

end Wager.Session
