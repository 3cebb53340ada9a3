import Wager.Proofs.Session.Traffic

/-!
# Signing out

What is left of a session that was ended, and of the renewals that were outstanding then.

Ending a session cannot stop a renewal that is under way, so it has to be made harmless. It is of
an earlier epoch from then on, for good: epochs only grow, and renewals keep theirs. This is
`IsOlder`, and everything about such a renewal follows from it. What the server answers is not
kept, and since the slot holds only renewals of the present epoch, the callers that have waited
for it find nothing of their own there to take out. None of this depends on what happens in
between, so a session that begins in the meantime is left alone as well.

That the session stays closed is an invariant, `IsClosed`. Nothing can be read, so no renewal can be
started; none is in the slot, so none can be joined; and those that are under way keep nothing. It
takes a store that works: if the credentials could not be removed, they are still there.

## Main definitions

* `Session.IsOlder`: A renewal of an earlier epoch.
* `Session.IsClosed`: A session that was ended and has not begun again.
* `Traffic.SignedOut`: What callers of a closed session get.
* `Traffic.LeftBehind`: What a renewal comes to that was outstanding when the session was ended.

## Theorems

* `Traffic.isClosed_run`: A closed session stays closed until somebody begins one.
* `Traffic.signing_out`: What holds once a session was ended.
-/

namespace Wager.Session

/-! ### Renewals of earlier epochs -/

/-- A renewal that was started in an earlier epoch. -/
def IsOlder (s : Session) (id : Nat) : Prop :=
  ∃ r : Renewal, s.renewals[id]? = some r ∧ r.epoch < s.epoch

namespace IsOlder

variable {s s' : Session} {id : Nat}

theorem follows (h : s.IsOlder id) (hf : s.Follows s') : s'.IsOlder id := by
  rcases h with ⟨r, hr, hlt⟩
  rcases hf.renewal id r hr with ⟨r', hr', -, hepoch, -⟩
  have hle := hf.epoch_le
  exact ⟨r', hr', by omega⟩

/-- Ending the session makes all renewals older. -/
theorem cleared (h : s.Consistent) (hid : s.IsOutstanding id) : s.cleared.IsOlder id := by
  rcases hid with ⟨r, hr, -⟩
  exact ⟨r, hr, Nat.lt_succ_of_le (h.epoch_le id r hr)⟩

/-- The slot holds only renewals of the present epoch. -/
theorem slot_ne (h : s.IsOlder id) (hs : s.Consistent) : s.slot ≠ some id := by
  intro hslot
  rcases h with ⟨r, hr, hlt⟩
  rcases hs.of_slot id hslot with ⟨r', hr', hepoch⟩
  rw [hr, Option.some.injEq] at hr'
  subst hr'
  omega

/-- What an older renewal brings is not kept. -/
theorem finishes (h : s.IsOlder id) {answer : Result Credentials} {now : Timestamp}
    (hf : s.Finishes id answer now s') : s'.store = s.store ∧ s'.slot = s.slot := by
  cases hf with
  | ignored hid => exact ⟨rfl, rfl⟩
  | failed r e hid hanswer => exact ⟨rfl, rfl⟩
  | kept r pair hid hanswer hepoch =>
    -- Only a renewal of the present epoch keeps its pair.
    rcases h with ⟨r', hr', hlt⟩
    rw [unfinished?_eq_some_iff, hr', Option.some.injEq] at hid
    rcases hid with ⟨rfl, -⟩
    omega
  | dropped r pair hid hanswer hepoch => exact ⟨rfl, rfl⟩

/-- Whoever renews when the session has moved on learns that it is over. -/
theorem outcome?_finish (h : s.IsOlder id) (hid : s.IsOutstanding id) (pair : Credentials)
    (now : Timestamp) : (s.finish id (.ok pair) now).outcome? id = some (.error .authExpired) := by
  rcases h with ⟨r, hr, hlt⟩
  rcases hid with ⟨r', hr', hnone⟩
  rw [hr, Option.some.injEq] at hr'
  subst hr'
  have hne : s.epoch ≠ r.epoch := by omega
  rw [finish_ok_of_ne id pair now s r ((unfinished?_eq_some_iff s id r).mpr ⟨hr, hnone⟩) hne]
  exact outcome?_record_self (List.getElem?_eq_some_iff.mp hr).1 _

end IsOlder

/-! ### Closed sessions -/

/-- Nothing is kept, no renewal is in the slot, and those that have not finished are older. -/
structure IsClosed (s : Session) : Prop where
  access : s.store.Lacks accessName
  refresh : s.store.Lacks refreshName
  slot : s.slot = none
  older : ∀ id, s.IsOutstanding id → s.IsOlder id

theorem isClosed_cleared {s : Session} (h : s.Consistent) (hw : s.store.IsWorking) :
    s.cleared.IsClosed where
  access :=
    Store.lacks_remove _ accessName refreshName (Store.lacks_remove_self s.store accessName hw)
  refresh := Store.lacks_remove_self _ refreshName (Store.isWorking_remove s.store accessName hw)
  slot := rfl
  older _ hid := .cleared h hid

namespace IsClosed

variable {s s' : Session}

theorem outstanding?_eq_none (h : s.IsClosed) : s.outstanding? = none := by
  rw [outstanding?, h.slot]
  rfl

theorem withStore (h : s.IsClosed) (store : Store) (haccess : store.Lacks accessName)
    (hrefresh : store.Lacks refreshName) : ({ s with store } : Session).IsClosed :=
  ⟨haccess, hrefresh, h.slot, h.older⟩

/-- A renewal whose outcome is recorded is not outstanding any more, and the others are as they
were. -/
theorem record (h : s.IsClosed) (id : Nat) (outcome : Result String) (r : Renewal)
    (hid : s.unfinished? id = some r) : (s.record id outcome).IsClosed := by
  refine ⟨h.access, h.refresh, h.slot, ?_⟩
  intro other hother
  rcases hother with ⟨r', hr', hnone⟩
  rcases renewal_of_record hr' with ⟨r'', hr'', -, heq⟩
  rw [heq hnone] at hr''
  exact (h.older other ⟨r', hr'', hnone⟩).follows (.record s id outcome r hid)

theorem finishes (h : s.IsClosed) {id : Nat} {answer : Result Credentials} {now : Timestamp}
    (hf : s.Finishes id answer now s') : s'.IsClosed := by
  cases hf with
  | ignored hid => exact h
  | failed r e hid hanswer => exact h.record id _ r hid
  | kept r pair hid hanswer hepoch =>
    -- It would have to be of the present epoch.
    rw [unfinished?_eq_some_iff] at hid
    rcases h.older id ⟨r, hid⟩ with ⟨r', hr', hlt⟩
    rw [hid.1, Option.some.injEq] at hr'
    subst hr'
    omega
  | dropped r pair hid hanswer hepoch => exact h.record id _ r hid

theorem begins (h : s.IsClosed) {q : Request} {now : Timestamp} {rest : Operation Reply}
    (hb : q.Begins now s rest s') (hq : ∀ pair, q ≠ .establish pair) : s'.IsClosed := by
  cases hb with
  | returned reply store hread =>
    exact h.withStore store (hread.lacks accessName h.access) (hread.lacks refreshName h.refresh)
  | joined id store hread hout =>
    rw [h.outstanding?_eq_none] at hout
    simp only [reduceCtorEq] at hout
  | started refresh store hread hout hrefresh =>
    -- There is no credential to start it with.
    rw [Store.get_of_lacks store now refreshName (hread.lacks refreshName h.refresh)] at hrefresh
    simp only [reduceCtorEq] at hrefresh
  | established pair hest => exact absurd hest (hq pair)
  | cleared hclear =>
    refine ⟨?_, ?_, rfl, ?_⟩
    · exact Store.lacks_remove _ accessName refreshName
        (Store.lacks_remove s.store accessName accessName h.access)
    · exact Store.lacks_remove _ refreshName refreshName
        (Store.lacks_remove s.store refreshName accessName h.refresh)
    · -- Renewals that were older are still so in the next epoch.
      intro id hid
      have hfollows : s.Follows s.cleared := .of_eq rfl (Nat.le_succ _)
      exact (h.older id hid).follows hfollows

end IsClosed

/-! ### Traffic -/

namespace Traffic

/-- A working store stays one, whatever is read, kept and removed. -/
theorem Steps.isWorking {t t' : Traffic} {e : Timestamp × Event} (hsteps : t.Steps e t')
    (hw : t.state.store.IsWorking) : t'.state.store.IsWorking := by
  -- Both credentials of a pair are set.
  have hkept : ∀ pair now, (t.state.kept pair now).store.IsWorking := by
    intro pair now
    exact Store.isWorking_set _ refreshName _ _ (Store.isWorking_set _ accessName _ _ hw)
  cases hsteps with
  | called now q rest session hbegins =>
    cases hbegins with
    | returned reply store hread => exact hread.isWorking hw
    | joined id store hread hout => exact hread.isWorking hw
    | started refresh store hread hout hrefresh =>
      exact Store.isWorking_get store now refreshName (hread.isWorking hw)
    | established pair hq => exact hkept pair now
    | cleared hq =>
      exact Store.isWorking_remove _ refreshName (Store.isWorking_remove _ accessName hw)
  | answered now id reply session hfinishes =>
    cases hfinishes with
    | ignored hid => exact hw
    | failed r e hid hanswer => exact hw
    | kept r pair hid hanswer hepoch => exact hkept pair now
    | dropped r pair hid hanswer hepoch => exact hw
  | resumed now n q id outcome hcaller hout =>
    simp only [store_leave]
    exact hw
  | idle now n => exact hw

theorem isWorking_run {t : Traffic} (h : t.Sound) (hw : t.state.store.IsWorking)
    (events : List (Timestamp × Event)) : (t.run events).state.store.IsWorking :=
  run_induction (P := fun t => t.state.store.IsWorking)
    (fun _ _ _ _ _ hsteps hw => hsteps.isWorking hw) h hw

theorem Steps.isClosed {t t' : Traffic} {e : Timestamp × Event} (hsteps : t.Steps e t')
    (hclosed : t.state.IsClosed) (he : ∀ pair, e.2 ≠ .call (.establish pair)) :
    t'.state.IsClosed := by
  cases hsteps with
  | called now q rest session hbegins =>
    refine hclosed.begins hbegins ?_
    intro pair hq
    exact he pair (congrArg Happening.call hq)
  | answered now id reply session hfinishes => exact hclosed.finishes hfinishes
  | resumed now n q id outcome hcaller hout =>
    -- There is nothing in the slot to take out.
    have hne : t.state.slot ≠ some id := by
      rw [hclosed.slot]
      simp only [ne_eq, reduceCtorEq, not_false_eq_true]
    simp only [leave_eq_self hne]
    exact hclosed
  | idle now n => exact hclosed

/-- A closed session stays closed until somebody begins one. -/
theorem isClosed_run {t : Traffic} (h : t.Sound) (hclosed : t.state.IsClosed)
    (events : List (Timestamp × Event))
    (he : ∀ e ∈ events, ∀ pair, e.2 ≠ .call (.establish pair)) : (t.run events).state.IsClosed :=
  run_induction (P := fun t => t.state.IsClosed)
    (fun _ _ e hmem _ hsteps hclosed => hsteps.isClosed hclosed (he e hmem)) h hclosed

/-! ### Signing out -/

/-- Nobody is signed in: no credential can be read, and whoever asks for one gets none, without a
renewal. -/
structure SignedOut (t : Traffic) : Prop where
  no_access : ∀ now, (t.state.store.get now accessName).1 = none
  no_refresh : ∀ now, (t.state.store.get now refreshName).1 = none
  not_open : ∀ now,
    (t.step (now, .call .isOpen)).Returned t.callers.length .isOpen (.isOpen false)
  answered_none : ∀ now,
    (t.step (now, .call .access)).Returned t.callers.length .access (.access (.ok none)) ∧
      (t.step (now, .call .access)).state.renewals = t.state.renewals

/-- A renewal is left behind: the session is none the wiser for its answer or for its callers, and
the callers learn that the session they renewed is over. -/
structure LeftBehind (t : Traffic) (id : Nat) : Prop where
  /-- The answer changes nothing in the store or the slot. -/
  answer : ∀ now answer, (t.step (now, .answer id answer)).state.store = t.state.store ∧
    (t.step (now, .answer id answer)).state.slot = t.state.slot
  /-- Nor do the callers when they go on. -/
  callers : ∀ now n q, t.Waits n q id →
    (t.step (now, .resume n)).state.store = t.state.store ∧
      (t.step (now, .resume n)).state.slot = t.state.slot
  /-- If the answer brings a pair, then from that moment on each of them waits for this outcome or
  has returned it, and returns it when it goes on. -/
  expires : ∀ now pair later, t.state.IsOutstanding id →
    ((t.step (now, .answer id (.ok pair))).run later).state.outcome? id
        = some (.error .authExpired) ∧
      ∀ n q, t.Waits n q id →
        ((t.step (now, .answer id (.ok pair))).run later).AnsweredBy n q id ∧
        ∀ now', (((t.step (now, .answer id (.ok pair))).run later).step (now', .resume n)).Returned
          n q (q.reply (.error .authExpired))

theorem signedOut_of_isClosed {t : Traffic} (h : t.state.IsClosed) : t.SignedOut where
  no_access now := Store.get_of_lacks t.state.store now accessName h.access
  no_refresh now := Store.get_of_lacks t.state.store now refreshName h.refresh
  not_open now := by
    have hnone := Store.get_of_lacks t.state.store now refreshName h.refresh
    have hproceed : Request.isOpen.operation.proceed now t.state
        = ((Session.isOpen.proceed now t.state).1.bind fun value =>
            .done (.isOpen value)).proceed now (Session.isOpen.proceed now t.state).2 :=
      Routine.proceed_bind now Session.isOpen _ t.state
    rw [proceed_isOpen, hnone] at hproceed
    simp only [Returned, step_call, hproceed]
    exact List.getElem?_concat_length
  answered_none now := by
    rcases Request.proceed_access_of_lacks now t.state h.access h.refresh
      h.outstanding?_eq_none with ⟨store, hproceed⟩
    simp only [Returned, step_call, hproceed]
    exact ⟨List.getElem?_concat_length, trivial⟩

theorem leftBehind_of_isOlder {t : Traffic} (h : t.Sound) (id : Nat) (hid : t.state.IsOlder id) :
    t.LeftBehind id where
  answer now answer := hid.finishes (Session.finishes id answer now t.state)
  callers now n q hw := by
    have hc := hw.rest h
    cases hout : t.state.outcome? id with
    | none =>
      rw [step_resume_of_outcome?_eq_none t now n q id hc hout]
      exact ⟨rfl, rfl⟩
    | some outcome =>
      rw [step_resume_of_waiting t now n q id outcome hc hout]
      simp only [leave_eq_self (hid.slot_ne h.state)]
      exact ⟨trivial, trivial⟩
  expires now pair later hout := by
    -- The outcome is recorded now, and outcomes do not change.
    have hsound := h.step (now, .answer id (.ok pair))
    have hoverdue : (t.step (now, .answer id (.ok pair))).state.outcome? id
        = some (.error .authExpired) := hid.outcome?_finish hout pair now
    have hlater := (follows_run hsound later).outcome? hoverdue
    refine ⟨hlater, ?_⟩
    intro n q hw
    have hanswered := answeredBy_run hsound later ((h.steps _).answeredBy h (Or.inl hw))
    exact ⟨hanswered, fun now' => hanswered.resume (sound_run hsound later) now' _ hlater⟩

/-- Signing out: whatever went before, ending the session returns at once; nobody is signed in until
a session begins; and the renewals that were outstanding are left behind for good. -/
theorem signing_out (store : Store) (hw : store.IsWorking) (before later : List (Timestamp × Event))
    (now : Timestamp) :
    let t := (start store).run before
    let t' := t.step (now, .call .clear)
    t'.Returned t.callers.length .clear .done ∧
      ((∀ e ∈ later, ∀ pair, e.2 ≠ .call (.establish pair)) → (t'.run later).SignedOut) ∧
      ∀ id, t.state.IsOutstanding id → (t'.run later).LeftBehind id := by
  intro t t'
  have hsound : t.Sound := sound_run (sound_start store) before
  have hsound' : t'.Sound := hsound.step _
  have hstep : t' = {
      state := t.state.cleared
      callers := t.callers ++ [{ request := .clear, rest := .done .done }] } := rfl
  refine ⟨?_, ?_, ?_⟩
  · rw [hstep]
    exact List.getElem?_concat_length
  · -- Ending the session closes it, since the store works.
    intro he
    have hworking := isWorking_run (sound_start store) hw before
    have hclosed : t'.state.IsClosed := isClosed_cleared hsound.state hworking
    exact signedOut_of_isClosed (isClosed_run hsound' hclosed later he)
  · -- Ending the session makes the renewal older, and it is older at every later moment.
    intro id hid
    have holder : t'.state.IsOlder id := .cleared hsound.state hid
    exact leftBehind_of_isOlder (sound_run hsound' later) id
      (holder.follows (follows_run hsound' later))

/-- A session that is ended during a renewal. Either it stays closed, or it begins again and is
renewed before the first renewal has finished. -/
theorem signing_out_sample :
    let now : Timestamp := { seconds := 0, nanos := 0 }
    let beginning : List (Timestamp × Event) :=
      [(now, .call (.establish { access := "a", refresh := "r" })), (now, .call .renew)]
    let ended := ((start .inMemory).run beginning).step (now, .call .clear)
    ((ended.run [(now, .call .renew)]).SignedOut ∧ (ended.run [(now, .call .renew)]).LeftBehind 0) ∧
      (ended.run beginning).LeftBehind 0 ∧ (ended.run beginning).state.slot = some 1 := by
  intro now beginning
  have hclosed := signing_out .inMemory trivial beginning [(now, .call .renew)] now
  have hbegun := signing_out .inMemory trivial beginning beginning now
  refine ⟨⟨hclosed.2.1 ?_, hclosed.2.2 0 ⟨_, rfl, rfl⟩⟩, hbegun.2.2 0 ⟨_, rfl, rfl⟩, ?_⟩
  · simp only [List.forall_mem_cons, ne_eq, Happening.call.injEq, reduceCtorEq, not_false_eq_true,
      List.not_mem_nil, false_implies, implies_true, and_self]
  · decide +kernel

end Traffic

end Wager.Session
