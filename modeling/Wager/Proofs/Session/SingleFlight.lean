import Wager.Proofs.Session.Traffic

/-!
# Renewals are shared

A refresh credential is good for one renewal, so two renewals at a time would end the session.

What is shown is that since a session was last ended no two renewals are outstanding at a time, and
what becomes of the callers around one that is. Two facts carry all of it. The epoch only moves when
the session is ended, so the renewals that were started since are of the present epoch; and of the
present epoch an outstanding renewal is in the slot, by `Consistent`. So there is one at most, and
whoever needs a renewal finds it.

A renewal that has finished may still be in the slot, for its callers go on one by one. Such a
renewal is not joined. A caller that comes late starts another, which takes the place in the slot,
and the callers of the first one leave it there.

Nothing is asked of the store. A store that fails is an empty one to whoever reads it, and then
there is nothing to renew with.

## Main definitions

* `Traffic.SingleFlight`: What holds of renewals that were started since some moment.

## Theorems

* `Traffic.epoch_since`: The renewals started while nobody ends the session are of one epoch.
* `Traffic.slot_of_outstanding`: An outstanding one of them is in the slot.
* `Traffic.single_flight`: It is the only one, it is shared, and it is given up once it has
  finished.
-/

namespace Wager.Session.Traffic

/-! ### One epoch -/

/-- An answer leaves the epoch and starts no renewal. -/
theorem epoch_finishes {s s' : Session} {id : Nat} {answer : Result Credentials} {now : Timestamp}
    (hf : s.Finishes id answer now s') :
    s'.epoch = s.epoch ∧ s'.renewals.length = s.renewals.length := by
  cases hf with
  | ignored hid => exact ⟨rfl, rfl⟩
  | failed r e hid hanswer => exact ⟨rfl, List.length_modify ..⟩
  | kept r pair hid hanswer hepoch => exact ⟨rfl, List.length_modify ..⟩
  | dropped r pair hid hanswer hepoch => exact ⟨rfl, List.length_modify ..⟩

/-- Only the end of the session moves it on to another epoch. -/
theorem Steps.epoch_eq {t t' : Traffic} {e : Timestamp × Event} (hsteps : t.Steps e t')
    (hclear : e.2 ≠ .call .clear) : t'.state.epoch = t.state.epoch := by
  cases hsteps with
  | called now q rest session hbegins =>
    cases hbegins with
    | returned reply store hread => rfl
    | joined id store hread hout => rfl
    | started refresh store hread hout hrefresh => rfl
    | established pair hq => rfl
    | cleared hq =>
      subst hq
      exact absurd rfl hclear
  | answered now id reply session hfinishes => exact (epoch_finishes hfinishes).1
  | resumed now n q id outcome hcaller hout => exact epoch_leave t.state id
  | idle now n => rfl

/-- A renewal is started in the epoch of the session. -/
theorem Steps.epoch_of_started {t t' : Traffic} {e : Timestamp × Event} (hsteps : t.Steps e t')
    (i : Nat) (r : Renewal) (hi : t.state.renewals.length ≤ i)
    (hr : t'.state.renewals[i]? = some r) : r.epoch = t.state.epoch := by
  have hlt := (List.getElem?_eq_some_iff.mp hr).1
  cases hsteps with
  | called now q rest session hbegins =>
    cases hbegins with
    | returned reply store hread => exact absurd hlt (Nat.not_lt.mpr hi)
    | joined id store hread hout => exact absurd hlt (Nat.not_lt.mpr hi)
    | started refresh store hread hout hrefresh =>
      rcases renewal_of_publish hr with hr | ⟨-, rfl⟩
      · exact absurd (List.getElem?_eq_some_iff.mp hr).1 (Nat.not_lt.mpr hi)
      · rfl
    | established pair hq => exact absurd hlt (Nat.not_lt.mpr hi)
    | cleared hq => exact absurd hlt (Nat.not_lt.mpr hi)
  | answered now id reply session hfinishes =>
    have hlength := (epoch_finishes hfinishes).2
    simp only [hlength] at hlt
    omega
  | resumed now n q id outcome hcaller hout =>
    rw [renewals_leave] at hlt
    omega
  | idle now n => omega

/-- While nobody ends the session it stays in its epoch, and so do the renewals that are started. -/
theorem epoch_since {t : Traffic} (h : t.Sound) (since : List (Timestamp × Event))
    (hclear : ∀ e ∈ since, e.2 ≠ .call .clear) :
    (t.run since).state.epoch = t.state.epoch ∧
      ∀ i r, t.state.renewals.length ≤ i → (t.run since).state.renewals[i]? = some r →
        r.epoch = t.state.epoch := by
  refine run_induction (P := fun t' => t'.state.epoch = t.state.epoch ∧
    ∀ i r, t.state.renewals.length ≤ i → t'.state.renewals[i]? = some r →
      r.epoch = t.state.epoch) ?_ h ⟨rfl, ?_⟩
  · intro t₁ t₂ e he h₁ hsteps hP
    rcases hP with ⟨hepoch, hstarted⟩
    refine ⟨(hsteps.epoch_eq (hclear e he)).trans hepoch, ?_⟩
    intro i r hi hr
    rcases Nat.lt_or_ge i t₁.state.renewals.length with hlt | hge
    · -- It was there before the step, and keeps its epoch.
      have hsome := List.getElem?_eq_getElem hlt
      rcases hsteps.follows.renewal i _ hsome with ⟨r', hr', -, he', -⟩
      rw [hr', Option.some.injEq] at hr
      rw [← hr, he']
      exact hstarted i _ hi hsome
    · -- The step has started it.
      rw [hsteps.epoch_of_started i r hge hr, hepoch]
  · intro i r hi hr
    have hlt := (List.getElem?_eq_some_iff.mp hr).1
    exact absurd hlt (Nat.not_lt.mpr hi)

/-- An outstanding renewal that was started while nobody ended the session is in the slot. -/
theorem slot_of_outstanding {t : Traffic} (h : t.Sound) (since : List (Timestamp × Event))
    (hclear : ∀ e ∈ since, e.2 ≠ .call .clear) (i : Nat) (hi : t.state.renewals.length ≤ i)
    (hout : (t.run since).state.IsOutstanding i) : (t.run since).state.slot = some i := by
  rcases hout with ⟨r, hr, hnone⟩
  rcases epoch_since h since hclear with ⟨hepoch, hstarted⟩
  have he : r.epoch = (t.run since).state.epoch := by
    rw [hepoch]
    exact hstarted i r hi hr
  exact (sound_run h since).state.slot_of i r hr hnone he

/-! ### Callers -/

/-- Whoever needs a renewal while one is in the slot starts none and waits for that one. -/
theorem call_of_outstanding (t : Traffic) (now : Timestamp) (q : Request) (id : Nat)
    (hq : q.NeedsRenewal now t.state) (hout : t.state.outstanding? = some id) :
    (t.step (now, .call q)).state.renewals = t.state.renewals ∧
      (t.step (now, .call q)).Waits t.callers.length q id := by
  rcases q.proceed_of_outstanding now t.state id hq hout with ⟨store, hproceed⟩
  have hstep : t.step (now, .call q) = {
      state := { t.state with store }
      callers := t.callers ++ [{ request := q, rest := q.waiting id }] } := by
    rw [step_call, hproceed]
  rw [hstep]
  exact ⟨rfl, _, List.getElem?_concat_length⟩

/-- A caller returns at once, or it waits for a renewal that has not finished. -/
theorem call_returned_or_waits (t : Traffic) (now : Timestamp) (q : Request) :
    (∃ reply, (t.step (now, .call q)).Returned t.callers.length q reply) ∨
      ∃ id, t.state.outcome? id = none ∧ (t.step (now, .call q)).Waits t.callers.length q id := by
  -- All that matters of the request is what `Begins` says of it.
  have hbegins := q.begins now t.state
  rw [step_call]
  revert hbegins
  generalize q.operation.proceed now t.state = p
  intro hbegins
  rcases p with ⟨rest, session⟩
  have hcaller : (t.callers ++ [({ request := q, rest } : Caller)])[t.callers.length]?
      = some { request := q, rest } := List.getElem?_concat_length
  cases hbegins with
  | returned reply store hread => exact Or.inl ⟨reply, hcaller⟩
  | joined id store hread hout =>
    exact Or.inr ⟨id, ((outstanding?_eq_some_iff t.state id).mp hout).2, _, hcaller⟩
  | started refresh store hread hout hrefresh =>
    refine Or.inr ⟨t.state.renewals.length, ?_, _, hcaller⟩
    rw [outcome?, List.getElem?_eq_none (Nat.le_refl _)]
    rfl
  | established pair hq => exact Or.inl ⟨_, hcaller⟩
  | cleared hq => exact Or.inl ⟨_, hcaller⟩

/-- A caller that goes on takes no renewal but its own out of the slot. -/
theorem slot_resume {t : Traffic} (h : t.Sound) (now : Timestamp) (n : Nat) (q : Request)
    (i j : Nat) (hw : t.Waits n q i) (hij : j ≠ i) (hslot : t.state.slot = some j) :
    (t.step (now, .resume n)).state.slot = some j := by
  have hc := hw.rest h
  cases hout : t.state.outcome? i with
  | none =>
    rw [step_resume_of_outcome?_eq_none t now n q i hc hout]
    exact hslot
  | some outcome =>
    rw [step_resume_of_waiting t now n q i outcome hc hout]
    -- It only takes out its own renewal, which is not there.
    have hne : t.state.slot ≠ some i := by
      rw [hslot, ne_eq, Option.some.injEq]
      exact hij
    simp only [leave_eq_self hne]
    exact hslot

/-! ### Single flight -/

/-- What holds of the renewals that were started since some moment, as long as nobody has ended
the session since. Renewals are known by their positions, so these are the ones from some position
on. -/
structure SingleFlight (moment t : Traffic) : Prop where
  /-- No two of them are outstanding at a time. -/
  at_most_one : ∀ i j, moment.state.renewals.length ≤ i → moment.state.renewals.length ≤ j →
    t.state.IsOutstanding i → t.state.IsOutstanding j → i = j
  /-- Whoever needs a renewal while one is outstanding starts none. -/
  starts_none : ∀ now q i, moment.state.renewals.length ≤ i → t.state.IsOutstanding i →
    q.NeedsRenewal now t.state → (t.step (now, .call q)).state.renewals = t.state.renewals
  /-- From then on it waits for that renewal or has returned the outcome of it. -/
  shared : ∀ now q i later, moment.state.renewals.length ≤ i → t.state.IsOutstanding i →
    q.NeedsRenewal now t.state →
    ((t.step (now, .call q)).run later).AnsweredBy t.callers.length q i
  /-- A caller whose renewal has finished returns the outcome when it goes on, and starts none. -/
  goes_on : ∀ now n q i outcome, t.AnsweredBy n q i → t.state.outcome? i = some outcome →
    (t.step (now, .resume n)).Returned n q (q.reply outcome) ∧
      (t.step (now, .resume n)).state.renewals = t.state.renewals
  /-- Whoever comes when a renewal has finished returns at once or is answered by another one. -/
  not_joined : ∀ now q i, t.state.outcome? i ≠ none →
    (∃ reply, ∀ later, ((t.step (now, .call q)).run later).Returned t.callers.length q reply) ∨
      ∃ j, j ≠ i ∧ ∀ later, ((t.step (now, .call q)).run later).AnsweredBy t.callers.length q j
  /-- A caller that goes on leaves another renewal than its own in the slot. -/
  stays_in_slot : ∀ now n q i j, t.Waits n q i → j ≠ i → t.state.slot = some j →
    (t.step (now, .resume n)).state.slot = some j

/-- Renewals are shared: whatever went before, and whatever happens while nobody ends the session.
-/
theorem single_flight (store : Store) (before since : List (Timestamp × Event))
    (hclear : ∀ e ∈ since, e.2 ≠ .call .clear) :
    SingleFlight ((start store).run before) (((start store).run before).run since) := by
  have hmoment : ((start store).run before).Sound := sound_run (sound_start store) before
  have hsound := sound_run hmoment since
  have hslot := slot_of_outstanding hmoment since hclear
  generalize (start store).run before = moment at *
  generalize moment.run since = t at *
  -- Whoever looks into the slot finds the renewal that is outstanding.
  have hfound : ∀ i, moment.state.renewals.length ≤ i → t.state.IsOutstanding i →
      t.state.outstanding? = some i := by
    intro i hi hout
    exact outstanding?_of_slot (hslot i hi hout) hout
  refine ⟨?_, ?_, ?_, ?_, ?_, ?_⟩
  · -- Two of them would both be in the slot.
    intro i j hi hj hout hout'
    have heq := hslot i hi hout
    rw [hslot j hj hout', Option.some.injEq] at heq
    exact heq.symm
  · intro now q i hi hout hq
    exact (call_of_outstanding t now q i hq (hfound i hi hout)).1
  · intro now q i later hi hout hq
    have hwaits := (call_of_outstanding t now q i hq (hfound i hi hout)).2
    exact answeredBy_run (hsound.step _) later (Or.inl hwaits)
  · intro now n q i outcome ha hout
    exact ⟨ha.resume hsound now outcome hout, (hsound.steps (now, .resume n)).renewals_resume⟩
  · intro now q i hfinished
    rcases call_returned_or_waits t now q with ⟨reply, hr⟩ | ⟨j, hj, hwaits⟩
    · exact Or.inl ⟨reply, fun later => returned_run (hsound.step _) later hr⟩
    · refine Or.inr ⟨j, ?_, fun later => answeredBy_run (hsound.step _) later (Or.inl hwaits)⟩
      -- The other one had not finished.
      intro hji
      rw [hji] at hj
      exact hfinished hj
  · intro now n q i j hw hij hj
    exact slot_resume hsound now n q i j hw hij hj

/-- A run in which the first renewal is left behind by the end of the session, the second one has
failed but is still in the slot when the third one is started, and its caller goes on after that. -/
theorem single_flight_sample :
    let now : Timestamp := { seconds := 0, nanos := 0 }
    let pair : Credentials := { access := "a", refresh := "r" }
    let before : List (Timestamp × Event) :=
      [(now, .call (.establish pair)), (now, .call .renew), (now, .call .clear)]
    let since : List (Timestamp × Event) :=
      [(now, .call (.establish pair)), (now, .call .renew), (now, .answer 1 (.error .authExpired)),
        (now, .call .renew), (now, .resume 4)]
    SingleFlight ((start .inMemory).run before) (((start .inMemory).run before).run since) ∧
      (((start .inMemory).run before).run since).state.slot = some 2 ∧
      (((start .inMemory).run before).run since).state.IsOutstanding 2 := by
  refine ⟨single_flight .inMemory _ _ ?_, rfl, _, rfl, rfl⟩
  simp only [List.forall_mem_cons, ne_eq, Happening.call.injEq, reduceCtorEq, not_false_eq_true,
    List.not_mem_nil, false_implies, implies_true, and_self]

end Wager.Session.Traffic
