import Wager.Proofs.Interleaving
import Wager.Proofs.Session.Sections

/-!
# Traffic on a session

Callers of one session, interleaved where they wait, and what holds at every moment.

Three things can happen next: somebody comes with a request, the server answers a renewal, or a
caller whose renewal has finished goes on. Any of them may happen at any time and in any order,
and any number of times; the clock may show anything. An answer and the callers that it wakes are
separate events, so a run has all the moments in which a renewal has finished and is still in the
slot.

`Session.Consistent` is the invariant that everything else rests on. It ties the slot to the
renewals of the present epoch: the slot holds none of an earlier epoch, and an outstanding one of
the present epoch is in the slot. The second half is what makes a renewal single, and it survives
each step for a different reason: a new renewal is only started when none is outstanding, a caller
that goes on only takes out a renewal that has finished, and ending the session moves on to an
epoch without renewals.

Renewals are never forgotten and their outcomes never change, which is `Session.Follows`.

## Main definitions

* `Session.Caller`, `Session.Traffic`: A caller, and a session with its callers.
* `Session.usage`: How callers use a session.
* `Session.Event`, `Traffic.step`, `Traffic.run`: What happens, once and many times.
* `Session.IsOutstanding`: A renewal has not finished.
* `Traffic.Waits`, `Traffic.Returned`: How a caller stands.
* `Session.Consistent`, `Session.Serves`, `Traffic.Sound`: The invariants.
* `Session.Follows`: What never changes about renewals.
* `Traffic.Steps`: What an event may do.
* `Traffic.AnsweredBy`: A caller and the renewal that it gets the outcome of.

## Theorems

* `Session.preserves`: Callers preserve the invariants.
* `Traffic.Sound.steps`: What an event does.
* `Traffic.run_induction`: What every step preserves holds after a run.
* `Traffic.sound_run`: The invariant holds at every moment.
* `Traffic.follows_run`: A later session follows an earlier one.
* `Traffic.Steps.caller`: What an event does to a caller.
* `Traffic.answeredBy_run`: A caller that waits for a renewal gets its outcome and nothing else.
-/

namespace Wager.Session

/-! ### Events -/

/-- A caller: what it came for, and what is left to do. -/
abbrev Caller := Wager.Caller Request (Operation Reply)

/-- A session and its callers, in the order in which they came. -/
abbrev Traffic := Shared Session Caller

/-- What may happen next. -/
abbrev Event := Happening Request Unit (Nat × Result Credentials)

/-- The server answers a renewal. -/
@[match_pattern]
abbrev Event.answer (id : Nat) (reply : Result Credentials) : Event := .change (id, reply)

/-- Caller `n` goes on. -/
@[match_pattern]
abbrev Event.resume (n : Nat) : Event := .goOn n ()

/-- How callers use a session. A caller is only resumed when its renewal has finished. -/
def usage : Usage Session Caller Request Unit (Nat × Result Credentials) :=
  Routine.usage Request.operation (fun s _ id => s.outcome? id) fun now (id, reply) s =>
    s.finish id reply now

namespace Traffic

/-- A session over a store that nobody has called yet. -/
def start (store : Store) : Traffic where
  state := { store }

/-- The traffic after an event at some time. -/
def step (t : Traffic) (e : Timestamp × Event) : Traffic := usage.step t e

/-- The traffic after some events. -/
def run (t : Traffic) (events : List (Timestamp × Event)) : Traffic := usage.run t events

theorem step_call (t : Traffic) (now : Timestamp) (q : Request) :
    t.step (now, .call q) = {
      state := (q.operation.proceed now t.state).2
      callers := t.callers ++ [{ request := q, rest := (q.operation.proceed now t.state).1 }] } :=
  rfl

/-- Caller `n` came with `q` and waits for a renewal. -/
def Waits (t : Traffic) (n : Nat) (q : Request) (id : Nat) : Prop :=
  ∃ next, t.callers[n]? = some { request := q, rest := .wait id next }

/-- Caller `n` came with `q` and was answered. -/
def Returned (t : Traffic) (n : Nat) (q : Request) (reply : Reply) : Prop :=
  t.callers[n]? = some { request := q, rest := .done reply }

end Traffic

/-! ### Renewals -/

/-- A renewal was started and has not finished. -/
def IsOutstanding (s : Session) (id : Nat) : Prop :=
  ∃ r, s.renewals[id]? = some r ∧ r.outcome = none

theorem unfinished?_eq_some_iff (s : Session) (id : Nat) (r : Renewal) :
    s.unfinished? id = some r ↔ s.renewals[id]? = some r ∧ r.outcome = none := by
  rw [unfinished?, Option.filter_eq_some_iff, Option.isNone_iff_eq_none]

theorem isOutstanding_iff (s : Session) (id : Nat) :
    s.IsOutstanding id ↔ ∃ r, s.unfinished? id = some r := by
  simp only [IsOutstanding, unfinished?_eq_some_iff]

theorem outcome?_eq_none_of_isOutstanding {s : Session} {id : Nat} (h : s.IsOutstanding id) :
    s.outcome? id = none := by
  rcases h with ⟨r, hr, hnone⟩
  simp only [outcome?, hr, Option.bind_some, hnone]

theorem outstanding?_eq_some_iff (s : Session) (id : Nat) :
    s.outstanding? = some id ↔ s.slot = some id ∧ s.outcome? id = none := by
  rw [outstanding?, Option.filter_eq_some_iff, Option.isNone_iff_eq_none]

theorem renewals_record (s : Session) (id : Nat) (outcome : Result String) (other : Nat) :
    (s.record id outcome).renewals[other]?
      = s.renewals[other]?.map fun r =>
        if id = other then { r with outcome := some outcome } else r := by
  rw [record, List.getElem?_modify]
  by_cases h : id = other
  · simp only [h, if_true]
    rfl
  · simp only [h, if_false]
    rfl

/-- Recording an outcome adds no renewal, and those without one are as they were. -/
theorem renewal_of_record {s : Session} {id : Nat} {outcome : Result String} {i : Nat} {r : Renewal}
    (h : (s.record id outcome).renewals[i]? = some r) :
    ∃ r' : Renewal, s.renewals[i]? = some r' ∧ r'.epoch = r.epoch ∧
      (r.outcome = none → r' = r) := by
  rw [renewals_record, Option.map_eq_some_iff] at h
  rcases h with ⟨r', hr', rfl⟩
  refine ⟨r', hr', ?_⟩
  by_cases hid : id = i
  · simp only [hid, if_true, reduceCtorEq, false_implies, and_self]
  · simp only [hid, if_false, implies_true, and_self]

/-- Publishing adds a renewal at the end. -/
theorem renewal_of_publish {s : Session} {refresh : String} {epoch i : Nat} {r : Renewal}
    (h : (s.publish refresh epoch).2.renewals[i]? = some r) :
    s.renewals[i]? = some r ∨ i = s.renewals.length ∧ r = { refresh, epoch } :=
  getElem?_concat_eq_some h

/-- An outstanding renewal in the slot is the one to join. -/
theorem outstanding?_of_slot {s : Session} {id : Nat} (hslot : s.slot = some id)
    (hout : s.IsOutstanding id) : s.outstanding? = some id :=
  (outstanding?_eq_some_iff s id).mpr ⟨hslot, outcome?_eq_none_of_isOutstanding hout⟩

theorem store_leave (s : Session) (id : Nat) : (s.leave id).store = s.store := by
  unfold leave
  split <;> rfl

theorem renewals_leave (s : Session) (id : Nat) : (s.leave id).renewals = s.renewals := by
  unfold leave
  split <;> rfl

theorem epoch_leave (s : Session) (id : Nat) : (s.leave id).epoch = s.epoch := by
  unfold leave
  split <;> rfl

/-- The slot and the renewals of the present epoch belong together. -/
structure Consistent (s : Session) : Prop where
  of_slot : ∀ id, s.slot = some id → ∃ r, s.renewals[id]? = some r ∧ r.epoch = s.epoch
  slot_of : ∀ id r, s.renewals[id]? = some r → r.outcome = none → r.epoch = s.epoch →
    s.slot = some id
  epoch_le : ∀ (id : Nat) (r : Renewal), s.renewals[id]? = some r → r.epoch ≤ s.epoch

namespace Consistent

variable {s : Session}

theorem withStore (h : s.Consistent) (store : Store) : ({ s with store } : Session).Consistent :=
  ⟨h.of_slot, h.slot_of, h.epoch_le⟩

theorem start (store : Store) : ({ store } : Session).Consistent where
  of_slot id h := by simp only [reduceCtorEq] at h
  slot_of id r h := by simp only [List.getElem?_nil, reduceCtorEq] at h
  epoch_le id r h := by simp only [List.getElem?_nil, reduceCtorEq] at h

/-- Only a renewal that has finished may be taken out of the slot. -/
theorem leave (h : s.Consistent) (id : Nat) (outcome : Result String)
    (hout : s.outcome? id = some outcome) : (s.leave id).Consistent := by
  by_cases hslot : s.slot = some id
  · rw [Session.leave, if_pos hslot]
    refine ⟨fun i hi => ?_, fun i r hr hnone he => ?_, h.epoch_le⟩
    · simp only [reduceCtorEq] at hi
    · -- It would be the one in the slot, which has finished.
      have hi := h.slot_of i r hr hnone he
      rw [hslot, Option.some.injEq] at hi
      subst hi
      have hnone' : s.outcome? id = none := outcome?_eq_none_of_isOutstanding ⟨r, hr, hnone⟩
      rw [hnone'] at hout
      simp only [reduceCtorEq] at hout
  · rw [leave_eq_self hslot]
    exact h

theorem record (h : s.Consistent) (id : Nat) (outcome : Result String) :
    (s.record id outcome).Consistent where
  of_slot i hi := by
    rcases h.of_slot i hi with ⟨r, hr, he⟩
    rw [renewals_record, hr]
    refine ⟨_, rfl, ?_⟩
    split <;> exact he
  slot_of i r hr hnone he := by
    rcases renewal_of_record hr with ⟨r', hr', -, heq⟩
    rw [heq hnone] at hr'
    exact h.slot_of i r hr' hnone he
  epoch_le i r hr := by
    rcases renewal_of_record hr with ⟨r', hr', he, -⟩
    rw [← he]
    exact h.epoch_le i r' hr'

/-- A renewal is only started when none is outstanding. -/
theorem publish (h : s.Consistent) (refresh : String) (hout : s.outstanding? = none) :
    (s.publish refresh s.epoch).2.Consistent where
  of_slot i hi := by
    simp only [Session.publish, Option.some.injEq] at hi
    subst hi
    exact ⟨{ refresh, epoch := s.epoch }, List.getElem?_concat_length, rfl⟩
  slot_of i r hr hnone he := by
    rcases renewal_of_publish hr with hr | ⟨rfl, -⟩
    · -- An older one would still be in the slot.
      have hsome := outstanding?_of_slot (h.slot_of i r hr hnone he) ⟨r, hr, hnone⟩
      rw [hout] at hsome
      simp only [reduceCtorEq] at hsome
    · rfl
  epoch_le i r hr := by
    rcases renewal_of_publish hr with hr | ⟨-, rfl⟩
    · exact h.epoch_le i r hr
    · exact Nat.le_refl _

/-- No renewal is of the epoch that begins when the session is ended. -/
theorem cleared (h : s.Consistent) : s.cleared.Consistent where
  of_slot i hi := by simp only [Session.cleared, reduceCtorEq] at hi
  slot_of i r hr _ he := by
    -- The next epoch is past the epochs of all renewals.
    simp only [Session.cleared] at hr he
    have hle := h.epoch_le i r hr
    omega
  epoch_le i r hr := by
    simp only [Session.cleared] at hr ⊢
    have hle := h.epoch_le i r hr
    omega

theorem finishes {id : Nat} {answer : Result Credentials} {now : Timestamp} {s' : Session}
    (h : s.Consistent) (hf : s.Finishes id answer now s') : s'.Consistent := by
  cases hf with
  | ignored hid => exact h
  | failed r e hid hanswer => exact h.record id _
  | kept r pair hid hanswer hepoch => exact (h.withStore _).record id _
  | dropped r pair hid hanswer hepoch => exact h.record id _

theorem begins {q : Request} {now : Timestamp} {rest : Operation Reply} {s' : Session}
    (h : s.Consistent) (hb : q.Begins now s rest s') : s'.Consistent := by
  cases hb with
  | returned reply store hread => exact h.withStore store
  | joined id store hread hout => exact h.withStore store
  | started refresh store hread hout hrefresh => exact (h.withStore _).publish refresh hout
  | established pair hq => exact h.withStore _
  | cleared hq => exact h.cleared

end Consistent

/-! ### What never changes -/

/-- A later session knows all renewals that an earlier one knew, and their outcomes. -/
structure Follows (s s' : Session) : Prop where
  renewal : ∀ (id : Nat) (r : Renewal), s.renewals[id]? = some r →
    ∃ r' : Renewal, s'.renewals[id]? = some r' ∧ r'.refresh = r.refresh ∧ r'.epoch = r.epoch ∧
      ∀ outcome, r.outcome = some outcome → r'.outcome = some outcome
  epoch_le : s.epoch ≤ s'.epoch

namespace Follows

theorem refl (s : Session) : s.Follows s :=
  ⟨fun _ r h => ⟨r, h, rfl, rfl, fun _ ho => ho⟩, Nat.le_refl _⟩

theorem trans {s s' s'' : Session} (h : s.Follows s') (h' : s'.Follows s'') : s.Follows s'' := by
  refine ⟨fun id r hr => ?_, Nat.le_trans h.epoch_le h'.epoch_le⟩
  rcases h.renewal id r hr with ⟨r', hr', href', hep', hout'⟩
  rcases h'.renewal id r' hr' with ⟨r'', hr'', href'', hep'', hout''⟩
  exact ⟨r'', hr'', href''.trans href', hep''.trans hep', fun o ho => hout'' o (hout' o ho)⟩

theorem of_eq {s s' : Session} (hr : s'.renewals = s.renewals) (he : s.epoch ≤ s'.epoch) :
    s.Follows s' :=
  ⟨fun _ r h => ⟨r, by rw [hr, h], rfl, rfl, fun _ ho => ho⟩, he⟩

/-- An outcome is recorded once. -/
theorem record (s : Session) (id : Nat) (outcome : Result String) (r : Renewal)
    (h : s.unfinished? id = some r) : s.Follows (s.record id outcome) := by
  refine ⟨fun i r' hr' => ?_, Nat.le_refl _⟩
  rw [renewals_record, hr']
  refine ⟨_, rfl, ?_⟩
  by_cases hid : id = i
  · -- There was no outcome that could have been lost.
    subst hid
    rw [unfinished?_eq_some_iff, hr', Option.some.injEq] at h
    rcases h with ⟨rfl, hnone⟩
    simp only [if_true, hnone, reduceCtorEq, false_implies, implies_true, and_self]
  · simp only [hid, if_false, imp_self, implies_true, and_self]

theorem publish (s : Session) (refresh : String) (epoch : Nat) :
    s.Follows (s.publish refresh epoch).2 := by
  refine ⟨fun i r hr => ⟨r, ?_, rfl, rfl, fun _ ho => ho⟩, Nat.le_refl _⟩
  have hlt := (List.getElem?_eq_some_iff.mp hr).1
  simp only [Session.publish]
  rw [List.getElem?_append_left hlt, hr]

theorem leave (s : Session) (id : Nat) : s.Follows (s.leave id) := by
  unfold Session.leave
  split
  · exact of_eq rfl (Nat.le_refl _)
  · exact refl s

theorem finishes {s s' : Session} {id : Nat} {answer : Result Credentials} {now : Timestamp}
    (hf : s.Finishes id answer now s') : s.Follows s' := by
  cases hf with
  | ignored hid => exact refl s
  | failed r e hid hanswer => exact record s id _ r hid
  | kept r pair hid hanswer hepoch =>
    -- Keeping the pair only touches the store.
    have hkept : s.Follows (s.kept pair now) := of_eq rfl (Nat.le_refl _)
    exact hkept.trans (record (s.kept pair now) id _ r hid)
  | dropped r pair hid hanswer hepoch => exact record s id _ r hid

theorem begins {s s' : Session} {q : Request} {now : Timestamp} {rest : Operation Reply}
    (hb : q.Begins now s rest s') : s.Follows s' := by
  cases hb with
  | returned reply store hread => exact of_eq rfl (Nat.le_refl _)
  | joined id store hread hout => exact of_eq rfl (Nat.le_refl _)
  | started refresh store hread hout hrefresh =>
    have hread : s.Follows { s with store := (store.get now refreshName).2 } :=
      of_eq rfl (Nat.le_refl _)
    exact hread.trans (publish _ refresh s.epoch)
  | established pair hq => exact of_eq rfl (Nat.le_refl _)
  | cleared hq => exact of_eq rfl (Nat.le_succ _)

theorem length_le {s s' : Session} (h : s.Follows s') : s.renewals.length ≤ s'.renewals.length := by
  rcases Nat.lt_or_ge s'.renewals.length s.renewals.length with hlt | hge
  · rcases h.renewal _ _ (List.getElem?_eq_getElem hlt) with ⟨r, hr, -⟩
    rw [List.getElem?_eq_none (Nat.le_refl _)] at hr
    simp only [reduceCtorEq] at hr
  · exact hge

theorem outcome? {s s' : Session} (h : s.Follows s') {id : Nat} {outcome : Result String}
    (ho : s.outcome? id = some outcome) : s'.outcome? id = some outcome := by
  rw [Session.outcome?, Option.bind_eq_some_iff] at ho
  rcases ho with ⟨r, hr, hr'⟩
  rcases h.renewal id r hr with ⟨r', hr'', -, -, hout⟩
  rw [Session.outcome?, hr'', Option.bind_some]
  exact hout outcome hr'

end Follows

/-! ### Runs -/

/-- A caller has returned, or waits for a renewal that was started. -/
def Serves (s : Session) (c : Caller) : Prop :=
  (∃ reply, c.rest = .done reply) ∨
    ∃ id, id < s.renewals.length ∧ c.rest = c.request.waiting id

theorem Serves.follows {s s' : Session} {c : Caller} (h : Serves s c) (hf : s.Follows s') :
    Serves s' c :=
  h.imp_right fun ⟨id, hid, hrest⟩ => ⟨id, Nat.lt_of_lt_of_le hid hf.length_le, hrest⟩

/-- A caller that has begun has returned or waits for a renewal that was started. -/
theorem serves_of_begins {s s' : Session} {q : Request} {now : Timestamp} {rest : Operation Reply}
    (h : s.Consistent) (hb : q.Begins now s rest s') : Serves s' { request := q, rest } := by
  cases hb with
  | returned reply store hread => exact Or.inl ⟨reply, rfl⟩
  | joined id store hread hout =>
    -- What is in the slot was started.
    rcases h.of_slot id ((outstanding?_eq_some_iff s id).mp hout).1 with ⟨r, hr, -⟩
    exact Or.inr ⟨id, (List.getElem?_eq_some_iff.mp hr).1, rfl⟩
  | started refresh store hread hout hrefresh =>
    refine Or.inr ⟨s.renewals.length, ?_, rfl⟩
    simp only [publish, List.length_append, List.length_singleton]
    omega
  | established pair hq => exact Or.inl ⟨_, rfl⟩
  | cleared hq => exact Or.inl ⟨_, rfl⟩

/-- A caller that goes on returns the outcome that it has waited for. -/
theorem Serves.goOn? {s s' : Session} {c c' : Caller} (h : Serves s c) {now : Timestamp}
    (hgoes : usage.goOn? now () c s = some (c', s')) :
    ∃ id outcome, c.rest = c.request.waiting id ∧ s.outcome? id = some outcome ∧
      c' = ⟨c.request, .done (c.request.reply outcome)⟩ ∧ s' = s.leave id := by
  obtain ⟨id, next, outcome, hrest, hout, rfl, rfl⟩ := Routine.goOn?_usage_eq_some_iff.mp hgoes
  rcases h with ⟨reply, hdone⟩ | ⟨id', -, hwaiting⟩
  · exact nomatch hrest.symm.trans hdone
  · obtain ⟨rfl, hnext⟩ := Routine.wait.inj (hrest.symm.trans hwaiting)
    obtain rfl := eq_of_heq hnext
    rw [Request.proceed_waiting]
    exact ⟨id, outcome, hwaiting, hout, rfl, rfl⟩

/-- Callers keep a session consistent and the others served. -/
theorem preserves : usage.Preserves Consistent Serves where
  come now q s h := by
    have hbegins := q.begins now s
    exact ⟨h.begins hbegins, serves_of_begins h hbegins, fun _ hc => hc.follows (.begins hbegins)⟩
  goOn now given c s c' s' h hc hgoes := by
    obtain ⟨id, outcome, -, hout, rfl, rfl⟩ := hc.goOn? hgoes
    exact ⟨h.leave id outcome hout, Or.inl ⟨_, rfl⟩, fun _ hc => hc.follows (.leave s id)⟩
  change now x s h := by
    have hfinishes := finishes x.1 x.2 now s
    exact ⟨h.finishes hfinishes, fun _ hc => hc.follows (.finishes hfinishes)⟩

namespace Traffic

/-- The session is consistent, and every caller has returned or waits for a renewal. -/
abbrev Sound (t : Traffic) : Prop := t.Holds Consistent Serves

/-- What an event does: a request is begun, an answer is recorded, a caller goes on, or nothing
happens. -/
inductive Steps (t : Traffic) : Timestamp × Event → Traffic → Prop
  | called (now : Timestamp) (q : Request) (rest : Operation Reply) (session : Session)
    (hbegins : q.Begins now t.state rest session) :
    Steps t (now, .call q) { state := session, callers := t.callers ++ [{ request := q, rest }] }
  | answered (now : Timestamp) (id : Nat) (reply : Result Credentials) (session : Session)
    (hfinishes : t.state.Finishes id reply now session) :
    Steps t (now, .answer id reply) { t with state := session }
  | resumed (now : Timestamp) (n : Nat) (q : Request) (id : Nat) (outcome : Result String)
    (hcaller : t.callers[n]? = some { request := q, rest := q.waiting id })
    (hout : t.state.outcome? id = some outcome) :
    Steps t (now, .resume n) {
      state := t.state.leave id
      callers := t.callers.set n { request := q, rest := .done (q.reply outcome) } }
  | idle (now : Timestamp) (n : Nat) : Steps t (now, .resume n) t

/-- Whoever waits for a renewal that has finished is resumed. -/
theorem step_resume_of_waiting (t : Traffic) (now : Timestamp) (n : Nat) (q : Request) (id : Nat)
    (outcome : Result String)
    (hcaller : t.callers[n]? = some { request := q, rest := q.waiting id })
    (hout : t.state.outcome? id = some outcome) :
    t.step (now, .resume n) = {
      state := t.state.leave id
      callers := t.callers.set n { request := q, rest := .done (q.reply outcome) } } := by
  refine usage.step_goOn_of_some hcaller (Routine.goOn?_usage_eq_some_iff.mpr ?_)
  refine ⟨id, _, outcome, rfl, hout, ?_⟩
  rw [Request.proceed_waiting]
  exact ⟨rfl, rfl⟩

/-- Whoever waits for a renewal that has not finished has to wait. -/
theorem step_resume_of_outcome?_eq_none (t : Traffic) (now : Timestamp) (n : Nat) (q : Request)
    (id : Nat) (hcaller : t.callers[n]? = some { request := q, rest := q.waiting id })
    (hout : t.state.outcome? id = none) : t.step (now, .resume n) = t := by
  simp only [step, Usage.step, hcaller, Option.bind_some, usage, Routine.usage, Request.waiting, hout,
    Option.map_none]

/-- Sound traffic only takes these steps. -/
theorem Sound.steps {t : Traffic} (h : t.Sound) (e : Timestamp × Event) : t.Steps e (t.step e) := by
  have hsteps := usage.steps t e
  change usage.Steps t e (t.step e) at hsteps
  generalize t.step e = t' at hsteps
  cases hsteps with
  | called now q => exact .called now q _ _ (q.begins now t.state)
  | wentOn now n given c c' session hcaller hgoes =>
    obtain ⟨id, outcome, hrest, hout, rfl, rfl⟩ := (h.callers n c hcaller).goOn? hgoes
    refine .resumed now n c.request id outcome ?_ hout
    rw [hcaller, ← hrest]
  | stayed now n given hstays => exact .idle now n
  | changed now x => exact .answered now x.1 x.2 _ (finishes x.1 x.2 now t.state)

theorem Steps.follows {t t' : Traffic} {e : Timestamp × Event} (h : t.Steps e t') :
    t.state.Follows t'.state := by
  cases h with
  | called now q rest session hbegins => exact Follows.begins hbegins
  | answered now id reply session hfinishes => exact Follows.finishes hfinishes
  | resumed now n q id outcome hcaller hout => exact Follows.leave t.state id
  | idle now n => exact Follows.refl t.state

theorem Sound.step {t : Traffic} (h : t.Sound) (e : Timestamp × Event) : (t.step e).Sound :=
  preserves.step h e

theorem sound_start (store : Store) : (start store).Sound :=
  Shared.holds_start (Consistent.start store)

/-- What every step of a run preserves holds at its end. -/
theorem run_induction {P : Traffic → Prop} {events : List (Timestamp × Event)}
    (hstep : ∀ t t' e, e ∈ events → t.Sound → t.Steps e t' → P t → P t') {t : Traffic} (h : t.Sound)
    (hP : P t) : P (t.run events) :=
  preserves.run_induction (fun t _ he ht => hstep t _ _ he ht (Sound.steps ht _)) h hP

/-- The invariant holds at every moment. -/
theorem sound_run {t : Traffic} (h : t.Sound) (events : List (Timestamp × Event)) :
    (t.run events).Sound :=
  preserves.run h events

/-- A later session follows an earlier one. -/
theorem follows_run {t : Traffic} (h : t.Sound) (events : List (Timestamp × Event)) :
    t.state.Follows (t.run events).state :=
  run_induction (P := fun t' => t.state.Follows t'.state)
    (fun _ _ _ _ _ hsteps hfollows => hfollows.trans hsteps.follows) h (Follows.refl t.state)

/-! ### One caller -/

/-- An event leaves a caller where it is, or it makes it return the outcome that it waited for. -/
theorem Steps.caller {t t' : Traffic} {e : Timestamp × Event} (hsteps : t.Steps e t') (n : Nat)
    (c : Caller) (hc : t.callers[n]? = some c) : t'.callers[n]? = some c ∨
      ∃ id outcome, c.rest = c.request.waiting id ∧ t.state.outcome? id = some outcome ∧
        t'.Returned n c.request (c.request.reply outcome) := by
  have hlt := (List.getElem?_eq_some_iff.mp hc).1
  cases hsteps with
  | called now q rest session hbegins =>
    left
    rw [List.getElem?_append_left hlt]
    exact hc
  | answered now id reply session hfinishes => exact Or.inl hc
  | resumed now m q id outcome hcaller hout =>
    by_cases hm : m = n
    · -- It is this caller that goes on.
      subst hm
      rw [hcaller, Option.some.injEq] at hc
      subst hc
      exact Or.inr ⟨id, outcome, rfl, hout, List.getElem?_set_self hlt⟩
    · left
      rw [List.getElem?_set_ne hm]
      exact hc
  | idle now m => exact Or.inl hc

/-- Caller `n` waits for a renewal or has returned its outcome. -/
def AnsweredBy (t : Traffic) (n : Nat) (q : Request) (id : Nat) : Prop :=
  t.Waits n q id ∨
    ∃ outcome, t.state.outcome? id = some outcome ∧ t.Returned n q (q.reply outcome)

/-- Whoever waits has nothing ahead but the outcome and its return. -/
theorem Waits.rest {t : Traffic} (h : t.Sound) {n : Nat} {q : Request} {id : Nat}
    (hw : t.Waits n q id) : t.callers[n]? = some { request := q, rest := q.waiting id } := by
  rcases hw with ⟨next, hc⟩
  rcases h.callers n _ hc with ⟨reply, hdone⟩ | ⟨id', -, hrest⟩
  · simp only [reduceCtorEq] at hdone
  · have hid : id = id' := by
      simp only [Request.waiting, Routine.wait.injEq] at hrest
      exact hrest.1
    subst hid
    have hrest' : .wait id next = q.waiting id := hrest
    rw [hc, hrest']

/-- A caller that has returned stays so. -/
theorem Steps.returned {t t' : Traffic} {e : Timestamp × Event} (hsteps : t.Steps e t') {n : Nat}
    {q : Request} {reply : Reply} (hr : t.Returned n q reply) : t'.Returned n q reply := by
  rcases hsteps.caller n _ hr with hc | ⟨id, outcome, hrest, -, -⟩
  · exact hc
  · simp only [Request.waiting, reduceCtorEq] at hrest

theorem Steps.answeredBy {t t' : Traffic} {e : Timestamp × Event} (hsteps : t.Steps e t')
    (h : t.Sound) {n : Nat} {q : Request} {id : Nat} (ha : t.AnsweredBy n q id) :
    t'.AnsweredBy n q id := by
  rcases ha with hw | ⟨outcome, hout, hr⟩
  · rcases hsteps.caller n _ (hw.rest h) with hc | ⟨id', outcome, hrest, hout, hret⟩
    · exact Or.inl ⟨_, hc⟩
    · -- The renewal that it has waited for is the one it is woken by.
      have hid : id = id' := by
        simp only [Request.waiting, Routine.wait.injEq] at hrest
        exact hrest.1
      subst hid
      exact Or.inr ⟨outcome, hsteps.follows.outcome? hout, hret⟩
  · exact Or.inr ⟨outcome, hsteps.follows.outcome? hout, hsteps.returned hr⟩

theorem returned_run {t : Traffic} (h : t.Sound) (events : List (Timestamp × Event)) {n : Nat}
    {q : Request} {reply : Reply} (hr : t.Returned n q reply) : (t.run events).Returned n q reply :=
  run_induction (P := fun t => t.Returned n q reply)
    (fun _ _ _ _ _ hsteps hr => hsteps.returned hr) h hr

/-- A caller that waits for a renewal gets its outcome and nothing else. -/
theorem answeredBy_run {t : Traffic} (h : t.Sound) (events : List (Timestamp × Event)) {n : Nat}
    {q : Request} {id : Nat} (ha : t.AnsweredBy n q id) : (t.run events).AnsweredBy n q id :=
  run_induction (P := fun t => t.AnsweredBy n q id)
    (fun _ _ _ _ h hsteps ha => hsteps.answeredBy h ha) h ha

/-- Once its renewal has finished, a caller that goes on returns the outcome. -/
theorem AnsweredBy.resume {t : Traffic} (h : t.Sound) (now : Timestamp) {n : Nat} {q : Request}
    {id : Nat} (ha : t.AnsweredBy n q id) (outcome : Result String)
    (hout : t.state.outcome? id = some outcome) :
    (t.step (now, .resume n)).Returned n q (q.reply outcome) := by
  rcases ha with hw | ⟨outcome', hout', hr⟩
  · have hc := hw.rest h
    rw [step_resume_of_waiting t now n q id outcome hc hout]
    exact List.getElem?_set_self (List.getElem?_eq_some_iff.mp hc).1
  · rw [hout, Option.some.injEq] at hout'
    subst hout'
    exact (h.steps (now, .resume n)).returned hr

/-- No caller that goes on starts a renewal. -/
theorem Steps.renewals_resume {t t' : Traffic} {now : Timestamp} {n : Nat}
    (hsteps : t.Steps (now, .resume n) t') : t'.state.renewals = t.state.renewals := by
  cases hsteps with
  | resumed now n q id outcome hcaller hout => exact renewals_leave t.state id
  | idle now n => rfl

end Traffic

end Wager.Session
