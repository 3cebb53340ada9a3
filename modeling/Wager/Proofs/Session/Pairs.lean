import Wager.Proofs.Session.SigningOut
import Wager.Proofs.Store.Entries

/-!
# Pairs of credentials

What is in the store of a session while its callers come and go, and that it is one pair.

A pair is issued by one event, which begins a session with it or brings it as the answer to a
renewal, and both its entries are written in that event. From then on the entries part company:
a caller that finds one of them expired removes that one alone. So the store need not hold a whole
pair, only what readers have left of it, and `Session.Holds` says just that: each entry is the one of
the pair that was issued last, or it is gone because the clock has shown some reader a time at which
it had expired. All three kinds of events preserve this for a reason of their own. Readers only
remove what has expired, a pair that is kept replaces both entries, and ending the session removes
both.

That the two stay paired is a consequence: of the two times of expiry the one of the access
credential is not later, so on a clock that is never set back whoever finds the refresh credential
gone would find the access credential expired.

What the callers read between two waits they read at one time. Nothing is lost by it: what has
expired when the first of them looks has expired when the last one does.

## Main definitions

* `Session.Issue`: A pair that was issued, and when.
* `Session.Datable`: A time at which a pair can be kept.
* `Session.Holds`: What a store holds of a pair.
* `Session.Reads`: An operation that only reads the store up to its next wait.
* `Traffic.Issues`, `Traffic.issuing`, `Traffic.lastIssue`: The events that issue pairs, and the pair
  that was issued last.
* `Session.Together`: Both credentials of a pair can be read.

## Theorems

* `Session.Reads.proceed`: What readers preserve, an operation that only reads preserves.
* `Traffic.holds_step`, `Traffic.holds_run`: The store holds what was issued last.
* `Traffic.lastIssue_eq_some`: Where the last pair comes from.
* `Traffic.paired`: Whoever can read the access credential can read the refresh credential that was
  issued with it.
-/

namespace Wager

/-! ### Times of expiry -/

/-- What has expired does not come back. -/
theorem StoredCredential.isExpired_of_le {c : StoredCredential} {a b : Timestamp}
    (hle : a.le b = true) (h : c.isExpired a = true) : c.isExpired b = true :=
  Timestamp.le_trans h hle

/-- Some hours after a proper time it is a proper time, unless there is no such year. -/
theorem Timestamp.IsProper.addHours {t : Timestamp} (h : t.IsProper) {hours most : Nat}
    (hle : hours ≤ most) (hmost : (t.addHours most).inRange = true) : (t.addHours hours).IsProper := by
  have hrange := h.inRange
  have hnanos := h.nanos
  simp only [Timestamp.inRange, Bool.and_eq_true, decide_eq_true_eq] at hrange hmost
  simp only [Timestamp.addHours, addSeconds] at hmost
  refine ⟨?_, ?_⟩
  · simp only [Timestamp.inRange, Bool.and_eq_true, decide_eq_true_eq]
    simp only [Timestamp.addHours, addSeconds]
    omega
  · -- Whole hours change neither the second of the minute nor the nanoseconds.
    simp only [Timestamp.addHours, addSeconds]
    omega

namespace Session

/-- A pair that was issued, and the time at which it was kept. -/
structure Issue where
  pair : Credentials
  time : Timestamp

namespace Issue

/-- The access credential as it is kept. -/
def access (i : Issue) : StoredCredential := ⟨i.pair.access, i.time.addHours accessHours⟩

/-- The refresh credential as it is kept. -/
def refresh (i : Issue) : StoredCredential := ⟨i.pair.refresh, i.time.addHours refreshHours⟩

/-- The access credential does not outlast the refresh credential. -/
theorem expiresAt_le (i : Issue) : i.access.expiresAt.le i.refresh.expiresAt = true := by
  simp only [Timestamp.le, Bool.or_eq_true, decide_eq_true_eq]
  left
  simp only [access, refresh, accessHours, refreshHours, Timestamp.addHours, Timestamp.addSeconds]
  omega

theorem isExpired_access (i : Issue) {now : Timestamp} (h : i.refresh.isExpired now = true) :
    i.access.isExpired now = true :=
  StoredCredential.isExpired_of_le (c := i.access) h i.expiresAt_le

/-- What has just been issued has not expired. -/
theorem isExpired_access_time (i : Issue) : i.access.isExpired i.time = false := by
  have hlater : i.time.seconds < i.access.expiresAt.seconds := by
    simp only [access, accessHours, Timestamp.addHours, Timestamp.addSeconds]
    omega
  simp only [StoredCredential.isExpired, Timestamp.le, Bool.or_eq_false_iff, Bool.and_eq_false_iff,
    decide_eq_false_iff_not, beq_eq_false_iff_ne]
  omega

end Issue

/-- A time at which a pair can be kept: the times at which its credentials expire are within the
years there are, so that they can be written. -/
structure Datable (now : Timestamp) : Prop where
  proper : now.IsProper
  inRange : (now.addHours refreshHours).inRange = true

theorem Datable.access {now : Timestamp} (h : Datable now) : (now.addHours accessHours).IsProper :=
  h.proper.addHours (by decide) h.inRange

theorem Datable.refresh {now : Timestamp} (h : Datable now) : (now.addHours refreshHours).IsProper :=
  h.proper.addHours (Nat.le_refl _) h.inRange

/-! ### What a store holds -/

/-- What a store holds of the pair that was issued last: each entry, unless a reader has found it
expired. Where none was issued there is nothing. -/
def Holds (readings : List Timestamp) : Option Issue → Store → Prop
  | none, s => s.stored? accessName = none ∧ s.stored? refreshName = none
  | some i, s => s.Keeps accessName i.access readings ∧ s.Keeps refreshName i.refresh readings

theorem accessName_ne : accessName ≠ refreshName := by decide

/-- A reader leaves a pair, or what is left of it. -/
theorem Holds.get {readings : List Timestamp} {issue : Option Issue} {s : Store}
    (h : Holds readings issue s) (hw : s.IsWorking) {now : Timestamp} (hnow : now ∈ readings)
    (name : String) : Holds readings issue (s.get now name).2 := by
  cases issue with
  | none =>
    -- Where there is nothing, a reader leaves nothing.
    have hnothing : ∀ other, s.stored? other = none → (s.get now name).2.stored? other = none := by
      intro other hother
      by_cases hname : name = other
      · rw [hname, Store.stored?_get_self s now other hw, Store.lasting?_of_none hother]
      · rw [Store.stored?_get_of_ne s now hname, hother]
    exact ⟨hnothing accessName h.1, hnothing refreshName h.2⟩
  | some i => exact ⟨h.1.get hw hnow name, h.2.get hw hnow name⟩

/-- Both entries are written when a pair is kept. -/
theorem holds_kept (readings : List Timestamp) (pair : Credentials) {now : Timestamp} (s : Session)
    (hw : s.store.IsWorking) (hnow : Datable now) :
    Holds readings (some ⟨pair, now⟩) (s.kept pair now).store := by
  refine ⟨Or.inl ?_, Or.inl ?_⟩
  · simp only [kept, write]
    rw [Store.stored?_set_of_ne _ _ _ accessName_ne.symm,
      Store.stored?_set_self s.store accessName pair.access hw hnow.access]
    rfl
  · simp only [kept, write]
    rw [Store.stored?_set_self _ refreshName pair.refresh
      (Store.isWorking_set s.store accessName _ _ hw) hnow.refresh]
    rfl

/-- Both entries are removed when the session is ended. -/
theorem holds_cleared (readings : List Timestamp) (s : Session) (hw : s.store.IsWorking) :
    Holds readings none s.cleared.store := by
  refine ⟨?_, ?_⟩
  · simp only [cleared]
    rw [Store.stored?_remove_of_ne _ accessName_ne.symm, Store.stored?_remove_self s.store _ hw]
  · exact Store.stored?_remove_self _ refreshName (Store.isWorking_remove s.store accessName hw)

/-! ### Operations that only read -/

/-- Up to its next wait, an operation reads the store or leaves it alone. -/
def Reads {α : Type} : Operation α → Prop
  | .done _ => True
  | .act effect next => ∀ now s, ((effect now s).store = s.store ∨
      ∃ name, (effect now s).store = (s.store.get now name).2) ∧ Reads (next now s)
  | .wait _ _ => True

namespace Reads

variable {α β : Type}

theorem bind {r : Operation α} {k : α → Operation β} (hr : Reads r) (hk : ∀ a, Reads (k a)) :
    Reads (r >>= k) := by
  induction r with
  | done a => exact hk a
  | act effect next ih => exact fun now s => ⟨(hr now s).1, ih now s (hr now s).2⟩
  | wait w next => exact trivial

theorem look (f : Session → α) : Reads (Routine.look f) := fun _ _ => ⟨Or.inl rfl, trivial⟩

theorem change {f : Session → Session} (h : ∀ s, (f s).store = s.store) : Reads (Routine.change f) :=
  fun _ s => ⟨Or.inl (h s), trivial⟩

theorem credential (name : String) : Reads (credential name) :=
  fun _ _ => ⟨Or.inr ⟨name, rfl⟩, trivial⟩

theorem under {r : Operation α} (l : Lock) (h : Reads r) : Reads (under l r) :=
  bind (change fun _ => rfl) fun _ => bind h fun _ => bind (change fun _ => rfl) fun _ => trivial

theorem joinRenewal : Reads joinRenewal := by
  refine under .slot (bind (look _) ?_)
  rintro (_ | id)
  · refine bind (credential refreshName) ?_
    rintro (_ | refresh)
    · exact trivial
    · refine bind (under .epoch (look _)) fun epoch => bind ?_ fun id => trivial
      exact fun _ s => ⟨Or.inl rfl, trivial⟩
  · exact trivial

theorem renew : Reads renew := by
  refine bind joinRenewal ?_
  rintro (e | id)
  · exact trivial
  · exact trivial

theorem access : Reads access := by
  refine bind (credential accessName) ?_
  rintro (_ | token)
  · refine bind (under .slot (look _)) fun outstanding => ?_
    have hrenew : Reads (Session.renew >>= fun outcome => pure (outcome.map some)) :=
      bind renew fun _ => trivial
    split
    · refine bind (credential refreshName) fun refresh => ?_
      split
      · exact trivial
      · exact hrenew
    · exact hrenew
  · exact trivial

/-- What readers preserve, an operation that only reads preserves. -/
theorem proceed {r : Operation α} (hr : Reads r) {P : Store → Prop} {now : Timestamp}
    (hP : ∀ s name, P s → P (s.get now name).2) (s : Session) (hs : P s.store) :
    P (r.proceed now s).2.store := by
  induction r generalizing s with
  | done a => exact hs
  | act effect next ih =>
    refine ih now s (hr now s).2 (effect now s) ?_
    rcases (hr now s).1 with heq | ⟨name, heq⟩
    · rw [heq]
      exact hs
    · rw [heq]
      exact hP s.store name hs
  | wait w next => exact hs

end Reads

/-- Beginning and ending a session apart, requests only read the store. -/
theorem Request.reads (q : Request) (hbegin : ∀ pair, q ≠ .establish pair) (hend : q ≠ .clear) :
    Reads q.operation := by
  cases q with
  | access => exact Reads.bind .access fun _ => trivial
  | renew => exact Reads.bind .renew fun _ => trivial
  | isOpen =>
    have hopen : Reads Session.isOpen := Reads.bind (.credential refreshName) fun _ => trivial
    exact Reads.bind hopen fun _ => trivial
  | establish pair => exact absurd rfl (hbegin pair)
  | clear => exact absurd rfl hend

/-! ### Events that issue pairs -/

/-- A renewal has not finished and is of the present epoch, so a pair that it brings is kept. -/
def isAwaited (s : Session) (id : Nat) : Bool := (s.unfinished? id).any fun r => r.epoch == s.epoch

/-- An awaited renewal keeps the pair that it brings; of any other answer the store knows nothing. -/
theorem store_finish (s : Session) (id : Nat) (answer : Result Credentials) (now : Timestamp) :
    (∃ pair, answer = .ok pair ∧ s.isAwaited id = true ∧
      (s.finish id answer now).store = (s.kept pair now).store) ∨
    (∀ pair, answer = .ok pair → s.isAwaited id = false) ∧
      (s.finish id answer now).store = s.store := by
  have hfinishes := finishes id answer now s
  generalize s.finish id answer now = s' at hfinishes
  unfold isAwaited
  cases hfinishes with
  | ignored hid =>
    right
    rw [hid]
    exact ⟨fun _ _ => rfl, rfl⟩
  | failed r e hid hanswer =>
    right
    rw [hanswer]
    exact ⟨nofun, rfl⟩
  | kept r pair hid hanswer hepoch =>
    left
    rw [hid, hepoch]
    exact ⟨pair, hanswer, by simp only [Option.any_some, beq_self_eq_true], rfl⟩
  | dropped r pair hid hanswer hepoch =>
    right
    rw [hid]
    refine ⟨fun _ _ => ?_, rfl⟩
    simp only [Option.any_some, beq_eq_false_iff_ne]
    exact hepoch.symm

namespace Traffic

/-- An event issues a pair: a session begins with it, or an awaited renewal brings it. -/
inductive Issues (t : Traffic) : Timestamp × Event → Issue → Prop
  | established (now : Timestamp) (pair : Credentials) :
    Issues t (now, .call (.establish pair)) ⟨pair, now⟩
  | renewed (now : Timestamp) (id : Nat) (pair : Credentials) (h : t.state.isAwaited id = true) :
    Issues t (now, .answer id (.ok pair)) ⟨pair, now⟩

/-- The pair that was issued last when an event has happened, unless the session was ended since;
`before` was the last one before it. -/
def issuing (t : Traffic) (before : Option Issue) : Timestamp × Event → Option Issue
  | (now, .call (.establish pair)) => some ⟨pair, now⟩
  | (_, .call .clear) => none
  | (now, .answer id (.ok pair)) => if t.state.isAwaited id then some ⟨pair, now⟩ else before
  | _ => before

/-- The pair that was issued last when some events have happened, unless the session was ended
since. -/
def lastIssue (t : Traffic) (before : Option Issue) : List (Timestamp × Event) → Option Issue
  | [] => before
  | e :: events => (t.step e).lastIssue (t.issuing before e) events

theorem issues_of_issuing {t : Traffic} {before : Option Issue} {e : Timestamp × Event} {i : Issue}
    (h : t.issuing before e = some i) : before = some i ∨ t.Issues e i := by
  unfold issuing at h
  split at h
  · rw [← Option.some.inj h]
    exact Or.inr (.established _ _)
  · exact nomatch h
  · split at h
    · rename_i hawaited
      rw [← Option.some.inj h]
      exact Or.inr (.renewed _ _ _ hawaited)
    · exact Or.inl h
  · exact Or.inl h

/-- The pair that was issued last was there before, or one of the events has issued it. -/
theorem lastIssue_eq_some {t : Traffic} {before : Option Issue} {events : List (Timestamp × Event)}
    {i : Issue} (h : t.lastIssue before events = some i) : before = some i ∨
      ∃ earlier e later, events = earlier ++ e :: later ∧ (t.run earlier).Issues e i := by
  induction events generalizing t before with
  | nil => exact Or.inl h
  | cons e events ih =>
    rcases ih h with hbefore | ⟨earlier, e', later, hsplit, hissues⟩
    · -- It is the last one right after the first of the events.
      rcases issues_of_issuing hbefore with hold | hissues
      · exact Or.inl hold
      · exact Or.inr ⟨[], e, events, rfl, hissues⟩
    · refine Or.inr ⟨e :: earlier, e', later, ?_, hissues⟩
      rw [hsplit, List.cons_append]

/-! ### The store of a session -/

theorem step_establish (t : Traffic) (pair : Credentials) (now : Timestamp) :
    t.step (now, .call (.establish pair)) = {
      state := t.state.kept pair now
      callers := t.callers ++ [{ request := .establish pair, rest := .done .done }] } := by
  have hproceed : (Request.establish pair).operation.proceed now t.state
      = (((establish pair).proceed now t.state).1.bind fun _ => .done .done).proceed now
        ((establish pair).proceed now t.state).2 :=
    Routine.proceed_bind now (establish pair) _ t.state
  rw [proceed_establish] at hproceed
  rw [step_call, hproceed]
  rfl

/-- No caller that goes on touches the store. -/
theorem Steps.store_resume {t t' : Traffic} {now : Timestamp} {n : Nat}
    (hsteps : t.Steps (now, .resume n) t') : t'.state.store = t.state.store := by
  cases hsteps with
  | resumed now n q id outcome hcaller hout => exact store_leave t.state id
  | idle now n => rfl

section

variable {t : Traffic} {readings : List Timestamp} {before : Option Issue}

/-- Every event leaves in the store what was issued last. -/
theorem holds_step (h : t.Sound) (hw : t.state.store.IsWorking)
    (hholds : Holds readings before t.state.store) (e : Timestamp × Event) (he : e.1 ∈ readings)
    (hdatable : Datable e.1) : Holds readings (t.issuing before e) (t.step e).state.store := by
  rcases e with ⟨now, q | n | ⟨id, answer⟩⟩
  · -- A request that only reads leaves the pair that was there.
    have hreads : ∀ q : Request, Reads q.operation →
        Holds readings before (t.step (now, .call q)).state.store := by
      intro q hq
      refine (hq.proceed (P := fun s => s.IsWorking ∧ Holds readings before s) ?_ t.state
        ⟨hw, hholds⟩).2
      exact fun s name hs => ⟨Store.isWorking_get s now name hs.1, hs.2.get hs.1 he name⟩
    cases q with
    | access => exact hreads .access (Request.reads _ nofun nofun)
    | renew => exact hreads .renew (Request.reads _ nofun nofun)
    | isOpen => exact hreads .isOpen (Request.reads _ nofun nofun)
    | establish pair =>
      rw [step_establish]
      exact holds_kept readings pair t.state hw hdatable
    | clear => exact holds_cleared readings t.state hw
  · -- A caller that goes on does not look at the store.
    rw [(h.steps (now, .resume n)).store_resume]
    exact hholds
  · have hstore := store_finish t.state id answer now
    have hstep : (t.step (now, .answer id answer)).state = t.state.finish id answer now := rfl
    rw [hstep]
    rcases hstore with ⟨pair, rfl, hawaited, hkept⟩ | ⟨hawaited, hsame⟩
    · rw [hkept]
      simp only [issuing, hawaited, if_true]
      exact holds_kept readings pair t.state hw hdatable
    · rw [hsame]
      cases answer with
      | error e => exact hholds
      | ok pair =>
        simp only [issuing, hawaited pair rfl, Bool.false_eq_true, if_false]
        exact hholds

/-- The store holds what was issued last, at every moment. -/
theorem holds_run (h : t.Sound) (hw : t.state.store.IsWorking)
    (hholds : Holds readings before t.state.store) {events : List (Timestamp × Event)}
    (hreadings : ∀ e ∈ events, e.1 ∈ readings) (hdatable : ∀ e ∈ events, Datable e.1) :
    Holds readings (t.lastIssue before events) (t.run events).state.store := by
  induction events generalizing t before with
  | nil => exact hholds
  | cons e events ih =>
    rw [List.forall_mem_cons] at hreadings hdatable
    have hstep := holds_step h hw hholds e hreadings.1 hdatable.1
    exact ih (h.step e) ((h.steps e).isWorking hw) hstep hreadings.2 hdatable.2

end

end Traffic

/-! ### Reading a pair -/

/-- Both credentials of a pair can be read, from the entries that were written when the pair was
issued. -/
structure Together (s : Store) (i : Issue) (now : Timestamp) : Prop where
  access : (s.get now accessName).1 = some i.pair.access
  refresh : (s.get now refreshName).1 = some i.pair.refresh
  access_entry : s.stored? accessName = some i.access
  refresh_entry : s.stored? refreshName = some i.refresh
  expiry : i.access.expiresAt.le i.refresh.expiresAt = true

/-- On a clock that is not set back, whoever can read an access credential can read the refresh
credential that was issued with it. -/
theorem together_of_holds {s : Store} {readings : List Timestamp} {issue : Option Issue}
    {now : Timestamp} {value : String} (hholds : Holds readings issue s) (hw : s.IsWorking)
    (hclock : ∀ reading ∈ readings, reading.le now = true)
    (hread : (s.get now accessName).1 = some value) :
    ∃ i, issue = some i ∧ value = i.pair.access ∧ Together s i now := by
  have hget := Store.get_eq s now accessName hw
  rw [hread] at hget
  cases issue with
  | none =>
    -- There would have to be an entry.
    rw [Store.lasting?_of_none hholds.1, Option.map_none] at hget
    exact absurd hget (Option.some_ne_none value)
  | some i =>
    obtain ⟨haccess, hrefresh⟩ := hholds
    rcases haccess with haccess | ⟨hnone, -⟩
    · cases hexpired : i.access.isExpired now with
      | true =>
        rw [Store.lasting?_of_expired haccess hexpired, Option.map_none] at hget
        exact absurd hget (Option.some_ne_none value)
      | false =>
        rw [Store.lasting?_of_fresh haccess hexpired, Option.map_some, Option.some.injEq] at hget
        -- A refresh credential that has expired has outlasted the access credential.
        have hlasts : i.refresh.isExpired now = false :=
          Bool.eq_false_iff.mpr fun h => Bool.eq_false_iff.mp hexpired (i.isExpired_access h)
        rcases hrefresh with hrefresh | ⟨-, reading, hmem, hgone⟩
        · refine ⟨i, rfl, hget, ?_, ?_, haccess, hrefresh, i.expiresAt_le⟩
          · rw [hread, hget]
            rfl
          · rw [Store.get_eq s now refreshName hw, Store.lasting?_of_fresh hrefresh hlasts]
            rfl
        · exact absurd (StoredCredential.isExpired_of_le (hclock reading hmem) hgone)
            (Bool.eq_false_iff.mp hlasts)
    · rw [Store.lasting?_of_none hnone, Option.map_none] at hget
      exact absurd hget (Option.some_ne_none value)

namespace Traffic

/-- Pairs stay together. In a working store that held one pair at most to begin with, whatever comes
in whatever order, on a clock that is never set back: whoever can read the access credential can read
the refresh credential that was issued with it, by the one event that has issued both or before all
of them. -/
theorem paired (store : Store) (hw : store.IsWorking) (first : Option Issue) (since : Timestamp)
    (hfirst : Holds [since] first store) (events : List (Timestamp × Event)) (now : Timestamp)
    (hclock : (since :: (events.map Prod.fst ++ [now])).Pairwise fun a b => a.le b = true)
    (hdatable : ∀ e ∈ events, Datable e.1) (value : String)
    (hread : (((start store).run events).state.store.get now accessName).1 = some value) :
    ∃ i, value = i.pair.access ∧ Together ((start store).run events).state.store i now ∧
      (first = some i ∨ ∃ earlier e later, events = earlier ++ e :: later ∧
        ((start store).run earlier).Issues e i) := by
  have hsound := sound_start store
  -- What the clock has shown to readers is what it has shown so far.
  have hbegin : Holds (since :: events.map Prod.fst) first store := by
    cases first with
    | none => exact hfirst
    | some i => exact ⟨hfirst.1.mono (by simp), hfirst.2.mono (by simp)⟩
  have hreadings : ∀ e ∈ events, e.1 ∈ since :: events.map Prod.fst :=
    fun e he => List.mem_cons_of_mem since (List.mem_map_of_mem he)
  have hholds := holds_run hsound hw hbegin hreadings hdatable
  have hbefore : ∀ reading ∈ since :: events.map Prod.fst, reading.le now = true := by
    rw [← List.cons_append, List.pairwise_append] at hclock
    exact fun reading hmem => hclock.2.2 reading hmem now List.mem_cons_self
  rcases together_of_holds hholds (isWorking_run hsound hw events) hbefore hread
    with ⟨i, hlast, hvalue, htogether⟩
  exact ⟨i, hvalue, htogether, lastIssue_eq_some hlast⟩

/-- A session that begins and is renewed after an hour, when the access credential was looked for in
vain. -/
theorem paired_sample :
    let clock : Nat → Timestamp := fun minutes => { seconds := 60 * minutes, nanos := 0 }
    let events : List (Timestamp × Event) :=
      [(clock 0, .call (.establish { access := "a", refresh := "r" })), (clock 61, .call .access),
        (clock 62, .answer 0 (.ok { access := "b", refresh := "s" })), (clock 62, .resume 1)]
    ∃ i, "b" = i.pair.access ∧
      Together ((start .inMemory).run events).state.store i (clock 63) ∧
      (none = some i ∨ ∃ earlier e later, events = earlier ++ e :: later ∧
        ((start .inMemory).run earlier).Issues e i) := by
  intro clock events
  have hdatable : ∀ minutes ∈ [0, 61, 62], Datable (clock minutes) := by
    intro minutes hminutes
    refine ⟨⟨?_, Or.inl (show 0 < 1000000000 by decide)⟩, ?_⟩
    · revert minutes
      decide +kernel
    · revert minutes
      decide +kernel
  refine paired .inMemory trivial none (clock 0) ⟨rfl, rfl⟩ events (clock 63) (by decide +kernel) ?_ "b"
    (by decide +kernel)
  simp only [events, List.forall_mem_cons]
  exact ⟨hdatable 0 (by decide), hdatable 61 (by decide), hdatable 62 (by decide),
    hdatable 62 (by decide), fun _ h => absurd h List.not_mem_nil⟩

end Traffic

end Session

end Wager
