import Wager.Proofs.Remote.Authorized
import Wager.Proofs.Session.Traffic

/-!
# The outcome of a renewal

Which outcome a renewal has, and what it leaves behind.

What is received for its one request decides the outcome (`Judged`). This is told twice. A renewal
that nobody interferes with is followed from its beginning to its end, the exchange with the server
included (`Service.Renews`). The answer to a renewal that callers wait for is followed to each of
them, whatever else goes on (`Concluded`). Then the session may have been ended while the server was
asked, and a new pair is dropped as if the session had expired; all other outcomes are as ever.

## Main definitions

* `writtenTo`: What is written of a pair.
* `Ends`, `Concluded`: How a renewal ends, and what comes of that among other traffic.
* `Service.received?`, `Service.requested`: The request of a renewal, and what is received for it.
* `Service.Renews`: What comes of a renewal that nobody interferes with.

## Theorems

* `concluded`: All who wait get one outcome.
* `Service.answers_ask`: The answer is made of what is received.
* `Service.renews_alone`: The outcome of a renewal that nobody interferes with.
* `Service.renews`: The outcome of a renewal.
-/

namespace Wager

/-! ### A caller that asks for a renewal -/

namespace Session

/-- Without a refresh credential there is no renewal. -/
theorem proceed_renew_of_none (now : Timestamp) (s : Session) (hout : s.outstanding? = none)
    (hrefresh : (s.store.get now refreshName).1 = none) :
    renew.proceed now s = (.done (.error .authExpired), (s.read refreshName now).2) := by
  rw [← Routine.bind_done renew, proceed_renew_of_error _ now s _ _
    (proceed_joinRenewal_of_none now s hout hrefresh)]
  rfl

/-- With one a renewal is started and waited for. -/
theorem proceed_renew_of_refresh (now : Timestamp) (s : Session) {refresh : String}
    (hout : s.outstanding? = none) (hrefresh : (s.store.get now refreshName).1 = some refresh) :
    renew.proceed now s
      = (.wait s.renewals.length (afterwards s.renewals.length),
        ((s.read refreshName now).2.publish refresh s.epoch).2) := by
  rw [← Routine.bind_done renew, proceed_renew_of_ok _ now s _ _
    (proceed_joinRenewal_of_refresh now s refresh hout hrefresh)]
  simp only [Routine.bind_done]

/-- A caller that asks for a renewal while none is outstanding waits for a new one. -/
theorem Traffic.waits_call_renew (t : Traffic) (now : Timestamp) {refresh : String}
    (hout : t.state.outstanding? = none)
    (hrefresh : (t.state.store.get now refreshName).1 = some refresh) :
    (t.step (now, .call .renew)).Waits t.callers.length .renew t.state.renewals.length := by
  have hproceed : Request.renew.operation.proceed now t.state = _ :=
    proceed_renew_of_ok (fun outcome => .done (Reply.renew outcome)) now t.state _ _
      (proceed_joinRenewal_of_refresh now t.state refresh hout hrefresh)
  rw [Traffic.step_call, hproceed]
  exact ⟨_, List.getElem?_concat_length⟩

section

variable {τ : Type} (clock : τ → Timestamp)
  (answer : (id : Nat) → StateM (Session × τ) (Result String)) {s : Session} {t : τ}

theorem run_renew_of_none (hout : s.outstanding? = none)
    (hrefresh : (s.store.get (clock t) refreshName).1 = none) :
    renew.run clock answer (s, t)
      = (.error .authExpired, ((s.read refreshName (clock t)).2, t)) := by
  rw [Routine.run_proceed, proceed_renew_of_none (clock t) s hout hrefresh]
  rfl

theorem run_renew_of_refresh (hout : s.outstanding? = none) {refresh : String}
    (hrefresh : (s.store.get (clock t) refreshName).1 = some refresh) :
    let started := ((s.read refreshName (clock t)).2.publish refresh s.epoch).2
    let (outcome, renewed) := answer s.renewals.length (started, t)
    renew.run clock answer (s, t)
      = (outcome, (renewed.1.leave s.renewals.length, renewed.2)) := by
  rw [Routine.run_proceed, proceed_renew_of_refresh (clock t) s hout hrefresh]
  simp only [Routine.run]
  rw [Routine.run_proceed, proceed_afterwards]
  rfl

end

end Session

namespace Remote

section

open Session (accessName refreshName names IsRotated Traffic)

/-- Both credentials of a pair are written from one instant on, for one hour and for 720. -/
def writtenTo (i : Session.Issue) (store : Store) : Store :=
  (store.set accessName i.pair.access (i.time.addHours 1)).set refreshName i.pair.refresh
    (i.time.addHours 720)

/-! ### Among other traffic -/

/-- How a renewal of a session ends: what it leaves of the store, and its outcome. -/
inductive Ends (s : Session) (r : Renewal) (answer : Result Credentials) (time : Timestamp) :
    Store → Result String → Prop
  | kept (pair : Credentials) (hanswer : answer = .ok pair) (hepoch : r.epoch = s.epoch) :
    Ends s r answer time (writtenTo ⟨pair, time⟩ s.store) (.ok pair.access)
  | failed (error : Error) (hanswer : answer = .error error) :
    Ends s r answer time s.store (.error (Session.renewalError error))
  | dropped (pair : Credentials) (hanswer : answer = .ok pair) (hepoch : r.epoch ≠ s.epoch) :
    Ends s r answer time s.store (.error .authExpired)

/-- A renewal that ends touches nothing but the store and its outcome. -/
theorem ends {s : Session} {id : Nat} {r : Renewal} (hid : s.unfinished? id = some r)
    (answer : Result Credentials) (time : Timestamp) :
    ∃ store result, Ends s r answer time store result ∧
      s.finish id answer time = ({ s with store } : Session).record id result := by
  cases answer with
  | error error => exact ⟨_, _, .failed error rfl, s.finish_error id error time r hid⟩
  | ok pair =>
    by_cases hepoch : s.epoch = r.epoch
    · exact ⟨_, _, .kept pair rfl hepoch.symm, s.finish_ok id pair time r hid hepoch⟩
    · exact ⟨_, _, .dropped pair rfl (Ne.symm hepoch), s.finish_ok_of_ne id pair time r hid hepoch⟩

namespace Ends

variable {s : Session} {r : Renewal} {answer : Result Credentials} {time : Timestamp}
  {store : Store} {result : Result String} {received : Option (Except Failure Reply)}

/-- What is received decides the outcome, unless a pair comes that is dropped. -/
theorem judged (h : Ends s r answer time store result) (hanswers : Answers received answer)
    (hcondition : r.epoch = s.epoch ∨
      ∀ reply pair, received = some (.ok reply) → ¬ reply.Brings pair) :
    Judged received result := by
  have hjudged := hanswers.judged
  cases h with
  | kept pair hanswer hepoch =>
    rw [hanswer] at hjudged
    exact hjudged
  | failed error hanswer =>
    rw [hanswer] at hjudged
    exact hjudged
  | dropped pair hanswer hepoch =>
    -- It was brought by some reply.
    rw [hanswer] at hjudged
    obtain ⟨reply, pair', hreceived, hbrings, -⟩ := (hjudged.ok_iff pair.access).mp rfl
    exact absurd hbrings (hcondition.resolve_left hepoch reply pair' hreceived)

theorem store_eq_of_brings (h : Ends s r answer time store result)
    (hanswers : Answers received answer) {reply : Reply} {pair : Credentials}
    (hreceived : received = some (.ok reply)) (hbrings : reply.Brings pair)
    (hepoch : r.epoch = s.epoch) : store = writtenTo ⟨pair, time⟩ s.store := by
  have hok := hanswers.ok reply pair hreceived hbrings
  cases h with
  | kept pair' hanswer _ =>
    rw [hok, Except.ok.injEq] at hanswer
    rw [hanswer]
  | failed error hanswer => exact nomatch hok.symm.trans hanswer
  | dropped _ _ hne => exact absurd hepoch hne

end Ends

/-- What comes of the answer to a renewal: the traffic before it and after it, and the outcome. -/
structure Concluded (received : Option (Except Failure Reply)) (t : Traffic) (id : Nat)
    (r : Renewal) (time : Timestamp) (result : Result String) (t' : Traffic) : Prop where
  /-- What is received decides the outcome, except of a pair that comes when the session was ended.
  -/
  judged : r.epoch = t.state.epoch ∨
    (∀ reply pair, received = some (.ok reply) → ¬ reply.Brings pair) → Judged received result
  /-- Such a pair is dropped. -/
  dropped : r.epoch ≠ t.state.epoch → ∀ access, result ≠ .ok access
  /-- All who wait get the outcome, whatever happens before they go on. -/
  shared : ∀ n q, t.Waits n q id → ∀ later now,
    ((t'.run later).step (now, .resume n)).Returned n q (q.reply result)
  /-- A pair that was brought replaces the one that was stored. -/
  rotated : ∀ reply pair, received = some (.ok reply) → reply.Brings pair →
    r.epoch = t.state.epoch → t'.state.store = writtenTo ⟨pair, time⟩ t.state.store ∧
      (t.state.store.IsWorking → IsRotated ⟨pair, time⟩ t.state.store t'.state.store)
  /-- Otherwise the store is as it was. -/
  unchanged : ∀ error, result = .error error → t'.state.store = t.state.store
  /-- Whoever comes next starts another renewal. -/
  fresh : r.epoch = t.state.epoch → ∀ now refresh,
    (t'.state.store.get now refreshName).1 = some refresh →
      (t'.step (now, .call .renew)).Waits t'.callers.length .renew t'.state.renewals.length
  /-- The first one who goes on empties the slot. -/
  emptied : r.epoch = t.state.epoch → ∀ n q, t.Waits n q id → ∀ now,
    (t'.step (now, .resume n)).state.slot = none

/-- What comes of the answer to a renewal among other traffic. -/
theorem concluded {received : Option (Except Failure Reply)} {answer : Result Credentials}
    (hanswers : Answers received answer) {t : Traffic} (h : t.Sound) {id : Nat} {r : Renewal}
    (hid : t.state.unfinished? id = some r) (time : Timestamp) :
    ∃ result, Concluded received t id r time result (t.step (time, .answer id answer)) := by
  obtain ⟨store, result, hends, hfinish⟩ := ends hid answer time
  have hsound := h.step (time, .answer id answer)
  have hstate : (t.step (time, .answer id answer)).state
      = ({ t.state with store } : Session).record id result := hfinish
  have hcallers : (t.step (time, .answer id answer)).callers = t.callers := rfl
  generalize t.step (time, .answer id answer) = t' at hsound hstate hcallers ⊢
  obtain ⟨hrenewal, hnone⟩ := (Session.unfinished?_eq_some_iff _ _ _).mp hid
  have hout : t'.state.outcome? id = some result := by
    rw [hstate]
    exact Session.outcome?_record_self (List.getElem?_eq_some_iff.mp hrenewal).1 result
  have hwaits : ∀ n q, t.Waits n q id → t'.Waits n q id := by
    intro n q hw
    rw [Traffic.Waits, hcallers]
    exact hw
  -- A renewal of the present epoch is in the slot, where it has finished now.
  have hslot : r.epoch = t.state.epoch → t'.state.slot = some id := by
    intro hepoch
    rw [hstate]
    exact h.state.slot_of id r hrenewal hnone hepoch
  have hstore : t'.state.store = store := by rw [hstate, Session.record]
  refine ⟨result, hends.judged hanswers, ?_, ?_, ?_, ?_, ?_, ?_⟩
  -- A pair is kept in its own epoch only.
  · rintro hne access rfl
    cases hends with
    | kept pair hanswer hepoch => exact hne hepoch
  -- Whoever waits has only the outcome ahead, which never changes again.
  · intro n q hw later now
    have hanswered := Session.Traffic.answeredBy_run hsound later (Or.inl (hwaits n q hw))
    exact hanswered.resume (Session.Traffic.sound_run hsound later) now result
      ((Session.Traffic.follows_run hsound later).outcome? hout)
  · intro reply pair hreceived hbrings hepoch
    rw [hstore, hends.store_eq_of_brings hanswers hreceived hbrings hepoch]
    exact ⟨rfl, fun hw =>
      t.state.isRotated_kept hw (.refl time names t.state.store) ⟨pair, time⟩⟩
  · rintro error rfl
    rw [hstore]
    cases hends with
    | failed error hanswer => rfl
    | dropped pair hanswer hepoch => rfl
  -- The renewal in the slot has finished, so it is not joined.
  · intro hepoch now refresh hread
    have hfree : t'.state.outstanding? = none := by
      rw [Session.outstanding?, hslot hepoch, Option.filter_some, hout]
      rfl
    exact t'.waits_call_renew now hfree hread
  · intro hepoch n q hw now
    rw [Session.Traffic.step_resume_of_waiting t' now n q id result ((hwaits n q hw).rest hsound)
      hout]
    exact congrArg Session.slot (if_pos (hslot hepoch))

end

namespace Service

open Session (accessName refreshName names IsRotated Traffic)

variable (service : Service)

/-- What is received for the request of a renewal at a server, if it is sent after some others.
Nothing is without a refresh credential that may stand in a request, and nothing but a failure where
the server cannot be asked. -/
def received? (root : String) (refresh : Option String) (sent : List Request) :
    Option (Except Failure Reply) :=
  (refresh.filter (IsHeaderText ·)).map fun refresh =>
    match Url.askable? (root ++ "/auth/refresh") with
    | some url =>
      let r := renewalRequest url refresh
      r.received (service.peer sent r)
    | none => .error (.transport "builder error")

/-- The requests of a renewal: one, or none if there is nobody or nothing to ask with. -/
def requested (root : String) (refresh : Option String) : List Request :=
  match refresh.filter (IsHeaderText ·), Url.askable? (root ++ "/auth/refresh") with
  | some refresh, some url => [renewalRequest url refresh]
  | _, _ => []

/-- The answer to a renewal is made of what is received for its one request. -/
theorem answers_ask {root : String} (hroot : IsAt service.server root) (sent : List Request)
    (refresh : String) :
    ∃ answer, Endpoint.renewal.ask service.peer service.server (some refresh) sent
        = (answer, sent ++ requested root (some refresh)) ∧
      Answers (service.received? root (some refresh) sent) answer := by
  by_cases hsendable : IsHeaderText refresh
  · have hfilter : (some refresh).filter (IsHeaderText ·) = some refresh := by
      rw [Option.filter_some, if_pos (decide_eq_true hsendable)]
    cases hurl : Url.askable? (root ++ "/auth/refresh") with
    | some url =>
      simp only [received?, requested, hfilter, Option.map_some, hurl]
      exact Endpoint.ask_renewal service.peer hroot hurl hsendable sent
    | none =>
      simp only [received?, requested, hfilter, Option.map_some, hurl, List.append_nil]
      obtain ⟨detail, hask⟩ :=
        Endpoint.makes_renewal.ask_of_unaskable service.peer hroot hurl hsendable sent
      exact ⟨_, hask, nofun, .lost _ detail⟩
  · have hfilter : (some refresh).filter (IsHeaderText ·) = none := by
      rw [Option.filter_some, if_neg (by simpa using hsendable)]
    simp only [received?, requested, hfilter, Option.map_none, List.append_nil]
    exact ⟨_, Endpoint.ask_of_not_isHeaderText service.peer service.server hsendable sent, nofun,
      .withheld⟩

/-! ### Alone -/

/-- What comes of a renewal that nobody interferes with: the session and the requests before it and
after it, and its result. -/
structure Renews (root : String) (clock : List Request → Timestamp) (s : Session)
    (sent : List Request) (result : Result String) (s' : Session) (sent' : List Request) :
    Prop where
  /-- The refresh credential that can be read is sent once. -/
  asked : sent' = sent ++ requested root (s.store.get (clock sent) refreshName).1
  /-- What is received for it decides the result. -/
  judged : Judged (service.received? root (s.store.get (clock sent) refreshName).1 sent) result
  /-- A pair that was brought replaces the one that was stored. -/
  rotated : ∀ r pair,
    service.received? root (s.store.get (clock sent) refreshName).1 sent = some (.ok r) →
      r.Brings pair →
        (∃ store, s.store.ReadTo store ∧ s'.store = writtenTo ⟨pair, clock sent'⟩ store) ∧
          (s.store.IsWorking → IsRotated ⟨pair, clock sent'⟩ s.store s'.store)
  /-- Otherwise the store was only read, and what can be read is the same. -/
  unchanged : ∀ error, result = .error error → s.store.ReadTo s'.store ∧
    (s.store.IsWorking → ∀ now, (clock sent).le now = true → ∀ name,
      (s'.store.get now name).1 = (s.store.get now name).1)
  /-- The slot is empty again. -/
  emptied : (s.store.get (clock sent) refreshName).1 ≠ none ∨ s.slot = none → s'.slot = none
  /-- The next renewal is another one. -/
  fresh : ∀ now refresh, (s'.store.get now refreshName).1 = some refresh →
    Session.renew.proceed now s'
      = (.wait s'.renewals.length (Session.afterwards s'.renewals.length),
        ((s'.read refreshName now).2.publish refresh s'.epoch).2)

/-- What is left to be read of a store in which a credential was looked for. -/
theorem get_get_of_isWorking {s : Store} (hw : s.IsWorking) {time now : Timestamp}
    (hle : time.le now = true) {looked : String} (hmem : looked ∈ names) (name : String) :
    ((s.get time looked).2.get now name).1 = (s.get now name).1 := by
  have hpruned := (Store.Pruned.refl time names s).get hw hmem
  rw [Store.get_eq _ now name (Store.isWorking_get s time looked hw), Store.get_eq s now name hw,
    hpruned.lasting? hle name]

/-- What comes of a renewal that nobody interferes with. -/
theorem renews_alone {root : String} (hroot : IsAt service.server root)
    (clock : List Request → Timestamp) (s : Session) (sent : List Request)
    (hout : s.outstanding? = none) :
    service.Renews root clock s sent (service.runOn clock Session.renew (s, sent)).1
      (service.runOn clock Session.renew (s, sent)).2.1
      (service.runOn clock Session.renew (s, sent)).2.2 := by
  have hread : s.store.ReadTo (s.store.get (clock sent) refreshName).2 :=
    .get s.store (clock sent) refreshName .refl
  cases hrefresh : (s.store.get (clock sent) refreshName).1 with
  | none =>
    rw [runOn, Session.run_renew_of_none clock (service.renewalOn clock) hout hrefresh]
    refine ⟨?_, ?_, ?_, fun error _ => ⟨hread, fun hw now hle name => ?_⟩, ?_,
      fun now _ h => Session.proceed_renew_of_refresh now _ hout h⟩
    · rw [hrefresh]
      exact (List.append_nil sent).symm
    · rw [hrefresh]
      exact .withheld
    · intro r pair hreceived
      rw [hrefresh] at hreceived
      cases hreceived
    · exact get_get_of_isWorking hw hle Session.refreshName_mem name
    · intro h
      rw [hrefresh] at h
      exact h.resolve_left fun h => h rfl
  | some refresh =>
    have hrun := Session.run_renew_of_refresh clock (service.renewalOn clock) hout hrefresh
    obtain ⟨answer, hask, hanswers⟩ := service.answers_ask hroot sent refresh
    -- The renewal is in the slot until its caller takes it out.
    cases answer with
    | error error =>
      have hrenewal : service.renewalOn clock s.renewals.length
          (((s.read refreshName (clock sent)).2.publish refresh s.epoch).2, sent) = _ :=
        service.renewalOn_publish_error clock (s.read refreshName (clock sent)).2 hask
      simp only [hrenewal] at hrun
      rw [runOn, hrun]
      refine ⟨?_, ?_, ?_, ?_, fun _ => ?_, fun now _ h =>
        Session.proceed_renew_of_refresh now _ (Session.outstanding?_leave_self rfl) h⟩
      · rw [hrefresh]
      · rw [hrefresh]
        exact hanswers.judged
      · intro r pair hreceived hbrings
        rw [hrefresh] at hreceived
        exact absurd hbrings (hanswers.not_brings r pair hreceived)
      · intro _ _
        simp only [Session.store_leave]
        exact ⟨hread, fun hw now hle name =>
          get_get_of_isWorking hw hle Session.refreshName_mem name⟩
      · exact congrArg Session.slot (if_pos rfl)
    | ok pair =>
      have hrenewal : service.renewalOn clock s.renewals.length
          (((s.read refreshName (clock sent)).2.publish refresh s.epoch).2, sent) = _ :=
        service.renewalOn_publish_ok clock (s.read refreshName (clock sent)).2 hask
      simp only [hrenewal] at hrun
      rw [runOn, hrun]
      refine ⟨?_, ?_, ?_, ?_, fun _ => ?_, fun now _ h =>
        Session.proceed_renew_of_refresh now _ (Session.outstanding?_leave_self rfl) h⟩
      · rw [hrefresh]
      · rw [hrefresh]
        exact hanswers.judged
      · intro r pair' hreceived hbrings
        rw [hrefresh] at hreceived
        rw [← Except.ok.inj (hanswers.ok r pair' hreceived hbrings)]
        simp only [Session.store_leave]
        exact ⟨⟨_, hread, rfl⟩, fun hw => s.isRotated_kept (Store.isWorking_get s.store _ _ hw)
          ((Store.Pruned.refl (clock sent) names s.store).get hw Session.refreshName_mem)
          ⟨pair, clock (sent ++ requested root (some refresh))⟩⟩
      · intro error herror
        cases herror
      · exact congrArg Session.slot (if_pos rfl)

end Service

end Remote

end Wager
