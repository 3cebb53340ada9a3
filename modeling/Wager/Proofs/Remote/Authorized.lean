import Wager.Proofs.Remote.Outcome
import Wager.Proofs.Session.Alone
import Wager.Remote.Service

/-!
# The requests of an authorized request

Which requests are sent on behalf of whoever is signed in, and what they leave in the store.

What is stored when the request is made decides how many there are. An access credential that lasts
goes along with the one request to the endpoint. If only a refresh credential lasts, it is sent
first, by itself, and the request to the endpoint follows with the new access credential exactly if
that has brought a new pair. Otherwise nothing is sent. The replies decide the result and nothing
else; in particular a refused credential is not renewed and nothing is asked twice. The store is
only written to when a renewal has succeeded.

All of this is about one request that nobody interferes with, so no renewal is outstanding when it
is made, and none is when it is done. It may be made of any endpoint, be it for the profile, the
figures, the duels, one of them, or the three steps of an action. The clock may show anything at any
time; only where it shows a time at which no pair can be kept is the new pair not found again
(`Session.Datable`).

## Main definitions

* `Session.IsRotated`: A new pair has replaced what was stored.
* `Service.Authorizes`: What comes of an authorized request.

## Theorems

* `Service.renewalOn_publish_error`, `Service.renewalOn_publish_ok`: What comes of a renewal.
* `Service.authorizes`: What an authorized request sends, gives and leaves.
-/

namespace Wager

/-- A new pair has replaced the one that was stored, and nothing else has changed. -/
structure Session.IsRotated (i : Issue) (s s' : Store) : Prop where
  access : Datable i.time → s'.stored? accessName = some i.access
  refresh : Datable i.time → s'.stored? refreshName = some i.refresh
  others : ∀ name, name ∉ names → s'.stored? name = s.stored? name

/-- A pair that is kept after reading replaces the one that was stored. -/
theorem Session.isRotated_kept (s : Session) {store : Store} (hw : store.IsWorking)
    {now : Timestamp} (hpruned : s.store.Pruned now names store) (i : Issue) :
    IsRotated i s.store (({ s with store } : Session).kept i.pair i.time).store where
  access hdatable := (holds_kept [] i.pair { s with store } hw hdatable).1.stored?
  refresh hdatable := (holds_kept [] i.pair { s with store } hw hdatable).2.stored?
  others name hname := by
    have haccess : accessName ≠ name := fun heq => hname (heq ▸ accessName_mem)
    have hrefresh : refreshName ≠ name := fun heq => hname (heq ▸ refreshName_mem)
    simp only [kept, write]
    rw [Store.stored?_set_of_ne _ _ _ hrefresh, Store.stored?_set_of_ne _ _ _ haccess]
    exact (hpruned name).resolve_right fun h => hname h.1

namespace Remote.Service

open Session (accessName refreshName names IsRotated)

variable {α : Type} (service : Service) (clock : List Request → Timestamp)

/-! ### Renewals -/

theorem renewalOn_of_renewal {id : Nat} {s : Session} {r : Renewal} (hr : s.renewals[id]? = some r)
    {sent sent' : List Request} {answer : Result Credentials}
    (hask : Endpoint.renewal.ask service.peer service.server (some r.refresh) sent
      = (answer, sent')) :
    service.renewalOn clock id (s, sent)
      = (((s.finish id answer (clock sent')).outcome? id).getD (.error .authExpired),
        (s.finish id answer (clock sent'), sent')) := by
  simp only [renewalOn, exchange, Bind.bind, StateT.bind, get, getThe, MonadStateOf.get, StateT.get,
    Pure.pure, hr, hask]
  rfl

section

variable (s : Session) {refresh : String} {sent sent' : List Request}

/-- A renewal that was just started and fails leaves its outcome. -/
theorem renewalOn_publish_error {error : Error}
    (hask : Endpoint.renewal.ask service.peer service.server (some refresh) sent
      = (.error error, sent')) :
    service.renewalOn clock s.renewals.length ((s.publish refresh s.epoch).2, sent)
      = (.error (Session.renewalError error),
        ((s.publish refresh s.epoch).2.record s.renewals.length
          (.error (Session.renewalError error)), sent')) := by
  rw [service.renewalOn_of_renewal clock (s.getElem?_publish refresh) hask,
    Session.finish_error _ _ _ _ _ (s.unfinished?_publish refresh),
    Session.outcome?_record_self (s.lt_length_publish refresh)]
  rfl

/-- A renewal that was just started and succeeds keeps its pair. -/
theorem renewalOn_publish_ok {pair : Credentials}
    (hask : Endpoint.renewal.ask service.peer service.server (some refresh) sent
      = (.ok pair, sent')) :
    service.renewalOn clock s.renewals.length ((s.publish refresh s.epoch).2, sent)
      = (.ok pair.access,
        (((s.publish refresh s.epoch).2.kept pair (clock sent')).record s.renewals.length
          (.ok pair.access), sent')) := by
  have hlt : s.renewals.length
      < ((s.publish refresh s.epoch).2.kept pair (clock sent')).renewals.length :=
    s.lt_length_publish refresh
  rw [service.renewalOn_of_renewal clock (s.getElem?_publish refresh) hask,
    Session.finish_ok _ _ _ _ _ (s.unfinished?_publish refresh) rfl,
    Session.outcome?_record_self hlt]
  rfl

end

/-! ### Authorized requests -/

/-- What comes of an authorized request that nobody interferes with: the session and the requests
before it and after it, and its result. A credential is sent by `request` to the endpoint, and by
`renewal` to be renewed. -/
structure Authorizes (e : Endpoint α) (request renewal : String → Request) (s : Session)
    (sent : List Request) (result : Result α) (s' : Session) (sent' : List Request) : Prop where
  /-- An access credential that lasts is sent to the endpoint once. -/
  opened : ∀ c, s.store.lasting? (clock sent) accessName = some c →
    e.Asks service.peer (request c.value) sent result sent' ∧
      ∀ name, s'.store.stored? name = s.store.stored? name
  /-- Otherwise a refresh credential that lasts is sent first. If that brings a new pair the new
  access credential is sent to the endpoint. -/
  renewed : s.store.lasting? (clock sent) accessName = none →
    ∀ c, s.store.lasting? (clock sent) refreshName = some c → IsHeaderText c.value →
      let r := renewal c.value
      ∀ reply pair, r.received (service.peer sent r) = .ok reply → reply.Brings pair →
        e.Asks service.peer (request pair.access) (sent ++ [r]) result sent' ∧
          IsRotated ⟨pair, clock (sent ++ [r])⟩ s.store s'.store
  /-- If it brings none nothing else is sent. -/
  refused : s.store.lasting? (clock sent) accessName = none →
    ∀ c, s.store.lasting? (clock sent) refreshName = some c → IsHeaderText c.value →
      let r := renewal c.value
      (∀ reply pair, r.received (service.peer sent r) = .ok reply → ¬ reply.Brings pair) →
        sent' = sent ++ [r] ∧
          (∃ error, result = .error error ∧
            Judged (some (r.received (service.peer sent r))) (.error error)) ∧
          s.store.Pruned (clock sent) names s'.store
  /-- A refresh credential that may not stand in a request is not sent. -/
  withheld : s.store.lasting? (clock sent) accessName = none →
    ∀ c, s.store.lasting? (clock sent) refreshName = some c → ¬ IsHeaderText c.value →
      sent' = sent ∧ result = .error .authExpired ∧ s.store.Pruned (clock sent) names s'.store
  /-- Without either credential nothing is sent. -/
  closed : s.store.lasting? (clock sent) accessName = none →
    s.store.lasting? (clock sent) refreshName = none →
      sent' = sent ∧ result = .error .authExpired ∧ s.store.Pruned (clock sent) names s'.store
  /-- The next request finds no renewal outstanding either. -/
  idle : s'.outstanding? = none

namespace Authorizes

variable {service clock} {e : Endpoint α} {request renewal : String → Request} {s s' : Session}
  {sent sent' : List Request} {result : Result α} {c : StoredCredential}

theorem of_access (haccess : s.store.lasting? (clock sent) accessName = some c)
    (hasks : e.Asks service.peer (request c.value) sent result sent')
    (hsame : ∀ name, s'.store.stored? name = s.store.stored? name)
    (hidle : s'.outstanding? = none) :
    service.Authorizes clock e request renewal s sent result s' sent' := by
  constructor
  case opened =>
    intro c' hc'
    rw [haccess, Option.some.injEq] at hc'
    exact hc' ▸ ⟨hasks, hsame⟩
  case idle => exact hidle
  all_goals
    intro hnone
    rw [haccess] at hnone
    exact nomatch hnone

theorem of_none (haccess : s.store.lasting? (clock sent) accessName = none)
    (hrefresh : s.store.lasting? (clock sent) refreshName = none)
    (hpruned : s.store.Pruned (clock sent) names s'.store) (hidle : s'.outstanding? = none) :
    service.Authorizes clock e request renewal s sent (.error .authExpired) s' sent := by
  constructor
  case opened =>
    intro c hc
    rw [haccess] at hc
    exact nomatch hc
  case closed => exact fun _ _ => ⟨rfl, rfl, hpruned⟩
  case idle => exact hidle
  all_goals
    intro _ c hc
    rw [hrefresh] at hc
    exact nomatch hc

/-- With a refresh credential only, its renewal decides. -/
theorem of_refresh (haccess : s.store.lasting? (clock sent) accessName = none)
    (hrefresh : s.store.lasting? (clock sent) refreshName = some c)
    (hrenewed : IsHeaderText c.value → ∀ reply pair,
      (renewal c.value).received (service.peer sent (renewal c.value)) = .ok reply →
        reply.Brings pair →
          e.Asks service.peer (request pair.access) (sent ++ [renewal c.value]) result sent' ∧
            IsRotated ⟨pair, clock (sent ++ [renewal c.value])⟩ s.store s'.store)
    (hrefused : IsHeaderText c.value →
      (∀ reply pair, (renewal c.value).received (service.peer sent (renewal c.value)) = .ok reply →
        ¬ reply.Brings pair) →
        sent' = sent ++ [renewal c.value] ∧
          (∃ error, result = .error error ∧
            Judged (some ((renewal c.value).received (service.peer sent (renewal c.value))))
              (.error error)) ∧
          s.store.Pruned (clock sent) names s'.store)
    (hwithheld : ¬ IsHeaderText c.value →
      sent' = sent ∧ result = .error .authExpired ∧ s.store.Pruned (clock sent) names s'.store)
    (hidle : s'.outstanding? = none) :
    service.Authorizes clock e request renewal s sent result s' sent' := by
  have hthe : ∀ c', s.store.lasting? (clock sent) refreshName = some c' → c = c' := fun c' hc' =>
    Option.some.inj (hrefresh.symm.trans hc')
  constructor
  case opened =>
    intro c' hc'
    rw [haccess] at hc'
    exact nomatch hc'
  case renewed =>
    intro _ c' hc'
    obtain rfl := hthe c' hc'
    exact hrenewed
  case refused =>
    intro _ c' hc'
    obtain rfl := hthe c' hc'
    exact hrefused
  case withheld =>
    intro _ c' hc'
    obtain rfl := hthe c' hc'
    exact hwithheld
  case closed =>
    intro _ hnone
    rw [hrefresh] at hnone
    exact nomatch hnone
  case idle => exact hidle

end Authorizes

section

variable (e : Endpoint α) {s : Session} {sent : List Request} {reached : Session × List Request}

/-- Without an access credential nothing is sent to the endpoint. -/
theorem authorizedOn_of_error {error : Error}
    (hrun : Session.access.run clock (service.renewalOn clock) (s, sent)
      = (.error error, reached)) :
    service.authorizedOn clock e (s, sent) = (.error error, reached) := by
  simp only [authorizedOn, runOn, Bind.bind, StateT.bind, hrun]
  rfl

theorem authorizedOn_of_none
    (hrun : Session.access.run clock (service.renewalOn clock) (s, sent) = (.ok none, reached)) :
    service.authorizedOn clock e (s, sent) = (.error .authExpired, reached) := by
  simp only [authorizedOn, runOn, Bind.bind, StateT.bind, hrun]
  rfl

/-- An access credential goes along with one request. -/
theorem authorizedOn_of_some {access : String}
    (hrun : Session.access.run clock (service.renewalOn clock) (s, sent)
      = (.ok (some access), reached)) :
    let credential := Endpoint.bearer access
    let asked := e.ask service.peer service.server (some credential) reached.2
    service.authorizedOn clock e (s, sent) = (asked.1, (reached.1, asked.2)) := by
  simp only [authorizedOn, runOn, Bind.bind, StateT.bind, hrun]
  rfl

end

section

variable (e : Endpoint α) {s : Session} {sent sent₁ : List Request} {c : StoredCredential}
  (hw : s.store.IsWorking) (hout : s.outstanding? = none)
  (haccess : s.store.lasting? (clock sent) accessName = none)
  (hrefresh : s.store.lasting? (clock sent) refreshName = some c)

include hw hout haccess hrefresh

/-- A renewal that fails ends the request, and the store was only read. -/
theorem authorizedOn_of_renewal_error {error : Error}
    (hask : Endpoint.renewal.ask service.peer service.server (some c.value) sent
      = (.error error, sent₁)) :
    ∃ s' : Session, s'.outstanding? = none ∧ s.store.Pruned (clock sent) names s'.store ∧
      service.authorizedOn clock e (s, sent)
        = (.error (Session.renewalError error), (s', sent₁)) := by
  obtain ⟨store, -, hpruned, hrun⟩ :=
    Session.run_access_of_refresh clock (service.renewalOn clock) hw hout haccess hrefresh
  have hfailed := service.renewalOn_publish_error clock { s with store } hask
  simp only [hfailed] at hrun
  -- The renewal is the one in the slot until its caller takes it out.
  refine ⟨_, Session.outstanding?_leave_self rfl, ?_, service.authorizedOn_of_error clock e hrun⟩
  simp only [Session.store_leave]
  exact hpruned

/-- A renewal that succeeds is followed by the request with the new access credential. -/
theorem authorizedOn_of_renewal_ok {pair : Credentials}
    (hask : Endpoint.renewal.ask service.peer service.server (some c.value) sent
      = (.ok pair, sent₁)) :
    let asked := e.ask service.peer service.server (some (Endpoint.bearer pair.access)) sent₁
    ∃ s' : Session, s'.outstanding? = none ∧ IsRotated ⟨pair, clock sent₁⟩ s.store s'.store ∧
      service.authorizedOn clock e (s, sent) = (asked.1, (s', asked.2)) := by
  obtain ⟨store, hworking, hpruned, hrun⟩ :=
    Session.run_access_of_refresh clock (service.renewalOn clock) hw hout haccess hrefresh
  have hrenewed := service.renewalOn_publish_ok clock { s with store } hask
  simp only [hrenewed] at hrun
  refine ⟨_, Session.outstanding?_leave_self rfl, ?_, service.authorizedOn_of_some clock e hrun⟩
  simp only [Session.store_leave]
  exact s.isRotated_kept hworking hpruned ⟨pair, clock sent₁⟩

end

/-- What an authorized request sends, gives and leaves, if nobody interferes with it. It may be any
of the operations, at a server that can be asked for it and for a renewal. -/
theorem authorizes {e : Endpoint α} {method : Method} {path : String} {body : Option Json.Value}
    (hoperation : Operation e method path body) {root : String} (hroot : IsAt service.server root)
    {url refreshUrl : Url} (hurl : Url.askable? (root ++ path) = some url)
    (hrefreshUrl : Url.askable? (root ++ "/auth/refresh") = some refreshUrl) (s : Session)
    (sent : List Request) (hw : s.store.IsWorking) (hout : s.outstanding? = none) :
    service.Authorizes clock e (accessRequest method url body) (renewalRequest refreshUrl) s sent
      (service.authorizedOn clock e (s, sent)).1 (service.authorizedOn clock e (s, sent)).2.1
      (service.authorizedOn clock e (s, sent)).2.2 := by
  have hasks : ∀ access sent, e.Asks service.peer (accessRequest method url body access) sent
      (e.ask service.peer service.server (some (Endpoint.bearer access)) sent).1
      (e.ask service.peer service.server (some (Endpoint.bearer access)) sent).2 :=
    fun access sent => hoperation.makes.asks service.peer hroot hurl sent
  -- Which credential lasts decides how many requests there are.
  cases haccess : s.store.lasting? (clock sent) accessName with
  | some c =>
    obtain ⟨store, -, hsame, hrun⟩ :=
      Session.run_access_of_access clock (service.renewalOn clock) hw haccess
    rw [service.authorizedOn_of_some clock e hrun]
    exact .of_access haccess (hasks c.value sent) hsame hout
  | none =>
    cases hrefresh : s.store.lasting? (clock sent) refreshName with
    | none =>
      obtain ⟨store, -, hpruned, hrun⟩ :=
        Session.run_access_of_none clock (service.renewalOn clock) hw hout haccess hrefresh
      rw [service.authorizedOn_of_none clock e hrun]
      exact .of_none haccess hrefresh hpruned hout
    | some c =>
      by_cases hsendable : IsHeaderText c.value
      · obtain ⟨answer, hask, hanswers⟩ :=
          Endpoint.ask_renewal service.peer hroot hrefreshUrl hsendable sent
        cases answer with
        | error error =>
          obtain ⟨s', hidle, hpruned, hrun⟩ :=
            service.authorizedOn_of_renewal_error clock e hw hout haccess hrefresh hask
          rw [hrun]
          refine .of_refresh haccess hrefresh (fun _ reply pair hreceived hbrings => ?_)
            (fun _ _ => ⟨rfl, ⟨_, rfl, hanswers.judged⟩, hpruned⟩) (absurd hsendable) hidle
          -- An error was not made of a reply with a pair.
          exact absurd hbrings (hanswers.not_brings reply pair (congrArg some hreceived))
        | ok pair =>
          obtain ⟨s', hidle, hrotated, hrun⟩ :=
            service.authorizedOn_of_renewal_ok clock e hw hout haccess hrefresh hask
          rw [hrun]
          refine .of_refresh haccess hrefresh (fun _ reply pair' hreceived hbrings => ?_)
            (fun _ hnone => ?_) (absurd hsendable) hidle
          · rw [← Except.ok.inj (hanswers.ok reply pair' (congrArg some hreceived) hbrings)]
            exact ⟨hasks pair.access _, hrotated⟩
          · obtain ⟨reply, hreceived, hbrings⟩ := hanswers.brought
            exact absurd hbrings (hnone reply pair (Option.some.inj hreceived))
      · -- What may not be sent fails before anything is.
        obtain ⟨s', hidle, hpruned, hrun⟩ :=
          service.authorizedOn_of_renewal_error clock e hw hout haccess hrefresh
            (Endpoint.ask_of_not_isHeaderText service.peer service.server hsendable sent)
        rw [hrun]
        exact .of_refresh haccess hrefresh (absurd · hsendable) (absurd · hsendable)
          (fun _ => ⟨rfl, rfl, hpruned⟩) hidle

/-- A request for the profile two hours after signing in, when only the refresh credential lasts.
The server grants the renewal and refuses everything else, which is asked for once. -/
theorem authorizes_sample :
    let clock : List Request → Timestamp :=
      fun sent => { seconds := 7200 + 30 * sent.length, nanos := 0 }
    let new : Credentials := { access := "b", refresh := "s" }
    let service : Service := {
      peer := fun _ r =>
        if r.authorization = some "r" then
          .reply 200 (Text.bytes (Json.Value.object [("jwt_info", new.toValue)]).compact) true
        else .reply 401 [] true
      server := "http://[::1]:8080/" }
    let url (path : String) : Url :=
      { scheme := "http".toList
        authority := some { host := .groups #v[0, 0, 0, 0, 0, 0, 0, 1], socket := some 8080 }
        path := path.toList }
    let old : Session.Issue := ⟨{ access := "a", refresh := "r" }, { seconds := 0, nanos := 0 }⟩
    let s : Session := Session.kept old.pair old.time { }
    let done := service.authorizedOn clock .profile (s, [])
    service.Authorizes clock .profile (accessRequest .get (url "/user") none)
        (renewalRequest (url "/auth/refresh")) s [] done.1 done.2.1 done.2.2 ∧
      IsAt service.server "http://[::1]:8080" ∧
      s.store.lasting? (clock []) accessName = none ∧
      s.store.lasting? (clock []) refreshName = some old.refresh ∧
      done.2.2.map (fun r => (r.method.name, r.url.text, r.authorization)) =
        [("POST", "http://[::1]:8080/auth/refresh", some "r"),
          ("GET", "http://[::1]:8080/user", some "Bearer b")] ∧
      done.2.1.store.stored? accessName = some ⟨"b", { seconds := 10830, nanos := 0 }⟩ := by
  intro clock new service url old s done
  have hroot : IsAt service.server "http://[::1]:8080" := ⟨⟨1, rfl⟩, by decide⟩
  have h : ∀ d, service.authorizedOn clock .profile (s, []) = d →
      service.Authorizes clock .profile (accessRequest .get (url "/user") none)
        (renewalRequest (url "/auth/refresh")) s [] d.1 d.2.1 d.2.2 := by
    rintro _ rfl
    exact service.authorizes clock .profile hroot (by decide +kernel) (by decide +kernel) s []
      trivial rfl
  exact ⟨h done rfl, hroot, by decide +kernel, by decide +kernel, by decide +kernel,
    by decide +kernel⟩

end Remote.Service

end Wager
