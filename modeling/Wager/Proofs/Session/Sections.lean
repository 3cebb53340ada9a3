import Wager.Proofs.Store.Working
import Wager.Session.Access

/-!
# What callers of a session do between waits

The effect of each operation on a session, up to its first wait and after it.

On one thread nothing comes between the sections up to a wait, so they are one step, and every lock
is given back within it. The theorems here run each operation that far, once; whatever is said of
runs later uses these and does not look into the operations again.

A caller that waits has only one thing ahead: it takes the outcome of its renewal, takes that
renewal out of the slot and returns. `Request.waiting` is this rest of an operation, and
`Request.begins` says that a caller either returns at once or comes to wait in this form, for a
renewal that was outstanding when it came or that it started itself.

## Main definitions

* `Session.kept`, `Session.cleared`: A session after a pair of credentials was kept or removed.
* `Session.Request`, `Session.Reply`: What callers ask and what they are answered.
* `Session.Request.operation`: The operation of a request.
* `Session.Request.NeedsRenewal`: A request that cannot do without a renewal.
* `Session.Request.waiting`: What is left of it at its wait.
* `Session.Request.Begins`: What may come of a request up to its first wait.
* `Session.Finishes`: What may come of an answer.

## Theorems

* `Session.proceed_joinRenewal_of_outstanding`, `Session.proceed_joinRenewal_of_none`,
  `Session.proceed_joinRenewal_of_refresh`: Joining a renewal.
* `Session.proceed_access_of_some`: A stored access credential is returned at once.
* `Session.Request.begins`: What comes of a request.
* `Session.Request.proceed_of_outstanding`: An outstanding renewal is joined.
* `Session.Request.proceed_waiting`: A caller that gets its outcome returns it.
* `Session.finish_of_finished`, `Session.finish_error`, `Session.finish_ok`,
  `Session.finish_ok_of_ne`: What an answer does.
* `Session.finishes`: What comes of an answer.
-/

namespace Wager.Session

/-! ### Effects -/

/-- The session after a pair of credentials was kept. -/
def kept (pair : Credentials) (now : Timestamp) (s : Session) : Session :=
  (s.write accessName pair.access accessHours now).write refreshName pair.refresh refreshHours now

/-- The session after it was ended. -/
def cleared (s : Session) : Session :=
  { s with
    store := (s.store.remove accessName).remove refreshName
    epoch := s.epoch + 1
    slot := none }

theorem proceed_clear (now : Timestamp) (s : Session) :
    clear.proceed now s = (.done (), s.cleared) :=
  rfl

theorem proceed_establish (pair : Credentials) (now : Timestamp) (s : Session) :
    (establish pair).proceed now s = (.done (), s.kept pair now) := by
  simp only [establish, under, keep, Routine.change, Routine.atomically, Bind.bind, Routine.bind,
    Pure.pure, Routine.proceed]
  simp only [kept, write, acquire, release, List.erase_cons_head]

theorem proceed_isOpen (now : Timestamp) (s : Session) :
    isOpen.proceed now s
      = (.done (s.store.get now refreshName).1.isSome, (s.read refreshName now).2) :=
  rfl

/-! ### Renewals -/

/-- What is left to do for a caller that has waited for a renewal. -/
def afterwards (id : Nat) (outcome : Result String) : Operation (Result String) := do
  under .slot (Routine.change (leave id))
  return outcome

theorem proceed_afterwards (id : Nat) (outcome : Result String) (now : Timestamp) (s : Session) :
    (afterwards id outcome).proceed now s = (.done outcome, s.leave id) := by
  simp only [afterwards, under, Routine.change, Bind.bind, Routine.bind, Pure.pure, Routine.proceed]
  unfold leave
  by_cases h : s.slot = some id
  · have h' : (s.acquire .slot).slot = some id := h
    rw [if_pos h, if_pos h']
    rfl
  · have h' : (s.acquire .slot).slot ≠ some id := h
    rw [if_neg h, if_neg h']
    rfl

theorem proceed_joinRenewal_of_outstanding (now : Timestamp) (s : Session) (id : Nat)
    (h : s.outstanding? = some id) : joinRenewal.proceed now s = (.done (.ok id), s) := by
  -- Who holds the lock sees the same slot.
  have h' : (s.acquire .slot).outstanding? = some id := h
  simp only [joinRenewal, under, Routine.change, Routine.look, Bind.bind, Routine.bind, Pure.pure,
    Routine.proceed, h']
  rfl

theorem proceed_joinRenewal_of_none (now : Timestamp) (s : Session) (h : s.outstanding? = none)
    (hr : (s.store.get now refreshName).1 = none) :
    joinRenewal.proceed now s = (.done (.error .authExpired), (s.read refreshName now).2) := by
  have h' : (s.acquire .slot).outstanding? = none := h
  have hr' : ((s.acquire .slot).read refreshName now).1 = none := hr
  simp only [joinRenewal, under, credential, Routine.change, Routine.look, Routine.atomically,
    Bind.bind, Routine.bind, Pure.pure, Routine.proceed, h', hr']
  rfl

theorem proceed_joinRenewal_of_refresh (now : Timestamp) (s : Session) (refresh : String)
    (h : s.outstanding? = none) (hr : (s.store.get now refreshName).1 = some refresh) :
    joinRenewal.proceed now s
      = (.done (.ok s.renewals.length),
        ((s.read refreshName now).2.publish refresh s.epoch).2) := by
  have h' : (s.acquire .slot).outstanding? = none := h
  have hr' : ((s.acquire .slot).read refreshName now).1 = some refresh := hr
  simp only [joinRenewal, under, credential, Routine.change, Routine.look, Routine.atomically,
    Bind.bind, Routine.bind, Pure.pure, Routine.proceed, h', hr']
  rfl

/-- Where no renewal is to be had there is nothing to wait for. -/
theorem proceed_renew_of_error {α : Type} (k : Result String → Operation α) (now : Timestamp)
    (s t : Session) (e : Error) (h : joinRenewal.proceed now s = (.done (.error e), t)) :
    (renew.bind k).proceed now s = (k (.error e)).proceed now t := by
  -- The renewal is joined first, whatever is done after the wait.
  rw [renew]
  refine (congrArg (fun r => Routine.proceed now r s) (Routine.bind_assoc joinRenewal _ k)).trans ?_
  rw [Routine.proceed_bind, h]
  rfl

/-- A renewal is joined or started, and then there is its outcome to wait for. -/
theorem proceed_renew_of_ok {α : Type} (k : Result String → Operation α) (now : Timestamp)
    (s t : Session) (id : Nat) (h : joinRenewal.proceed now s = (.done (.ok id), t)) :
    (renew.bind k).proceed now s
      = (.wait id fun outcome => (afterwards id outcome).bind k, t) := by
  rw [renew]
  refine (congrArg (fun r => Routine.proceed now r s) (Routine.bind_assoc joinRenewal _ k)).trans ?_
  rw [Routine.proceed_bind, h]
  rfl

/-! ### Access -/

theorem proceed_access_of_some (now : Timestamp) (s : Session) (token : String)
    (h : (s.store.get now accessName).1 = some token) :
    access.proceed now s = (.done (.ok (some token)), (s.read accessName now).2) := by
  have h' : (s.read accessName now).1 = some token := h
  simp only [access, credential, Routine.atomically, Bind.bind, Routine.bind, Routine.proceed, h']
  rfl

theorem proceed_access_of_none (now : Timestamp) (s : Session)
    (h : (s.store.get now accessName).1 = none) (ho : s.outstanding? = none)
    (hr : ((s.store.get now accessName).2.get now refreshName).1 = none) :
    access.proceed now s
      = (.done (.ok none), ((s.read accessName now).2.read refreshName now).2) := by
  have h' : (s.read accessName now).1 = none := h
  have ho' : ((s.read accessName now).2.acquire .slot).outstanding? = none := ho
  have hr' : ((release .slot ((s.read accessName now).2.acquire .slot)).read refreshName now).1
      = none := hr
  simp only [access, under, Routine.change, Routine.look, credential, Routine.atomically, Bind.bind,
    Routine.bind, Routine.proceed, Pure.pure, h', ho', hr', Option.isNone_none, if_true]
  rfl

/-- Without a stored credential an outstanding renewal is joined without looking for a refresh
credential. -/
theorem proceed_access_of_outstanding (now : Timestamp) (s : Session) (id : Nat)
    (h : (s.store.get now accessName).1 = none) (ho : s.outstanding? = some id) :
    access.proceed now s
      = (renew.bind fun outcome => .done (outcome.map some)).proceed now
        (s.read accessName now).2 := by
  have h' : (s.read accessName now).1 = none := h
  have ho' : ((s.read accessName now).2.acquire .slot).outstanding? = some id := ho
  simp only [access, under, Routine.change, Routine.look, credential, Routine.atomically, Bind.bind,
    Routine.bind, Routine.proceed, Pure.pure, h', ho', Option.isNone_some, Bool.false_eq_true,
    if_false]
  rfl

theorem proceed_access_of_refresh (now : Timestamp) (s : Session) (refresh : String)
    (h : (s.store.get now accessName).1 = none) (ho : s.outstanding? = none)
    (hr : ((s.store.get now accessName).2.get now refreshName).1 = some refresh) :
    access.proceed now s
      = (renew.bind fun outcome => .done (outcome.map some)).proceed now
        ((s.read accessName now).2.read refreshName now).2 := by
  have h' : (s.read accessName now).1 = none := h
  have ho' : ((s.read accessName now).2.acquire .slot).outstanding? = none := ho
  have hr' : ((release .slot ((s.read accessName now).2.acquire .slot)).read refreshName now).1
      = some refresh := hr
  simp only [access, under, Routine.change, Routine.look, credential, Routine.atomically, Bind.bind,
    Routine.bind, Routine.proceed, Pure.pure, h', ho', hr', Option.isNone_none,
    Option.isNone_some, Bool.false_eq_true, if_true, if_false]
  rfl

/-! ### Requests -/

/-- What a caller asks of a session. -/
inductive Request
  | access
  | renew
  | isOpen
  | establish (pair : Credentials)
  | clear
  deriving DecidableEq

/-- What a caller is answered. -/
inductive Reply
  | access (outcome : Result (Option String))
  | renew (outcome : Result String)
  | isOpen (value : Bool)
  | done

namespace Request

/-- The operation of a request. -/
def operation : Request → Operation Reply
  | .access => return .access (← Session.access)
  | .renew => return .renew (← Session.renew)
  | .isOpen => return .isOpen (← Session.isOpen)
  | .establish pair => do
    Session.establish pair
    return .done
  | .clear => do
    Session.clear
    return .done

/-- What a caller that has waited for a renewal is answered. Only callers for a credential wait. -/
def reply : Request → Result String → Reply
  | .access, outcome => .access (outcome.map some)
  | .renew, outcome => .renew outcome
  | .isOpen, _ => .done
  | .establish _, _ => .done
  | .clear, _ => .done

/-- A caller needs a renewal: it asks for one, or it finds no access credential that lasts. -/
def NeedsRenewal (q : Request) (now : Timestamp) (s : Session) : Prop :=
  q = .renew ∨ q = .access ∧ (s.store.get now accessName).1 = none

/-- What is left of a request at its wait. -/
def waiting (q : Request) (id : Nat) : Operation Reply :=
  .wait id fun outcome => (afterwards id outcome).bind fun outcome => .done (q.reply outcome)

/-- A caller that gets the outcome it has waited for returns it, and takes the renewal out of the
slot. -/
theorem proceed_waiting (q : Request) (id : Nat) (outcome : Result String) (now : Timestamp)
    (s : Session) :
    ((afterwards id outcome).bind fun outcome => .done (q.reply outcome)).proceed now s
      = (.done (q.reply outcome), s.leave id) := by
  rw [Routine.proceed_bind, proceed_afterwards]
  rfl

/-- What may come of a request up to its first wait: the operation that is left and the session. -/
inductive Begins (q : Request) (now : Timestamp) (s : Session) : Operation Reply → Session → Prop
  | returned (reply : Reply) (store : Store) (hread : s.store.ReadTo store) :
    Begins q now s (.done reply) { s with store }
  | joined (id : Nat) (store : Store) (hread : s.store.ReadTo store)
    (hout : s.outstanding? = some id) : Begins q now s (q.waiting id) { s with store }
  | started (refresh : String) (store : Store) (hread : s.store.ReadTo store)
    (hout : s.outstanding? = none) (hrefresh : (store.get now refreshName).1 = some refresh) :
    Begins q now s (q.waiting s.renewals.length)
      (({ s with store := (store.get now refreshName).2 }).publish refresh s.epoch).2
  | established (pair : Credentials) (hq : q = .establish pair) :
    Begins q now s (.done .done) (s.kept pair now)
  | cleared (hq : q = .clear) : Begins q now s (.done .done) s.cleared

/-- The operation of a request for access, up to the first wait of its own operation. -/
theorem proceed_access (now : Timestamp) (s : Session) :
    Request.access.operation.proceed now s
      = ((Session.access.proceed now s).1.bind fun a => .done (.access a)).proceed now
        (Session.access.proceed now s).2 :=
  Routine.proceed_bind now Session.access _ s

/-- A caller that needs a renewal while one is outstanding waits for that one. -/
theorem proceed_of_outstanding (q : Request) (now : Timestamp) (s : Session) (id : Nat)
    (hq : q.NeedsRenewal now s) (hout : s.outstanding? = some id) :
    ∃ store, q.operation.proceed now s = (q.waiting id, { s with store }) := by
  rcases hq with rfl | ⟨rfl, haccess⟩
  · refine ⟨s.store, ?_⟩
    exact proceed_renew_of_ok _ now s s id (proceed_joinRenewal_of_outstanding now s id hout)
  · -- The store was read before the renewal was joined.
    refine ⟨(s.store.get now accessName).2, ?_⟩
    rw [proceed_access, proceed_access_of_outstanding now s id haccess hout, ← Routine.proceed_bind,
      Routine.bind_assoc]
    exact proceed_renew_of_ok _ now _ _ id (proceed_joinRenewal_of_outstanding now _ id hout)

/-- Nobody is signed in where neither credential is kept and no renewal is outstanding. -/
theorem proceed_access_of_lacks (now : Timestamp) (s : Session) (haccess : s.store.Lacks accessName)
    (hrefresh : s.store.Lacks refreshName) (hout : s.outstanding? = none) :
    ∃ store, Request.access.operation.proceed now s
      = (.done (.access (.ok none)), { s with store }) := by
  have hnone := Store.get_of_lacks s.store now accessName haccess
  have hlacks := Store.lacks_get s.store now refreshName accessName hrefresh
  rw [proceed_access, proceed_access_of_none now s hnone hout
    (Store.get_of_lacks _ now refreshName hlacks)]
  exact ⟨_, rfl⟩

/-- What comes of a renewal that is joined or started, when the reading of the store so far is
accounted for. -/
theorem begins_joining (q : Request) (now : Timestamp) (s : Session) (store : Store)
    (hread : s.store.ReadTo store) (r : Operation Reply)
    (hr : r = Session.renew.bind fun outcome => .done (q.reply outcome)) :
    Begins q now s (r.proceed now { s with store }).1 (r.proceed now { s with store }).2 := by
  subst hr
  -- Readers only touch the store, so the slot is that of `s`.
  cases hout : ({ s with store } : Session).outstanding? with
  | some id =>
    rw [proceed_renew_of_ok _ now _ _ _ (proceed_joinRenewal_of_outstanding now _ id hout)]
    exact .joined id store hread hout
  | none =>
    cases hrefresh : (store.get now refreshName).1 with
    | none =>
      rw [proceed_renew_of_error _ now _ _ _ (proceed_joinRenewal_of_none now _ hout hrefresh)]
      exact .returned _ _ (.get store now refreshName hread)
    | some refresh =>
      rw [proceed_renew_of_ok _ now _ _ _
        (proceed_joinRenewal_of_refresh now _ refresh hout hrefresh)]
      exact .started refresh store hread hout hrefresh

/-- What comes of a request up to its first wait. -/
theorem begins (q : Request) (now : Timestamp) (s : Session) :
    Begins q now s (q.operation.proceed now s).1 (q.operation.proceed now s).2 := by
  cases q with
  | access =>
    have hread : s.store.ReadTo (s.store.get now accessName).2 := .get s.store now accessName .refl
    rw [proceed_access]
    cases haccess : (s.store.get now accessName).1 with
    | some token =>
      rw [proceed_access_of_some now s token haccess]
      exact .returned _ _ hread
    | none =>
      cases hout : s.outstanding? with
      | some id =>
        -- Once there is a renewal to wait for, access is a renewal like any other.
        rw [proceed_access_of_outstanding now s id haccess hout]
        rw [← Routine.proceed_bind, Routine.bind_assoc]
        exact begins_joining .access now s _ hread _ rfl
      | none =>
        cases hrefresh : ((s.store.get now accessName).2.get now refreshName).1 with
        | none =>
          rw [proceed_access_of_none now s haccess hout hrefresh]
          exact .returned _ _ (.get _ now refreshName hread)
        | some refresh =>
          rw [proceed_access_of_refresh now s refresh haccess hout hrefresh]
          rw [← Routine.proceed_bind, Routine.bind_assoc]
          exact begins_joining .access now s _ (.get _ now refreshName hread) _ rfl
  | renew => exact begins_joining .renew now s s.store .refl _ rfl
  | isOpen => exact .returned _ _ (.get s.store now refreshName .refl)
  | establish pair =>
    have hproceed : (Request.establish pair).operation.proceed now s
        = (((Session.establish pair).proceed now s).1.bind fun _ => .done .done).proceed now
          ((Session.establish pair).proceed now s).2 :=
      Routine.proceed_bind now (Session.establish pair) _ s
    rw [hproceed, proceed_establish]
    exact .established pair rfl
  | clear =>
    have hproceed : Request.clear.operation.proceed now s
        = ((Session.clear.proceed now s).1.bind fun _ => .done .done).proceed now
          (Session.clear.proceed now s).2 :=
      Routine.proceed_bind now Session.clear _ s
    rw [hproceed, proceed_clear]
    exact .cleared rfl

end Request

/-! ### Answers -/

/-- The answer to a renewal that has finished, or that never was, changes nothing. -/
theorem finish_of_finished (id : Nat) (answer : Result Credentials) (now : Timestamp) (s : Session)
    (h : s.unfinished? id = none) : s.finish id answer now = s := by
  simp only [finish, complete, Routine.look, Bind.bind, Routine.bind, Routine.proceed, h]
  rfl

/-- A renewal that fails leaves all as it was but its outcome. -/
theorem finish_error (id : Nat) (e : Error) (now : Timestamp) (s : Session) (r : Renewal)
    (h : s.unfinished? id = some r) :
    s.finish id (.error e) now = s.record id (.error (renewalError e)) := by
  simp only [finish, complete, conclude, Routine.look, Routine.change, Bind.bind, Routine.bind,
    Pure.pure, Routine.proceed, h]

/-- The pair that a renewal of the present epoch brings is kept. -/
theorem finish_ok (id : Nat) (pair : Credentials) (now : Timestamp) (s : Session) (r : Renewal)
    (h : s.unfinished? id = some r) (he : s.epoch = r.epoch) :
    s.finish id (.ok pair) now = (s.kept pair now).record id (.ok pair.access) := by
  have he' : (s.acquire .epoch).epoch = r.epoch := he
  simp only [finish, complete, conclude, under, keep, Routine.look, Routine.change,
    Routine.atomically, Bind.bind, Routine.bind, Pure.pure, Routine.proceed, h, he', if_true]
  simp only [kept, write, acquire, release, List.erase_cons_head]

/-- The pair that a renewal of an earlier epoch brings is dropped. -/
theorem finish_ok_of_ne (id : Nat) (pair : Credentials) (now : Timestamp) (s : Session)
    (r : Renewal) (h : s.unfinished? id = some r) (he : s.epoch ≠ r.epoch) :
    s.finish id (.ok pair) now = s.record id (.error .authExpired) := by
  have he' : ¬ (s.acquire .epoch).epoch = r.epoch := he
  simp only [finish, complete, conclude, under, keep, Routine.look, Routine.change,
    Routine.atomically, Bind.bind, Routine.bind, Pure.pure, Routine.proceed, h, he', if_false]
  rfl

/-- What may come of an answer: it is ignored, the renewal fails, or it brings a pair that is kept
or dropped. -/
inductive Finishes (id : Nat) (answer : Result Credentials) (now : Timestamp) (s : Session) :
    Session → Prop
  | ignored (hid : s.unfinished? id = none) : Finishes id answer now s s
  | failed (r : Renewal) (e : Error) (hid : s.unfinished? id = some r)
    (hanswer : answer = .error e) :
    Finishes id answer now s (s.record id (.error (renewalError e)))
  | kept (r : Renewal) (pair : Credentials) (hid : s.unfinished? id = some r)
    (hanswer : answer = .ok pair) (hepoch : s.epoch = r.epoch) :
    Finishes id answer now s ((s.kept pair now).record id (.ok pair.access))
  | dropped (r : Renewal) (pair : Credentials) (hid : s.unfinished? id = some r)
    (hanswer : answer = .ok pair) (hepoch : s.epoch ≠ r.epoch) :
    Finishes id answer now s (s.record id (.error .authExpired))

/-- What comes of an answer. -/
theorem finishes (id : Nat) (answer : Result Credentials) (now : Timestamp) (s : Session) :
    s.Finishes id answer now (s.finish id answer now) := by
  cases hid : s.unfinished? id with
  | none =>
    rw [finish_of_finished id answer now s hid]
    exact .ignored hid
  | some r =>
    cases answer with
    | error e =>
      rw [finish_error id e now s r hid]
      exact .failed r e hid rfl
    | ok pair =>
      by_cases hepoch : s.epoch = r.epoch
      · rw [finish_ok id pair now s r hid hepoch]
        exact .kept r pair hid rfl hepoch
      · rw [finish_ok_of_ne id pair now s r hid hepoch]
        exact .dropped r pair hid rfl hepoch

end Wager.Session
