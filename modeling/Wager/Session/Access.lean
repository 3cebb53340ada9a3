import Wager.Routine
import Wager.Session.Basic

/-!
# Access to a session

How callers come by an access credential, and how sessions begin and end.

A caller gets the stored access credential while it lasts. After that it needs a renewal: it joins
the outstanding one, or starts one if there is none. All that a caller ever waits for is the outcome
of a renewal. Whoever has waited for one takes it out of the slot; the first one does, the others
find the slot empty or find another renewal there and leave that alone.

Every section of an operation is one step on the session. Callers on one thread are only interleaved
where they wait, so for them all sections up to the next wait are one. Callers on several threads may
be interleaved between any two sections, as far as the locks allow it: no lock is held twice.

## Main definitions

* `Session.Operation`: An operation on a session; it waits for outcomes of renewals.
* `Session.access`: An access credential, if anybody is signed in.
* `Session.renew`: The outcome of a renewal.
* `Session.complete`: What a renewal does when the server has answered.
* `Session.establish`, `Session.clear`: The beginning and the end of a session.
-/

namespace Wager.Session

/-- An operation on a session. What it waits for is the outcome of a renewal. -/
abbrev Operation : Type → Type := Routine Session Nat fun _ => Result String

/-- An operation under a lock. -/
def under {α : Type} (l : Lock) (operation : Operation α) : Operation α := do
  Routine.change (acquire l)
  let a ← operation
  Routine.change (release l)
  return a

/-- The credential with a name. -/
def credential (name : String) : Operation (Option String) := Routine.atomically (read name)

/-- Keeps a pair of credentials. -/
def keep (pair : Credentials) : Operation Unit := do
  Routine.atomically fun now s => ((), s.write accessName pair.access accessHours now)
  Routine.atomically fun now s => ((), s.write refreshName pair.refresh refreshHours now)

/-- The renewal to wait for: the outstanding one, or a new one that spends the stored refresh
credential. -/
def joinRenewal : Operation (Result Nat) := under .slot do
  match ← Routine.look outstanding? with
  | some id => return .ok id
  | none =>
    match ← credential refreshName with
    | none => return .error .authExpired
    | some refresh =>
      let epoch ← under .epoch (Routine.look epoch)
      let id ← Routine.atomically fun _ s => s.publish refresh epoch
      return .ok id

/-- A new access credential: the outcome of a renewal. -/
def renew : Operation (Result String) := do
  match ← joinRenewal with
  | .error e => return .error e
  | .ok id =>
    let outcome ← Routine.await id
    under .slot (Routine.change (leave id))
    return outcome

/-- An access credential: the stored one or the outcome of a renewal; nothing if nobody is signed
in. -/
def access : Operation (Result (Option String)) := do
  match ← credential accessName with
  | some token => return .ok (some token)
  | none =>
    if (← under .slot (Routine.look outstanding?)).isNone then
      if (← credential refreshName).isNone then
        return .ok none
    return (← renew).map some

/-- Whether anybody is signed in: whether there is a refresh credential. -/
def isOpen : Operation Bool := return (← credential refreshName).isSome

/-- What becomes of the server's answer to a renewal of an epoch: the new pair is kept, unless the
session has moved on since. -/
def conclude (started : Nat) : Result Credentials → Operation (Result String)
  | .error e => return .error (renewalError e)
  | .ok pair => under .epoch do
    if (← Routine.look epoch) = started then
      keep pair
      return .ok pair.access
    else return .error .authExpired

/-- Finishes a renewal with the server's answer. -/
def complete (id : Nat) (answer : Result Credentials) : Operation Unit := do
  match ← Routine.look (·.unfinished? id) with
  | none => return
  | some r =>
    let outcome ← conclude r.epoch answer
    Routine.change (record id outcome)

/-- The session after a renewal has finished with the server's answer. -/
def finish (id : Nat) (answer : Result Credentials) (now : Timestamp) (s : Session) : Session :=
  ((complete id answer).proceed now s).2

/-- Begins a session with a pair of credentials. -/
def establish (pair : Credentials) : Operation Unit := under .epoch (keep pair)

/-- Ends the session. -/
def clear : Operation Unit := do
  under .epoch do
    Routine.change nextEpoch
    Routine.change (remove accessName)
    Routine.change (remove refreshName)
  under .slot (Routine.change emptySlot)

end Wager.Session
