import Wager.Credentials
import Wager.Error
import Wager.Store.Basic

/-!
# Sessions

The credentials of whoever is signed in, and their renewal.

Renewing spends the refresh credential: the server takes each of them once. So callers that need a
renewal while one is outstanding share it instead of starting another. The slot names the renewal
that new callers join; a renewal that has finished is never joined, even if it is still in the slot.

Signing out cannot stop a renewal that is under way. Instead it moves the session on to its next
epoch, and a renewal of an earlier epoch keeps what it gets to itself.

The functions here are the smallest steps: each touches the slot, the epoch, the renewals or one
entry of the store. How they are put together, and under which locks, is said in
`Wager.Session.Access`.

## Main definitions

* `Renewal`: A renewal.
* `Session`: A session.
* `Session.outstanding?`, `publish`, `leave`, `emptySlot`: The slot.
* `Session.read`, `write`, `remove`: The store.
* `Session.outcome?`, `record`: What renewals gave.

## Theorems

* `Session.leave_eq_self`: Nobody takes another renewal out of the slot.
* `Session.outcome?_record_self`: What is recorded of a renewal.
-/

namespace Wager

/-- A renewal: the refresh credential that it spends, the epoch in which it was started, and what
it gave once it is finished. -/
structure Renewal where
  refresh : String
  epoch : Nat
  outcome : Option (Result String) := none

/-- The locks of a session: that of the slot and that of the epoch. -/
inductive Session.Lock
  | slot
  | epoch
  deriving DecidableEq

/-- A session: the store, the slot, the epoch, all renewals that were ever started, each known by its
position, and the locks that are held. -/
structure Session where
  store : Store := .inMemory
  slot : Option Nat := none
  epoch : Nat := 0
  renewals : List Renewal := []
  held : List Session.Lock := []

namespace Session

/-- The name of the access credential in the store. -/
def accessName : String := "access_token"

/-- The name of the refresh credential in the store. -/
def refreshName : String := "refresh_token"

/-- How many hours an access credential is good for. -/
def accessHours : Nat := 1

/-- How many hours a refresh credential is good for. -/
def refreshHours : Nat := 720

/-! ### The store -/

/-- The credential with a name. -/
def read (name : String) (now : Timestamp) (s : Session) : Option String × Session :=
  let (value, store) := s.store.get now name
  (value, { s with store })

/-- Keeps a credential for some hours. -/
def write (name value : String) (hours : Nat) (now : Timestamp) (s : Session) : Session :=
  { s with store := s.store.set name value (now.addHours hours) }

/-- Removes the credential with a name. -/
def remove (name : String) (s : Session) : Session := { s with store := s.store.remove name }

/-! ### The slot -/

/-- What a renewal gave, once it is finished. -/
def outcome? (s : Session) (id : Nat) : Option (Result String) :=
  s.renewals[id]?.bind Renewal.outcome

/-- The renewal that a new caller joins. -/
def outstanding? (s : Session) : Option Nat := s.slot.filter fun id => (s.outcome? id).isNone

/-- Starts a renewal and puts it into the slot; gives its position. -/
def publish (refresh : String) (epoch : Nat) (s : Session) : Nat × Session :=
  (s.renewals.length, { s with
    slot := some s.renewals.length
    renewals := s.renewals ++ [{ refresh, epoch }] })

/-- Takes a renewal out of the slot, unless another one is there. -/
def leave (id : Nat) (s : Session) : Session :=
  if s.slot = some id then { s with slot := none } else s

/-- Empties the slot. -/
def emptySlot (s : Session) : Session := { s with slot := none }

/-! ### Renewals and epochs -/

/-- A renewal that has not finished yet. -/
def unfinished? (s : Session) (id : Nat) : Option Renewal :=
  s.renewals[id]?.filter (·.outcome.isNone)

/-- Records what a renewal gave. -/
def record (id : Nat) (outcome : Result String) (s : Session) : Session :=
  { s with renewals := s.renewals.modify id fun r => { r with outcome := some outcome } }

/-- Moves on to the next epoch. -/
def nextEpoch (s : Session) : Session := { s with epoch := s.epoch + 1 }

/-- The statuses by which the server refuses the refresh credential itself. -/
def refusals : List Nat := [400, 401, 403]

/-- Why a renewal failed: a refused credential means that the session is over, anything else may
pass. -/
def renewalError : Error → Error
  | .remoteRejected status message =>
    if status ∈ refusals then .authExpired else .remoteRejected status message
  | e => e

/-- Nobody takes another renewal out of the slot. -/
theorem leave_eq_self {s : Session} {id : Nat} (h : s.slot ≠ some id) : s.leave id = s :=
  if_neg h

/-- What is recorded of a renewal is what it gave. -/
theorem outcome?_record_self {s : Session} {id : Nat} (h : id < s.renewals.length)
    (outcome : Result String) : (s.record id outcome).outcome? id = some outcome := by
  simp [record, outcome?, h]

/-! ### Locks -/

/-- Takes a lock. Nobody else may hold it then. -/
def acquire (l : Lock) (s : Session) : Session := { s with held := l :: s.held }

/-- Gives a lock back. -/
def release (l : Lock) (s : Session) : Session := { s with held := s.held.erase l }

end Session

end Wager
