import Wager.Remote.Endpoint
import Wager.Session.Access

/-!
# Authorized requests

Requests on behalf of whoever is signed in.

An authorized request first comes by an access credential, which may take a renewal, and is then
made once. A reply that refuses the credential is a reply like any other: nothing is asked twice.

Time may pass while the server answers, so a clock is read by the requests that were sent so far.
Mostly it is enough to know the time.

## Main definitions

* `Service`: A server that can be reached through a peer.
* `Service.renewalOn`, `Service.renewal`: Carries out a renewal.
* `Service.runOn`, `Service.run`: Runs an operation on the session.
* `Service.authorizedOn`, `Service.authorized`: Makes an authorized request.
-/

namespace Wager.Remote

/-- A server and the peer through which it is reached. -/
structure Service where
  peer : Peer
  server : String

namespace Service

/-- A computation on a session that sends requests. -/
abbrev Conversation : Type → Type := StateM (Session × List Request)

/-- Sends requests within a conversation. -/
def exchange {α : Type} (x : Exchange α) : Conversation α := fun (session, sent) =>
  let (a, sent) := x sent
  (a, (session, sent))

/-- Carries out a renewal; gives its outcome. -/
def renewalOn (service : Service) (clock : List Request → Timestamp) (id : Nat) :
    Conversation (Result String) := do
  match (← get).1.renewals[id]? with
  | none => return .error .authExpired
  | some r =>
    let answer ← exchange (Endpoint.renewal.ask service.peer service.server (some r.refresh))
    modify fun (session, sent) => (session.finish id answer (clock sent), sent)
    return ((← get).1.outcome? id).getD (.error .authExpired)

/-- Runs an operation on the session to its end. -/
def runOn {α : Type} (service : Service) (clock : List Request → Timestamp)
    (operation : Session.Operation α) : Conversation α :=
  operation.run clock (service.renewalOn clock)

/-- Makes a request without a credential. -/
def unauthorized {α : Type} (service : Service) (e : Endpoint α) : Conversation (Result α) :=
  exchange (e.ask service.peer service.server none)

/-- Makes a request with an access credential. -/
def authorizedOn {α : Type} (service : Service) (clock : List Request → Timestamp)
    (e : Endpoint α) : Conversation (Result α) := do
  match ← service.runOn clock Session.access with
  | .error error => return .error error
  | .ok none => return .error .authExpired
  | .ok (some access) =>
    exchange (e.ask service.peer service.server (some (Endpoint.bearer access)))

/-- Carries out a renewal at a time. -/
def renewal (service : Service) (now : Timestamp) : Nat → Conversation (Result String) :=
  service.renewalOn fun _ => now

/-- Runs an operation on the session to its end, at a time. -/
def run {α : Type} (service : Service) (now : Timestamp) :
    Session.Operation α → Conversation α :=
  service.runOn fun _ => now

/-- Makes a request with an access credential at a time. -/
def authorized {α : Type} (service : Service) (now : Timestamp) :
    Endpoint α → Conversation (Result α) :=
  service.authorizedOn fun _ => now

end Service

end Wager.Remote
