import Wager.Json.Value
import Wager.Remote.Failure
import Wager.Url.Basic

/-!
# Exchanges with a peer

Requests over the web, and what comes back for them.

What comes back is up to the peer, who may answer each request by all that were sent before it. A
request is sent only if its address can be asked for anything. A request that is sent need not
arrive; then nobody sees it, and what comes back is the same as when a reply is lost.

## Main definitions

* `Request`: A request.
* `Delivery`: What comes back.
* `Peer`: Somebody who answers requests.
* `Exchange`: A computation that sends requests.
* `Peer.ask`: Sends a request.
* `Peer.seen`: The requests that arrive.
-/

namespace Wager.Remote

/-- What a request is for. -/
inductive Method
  | get
  | post
  | put
  deriving DecidableEq

/-- The name of a method. -/
def Method.name : Method → String
  | .get => "GET"
  | .post => "POST"
  | .put => "PUT"

/-- A request, with the credential that authorizes it and the document that it carries. -/
structure Request where
  method : Method
  url : Url
  authorization : Option String := none
  body : Option Json.Value := none

/-- What comes of a request: it does not arrive, its reply is lost, or there is a reply with a status
and a body, of which the end may be missing. -/
inductive Delivery
  | unreachable
  | lost
  | reply (status : Nat) (body : List UInt8) (isWhole : Bool)

/-- Somebody who answers requests, by those that were sent before. -/
abbrev Peer : Type := List Request → Request → Delivery

/-- A peer that cannot be reached. -/
def Peer.unreachable : Peer := fun _ _ => .unreachable

/-- A computation that sends requests; they are recorded. -/
abbrev Exchange : Type → Type := StateM (List Request)

/-- A reply. -/
structure Reply where
  status : Nat
  body : List UInt8
  isWhole : Bool

/-- Whether the status means success. -/
def Reply.isSuccess (r : Reply) : Bool := 200 ≤ r.status && r.status < 300

/-- The text of a body; a broken one has none. -/
def Reply.text (r : Reply) : String := if r.isWhole then Text.lossy r.body else ""

/-- What is told of a body that cannot be read. -/
def brokenBody : Failure := .undecodable "error decoding response body"

/-- The characters that a credential may hold to be sent along with a request. -/
def isSendable (credential : String) : Bool :=
  (Text.bytes credential).all fun b => (32 ≤ b && b ≠ 127) || b = 9

/-- Sends a request to an address. -/
def Peer.ask (peer : Peer) (method : Method) (address : String) (authorization : Option String)
    (body : Option Json.Value) : Exchange (Except Failure Reply) := do
  match Url.parse? address with
  | none => return .error (.transport "builder error")
  | some url =>
    let url := url.withoutUser
    if url.isAskable then
      let earlier ← get
      let request : Request := { method, url, authorization, body }
      set (earlier ++ [request])
      match peer earlier request with
      | .unreachable | .lost => return .error (.transport s!"error sending request for url ({url.text})")
      | .reply status body isWhole => return .ok { status, body, isWhole }
    else return .error (.transport s!"builder error for url ({url.text})")

/-- Whether a request arrives. -/
def Peer.sees (peer : Peer) (earlier : List Request) (r : Request) : Bool :=
  match peer earlier r with
  | .unreachable => false
  | _ => true

/-- The requests that arrive, of those that are sent after some earlier ones. -/
def Peer.seen (peer : Peer) (earlier : List Request) : List Request → List Request
  | [] => []
  | r :: rest =>
    let others := peer.seen (earlier ++ [r]) rest
    if peer.sees earlier r then r :: others else others

end Wager.Remote
