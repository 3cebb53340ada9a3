import Wager.Credentials
import Wager.Duel.Action
import Wager.Remote.Exchange

/-!
# The server's endpoints

What the server can be asked, where, and how its replies are read.

An endpoint says all that is known of a kind of request before it is authorized: the method, the
path, the document that goes along and the reader of the document that comes back. An empty body
stands for the empty document.

## Main definitions

* `Endpoint`: A kind of request.
* `Endpoint.ask`: Makes the request.
* `Endpoint.signIn`, `Endpoint.renewal`, …: The endpoints there are.
-/

namespace Wager.Remote

/-- A kind of request, with the reader of its replies. -/
structure Endpoint (α : Type) where
  method : Method
  path : String
  body : Option Json.Value := none
  decoder : Json.Decoder α

namespace Endpoint

variable {α : Type}

/-- Reads the body of a successful reply. -/
def read (e : Endpoint α) (body : String) : Result α :=
  match Json.decode? e.decoder (if Text.isBlankText body then "null" else body) with
  | some a => .ok a
  | none => .error <| Failure.toError <| .invalidResponse <|
    "Failed to parse JSON response from " ++ e.path ++ ": " ++ Json.malformed

/-- What a reply comes to. -/
def conclude (e : Endpoint α) (r : Reply) : Result α :=
  if r.isSuccess then
    if r.isWhole then e.read r.text else .error brokenBody.toError
  else .error (Failure.ofStatus r.status r.text).toError

/-- The server's address without the slashes at its end. -/
def base (server : String) : String :=
  String.ofList (server.toList.reverse.dropWhile (· = '/')).reverse

/-- The address of the endpoint at a server. -/
def address (e : Endpoint α) (server : String) : String :=
  base server ++ "/" ++ String.ofList (e.path.toList.dropWhile (· = '/'))

/-- Makes the request. A credential that cannot be sent is as good as an expired one. -/
def ask (e : Endpoint α) (peer : Peer) (server : String) (authorization : Option String) :
    Exchange (Result α) := do
  if authorization.all isSendable then
    match ← peer.ask e.method (e.address server) authorization e.body with
    | .ok reply => return e.conclude reply
    | .error failure => return .error failure.toError
  else return .error .authExpired

/-- How an access credential authorizes a request. -/
def bearer (access : String) : String := "Bearer " ++ access

/-- Exchanges a signature of an address for a session. -/
def signIn (address signature : String) : Endpoint SignInReply where
  method := .post
  path := "auth/sign-in-wallet"
  body := some (.ofMembers [("address", .text address), ("secret", .text signature)])
  decoder := SignInReply.decoder

/-- Exchanges the refresh credential, which authorizes the request by itself. -/
def renewal : Endpoint Credentials where
  method := .post
  path := "auth/refresh"
  body := some (.object [])
  decoder := Credentials.replyDecoder

/-- The profile of whoever is signed in. -/
def profile : Endpoint Profile where
  method := .get
  path := "user"
  decoder := Profile.replyDecoder

/-- The figures of whoever is signed in. -/
def statistics : Endpoint Json.Value where
  method := .get
  path := "user/stats"
  decoder := .value

/-- The duels of whoever is signed in. -/
def duels : Endpoint (List Duel) where
  method := .get
  path := "duel/my"
  decoder := .list Duel.decoder

/-- A duel with its players. -/
def duel (id : String) : Endpoint Duel.Detail where
  method := .get
  path := "duel/" ++ Text.trimmed id
  decoder := Duel.Detail.decoder

/-- The path of the endpoints for an action. -/
def actionPath : Duel.Action → String
  | .create _ => "crypto-duel/solana"
  | .join _ => "crypto-duel/solana/join"

/-- Reads the reply that holds a transaction. -/
def transactionDecoder : Json.Decoder String :=
  .record ["tx"] fun budget slots =>
    match slots with
    | [tx] => Json.Decoder.required .text budget tx
    | _ => none

/-- The unsigned transaction for an action. -/
def transaction (a : Duel.Action) : Endpoint String where
  method := .post
  path := actionPath a ++ "/sign-tx"
  body := some a.signBody
  decoder := transactionDecoder

/-- Reports the transaction of an action. -/
def finalize (a : Duel.Action) (hash : String) : Endpoint Json.Value where
  method := .post
  path := actionPath a
  body := some (a.finalizeBody hash)
  decoder := .value

/-- Resolves a duel. -/
def resolve (r : Duel.Resolution) : Endpoint Json.Value where
  method := .put
  path := "crypto-duel/solana/resolve"
  body := some r.toValue
  decoder := .value

end Endpoint

end Wager.Remote
