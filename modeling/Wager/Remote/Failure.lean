import Wager.Error
import Wager.Json.Decode
import Wager.Text.Blank
import Wager.Text.Utf8

/-!
# Failed requests

Why a request to the server failed, and what of it is passed on.

The server explains a refusal in a small document with a message; whatever else stands in front of
the server may answer with anything. So the message is taken from the document if the body is one,
and otherwise the body itself is the message, cut to a length that fits a notice. The cut is made in
bytes but never inside a character.

## Main definitions

* `Remote.Failure`: Why a request failed.
* `Remote.Failure.ofStatus`: The failure of a reply with a status.
* `Remote.Failure.toError`: What is passed on.
-/

namespace Wager.Remote

/-- Why a request failed. A broken transfer and a reply that makes no sense carry a description. -/
inductive Failure
  | unauthorized (message : Option String)
  | rejected (status : Nat) (message : Option String) (body : String)
  | transport (detail : String)
  | undecodable (detail : String)
  | invalidResponse (detail : String)
  deriving DecidableEq

/-- The most bytes of a body that are passed on. -/
def maxBodyBytes : Nat := 500

/-- What the text is cut to if it is too long. There always is a place to cut it. -/
def front (s : String) : String :=
  match Text.lastPlace? s maxBodyBytes with
  | some p => (s.sliceTo p).copy
  | none => ""

/-- The text, cut to whole characters if it is too long, with a note of its full length. -/
def truncated (s : String) : String :=
  if s.utf8ByteSize ≤ maxBodyBytes then s
  else front s ++ s!"... (truncated, {s.utf8ByteSize} total bytes)"

/-- Reads the message of the document that explains a refusal. -/
def messageDecoder : Json.Decoder (Option String) :=
  .record ["message"] fun budget slots =>
    match slots with
    | [message] => Json.Decoder.nullable .text budget message
    | _ => none

/-- The message in a body: that of the document, unless empty, or else the body itself. -/
def messageOf (body : String) : Option String :=
  let body := Text.trimmed body
  if body.isEmpty then none
  else match Json.decode? messageDecoder body with
    | some message => message.filter (!·.isEmpty)
    | none => some (truncated body)

namespace Failure

/-- The failure of a reply with a status that means no success. -/
def ofStatus (status : Nat) (body : String) : Failure :=
  if status = 401 then .unauthorized (messageOf body)
  else .rejected status (messageOf body) (truncated body)

/-- The wording for logs. -/
def message : Failure → String
  | .unauthorized _ => "Unauthorized - token may be expired"
  | .rejected status _ body => s!"Rejected with status {status}: " ++ body
  | .transport detail => "Network error: " ++ detail
  | .undecodable detail => "Network error: " ++ detail
  | .invalidResponse detail => "Invalid response: " ++ detail

/-- What is passed on of a failure. -/
def toError : Failure → Error
  | .unauthorized message => .remoteRejected 401 message
  | .rejected status message _ => .remoteRejected status message
  | .transport detail => .networkFailure detail
  | .undecodable detail => .networkFailure ("malformed response: " ++ detail)
  | .invalidResponse detail => .networkFailure detail

end Failure

end Wager.Remote
