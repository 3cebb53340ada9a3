import Wager.Profile

/-!
# Credentials

The pair of credentials that a session lives on, and the replies that bring it.

The access credential opens the server's doors for an hour; the refresh credential is good for one
exchange against a new pair. Both are secrets, so a pair is never shown.

## Main definitions

* `Credentials`: A pair.
* `SignInReply`: The answer to a sign-in.
-/

namespace Wager

/-- An access credential and the refresh credential issued with it. -/
structure Credentials where
  access : String
  refresh : String
  deriving DecidableEq

namespace Credentials

/-- What may be shown of a pair. -/
def redacted (_ : Credentials) : String :=
  "TokenPair \x7b access_token: \"<redacted>\", refresh_token: \"<redacted>\" \x7d"

/-- A pair as a document. -/
def toValue (c : Credentials) : Json.Value :=
  .object [("access_token", .text c.access), ("refresh_token", .text c.refresh)]

/-- Reads a pair from a document. -/
def decoder : Json.Decoder Credentials :=
  .record ["access_token", "refresh_token"] fun budget slots =>
    match slots with
    | [access, refresh] => do
      return {
        access := ← Json.Decoder.required .text budget access
        refresh := ← Json.Decoder.required .text budget refresh }
    | _ => none

/-- Reads the reply that brings a new pair. -/
def replyDecoder : Json.Decoder Credentials :=
  .record ["jwt_info"] fun budget slots =>
    match slots with
    | [pair] => Json.Decoder.required decoder budget pair
    | _ => none

end Credentials

/-- The answer to a sign-in: a pair, and the person if the server sends it along. -/
structure SignInReply where
  credentials : Credentials
  profile : Option Profile := none
  deriving DecidableEq

/-- Reads the answer to a sign-in from a document. -/
def SignInReply.decoder : Json.Decoder SignInReply :=
  .record ["jwt_info", "user"] fun budget slots =>
    match slots with
    | [pair, profile] => do
      return {
        credentials := ← Json.Decoder.required Credentials.decoder budget pair
        profile := ← Json.Decoder.optional Profile.decoder budget profile }
    | _ => none

/-- Reads the reply that holds a profile. -/
def Profile.replyDecoder : Json.Decoder Profile :=
  .record ["user"] fun budget slots =>
    match slots with
    | [profile] => Json.Decoder.required Profile.decoder budget profile
    | _ => none

end Wager
