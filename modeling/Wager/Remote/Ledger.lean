import Wager.Number.Whole
import Wager.Remote.Exchange
import Wager.Remote.Status
import Wager.Text.Quoted
import Wager.Token.Amount
import Wager.Transaction.Basic

/-!
# The ledger over the web

Reading balances and submitting transactions through a server of the ledger.

A request names a procedure and carries a number that counts up; the reply holds a result or an
error. That an account does not exist comes as an error too, so it has to be told from all others:
the balance of a missing account is zero, while of a failed request nothing is known.

## Main definitions

* `Ledger`: A connection.
* `Ledger.balance`: The balance of an account.
* `Ledger.submit`: Submits a transaction.
-/

namespace Wager.Remote

/-- A connection to the ledger: where it goes, and through whom. -/
structure Ledger where
  peer : Peer
  address : String

namespace Ledger

/-- An error that the ledger replies. -/
structure Fault where
  code : Int
  message : String
  deriving DecidableEq

/-- Reads an error. -/
def Fault.decoder : Json.Decoder Fault :=
  .record ["code", "message"] fun budget slots =>
    match slots with
    | [code, message] => do
      return {
        code := ← Json.Decoder.required (.whole (-0x8000000000000000) 0x7FFFFFFFFFFFFFFF) budget code
        message := ← Json.Decoder.required .text budget message }
    | _ => none

/-- The code of an error in the parameters of a request. -/
def invalidParameters : Int := -32602

/-- Whether a text occurs in another. -/
def occursIn (part : List Char) : List Char → Bool
  | [] => part.isEmpty
  | c :: cs => part.isPrefixOf (c :: cs) || occursIn part cs

/-- Whether the error means that the account does not exist. -/
def Fault.isMissingAccount (f : Fault) : Bool :=
  f.code = invalidParameters && occursIn "could not find account".toList f.message.toList

/-- A reply: a result, an error, both or neither. -/
structure Answer (α : Type) where
  result : Option α
  error : Option Fault

/-- Reads a reply. -/
def Answer.decoder {α : Type} (d : Json.Decoder α) : Json.Decoder (Answer α) :=
  .record ["result", "error"] fun budget slots =>
    match slots with
    | [result, error] => do
      return {
        result := ← Json.Decoder.nullable d budget result
        error := ← Json.Decoder.nullable Fault.decoder budget error }
    | _ => none

/-- A balance as the ledger writes it. -/
structure Holding where
  amount : String
  decimals : UInt8
  deriving DecidableEq

/-- Reads a balance. -/
def Holding.decoder : Json.Decoder Holding :=
  .record ["amount", "decimals"] fun budget slots =>
    match slots with
    | [amount, decimals] => do
      return {
        amount := ← Json.Decoder.required .text budget amount
        decimals := ← Json.Decoder.required .byte budget decimals }
    | _ => none

/-- Reads a balance with its circumstances. -/
def Holding.replyDecoder : Json.Decoder Holding :=
  .record ["value"] fun budget slots =>
    match slots with
    | [value] => Json.Decoder.required decoder budget value
    | _ => none

/-- The amount that is held. -/
def Holding.toAmount (h : Holding) : Result TokenAmount :=
  match Whole.read 0xFFFFFFFFFFFFFFFF h.amount with
  | .ok n => .ok ⟨.ofNat n, h.decimals⟩
  | .error f => .error <| .networkFailure <|
    "invalid token amount " ++ Text.inQuotes h.amount ++ ": " ++ f.message

/-- The most characters of a refusal that are passed on. -/
def maxRefusal : Nat := 200

/-- The document of a request. -/
def body (number : Nat) (procedure : String) (parameters : List Json.Value) : Json.Value :=
  .ofMembers [("jsonrpc", .text "2.0"), ("id", .ofNat number), ("method", .text procedure),
    ("params", .array parameters)]

/-- What a reply comes to. -/
def conclude {α : Type} (procedure : String) (d : Json.Decoder α) (r : Reply) :
    Result (Answer α) :=
  if r.isSuccess then
    match if r.isWhole then Json.decodeBytes? (Answer.decoder d) r.body else none with
    | some answer => .ok answer
    | none => .error brokenBody.toError
  else .error <| .networkFailure <|
    s!"RPC {procedure} returned {statusText r.status}: " ++
      String.ofList (r.text.toList.take maxRefusal)

/-- Calls a procedure, with a number of the caller's for the request. -/
def call {α : Type} (ledger : Ledger) (number : Nat) (procedure : String)
    (parameters : List Json.Value) (d : Json.Decoder α) : Exchange (Result (Answer α)) := do
  match ← ledger.peer.ask .post ledger.address none (some (body number procedure parameters)) with
  | .ok reply => return conclude procedure d reply
  | .error failure => return .error failure.toError

/-- How settled what the ledger says has to be. -/
def commitment : Json.Value := .text "confirmed"

/-- What a reply says of a balance. -/
def balanceOf (a : Answer Holding) : Result (Option TokenAmount) :=
  match a.result, a.error with
  | some holding, _ => holding.toAmount.map some
  | none, some fault =>
    if fault.isMissingAccount then .ok none
    else .error <| .networkFailure <|
      s!"getTokenAccountBalance failed ({fault.code}): " ++ fault.message
  | none, none =>
    .error (.networkFailure "getTokenAccountBalance returned neither result nor error")

/-- What a reply says of a submitted transaction. -/
def signatureOf (a : Answer String) : Result String :=
  match a.result, a.error with
  | some signature, _ => .ok signature
  | none, some fault => .error (.submissionRejected fault.message)
  | none, none => .error (.networkFailure "sendTransaction returned neither result nor error")

/-- The balance of an account; nothing if the account does not exist. -/
def balance (ledger : Ledger) (number : Nat) (account : Address) :
    Exchange (Result (Option TokenAmount)) := do
  let parameters := [.text account.text, .object [("commitment", commitment)]]
  return (← ledger.call number "getTokenAccountBalance" parameters Holding.replyDecoder).bind
    balanceOf

/-- Submits a signed transaction; gives its signature. -/
def submit (ledger : Ledger) (number : Nat) (tx : Transaction) : Exchange (Result String) := do
  let options : Json.Value :=
    .ofMembers [("encoding", .text "base64"), ("preflightCommitment", commitment)]
  return (← ledger.call number "sendTransaction" [.text tx.toBase64, options] .text).bind
    signatureOf

end Ledger

end Wager.Remote
