import Wager.Json.Time

/-!
# Duels

Duels as the server lists them.

The server stores the stage of a duel as a small number. Numbers without a known meaning are kept,
so that a newer server does not break an older client.

## Main definitions

* `Duel.Status`: The stage of a duel.
* `Duel`: A duel.
* `Duel.Detail`: A duel with its players.
-/

namespace Wager

/-- The stage of a duel. -/
inductive Duel.Status
  | inReview
  | autoCancelled
  | adminCancelled
  | inProcess
  | resolved
  | refund
  | other (code : UInt8)
  deriving DecidableEq

namespace Duel.Status

/-- The stage with a number. -/
def ofCode (code : UInt8) : Status :=
  if code = 1 then .inReview
  else if code = 2 then .autoCancelled
  else if code = 3 then .adminCancelled
  else if code = 4 then .inProcess
  else if code = 5 then .resolved
  else if code = 6 then .refund
  else .other code

/-- The number of a stage. -/
def code : Status → UInt8
  | .inReview => 1
  | .autoCancelled => 2
  | .adminCancelled => 3
  | .inProcess => 4
  | .resolved => 5
  | .refund => 6
  | .other code => code

/-- The name of a stage. -/
def name : Status → String
  | .inReview => "InReview"
  | .autoCancelled => "AutoCancelled"
  | .adminCancelled => "AdminCancelled"
  | .inProcess => "InProcess"
  | .resolved => "Resolved"
  | .refund => "Refund"
  | .other code => s!"Other({code.toNat})"

/-- Whether the duel needs nothing further from its owner. -/
def isSettled : Status → Bool
  | .resolved => true
  | .refund => true
  | _ => false

end Duel.Status

/-- A duel as listed by the server. -/
structure Duel where
  id : String
  ownerId : Option String
  roomNumber : Option UInt64
  playersCount : UInt64
  winnersCount : UInt64
  username : String
  status : Duel.Status
  question : String
  price : Binary64
  commission : UInt64
  eventDate : Option Timestamp
  finalResult : Option UInt8
  cancellationReason : Option String
  createdAt : Option Timestamp
  deriving DecidableEq

namespace Duel

/-- A number of eight bytes as a document. -/
def wordValue (n : UInt64) : Json.Value := .ofNat n.toNat

/-- A number of one byte as a document. -/
def byteValue (n : UInt8) : Json.Value := .ofNat n.toNat

/-- A duel as a document. -/
def toValue (d : Duel) : Json.Value :=
  .object [
    ("id", .text d.id),
    ("owner_id", .ofOption .text d.ownerId),
    ("room_number", .ofOption wordValue d.roomNumber),
    ("players_count", wordValue d.playersCount),
    ("winners_count", wordValue d.winnersCount),
    ("username", .text d.username),
    ("status", byteValue d.status.code),
    ("question", .text d.question),
    ("duel_price", .ofBinary64 d.price),
    ("commission", wordValue d.commission),
    ("event_date", .ofOption Timestamp.toValue d.eventDate),
    ("final_result", .ofOption byteValue d.finalResult),
    ("cancellation_reason", .ofOption .text d.cancellationReason),
    ("created_at", .ofOption Timestamp.toValue d.createdAt)]

/-- The names of a duel's fields in order. -/
def fieldNames : List String :=
  ["id", "owner_id", "room_number", "players_count", "winners_count", "username", "status",
    "question", "duel_price", "commission", "event_date", "final_result", "cancellation_reason",
    "created_at"]

/-- Reads a duel from a document. -/
def decoder : Json.Decoder Duel :=
  .record fieldNames fun budget slots =>
    match slots with
    | [id, ownerId, roomNumber, playersCount, winnersCount, username, status, question, price,
        commission, eventDate, finalResult, cancellationReason, createdAt] => do
      return {
        id := ← Json.Decoder.required .text budget id
        ownerId := ← Json.Decoder.optional .text budget ownerId
        roomNumber := ← Json.Decoder.optional .word budget roomNumber
        playersCount := ← Json.Decoder.defaulted .word 0 budget playersCount
        winnersCount := ← Json.Decoder.defaulted .word 0 budget winnersCount
        username := ← Json.Decoder.defaulted .text "" budget username
        status := .ofCode (← Json.Decoder.required .byte budget status)
        question := ← Json.Decoder.defaulted .text "" budget question
        price := ← Json.Decoder.defaulted .double (.zero false) budget price
        commission := ← Json.Decoder.defaulted .word 0 budget commission
        eventDate := ← Json.Decoder.optional Timestamp.decoder budget eventDate
        finalResult := ← Json.Decoder.optional .byte budget finalResult
        cancellationReason := ← Json.Decoder.optional .text budget cancellationReason
        createdAt := ← Json.Decoder.optional Timestamp.decoder budget createdAt }
    | _ => none

/-- A duel with its players as the server reports them. -/
structure Detail where
  duel : Duel
  players : List Json.Value

/-- Reads a duel with its players from a document. -/
def Detail.decoder : Json.Decoder Detail :=
  .record ["duel", "players"] fun budget slots =>
    match slots with
    | [duel, players] => do
      return {
        duel := ← Json.Decoder.required Duel.decoder budget duel
        players := ← Json.Decoder.defaulted (.list .value) [] budget players }
    | _ => none

end Duel

end Wager
