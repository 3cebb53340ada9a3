import Wager.Duel.Basic

/-!
# What can be done with duels

The parameters for opening, joining and resolving a duel, and the request bodies made of them.

Opening and joining move money, so the person's wallet signs a transaction for them: the server is
asked for the transaction first and told its outcome afterwards, each time with a body made from the
same parameters. The first body for joining leaves out who invited the player.

## Main definitions

* `Duel.Opening`, `Duel.Entry`, `Duel.Resolution`: The parameters.
* `Duel.Action`: An action that the wallet signs.
* `Duel.Action.signBody`, `Duel.Action.finalizeBody`: Its request bodies.
-/

namespace Wager.Duel

/-- The parameters for opening a duel. -/
structure Opening where
  imageUrl : String
  backgroundUrl : String
  question : String
  price : Binary64
  commission : UInt64
  info : List (String × Json.Value)
  eventDate : Timestamp
  answer : UInt8

namespace Opening

/-- The parameters as a document. -/
def toValue (o : Opening) : Json.Value :=
  .ofMembers [
    ("image_url", .text o.imageUrl),
    ("bg_url", .text o.backgroundUrl),
    ("question", .text o.question),
    ("duel_price", .ofBinary64 o.price),
    ("commission", wordValue o.commission),
    ("duel_info", .object o.info),
    ("event_date", o.eventDate.toValue),
    ("answer", byteValue o.answer)]

/-- Reads the parameters from a document. -/
def decoder : Json.Decoder Opening :=
  .record ["image_url", "bg_url", "question", "duel_price", "commission", "duel_info",
      "event_date", "answer"] fun budget slots =>
    match slots with
    | [imageUrl, backgroundUrl, question, price, commission, info, eventDate, answer] => do
      return {
        imageUrl := ← Json.Decoder.defaulted .text "" budget imageUrl
        backgroundUrl := ← Json.Decoder.defaulted .text "" budget backgroundUrl
        question := ← Json.Decoder.required .text budget question
        price := ← Json.Decoder.required .double budget price
        commission := ← Json.Decoder.required .word budget commission
        info := ← Json.Decoder.defaulted .freeObject [] budget info
        eventDate := ← Json.Decoder.required Timestamp.decoder budget eventDate
        answer := ← Json.Decoder.required .byte budget answer }
    | _ => none

end Opening

/-- The parameters for joining a duel. -/
structure Entry where
  duelId : String
  answer : UInt8
  invitedBy : Option String := none
  externalSource : Option String := none
  deriving DecidableEq

namespace Entry

/-- A member for a text that is there. -/
def optionalMember (name : String) : Option String → List (String × Json.Value)
  | none => []
  | some s => [(name, .text s)]

/-- The parameters as a document, without members for what is absent. -/
def toValue (e : Entry) : Json.Value :=
  .ofMembers <|
    [("duel_id", .text e.duelId), ("answer", byteValue e.answer)] ++
      optionalMember "invited_by" e.invitedBy ++ optionalMember "external_source" e.externalSource

/-- Reads the parameters from a document. -/
def decoder : Json.Decoder Entry :=
  .record ["duel_id", "answer", "invited_by", "external_source"] fun budget slots =>
    match slots with
    | [duelId, answer, invitedBy, externalSource] => do
      return {
        duelId := ← Json.Decoder.required .text budget duelId
        answer := ← Json.Decoder.required .byte budget answer
        invitedBy := ← Json.Decoder.optional .text budget invitedBy
        externalSource := ← Json.Decoder.optional .text budget externalSource }
    | _ => none

end Entry

/-- The parameters for resolving a duel. -/
structure Resolution where
  duelId : String
  answer : UInt8
  deriving DecidableEq

namespace Resolution

/-- The parameters as a document. -/
def toValue (r : Resolution) : Json.Value :=
  .ofMembers [("duel_id", .text r.duelId), ("answer", byteValue r.answer)]

/-- Reads the parameters from a document. -/
def decoder : Json.Decoder Resolution :=
  .record ["duel_id", "answer"] fun budget slots =>
    match slots with
    | [duelId, answer] => do
      return {
        duelId := ← Json.Decoder.required .text budget duelId
        answer := ← Json.Decoder.required .byte budget answer }
    | _ => none

end Resolution

/-- An action that needs a transaction signed by the person's wallet. -/
inductive Action
  | create (opening : Opening)
  | join (entry : Entry)

namespace Action

/-- The name of an action. -/
def name : Action → String
  | .create _ => "create-duel"
  | .join _ => "join-duel"

/-- The body that asks for the unsigned transaction. -/
def signBody : Action → Json.Value
  | .create o => o.toValue
  | .join e => .ofMembers [("duel_id", .text e.duelId), ("answer", byteValue e.answer)]

/-- The parameters as a document. -/
def parameters : Action → Json.Value
  | .create o => o.toValue
  | .join e => e.toValue

/-- The body that reports the submitted transaction: the parameters and its hash. -/
def finalizeBody (a : Action) (hash : String) : Json.Value :=
  .object (Json.put "tx_hash" (.text hash) a.parameters.members)

end Action

end Wager.Duel
