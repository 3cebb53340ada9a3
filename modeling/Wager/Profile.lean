import Wager.Json.Time

/-!
# Profiles

What the server tells about a person: an identifier and some optional particulars.

Identifiers are texts, but some servers number their people; a number is kept as its decimal text.

## Main definitions

* `Profile`: A person.
* `Profile.displayName`: The name to show.
* `Profile.toValue`, `Profile.decoder`: Writing and reading.
-/

namespace Wager

/-- A person as the server knows them. The address is the one on file for their wallet. -/
structure Profile where
  id : String
  username : Option String := none
  imageUrl : Option String := none
  publicAddress : Option String := none
  createdAt : Option Timestamp := none
  updatedAt : Option Timestamp := none
  deriving DecidableEq

namespace Profile

/-- The name to show: the chosen one unless it is empty, else the identifier. -/
def displayName (p : Profile) : String :=
  match p.username with
  | some name => if name.isEmpty then p.id else name
  | none => p.id

/-- A profile as a document. -/
def toValue (p : Profile) : Json.Value :=
  .object [
    ("id", .text p.id),
    ("username", .ofOption .text p.username),
    ("image_url", .ofOption .text p.imageUrl),
    ("public_address", .ofOption .text p.publicAddress),
    ("created_at", .ofOption Timestamp.toValue p.createdAt),
    ("updated_at", .ofOption Timestamp.toValue p.updatedAt)]

/-- Reads an identifier: a text, or a signed number of 64 bits. -/
def idDecoder : Json.Decoder String := fun budget t =>
  match Json.Decoder.text budget t with
  | some s => some s
  | none => (Json.Decoder.whole (-0x8000000000000000) 0x7FFFFFFFFFFFFFFF budget t).map Int.repr

/-- Reads a profile from a document. -/
def decoder : Json.Decoder Profile :=
  .record ["id", "username", "image_url", "public_address", "created_at", "updated_at"]
    fun budget slots =>
      match slots with
      | [id, username, imageUrl, publicAddress, createdAt, updatedAt] => do
        return {
          id := ← Json.Decoder.required idDecoder budget id
          username := ← Json.Decoder.optional .text budget username
          imageUrl := ← Json.Decoder.optional .text budget imageUrl
          publicAddress := ← Json.Decoder.optional .text budget publicAddress
          createdAt := ← Json.Decoder.optional Timestamp.decoder budget createdAt
          updatedAt := ← Json.Decoder.optional Timestamp.decoder budget updatedAt }
      | _ => none

end Profile

end Wager
