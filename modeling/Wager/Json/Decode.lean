import Wager.Json.Tree
import Wager.Text.Utf8

/-!
# Decoding documents

Reading values of the domain from document trees.

A decoder sees a tree and how many more containers it may open: what is kept may nest 127 deep,
counted from the outermost container of the document. A record is given as an object or as the array
of its fields in order. In an object, members that no field has are passed over, while a field given
twice is refused; in an array, fields may be missing at the end only.

## Main definitions

* `Json.Decoder`: How a value is read.
* `Json.Slot`: What a record has in place of one field.
* `Json.slots?`: The fields of a record.
* `Json.Decoder.required`, `optional`, `defaulted`, `nullable`: Reading a field.
* `Json.Decoder.value`: Keeping a document as a value.
* `Json.Tree.parseBytes?`: The tree of a document that comes as bytes.
* `Json.decode?`, `Json.decodeBytes?`: Reading a text, and reading bytes.
-/

namespace Wager.Json

/-- How a value is read: from a tree in which so many containers may yet be opened. -/
abbrev Decoder (α : Type) := Nat → Tree → Option α

/-- What a record has in place of a field: a tree, nothing in an object, or nothing because the
array of its fields ended before. -/
inductive Slot
  | given (t : Tree)
  | omitted
  | cut

/-- The slot of a field in an object, unless the field is there twice. -/
def slotOf? (members : List (String × Tree)) (name : String) : Option Slot :=
  match members.filter (·.1 == name) with
  | [] => some .omitted
  | [(_, t)] => some (.given t)
  | _ => none

/-- The slots of a record with the named fields. -/
def slots? (names : List String) : Tree → Option (List Slot)
  | .object members => do
    let members ← members.mapM fun (k, t) => k.map fun k => (k, t)
    names.mapM (slotOf? members)
  | .array items =>
    if items.length ≤ names.length then
      some (items.map .given ++ List.replicate (names.length - items.length) .cut)
    else none
  | _ => none

namespace Decoder

/-- A text. -/
def text : Decoder String
  | _, .text s => s
  | _, _ => none

/-- A whole number from `low` to `high`. -/
def whole (low high : Int) : Decoder Int
  | _, .number (some (.whole n)) => if low ≤ n ∧ n ≤ high then some n else none
  | _, _ => none

/-- A number of one byte. -/
def byte : Decoder UInt8 := fun budget t => (whole 0 255 budget t).map fun n => .ofNat n.toNat

/-- A number of eight bytes. -/
def word : Decoder UInt64 := fun budget t =>
  (whole 0 0xFFFFFFFFFFFFFFFF budget t).map fun n => .ofNat n.toNat

/-- Any number, as a double. -/
def double : Decoder Binary64
  | _, .number n => n.map Number.toBinary64
  | _, _ => none

/-- An array of values. -/
def list {α : Type} (d : Decoder α) : Decoder (List α)
  | budget + 1, .array items => items.mapM (d budget)
  | _, _ => none

/-- A value or null. -/
def nullOr {α : Type} (d : Decoder α) : Decoder (Option α)
  | _, .null => some none
  | budget, t => (d budget t).map some

/-- A record with the named fields, built from its slots. -/
def record {α : Type} (names : List String) (build : Nat → List Slot → Option α) : Decoder α
  | budget + 1, t => (slots? names t).bind (build budget)
  | 0, _ => none

/-- A field that must be given. -/
def required {α : Type} (d : Decoder α) (budget : Nat) : Slot → Option α
  | .given t => d budget t
  | _ => none

/-- A field that may be missing. -/
def defaulted {α : Type} (d : Decoder α) (default : α) (budget : Nat) : Slot → Option α
  | .given t => d budget t
  | _ => some default

/-- A field that may be missing or null. -/
def optional {α : Type} (d : Decoder α) (budget : Nat) : Slot → Option (Option α)
  | .given t => nullOr d budget t
  | _ => some none

/-- A field that may be null, and missing from an object but not from an array. -/
def nullable {α : Type} (d : Decoder α) (budget : Nat) : Slot → Option (Option α)
  | .given t => nullOr d budget t
  | .omitted => some none
  | .cut => none

/-- Members with readable keys, each value read by `d`. -/
def membersOf {α : Type} (d : Tree → Option α) (members : List (Option String × Tree)) :
    Option (List (String × α)) :=
  members.mapM fun (k, t) => do return (← k, ← d t)

/-- A document kept as a value. -/
def value : Decoder Value
  | _, .null => some .null
  | _, .bool b => some (.bool b)
  | _, .number n => n.map .number
  | _, .text s => s.map .text
  | budget + 1, .array items => (items.mapM (value budget)).map .array
  | budget + 1, .object members => (membersOf (value budget) members).map .ofMembers
  | 0, .array _ => none
  | 0, .object _ => none

/-- An object with free keys. -/
def freeObject : Decoder (List (String × Value)) := fun budget t =>
  match t with
  | .object _ => (value budget t).map Value.members
  | _ => none

end Decoder

/-- The depth to which kept parts of a document may nest. -/
def maxDepth : Nat := 127

/-- What stands in messages for the reason why a document cannot be read. -/
def malformed : String := "malformed document"

/-- Reads a document. -/
def decode? {α : Type} (d : Decoder α) (s : String) : Option α :=
  (Tree.parse? s).bind (d maxDepth)

/-- The tree of a document that comes as bytes. -/
def Tree.parseBytes? (bs : List UInt8) : Option Tree :=
  (readableTokens? (Text.readChars 0 bs)).bind ofTokens?

/-- Reads a document that comes as bytes. -/
def decodeBytes? {α : Type} (d : Decoder α) (bs : List UInt8) : Option α :=
  (Tree.parseBytes? bs).bind (d maxDepth)

/-- Reads a value that is already at hand. -/
def Value.decode? {α : Type} (d : Decoder α) (v : Value) : Option α :=
  d maxDepth v.toTree

end Wager.Json
