import Wager.Number.Numeral

/-!
# Document values

The values that JSON documents hold.

Numbers keep the distinction that the format's readers make: a number written without point and
exponent, and in the range of 64-bit words, is whole; any other is a double. The members of an
object are a list, because a document has an order; the members of an object whose keys are free are
sorted by key, each key once, which is what `Value.ofMembers` makes of any list.

## Main definitions

* `Json.Number`, `Json.Value`: Numbers and values.
* `Json.put`: Sets a member among sorted ones.
* `Json.Value.ofMembers`: The object with given members, sorted, the last of equal keys counting.
* `Json.Value.member?`: The value under a key.
-/

namespace Wager.Json

/-- A number of a document. -/
inductive Number
  | whole (n : Int)
  | real (x : Binary64)
  deriving DecidableEq

/-- The whole numbers of documents are those of signed or unsigned 64-bit words. -/
def Number.inRange (n : Int) : Bool := -0x8000000000000000 ≤ n && n < 0x10000000000000000

/-- The number as a double. -/
def Number.toBinary64 : Number → Binary64
  | .whole n => .ofInt n
  | .real x => x

/-- The value of a document. -/
inductive Value
  | null
  | bool (b : Bool)
  | number (n : Number)
  | text (s : String)
  | array (items : List Value)
  | object (members : List (String × Value))

/-- Sets the value under a key in a list sorted by key. -/
def put {α : Type} (key : String) (value : α) : List (String × α) → List (String × α)
  | [] => [(key, value)]
  | (k, v) :: rest =>
    if key < k then (key, value) :: (k, v) :: rest
    else if key = k then (key, value) :: rest
    else (k, v) :: put key value rest

namespace Value

/-- The object with the given members, sorted by key; of equal keys the last one counts. -/
def ofMembers (members : List (String × Value)) : Value :=
  .object (members.foldl (fun sorted (k, v) => put k v sorted) [])

/-- A whole number as a value. -/
def ofNat (n : Nat) : Value := .number (.whole n)

/-- A double as a value. Documents have no text for infinities and for no number, so those are
null. -/
def ofBinary64 (x : Binary64) : Value :=
  if x.isFinite then .number (.real x) else .null

/-- The value of an optional one, null if it is absent. -/
def ofOption {α : Type} (f : α → Value) : Option α → Value
  | none => .null
  | some a => f a

/-- The members of an object, none for other values. -/
def members : Value → List (String × Value)
  | .object ms => ms
  | _ => []

/-- The value under a key of an object. -/
def member? (key : String) (v : Value) : Option Value :=
  v.members.lookup key

end Value

end Wager.Json
