import Wager.Json.Token

/-!
# Document trees

A JSON document as it is written, before anything is asked of its content.

A tree keeps what a value drops: members that repeat, numbers too large to be kept, texts that
cannot be read. What of it is wanted decides whether it is accepted: a part that nobody reads is
only required to be well formed, so trees of any depth are read, by a machine that keeps the
containers around the current place on a stack of its own.

## Main definitions

* `Json.Tree`: A document as written.
* `Json.Assembly`: Where the machine stands.
* `Json.Tree.parse?`: The tree of a document.
* `Json.Value.toTree`: A value as a document.
-/

namespace Wager.Json

/-- A document as written. A number is absent if it is too large for a double, a text if it cannot
be read. -/
inductive Tree
  | null
  | bool (b : Bool)
  | number (n : Option Number)
  | text (s : Option String)
  | array (items : List Tree)
  | object (members : List (Option String × Tree))

/-- The members of an object read so far, newest first. -/
abbrev Members := List (Option String × Tree)

/-- A container that is not closed, with what was read of it, newest first. -/
inductive Frame
  | array (items : List Tree)
  | object (members : Members) (key : Option String)

/-- What must come next, with the open containers around it. -/
inductive Assembly
  | value (stack : List Frame)
  | firstItem (stack : List Frame)
  | afterItem (items : List Tree) (stack : List Frame)
  | firstKey (stack : List Frame)
  | key (members : Members) (stack : List Frame)
  | colon (members : Members) (key : Option String) (stack : List Frame)
  | afterMember (members : Members) (stack : List Frame)
  | done (t : Tree)

namespace Assembly

/-- Puts a finished value where it belongs. -/
def complete (t : Tree) : List Frame → Assembly
  | [] => .done t
  | .array items :: stack => .afterItem (t :: items) stack
  | .object members k :: stack => .afterMember ((k, t) :: members) stack

/-- Takes the first token of a value. -/
def startValue (stack : List Frame) : Token → Option Assembly
  | .null => some (complete .null stack)
  | .bool b => some (complete (.bool b) stack)
  | .numeral n => some (complete (.number (Number.ofNumeral? n)) stack)
  | .text s => some (complete (.text s) stack)
  | .beginArray => some (.firstItem stack)
  | .beginObject => some (.firstKey stack)
  | _ => none

/-- Takes a token. -/
def step : Assembly → Token → Option Assembly
  | .value stack, t => startValue stack t
  | .firstItem stack, .endArray => some (complete (.array []) stack)
  | .firstItem stack, t => startValue (.array [] :: stack) t
  | .afterItem items stack, .endArray => some (complete (.array items.reverse) stack)
  | .afterItem items stack, .comma => some (.value (.array items :: stack))
  | .firstKey stack, .endObject => some (complete (.object []) stack)
  | .firstKey stack, .text k => some (.colon [] k stack)
  | .key members stack, .text k => some (.colon members k stack)
  | .colon members k stack, .colon => some (.value (.object members k :: stack))
  | .afterMember members stack, .endObject => some (complete (.object members.reverse) stack)
  | .afterMember members stack, .comma => some (.key members stack)
  | _, _ => none

end Assembly

namespace Tree

/-- The tree of the tokens, if they are one document. -/
def ofTokens? (ts : List Token) : Option Tree :=
  match ts.foldlM Assembly.step (.value []) with
  | some (.done t) => some t
  | _ => none

/-- The tree of a document. -/
def parse? (s : String) : Option Tree :=
  (tokens? s.toList).bind ofTokens?

end Tree

mutual

/-- The value as a document. -/
def Value.toTree : Value → Tree
  | .null => .null
  | .bool b => .bool b
  | .number n => .number (some n)
  | .text s => .text (some s)
  | .array items => .array (itemTrees items)
  | .object members => .object (memberTrees members)

/-- The items of an array as documents. -/
def itemTrees : List Value → List Tree
  | [] => []
  | v :: rest => v.toTree :: itemTrees rest

/-- The members of an object as documents. -/
def memberTrees : List (String × Value) → List (Option String × Tree)
  | [] => []
  | (k, v) :: rest => (some k, v.toTree) :: memberTrees rest

end

end Wager.Json
