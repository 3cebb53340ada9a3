import Wager.Encoding.Hex
import Wager.Json.Value

/-!
# Tokens of documents

The tokens that a JSON document consists of, and finding them.

The characters are taken one by one by a small machine that knows only what it is in the middle of:
a number, a word, a text, an escape in a text. Where a token ends is decided by the character after
it, so a number or word is collected first and judged when it ends.

A text may name characters by escapes of 16 bits, and two such halves in a row stand for one
character. A half without its partner makes the text unreadable but not the document: a text that is
skipped may hold one. So the token of a text says whether the text can be read. The same holds of a
document that comes as bytes, in whose texts there may be bytes that are none of a character.

## Main definitions

* `Json.Token`: The tokens.
* `Json.tokens?`: The tokens of a document.
* `Json.readableTokens?`: The tokens of a document of which not all need be characters.
-/

namespace Wager.Json

/-- A piece of a text: a character, or the half of one that an escape names. -/
inductive Piece
  | char (c : Char)
  | half (n : Nat)
  deriving DecidableEq

/-- The tokens of a document. A text is absent when it cannot be read. -/
inductive Token
  | beginArray
  | endArray
  | beginObject
  | endObject
  | comma
  | colon
  | null
  | bool (b : Bool)
  | numeral (n : Numeral)
  | text (s : Option String)

/-- Whether the number is the first half of a character. -/
def isHighHalf (n : Nat) : Bool := 0xD800 ≤ n && n < 0xDC00

/-- Whether the number is the second half of a character. -/
def isLowHalf (n : Nat) : Bool := 0xDC00 ≤ n && n < 0xE000

/-- Joins halves to characters; nothing if one has no partner. -/
def joinPieces : List Piece → Option (List Char)
  | [] => some []
  | .char c :: rest => (joinPieces rest).map (c :: ·)
  | .half a :: .half b :: rest =>
    if isHighHalf a && isLowHalf b then
      (joinPieces rest).map (Char.ofNat (0x10000 + (a - 0xD800) * 0x400 + (b - 0xDC00)) :: ·)
    else none
  | .half _ :: _ => none

/-- The piece that an escape of 16 bits names. -/
def pieceOf (n : Nat) : Piece :=
  if isHighHalf n || isLowHalf n then .half n else .char (Char.ofNat n)

/-- The character of a short escape. -/
def shortEscape? : Char → Option Char
  | '"' => some '"'
  | '\\' => some '\\'
  | '/' => some '/'
  | 'b' => some '\x08'
  | 'f' => some '\x0c'
  | 'n' => some '\n'
  | 'r' => some '\r'
  | 't' => some '\t'
  | _ => none

/-- The number with these characters, if they are one: no plus sign, no zero in front of other
digits, and digits on both sides of a point. -/
def numeral? (cs : List Char) : Option Numeral :=
  let (negative, body) := match cs with
    | '-' :: rest => (true, rest)
    | _ => (false, cs)
  match Numeral.spanDigits body with
  | ([], _) => none
  | ('0' :: _ :: _, _) => none
  | (whole, rest) =>
    let (fraction, rest) := match rest with
      | '.' :: rest =>
        let (ds, rest) := Numeral.spanDigits rest
        (some ds, rest)
      | _ => (none, rest)
    if fraction = some [] then none
    else match Numeral.readExponent rest with
      | some (exponent, []) => some ⟨negative, whole, fraction, exponent⟩
      | _ => none

/-- The number that a numeral stands for: whole if it is written as a whole number in range other
than the negative zero, else the double it is read as. Nothing if it is too large for one. -/
def Number.ofNumeral? (n : Numeral) : Option Number :=
  let magnitude := Numeral.digitsValue n.whole
  let value : Int := if n.negative then -magnitude else magnitude
  if n.fraction.isNone && n.exponent.isNone && Number.inRange value
      && !(n.negative && magnitude == 0) then
    some (.whole value)
  else n.scaled.map .real

/-- What the machine is in the middle of. What was seen of it is kept newest first. -/
inductive Mode
  | between
  | number (seen : List Char)
  | word (seen : List Char)
  | text (seen : List Piece)
  | escape (seen : List Piece)
  | hex (seen : List Piece) (left value : Nat)

/-- The machine's state: the tokens so far, newest first, and its mode. -/
structure Scan where
  tokens : List Token
  mode : Mode

namespace Scan

/-- The blanks of documents. -/
def isBlank (c : Char) : Bool := c = ' ' || c = '\n' || c = '\t' || c = '\r'

/-- The characters that numbers consist of. -/
def isNumberChar (c : Char) : Bool :=
  c.isDigit || c = '-' || c = '+' || c = '.' || c = 'e' || c = 'E'

/-- Adds a token. -/
def push (s : Scan) (t : Token) : Scan := ⟨t :: s.tokens, .between⟩

/-- The token of a word. -/
def word? : List Char → Option Token
  | ['n', 'u', 'l', 'l'] => some .null
  | ['t', 'r', 'u', 'e'] => some (.bool true)
  | ['f', 'a', 'l', 's', 'e'] => some (.bool false)
  | _ => none

/-- Ends a number or word. -/
def close (s : Scan) : Option Scan :=
  match s.mode with
  | .between => some s
  | .number seen => (numeral? seen.reverse).map fun n => s.push (.numeral n)
  | .word seen => (word? seen.reverse).map s.push
  | _ => none

/-- Takes a character that starts a token. -/
def start (s : Scan) (c : Char) : Option Scan :=
  if isBlank c then some s
  else match c with
    | '[' => some (s.push .beginArray)
    | ']' => some (s.push .endArray)
    | '\x7b' => some (s.push .beginObject)
    | '\x7d' => some (s.push .endObject)
    | ',' => some (s.push .comma)
    | ':' => some (s.push .colon)
    | '"' => some { s with mode := .text [] }
    | c =>
      if c = '-' || c.isDigit then some { s with mode := .number [c] }
      else if c.isAlpha then some { s with mode := .word [c] }
      else none

/-- Takes a character. -/
def step (s : Scan) (c : Char) : Option Scan :=
  match s.mode with
  | .between => s.start c
  | .number seen =>
    if isNumberChar c then some { s with mode := .number (c :: seen) }
    else s.close.bind (·.start c)
  | .word seen =>
    if c.isAlpha then some { s with mode := .word (c :: seen) }
    else s.close.bind (·.start c)
  | .text seen =>
    if c = '"' then some (s.push (.text ((joinPieces seen.reverse).map String.ofList)))
    else if c = '\\' then some { s with mode := .escape seen }
    else if c.toNat < 0x20 then none
    else some { s with mode := .text (.char c :: seen) }
  | .escape seen =>
    if c = 'u' then some { s with mode := .hex seen 4 0 }
    else (shortEscape? c).map fun d => { s with mode := .text (.char d :: seen) }
  | .hex seen left value =>
    (Hex.value? c).map fun d =>
      let value := value * 16 + d
      if left ≤ 1 then { s with mode := .text (pieceOf value :: seen) }
      else { s with mode := .hex seen (left - 1) value }

/-- Takes a character, or what is none. That may stand in a text, which cannot be read then: it is
like a half that is neither a first nor a second one. -/
def take (s : Scan) : Option Char → Option Scan
  | some c => s.step c
  | none =>
    match s.mode with
    | .text seen => some { s with mode := .text (.half 0 :: seen) }
    | _ => none

end Scan

/-- The tokens of a document. -/
def tokens? (cs : List Char) : Option (List Token) := do
  let s ← cs.foldlM Scan.step ⟨[], .between⟩
  let s ← s.close
  return s.tokens.reverse

/-- The tokens of a document of which not all need be characters. -/
def readableTokens? (cs : List (Option Char)) : Option (List Token) := do
  let s ← cs.foldlM Scan.take ⟨[], .between⟩
  let s ← s.close
  return s.tokens.reverse

end Wager.Json
