import Wager.Encoding.Hex
import Wager.Text.Utf8

/-!
# Escapes in addresses

How an address writes a character that may not stand where it is meant: as its bytes, each by a
percent sign and two digits.

What is escaped depends on the part of the address. Control characters and all beyond ASCII are
escaped everywhere. Reading undoes every escape and leaves a lone percent sign alone.

## Main definitions

* `Url.escape`: The characters with some of them escaped.
* `Url.inFragment`, `inQuery`, `inPath`, `inUser`: What is escaped in a part of an address.
* `Url.unescape`: The bytes that are written with escapes.
-/

namespace Wager.Url

/-- The escape of a byte. -/
def escapeByte (b : UInt8) : List Char :=
  ['%', (Hex.digit (b.toNat / 16)).toUpper, (Hex.digit b.toNat).toUpper]

/-- The characters, with those escaped that are chosen, that control, or that are not ASCII. -/
def escape (isChosen : Char → Bool) (cs : List Char) : List Char :=
  cs.flatMap fun c =>
    if isChosen c || c.toNat < 32 || 126 < c.toNat then
      (Text.bytes (String.ofList [c])).flatMap escapeByte
    else [c]

/-- Escapes only what is escaped everywhere. -/
def escapeControls : List Char → List Char := escape fun _ => false

/-- What is escaped in a fragment. -/
def inFragment (c : Char) : Bool := c ∈ [' ', '\x22', '<', '>', '\x60']

/-- What is escaped in a query. -/
def inQuery (c : Char) : Bool := c ∈ [' ', '\x22', '#', '<', '>']

/-- What is escaped in a path. -/
def inPath (c : Char) : Bool := inFragment c || c ∈ ['#', '?', '\x7b', '\x7d']

/-- What is escaped in the name of a user and in a password. -/
def inUser (c : Char) : Bool :=
  inPath c || c ∈ ['/', ':', ';', '=', '@', '[', '\\', ']', '^', '|']

/-- The value of a byte as a hexadecimal digit. -/
def digitOf? (b : UInt8) : Option Nat := Hex.value? (Char.ofNat b.toNat)

/-- The bytes that are written with escapes. -/
def unescape : List UInt8 → List UInt8
  | 37 :: a :: b :: rest =>
    match digitOf? a, digitOf? b with
    | some high, some low => UInt8.ofNat (high * 16 + low) :: unescape rest
    | _, _ => 37 :: unescape (a :: b :: rest)
  | b :: rest => b :: unescape rest
  | [] => []

/-- The text that is written with escapes, if it is one. -/
def unescaped? (cs : List Char) : Option String :=
  Text.ofBytes? (unescape (Text.bytes (String.ofList cs)))

end Wager.Url
