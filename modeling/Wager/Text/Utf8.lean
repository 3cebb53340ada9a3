/-!
# Bytes of a text

The UTF-8 form of a text: its bytes, the places in it where it may be cut, and the reading of bytes
that need not be text.

A reply from the network or a secret from a keychain is a list of bytes. Where it must be shown
anyway, every longest run of bytes that starts like a character and cannot be one becomes a single
replacement character, so that damage stays local: the text before and after it is kept.

## Main definitions

* `Text.bytes`: The bytes of a text.
* `Text.lastPlace?`: The last place in a text that fits a number of bytes.
* `Text.ofBytes?`: The text with the given bytes, if they are one.
* `Text.readChars`: The characters of any bytes, as far as they are text.
* `Text.lossy`: The text of any bytes, with replacement characters for what is not text.

## Theorems

* `Text.ofBytes?_bytes`: A text is read back from its bytes.
-/

namespace Wager.Text

/-- The bytes of the text in UTF-8. -/
def bytes (s : String) : List UInt8 :=
  s.toUTF8.data.toList

/-- The place in the text with so many bytes in front of it, unless that is within a character. -/
def placeAt? (s : String) (n : Nat) : Option s.Pos :=
  if h : String.Pos.Raw.IsValid s ⟨n⟩ then some ⟨⟨n⟩, h⟩ else none

/-- The last place in the text with at most so many bytes in front of it, searched for from there
down to the beginning. -/
def lastPlace? (s : String) : Nat → Option s.Pos
  | 0 => placeAt? s 0
  | n + 1 => placeAt? s (n + 1) <|> lastPlace? s n

/-- The text that has exactly these bytes, if there is one. -/
def ofBytes? (bs : List UInt8) : Option String :=
  String.fromUTF8? ⟨bs.toArray⟩

/-- A text is the one with its bytes. -/
theorem ofBytes?_bytes (s : String) : ofBytes? (bytes s) = some s := by
  simp [ofBytes?, bytes, String.fromUTF8?, String.toUTF8, s.isValidUTF8, String.fromUTF8]

/-- How a first byte goes on: the range of the byte after it and the number of bytes after that,
all of them in `80` to `BF`. -/
def continuation (b : UInt8) : Option (UInt8 × UInt8 × Nat) :=
  if 0xC2 ≤ b ∧ b ≤ 0xDF then some (0x80, 0xBF, 0)
  else if b = 0xE0 then some (0xA0, 0xBF, 1)
  else if b = 0xED then some (0x80, 0x9F, 1)
  else if 0xE1 ≤ b ∧ b ≤ 0xEF then some (0x80, 0xBF, 1)
  else if b = 0xF0 then some (0x90, 0xBF, 2)
  else if 0xF1 ≤ b ∧ b ≤ 0xF3 then some (0x80, 0xBF, 2)
  else if b = 0xF4 then some (0x80, 0x8F, 2)
  else none

/-- Reads `count` further bytes, each with six bits of the character. Gives the number of bytes that
belong to the run and, if the run is complete, the character's number. -/
def tailBits (acc : Nat) (count : Nat) (lo hi : UInt8) : List UInt8 → Nat × Option Nat
  | [] => (0, none)
  | b :: bs =>
    if lo ≤ b ∧ b ≤ hi then
      match count with
      | 0 => (1, some (acc * 64 + b.toNat % 64))
      | count + 1 =>
        let (used, value) := tailBits (acc * 64 + b.toNat % 64) count 0x80 0xBF bs
        (used + 1, value)
    else (0, none)

/-- The bits of a character that its first byte holds. -/
def leadBits (b : UInt8) : Nat :=
  if b ≤ 0xDF then b.toNat % 32 else if b ≤ 0xEF then b.toNat % 16 else b.toNat % 8

/-- The characters of the bytes, with nothing for each run that is not text; `skip` bytes at the
front are already accounted for. -/
def readChars (skip : Nat) : List UInt8 → List (Option Char)
  | [] => []
  | b :: bs =>
    match skip with
    | skip + 1 => readChars skip bs
    | 0 =>
      if b < 0x80 then some (Char.ofNat b.toNat) :: readChars 0 bs
      else match continuation b with
        | none => none :: readChars 0 bs
        | some (lo, hi, more) =>
          let (used, value) := tailBits (leadBits b) more lo hi bs
          value.map Char.ofNat :: readChars used bs

/-- The text of the bytes, with a replacement character for each run that is not text. -/
def lossy (bs : List UInt8) : String :=
  String.ofList ((readChars 0 bs).map (·.getD '\uFFFD'))

end Wager.Text
