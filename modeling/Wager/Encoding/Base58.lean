import Wager.Encoding.Positional

/-!
# Base 58

Byte strings as text over the 58 letters and digits that are hard to mistake for each other.

The bytes are read as one number and written in base 58. A zero byte in front changes no number, so
each of them is written as one leading `1`.

## Main definitions

* `Base58.encode`: The text of a byte string.
* `Base58.decode`: The byte string of a text, if every character is in the alphabet.
-/

namespace Wager.Base58

/-- The digits in base 58, in order. -/
def alphabet : List Char :=
  "123456789ABCDEFGHJKLMNPQRSTUVWXYZabcdefghijkmnopqrstuvwxyz".toList

/-- The character of a digit. -/
def symbol (d : Nat) : Char := alphabet.getD d '1'

/-- The digit of a character. -/
def value? (c : Char) : Option Nat := alphabet.idxOf? c

/-- The text of the bytes. -/
def encode (bs : List UInt8) : List Char :=
  let zeros := bs.takeWhile (· == 0)
  let n := Positional.ofDigits 256 (bs.map UInt8.toNat)
  zeros.map (fun _ => '1') ++ (Positional.digits 58 n).map symbol

/-- The bytes of the text. -/
def decode (cs : List Char) : Option (List UInt8) :=
  (cs.mapM value?).map fun ds =>
    let zeros := ds.takeWhile (· == 0)
    let n := Positional.ofDigits 58 ds
    zeros.map (fun _ => 0) ++ (Positional.digits 256 n).map UInt8.ofNat

end Wager.Base58
