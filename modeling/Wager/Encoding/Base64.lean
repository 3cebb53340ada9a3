/-!
# Base 64

Byte strings as text over 64 symbols, with padding, read strictly.

Three bytes become four symbols; one or two bytes left over become two or three symbols and padding
up to four. Reading accepts that form alone: every symbol in the alphabet, padding present, the bits
that no byte uses zero. What is wrong, and where, is part of the answer. The reader looks at whole
groups of eight symbols first, so padding is expected only in the last such group, and a fault in
its padding is reported at the first padding symbol.

## Main definitions

* `Base64.Fault`: Why a text is not base 64.
* `Base64.encode`: The text of a byte string.
* `Base64.decode`: The byte string of a text.
-/

namespace Wager.Base64

/-- The symbols in order. -/
def alphabet : List UInt8 :=
  "ABCDEFGHIJKLMNOPQRSTUVWXYZabcdefghijklmnopqrstuvwxyz0123456789+/".toUTF8.data.toList

/-- The padding symbol. -/
def pad : UInt8 := 61

/-- The symbol of six bits. -/
def symbol (n : Nat) : UInt8 := alphabet.getD n pad

/-- The six bits of a symbol. -/
def value? (b : UInt8) : Option Nat := alphabet.idxOf? b

/-- Why bytes are not base 64 text. -/
inductive Fault
  | invalidByte (byte : UInt8) (offset : Nat)
  | shortRemainder
  | invalidPadding
  | unusedBits (byte : UInt8) (offset : Nat)
  deriving DecidableEq

/-- The wording of a fault. -/
def Fault.message : Fault → String
  | .invalidByte b i => s!"Invalid byte {b.toNat}, offset {i}."
  | .shortRemainder => "Encoded text cannot have a 6-bit remainder."
  | .invalidPadding => "Invalid padding"
  | .unusedBits b i => s!"Invalid last symbol {b.toNat}, offset {i}."

/-- The symbols of the bytes. -/
def encodeBytes : List UInt8 → List UInt8
  | a :: b :: c :: rest =>
    let n := a.toNat * 65536 + b.toNat * 256 + c.toNat
    symbol (n / 262144) :: symbol (n / 4096 % 64) :: symbol (n / 64 % 64) :: symbol (n % 64) ::
      encodeBytes rest
  | [a, b] =>
    let n := a.toNat * 256 + b.toNat
    [symbol (n / 1024), symbol (n / 16 % 64), symbol (n % 16 * 4), pad]
  | [a] => [symbol (a.toNat / 4), symbol (a.toNat % 4 * 16), pad, pad]
  | [] => []

/-- The text of the bytes. -/
def encode (bs : List UInt8) : String :=
  String.ofList ((encodeBytes bs).map fun b => Char.ofNat b.toNat)

/-- The bytes of six-bit values: four give three bytes, and of a shorter last group the bits that
fill a byte. -/
def join : List Nat → List UInt8
  | a :: b :: c :: d :: rest =>
    let n := a * 262144 + b * 4096 + c * 64 + d
    .ofNat (n / 65536) :: .ofNat (n / 256 % 256) :: .ofNat (n % 256) :: join rest
  | [a, b, c] =>
    let n := a * 4096 + b * 64 + c
    [.ofNat (n / 1024), .ofNat (n / 4 % 256)]
  | [a, b] => [.ofNat ((a * 64 + b) / 16)]
  | _ => []

/-- The values of symbols from an offset on, none of which may be padding. -/
def plainValues (offset : Nat) : List UInt8 → Except Fault (List Nat)
  | [] => .ok []
  | b :: bs =>
    match value? b with
    | some v => (plainValues (offset + 1) bs).map (v :: ·)
    | none => .error (.invalidByte b offset)

/-- The last group: its first `index` symbols are read, `start` is its offset. Gives the values and
the number of padding symbols; `firstPad` is where padding was seen first. -/
def finalValues (start index : Nat) (firstPad : Option Nat) :
    List UInt8 → Except Fault (List Nat × Nat)
  | [] => .ok ([], 0)
  | b :: bs =>
    if b = pad then
      if index % 4 < 2 then .error (.invalidByte pad (start + firstPad.getD index))
      else (finalValues start (index + 1) (some (firstPad.getD index)) bs).map
        fun (vs, pads) => (vs, pads + 1)
    else match firstPad with
      | some i => .error (.invalidByte pad (start + i))
      | none => match value? b with
        | some v => (finalValues start (index + 1) none bs).map fun (vs, pads) => (v :: vs, pads)
        | none => .error (.invalidByte b (start + index))

/-- Whether bits of the last value are set that no byte uses. -/
def hasUnusedBits (vs : List Nat) : Bool :=
  match vs.length % 4, vs.getLast? with
  | 2, some v => v % 16 != 0
  | 3, some v => v % 4 != 0
  | _, _ => false

/-- The bytes that the symbols stand for. -/
def decode (text : List UInt8) : Except Fault (List UInt8) :=
  if text.length % 4 = 1 then
    let last := text.getLastD pad
    if last ≠ pad ∧ value? last = none then .error (.invalidByte last (text.length - 1))
    else .error .shortRemainder
  else
    let start := 8 * ((text.length - 1) / 8)
    match plainValues 0 (text.take start), finalValues start 0 none (text.drop start) with
    | .error f, _ => .error f
    | .ok _, .error f => .error f
    | .ok vs, .ok (ws, pads) =>
      if (ws.length + pads) % 4 ≠ 0 then .error .invalidPadding
      else if hasUnusedBits ws then
        .error (.unusedBits (symbol (ws.getLastD 0)) (start + ws.length - 1))
      else .ok (join (vs ++ ws))

end Wager.Base64
