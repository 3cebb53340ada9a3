import Wager.Encoding.Hex

/-!
# Numeric hosts

Hosts that are given by number: in four bytes or in eight groups of two.

Four bytes may be written as one number or as up to four, of which each but the last is a byte and
the last one fills the rest; each may be hexadecimal or octal. The eight groups are hexadecimal; the
last two may be written as four bytes, and one run of zeros may be left out. A host is written in one
form only, whichever way it was read.

## Main definitions

* `Url.isNumeric`: Whether a name is meant as a number.
* `Url.fourBytes?`, `Url.fourBytesText`: Reading and writing four bytes.
* `Url.groups?`, `Url.groupsText`: Reading and writing eight groups.
-/

namespace Wager.Url

/-! ### Four bytes -/

/-- Reads digits in a base; no digits are zero. -/
def digitsIn? (base : Nat) (cs : List Char) : Option Nat :=
  cs.foldlM (fun n c => do
    let d ← Hex.value? c
    if d < base then return n * base + d else none) 0

/-- Reads a number: hexadecimal behind `0x`, octal behind another zero, or decimal. -/
def number? : List Char → Option Nat
  | '0' :: 'x' :: rest => digitsIn? 16 rest
  | '0' :: rest => digitsIn? 8 rest
  | [] => none
  | cs => digitsIn? 10 cs

/-- The parts of a name between points. A point at the end has nothing behind it. -/
def partsOf (name : List Char) : List (List Char) :=
  let parts := name.splitOn '.'
  if parts.getLast? = some [] ∧ parts.length > 1 then parts.dropLast else parts

/-- Whether a name is meant as a number: its last part is one, or would be one in decimal. -/
def isNumeric (name : List Char) : Bool :=
  match (partsOf name).getLast? with
  | some last => (!last.isEmpty && last.all Char.isDigit) || (number? last).isSome
  | none => false

/-- Joins numbers: each but the last is a byte, and the last one fills the rest of so many bytes. -/
def join? : Nat → List Nat → Option Nat
  | _, [] => none
  | room, [last] => if last < Nat.pow 256 room then some last else none
  | room, n :: rest =>
    if n < 256 then (join? (room - 1) rest).map (n * Nat.pow 256 (room - 1) + ·) else none

/-- The host of four bytes that a name writes. -/
def fourBytes? (name : List Char) : Option UInt32 :=
  let parts := partsOf name
  if parts.length ≤ 4 then ((parts.mapM number?).bind (join? 4)).map UInt32.ofNat else none

/-- A host of four bytes, as four decimal numbers. -/
def fourBytesText (host : UInt32) : List Char :=
  let n := host.toNat
  ((([n / 16777216, n / 65536 % 256, n / 256 % 256, n % 256].map fun b =>
    Nat.toDigits 10 b).intersperse ['.'])).flatten

/-! ### Eight groups -/

/-- Reads a byte in decimal, without zeros in front. -/
def byte? (cs : List Char) : Option Nat :=
  match cs with
  | [] => none
  | '0' :: _ :: _ => none
  | _ =>
    if cs.length ≤ 3 then (digitsIn? 10 cs).filter (· < 256) else none

/-- Reads four bytes as two groups. -/
def bytePairs? (cs : List Char) : Option (List Nat) :=
  match (cs.splitOn '.').mapM byte? with
  | some [a, b, c, d] => some [a * 256 + b, c * 256 + d]
  | _ => none

/-- Reads a group of one to four digits. -/
def group? (cs : List Char) : Option Nat :=
  if 0 < cs.length ∧ cs.length ≤ 4 then digitsIn? 16 cs else none

/-- Reads groups between colons. The last ones may be written as bytes if they are at the end. -/
def groupList? (isEnd : Bool) : List (List Char) → Option (List Nat)
  | [] => some []
  | [last] => if isEnd && last.contains '.' then bytePairs? last else (group? last).map ([·])
  | g :: rest => do return (← group? g) :: (← groupList? isEnd rest)

/-- Reads groups, of which there may be none. -/
def groupsIn? (isEnd : Bool) (cs : List Char) : Option (List Nat) :=
  if cs.isEmpty then some [] else groupList? isEnd (cs.splitOn ':')

/-- Cuts at the first two colons in a row. -/
def cutAtColons : List Char → Option (List Char × List Char)
  | ':' :: ':' :: rest => some ([], rest)
  | c :: rest => (cutAtColons rest).map fun (front, behind) => (c :: front, behind)
  | [] => none

/-- Eight groups. -/
abbrev Groups := Vector UInt16 8

/-- Eight groups from a list of them. -/
def Groups.ofList? (gs : List Nat) : Option Groups :=
  if h : gs.length = 8 then some ⟨(gs.map UInt16.ofNat).toArray, by simp [h]⟩ else none

/-- The eight groups that a text writes. Two colons stand for at least one group of zero. -/
def groups? (cs : List Char) : Option Groups :=
  match cutAtColons cs with
  | none => (groupsIn? true cs).bind Groups.ofList?
  | some (front, behind) => do
    let front ← groupsIn? false front
    let behind ← groupsIn? true behind
    if front.length + behind.length < 8 then
      Groups.ofList? (front ++ List.replicate (8 - front.length - behind.length) 0 ++ behind)
    else none

/-- The length of the run of zeros in front. -/
def zerosAhead (gs : List UInt16) : Nat := (gs.takeWhile (· = 0)).length

/-- The place and the length of the longest run of zeros, the first one of those. -/
def longestZeros : List UInt16 → Nat × Nat
  | [] => (0, 0)
  | g :: rest =>
    let (place, length) := longestZeros rest
    let here := zerosAhead (g :: rest)
    if length ≤ here then (0, here) else (place + 1, length)

/-- Groups with colons between them. -/
def withColons (gs : List UInt16) : List Char :=
  ((gs.map fun g => Nat.toDigits 16 g.toNat).intersperse [':']).flatten

/-- Eight groups, with the longest run of zeros left out if it is more than one. -/
def groupsText (host : Groups) : List Char :=
  let gs := host.toList
  let (place, length) := longestZeros gs
  if length < 2 then withColons gs
  else withColons (gs.take place) ++ [':', ':'] ++ withColons (gs.drop (place + length))

end Wager.Url
