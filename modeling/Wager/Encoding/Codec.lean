/-!
# Wire codecs

Ways to write values as bytes and to read them back from the front of a byte string.

A codec reads exactly what it writes: reading gives the value and leaves the bytes after it, and the
bytes it took are the ones that writing gives again. Codecs are put together from those of single
bytes; both laws pass from the parts to the whole, so a wire format is a value built from parts.

Lists carry their length in front in the compact form: seven bits to a byte, least significant
first, the top bit set on all but the last, in at most three bytes and without a byte that adds
nothing.

## Main definitions

* `FixedBytes`: A byte string of a given length.
* `CompactList`: A list short enough for a compact length.
* `Codec`: Writing and reading.
* `Codec.byte`, `Codec.fixed`, `Codec.pair`, `Codec.equiv`: Codecs and ways to combine them.
* `Codec.compactList`: Lists with their length.
-/

namespace Wager

/-- A byte string of length `n`. -/
structure FixedBytes (n : Nat) where
  toList : List UInt8
  length_eq : toList.length = n
  deriving DecidableEq

/-- The byte string, if its length is right. -/
def FixedBytes.ofList? (n : Nat) (bs : List UInt8) : Option (FixedBytes n) :=
  if h : bs.length = n then some ⟨bs, h⟩ else none

/-- The byte string of zeros. -/
def FixedBytes.zero (n : Nat) : FixedBytes n :=
  ⟨List.replicate n 0, List.length_replicate⟩

/-- A list with at most 65535 members. -/
structure CompactList (α : Type) where
  toList : List α
  length_le : toList.length ≤ 65535

/-- Lists are equal when their members are. -/
instance {α : Type} [DecidableEq α] : DecidableEq (CompactList α) := fun a b =>
  match decEq a.toList b.toList with
  | .isTrue h => .isTrue (by cases a; cases b; cases h; rfl)
  | .isFalse h => .isFalse (fun e => h (congrArg _ e))

/-- How a value is written as bytes, and read from the front of some. -/
structure Codec (α : Type) where
  write : α → List UInt8
  read : List UInt8 → Option (α × List UInt8)

namespace Codec

/-- One byte. -/
def byte : Codec UInt8 where
  write b := [b]
  read
    | [] => none
    | b :: bs => some (b, bs)

/-- As many bytes as given. -/
def fixed (n : Nat) : Codec (FixedBytes n) where
  write v := v.toList
  read bs := (FixedBytes.ofList? n (bs.take n)).map fun v => (v, bs.drop n)

/-- One value after another. -/
def pair {α β : Type} (a : Codec α) (b : Codec β) : Codec (α × β) where
  write v := a.write v.1 ++ b.write v.2
  read bs := do
    let (x, bs) ← a.read bs
    let (y, bs) ← b.read bs
    return ((x, y), bs)

/-- The same bytes for a type of the same values. -/
def equiv {α β : Type} (a : Codec α) (forth : α → β) (back : β → α) : Codec β where
  write v := a.write (back v)
  read bs := (a.read bs).map fun (x, bs) => (forth x, bs)

/-- Reads `n` values one after another. -/
def readMany {α : Type} (a : Codec α) : Nat → List UInt8 → Option (List α × List UInt8)
  | 0, bs => some ([], bs)
  | n + 1, bs => do
    let (x, bs) ← a.read bs
    let (xs, bs) ← readMany a n bs
    return (x :: xs, bs)

/-- The bytes of a length. -/
def writeLength (n : Nat) : List UInt8 :=
  if n < 128 then [.ofNat n]
  else if n < 16384 then [.ofNat (n % 128 + 128), .ofNat (n / 128)]
  else [.ofNat (n % 128 + 128), .ofNat (n / 128 % 128 + 128), .ofNat (n / 16384)]

/-- Reads a length of at most three bytes. The last byte is below 128 and not zero unless it stands
alone, and the length is at most 65535. -/
def readLength : List UInt8 → Option (Nat × List UInt8)
  | [] => none
  | a :: bs =>
    if a < 128 then some (a.toNat, bs)
    else match bs with
      | [] => none
      | b :: bs =>
        if b = 0 then none
        else if b < 128 then some (a.toNat - 128 + b.toNat * 128, bs)
        else match bs with
          | [] => none
          | c :: bs =>
            if c = 0 ∨ 4 ≤ c then none
            else some (a.toNat - 128 + (b.toNat - 128) * 128 + c.toNat * 16384, bs)

/-- Values with their number in front. -/
def compactList {α : Type} (a : Codec α) : Codec (CompactList α) where
  write v := writeLength v.toList.length ++ v.toList.flatMap a.write
  read bs := do
    let (n, bs) ← readLength bs
    let (xs, bs) ← a.readMany n bs
    if h : xs.length ≤ 65535 then return (⟨xs, h⟩, bs) else none

end Codec

end Wager
