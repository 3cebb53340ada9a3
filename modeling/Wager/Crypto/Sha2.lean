/-!
# SHA-2

The hash functions SHA-256 and SHA-512, which differ only in word size, number of rounds and the
distances of their rotations.

The constants of both are the first bits of the fractional parts of roots of the first primes; they
are computed here from that rule.

## Main definitions

* `Sha2.Variant`: What tells the two functions apart.
* `Sha2.sha256`, `Sha2.sha512`: The hash of a byte string.
-/

namespace Wager.Sha2

/-- The parameters of a hash function of the family. -/
structure Variant where
  width : Nat
  rounds : Nat
  sumA : Nat × Nat × Nat
  sumE : Nat × Nat × Nat
  smallA : Nat × Nat × Nat
  smallB : Nat × Nat × Nat

/-- The largest number whose `k`-th power is at most `n`, found from its bits `i - 1` to 0 on top of
`acc`. -/
def rootFrom (k n : Nat) : Nat → Nat → Nat
  | 0, acc => acc
  | i + 1, acc => rootFrom k n i (if Nat.pow (acc + 1 <<< i) k ≤ n then acc + 1 <<< i else acc)

/-- The first `count` primes among the numbers below 410, which hold the first eighty. -/
def primes (count : Nat) : List Nat :=
  ((List.range 410).filter fun n =>
    2 ≤ n && (List.range n).all fun d => d < 2 || n % d != 0).take count

/-- The first `width` bits behind the point of the `k`-th root of `n`. -/
def fractionBits (width k n : Nat) : BitVec width :=
  BitVec.ofNat width (rootFrom k (n <<< (k * width)) (width + 5) 0)

namespace Variant

/-- The added constant of every round. -/
def constants (v : Variant) : List (BitVec v.width) :=
  (primes v.rounds).map (fractionBits v.width 3)

/-- The hash state before the first block. -/
def initial (v : Variant) : List (BitVec v.width) :=
  (primes 8).map (fractionBits v.width 2)

/-- The bytes of a block. -/
def blockBytes (v : Variant) : Nat := 2 * v.width

/-- The message with a one bit, zeros and its length in bits, up to a whole number of blocks. -/
def padded (v : Variant) (message : List UInt8) : List UInt8 :=
  let tail := v.width / 4
  let used := message.length + 1 + tail
  let zeros := (v.blockBytes - used % v.blockBytes) % v.blockBytes
  let length := (List.range tail).map fun i =>
    UInt8.ofNat (message.length * 8 / Nat.pow 256 (tail - 1 - i))
  message ++ 0x80 :: (List.replicate zeros 0 ++ length)

/-- The words of a byte string, most significant byte first; `count` words are read. -/
def words (v : Variant) : Nat → List UInt8 → List (BitVec v.width)
  | 0, _ => []
  | count + 1, bs =>
    let (front, rest) := bs.splitAt (v.width / 8)
    BitVec.ofNat v.width (front.foldl (fun n b => n * 256 + b.toNat) 0) :: words v count rest

/-- Three rotations of a word, combined. -/
def rotations {w : Nat} (x : BitVec w) (d : Nat × Nat × Nat) : BitVec w :=
  x.rotateRight d.1 ^^^ x.rotateRight d.2.1 ^^^ x.rotateRight d.2.2

/-- Two rotations and a shift of a word, combined. -/
def shifted {w : Nat} (x : BitVec w) (d : Nat × Nat × Nat) : BitVec w :=
  x.rotateRight d.1 ^^^ x.rotateRight d.2.1 ^^^ (x >>> d.2.2)

/-- Extends the schedule by one word. It is kept newest first. -/
def extend (v : Variant) (schedule : List (BitVec v.width)) : List (BitVec v.width) :=
  (shifted (schedule.getD 1 0) v.smallB + schedule.getD 6 0 +
    shifted (schedule.getD 14 0) v.smallA + schedule.getD 15 0) :: schedule

/-- One word of the schedule for each round. -/
def schedule (v : Variant) (block : List (BitVec v.width)) : List (BitVec v.width) :=
  (Nat.repeat v.extend (v.rounds - 16) block.reverse).reverse

/-- One round, with the sum of its constant and its word. -/
def round (v : Variant) (state : List (BitVec v.width)) (k : BitVec v.width) :
    List (BitVec v.width) :=
  match state with
  | [a, b, c, d, e, f, g, h] =>
    let t := h + rotations e v.sumE + ((e &&& f) ^^^ (~~~e &&& g)) + k
    let u := rotations a v.sumA + ((a &&& b) ^^^ (a &&& c) ^^^ (b &&& c))
    [t + u, a, b, c, d + t, e, f, g]
  | other => other

/-- Takes a block into the state. -/
def compress (v : Variant) (constants state block : List (BitVec v.width)) :
    List (BitVec v.width) :=
  let rounds := (constants.zip (v.schedule block)).map fun (k, w) => k + w
  (state.zip (rounds.foldl v.round state)).map fun (x, y) => x + y

/-- Takes `count` blocks of bytes into the state. -/
def absorb (v : Variant) (constants : List (BitVec v.width)) :
    Nat → List (BitVec v.width) → List UInt8 → List (BitVec v.width)
  | 0, state, _ => state
  | count + 1, state, bs =>
    let (front, rest) := bs.splitAt v.blockBytes
    absorb v constants count (v.compress constants state (v.words 16 front)) rest

/-- The hash of a message, given the constants. -/
def hash (v : Variant) (constants : List (BitVec v.width)) (message : List UInt8) : List UInt8 :=
  let bs := v.padded message
  (v.absorb constants (bs.length / v.blockBytes) v.initial bs).flatMap fun x =>
    (List.range (v.width / 8)).map fun i => UInt8.ofNat (x.toNat / Nat.pow 256 (v.width / 8 - 1 - i))

end Variant

/-- The variant with words of 32 bits. -/
def variant256 : Variant :=
  ⟨32, 64, (2, 13, 22), (6, 11, 25), (7, 18, 3), (17, 19, 10)⟩

/-- The variant with words of 64 bits. -/
def variant512 : Variant :=
  ⟨64, 80, (28, 34, 39), (14, 18, 41), (1, 8, 7), (19, 61, 6)⟩

/-- The round constants of SHA-256. -/
def constants256 : List (BitVec 32) := variant256.constants

/-- The round constants of SHA-512. -/
def constants512 : List (BitVec 64) := variant512.constants

/-- The 32 bytes of the SHA-256 hash. -/
def sha256 (message : List UInt8) : List UInt8 := variant256.hash constants256 message

/-- The 64 bytes of the SHA-512 hash. -/
def sha512 (message : List UInt8) : List UInt8 := variant512.hash constants512 message

end Wager.Sha2
