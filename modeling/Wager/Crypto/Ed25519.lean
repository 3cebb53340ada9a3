import Wager.Crypto.Sha2
import Wager.Encoding.Codec

/-!
# Ed25519 signatures

The twisted Edwards curve over the field of `2 ^ 255 - 19` elements, keys and signatures on it.

Points are kept in extended coordinates, four numbers of which the first two divided by the third
are the point and the fourth saves a multiplication. A secret of 32 bytes is hashed to a scalar and
to a seed for nonces, so that signing is a function of secret and message alone.

## Main definitions

* `Ed25519.isOnCurve`: Whether 32 bytes are the compressed form of a point.
* `Ed25519.publicKey`: The public key of a secret.
* `Ed25519.sign`: The signature of a message.
-/

namespace Wager.Ed25519

/-- The number of elements of the field. -/
def p : Nat := 1 <<< 255 - 19

/-- The order of the base point. -/
def order : Nat := 1 <<< 252 + 27742317777372353535851937790883648493

/-- The power `b ^ e` modulo `m` from the lowest `bits` bits of the exponent. -/
def powMod (m : Nat) : Nat → Nat → Nat → Nat
  | 0, _, _ => 1
  | bits + 1, b, e =>
    let half := powMod m bits (b * b % m) (e / 2)
    if e % 2 = 1 then half * b % m else half

/-- The inverse of a nonzero element of the field. -/
def inverse (x : Nat) : Nat := powMod p 256 x (p - 2)

/-- The constant of the curve equation `y² - x² = 1 + d x² y²`. -/
def d : Nat := (p - 121665) * inverse 121666 % p

/-- The difference in the field. -/
def sub (x y : Nat) : Nat := (x + (p - y % p)) % p

/-- A point in extended coordinates. -/
structure Point where
  x : Nat
  y : Nat
  z : Nat
  t : Nat

/-- The neutral point. -/
def Point.zero : Point := ⟨0, 1, 1, 0⟩

/-- The sum of two points. -/
def Point.add (a b : Point) : Point :=
  let l := sub a.y a.x * sub b.y b.x % p
  let r := (a.y + a.x) * (b.y + b.x) % p
  let c := 2 * a.t * b.t % p * d % p
  let k := 2 * a.z * b.z % p
  let e := sub r l
  let f := sub k c
  let g := (k + c) % p
  let h := (r + l) % p
  ⟨e * f % p, g * h % p, f * g % p, e * h % p⟩

/-- The multiple of a point by the lowest `bits` bits of a number. -/
def Point.scale : Nat → Nat → Point → Point
  | 0, _, _ => .zero
  | bits + 1, n, a =>
    let rest := Point.scale bits (n / 2) (a.add a)
    if n % 2 = 1 then rest.add a else rest

/-- The base point. -/
def base : Point :=
  let x := 15112221349535400772501151409588531511454012693041857206046113283949847762202
  let y := 46316835694926478169428394003475163141307993866256225615783033603165251855960
  ⟨x, y, 1, x * y % p⟩

/-- The bytes of a number, least significant first. -/
def littleEndian (count n : Nat) : List UInt8 :=
  (List.range count).map fun i => UInt8.ofNat (n / Nat.pow 256 i)

/-- The number with the given bytes, least significant first. -/
def ofLittleEndian (bs : List UInt8) : Nat :=
  bs.foldr (fun b n => n * 256 + b.toNat) 0

/-- The compressed form: the second coordinate, with the lowest bit of the first in the top bit. -/
def Point.compress (a : Point) : List UInt8 :=
  let z := inverse a.z
  let x := a.x * z % p
  let y := a.y * z % p
  littleEndian 32 (y + (x % 2) <<< 255)

/-- Whether the bytes are the compressed form of a point: whether there is a first coordinate for
the second one that they hold, by Euler's criterion. -/
def isOnCurve (bs : List UInt8) : Bool :=
  let y := ofLittleEndian bs % 1 <<< 255 % p
  let u := sub (y * y) 1
  let v := (d * (y * y % p) + 1) % p
  powMod p 256 (u * v % p) ((p - 1) / 2) ≤ 1

/-- The scalar of a secret and the seed of its nonces. -/
def expand (secret : List UInt8) : Nat × List UInt8 :=
  let h := Sha2.sha512 secret
  let n := ofLittleEndian (h.take 32)
  (n % 1 <<< 254 / 8 * 8 + 1 <<< 254, h.drop 32)

/-- The public key of a secret. -/
def publicKeyBytes (secret : List UInt8) : List UInt8 :=
  (base.scale 256 (expand secret).1 |>.compress)

/-- The signature of the message by the secret. -/
def signBytes (secret message : List UInt8) : List UInt8 :=
  let (a, seed) := expand secret
  let r := ofLittleEndian (Sha2.sha512 (seed ++ message)) % order
  let commitment := (Point.scale 256 r base).compress
  let challenge :=
    ofLittleEndian (Sha2.sha512 (commitment ++ publicKeyBytes secret ++ message)) % order
  commitment ++ littleEndian 32 ((r + challenge * a) % order)

theorem length_littleEndian (count n : Nat) : (littleEndian count n).length = count := by
  simp [littleEndian]

theorem length_compress (a : Point) : a.compress.length = 32 := by
  simp [Point.compress, length_littleEndian]

/-- The public key of a secret. -/
def publicKey (secret : FixedBytes 32) : FixedBytes 32 :=
  ⟨publicKeyBytes secret.toList, length_compress _⟩

/-- The signature of the message by the secret. -/
def sign (secret : FixedBytes 32) (message : List UInt8) : FixedBytes 64 :=
  ⟨signBytes secret.toList message, by simp [signBytes, length_compress, length_littleEndian]⟩

end Wager.Ed25519
