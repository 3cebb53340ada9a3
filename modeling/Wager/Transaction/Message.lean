import Wager.Address

/-!
# Transaction messages

What the signers of a transaction sign, and its wire form.

There are two kinds of messages. A plain one starts with the number of required signatures, which is
below 128 there; a versioned one starts with the byte 128 and ends with the tables that further
accounts are looked up in. All lists carry compact lengths.

## Main definitions

* `Transaction.Message`: A message.
* `Transaction.Message.codec`: Its wire form.
-/

namespace Wager.Transaction

/-- A call of a program: indices into the accounts, and data. -/
structure Instruction where
  program : UInt8
  accounts : CompactList UInt8
  data : CompactList UInt8
  deriving DecidableEq

/-- A table of accounts and which of it are used. -/
structure Lookup where
  table : Address
  writable : CompactList UInt8
  readonly : CompactList UInt8
  deriving DecidableEq

/-- What both kinds of messages hold after the number of required signatures. -/
structure Body where
  readonlySigned : UInt8
  readonlyUnsigned : UInt8
  keys : CompactList Address
  blockhash : FixedBytes 32
  instructions : CompactList Instruction
  deriving DecidableEq

/-- What the signers of a transaction sign. -/
inductive Message
  | plain (required : UInt8) (small : required < 128) (body : Body)
  | versioned (required : UInt8) (body : Body) (lookups : CompactList Lookup)
  deriving DecidableEq

/-- The wire form of an address. -/
def addressCodec : Codec Address :=
  (Codec.fixed 32).equiv Address.mk Address.bytes

/-- The wire form of a list of bytes with its length. -/
def bytesCodec : Codec (CompactList UInt8) := .compactList .byte

/-- The wire form of an instruction. -/
def instructionCodec : Codec Instruction :=
  (Codec.byte.pair (bytesCodec.pair bytesCodec)).equiv
    (fun (p, a, d) => ⟨p, a, d⟩) (fun i => (i.program, i.accounts, i.data))

/-- The wire form of a lookup. -/
def lookupCodec : Codec Lookup :=
  (addressCodec.pair (bytesCodec.pair bytesCodec)).equiv
    (fun (t, w, r) => ⟨t, w, r⟩) (fun l => (l.table, l.writable, l.readonly))

/-- The wire form of a body. -/
def bodyCodec : Codec Body :=
  (Codec.byte.pair (Codec.byte.pair ((Codec.compactList addressCodec).pair
    ((Codec.fixed 32).pair (Codec.compactList instructionCodec))))).equiv
    (fun (s, u, k, b, i) => ⟨s, u, k, b, i⟩)
    (fun m => (m.readonlySigned, m.readonlyUnsigned, m.keys, m.blockhash, m.instructions))

namespace Message

/-- The byte that versioned messages start with. -/
def versionMark : UInt8 := 128

/-- The number of signatures that the message needs. -/
def required : Message → Nat
  | .plain n _ _ => n.toNat
  | .versioned n _ _ => n.toNat

/-- What both kinds of messages hold. -/
def body : Message → Body
  | .plain _ _ b => b
  | .versioned _ b _ => b

/-- The addresses that the message names itself. -/
def keys (m : Message) : List Address := m.body.keys.toList

/-- The bytes of a message, which are what is signed. -/
def write : Message → List UInt8
  | .plain n _ b => n :: bodyCodec.write b
  | .versioned n b ls =>
    versionMark :: n :: (bodyCodec.write b ++ (Codec.compactList lookupCodec).write ls)

/-- Reads a message. -/
def read : List UInt8 → Option (Message × List UInt8)
  | [] => none
  | n :: bs =>
    if small : n < 128 then do
      let (b, bs) ← bodyCodec.read bs
      return (.plain n small b, bs)
    else if n = versionMark then do
      let (n, bs) ← Codec.byte.read bs
      let (b, bs) ← bodyCodec.read bs
      let (ls, bs) ← (Codec.compactList lookupCodec).read bs
      return (.versioned n b ls, bs)
    else none

/-- The wire form of messages. -/
def codec : Codec Message := ⟨write, read⟩

end Message

end Wager.Transaction
