import Wager.Encoding.Base64
import Wager.Transaction.Message

/-!
# Transactions

Transactions that a server built and that wait for signatures.

A transaction has one slot for each signature that its message needs, in the order of the message's
first addresses; the type says so, so that no slot is ever looked for where there is none. Signing
fills slots and never touches the message. An empty slot holds zeros.

## Main definitions

* `Signature`, `Transaction`: A signature and a transaction.
* `Transaction.ofBytes`, `Transaction.ofBase64`: Reading.
* `Transaction.toBytes`, `Transaction.toBase64`: Writing.
* `Transaction.addSignature`: Filling the slot of a signer.
* `Transaction.isFullySigned`, `Transaction.id`: What the slots tell.
-/

namespace Wager

/-- A signature. -/
structure Signature where
  bytes : FixedBytes 64
  deriving DecidableEq

/-- What an empty slot holds. -/
def Signature.empty : Signature := ⟨.zero 64⟩

/-- The signature in base 58. -/
def Signature.text (s : Signature) : String := String.ofList (Base58.encode s.bytes.toList)

/-- A message with a slot for each signature that it needs, and an address for each slot. -/
structure Transaction where
  signatures : List Signature
  message : Transaction.Message
  slots_eq : signatures.length = message.required
  keys_le : message.required ≤ message.keys.length
  deriving DecidableEq

namespace Transaction

/-- The wire form of a signature. -/
def signatureCodec : Codec Signature :=
  (Codec.fixed 64).equiv Signature.mk Signature.bytes

/-- Why bytes are no transaction. -/
inductive Fault
  | notBase64 (fault : Base64.Fault)
  | undecodable
  | slotCount (slots required : Nat)
  | keyCount (keys required : Nat)
  deriving DecidableEq

/-- The wording of a fault. -/
def Fault.message : Fault → String
  | .notBase64 f => "not base64: " ++ f.message
  | .undecodable => "undecodable payload: malformed wire form"
  | .slotCount slots required => s!"{slots} signature slots for {required} required signers"
  | .keyCount keys required => s!"{keys} account keys for {required} required signers"

/-- Reads a transaction from the front of the bytes; what follows it is ignored. -/
def read (bs : List UInt8) : Except Fault Transaction :=
  match ((Codec.compactList signatureCodec).pair Message.codec).read bs with
  | none => .error .undecodable
  | some ((signatures, message), _) =>
    if slots_eq : signatures.toList.length = message.required then
      if keys_le : message.required ≤ message.keys.length then
        .ok ⟨signatures.toList, message, slots_eq, keys_le⟩
      else .error (.keyCount message.keys.length message.required)
    else .error (.slotCount signatures.toList.length message.required)

/-- The transaction at the front of the bytes. -/
def ofBytes (bs : List UInt8) : Result Transaction :=
  (read bs).mapError fun f => .invalidTransaction f.message

/-- The transaction in base 64, blanks around it aside. -/
def ofBase64 (payload : String) : Result Transaction :=
  match Base64.decode (Text.trimmed payload).toUTF8.data.toList with
  | .ok bs => ofBytes bs
  | .error f => .error (.invalidTransaction (Fault.notBase64 f).message)

/-- The bytes that every signer signs. -/
def messageBytes (tx : Transaction) : List UInt8 := tx.message.write

/-- The bytes of the transaction. -/
def toBytes (tx : Transaction) : List UInt8 :=
  Codec.writeLength tx.signatures.length ++ tx.signatures.flatMap signatureCodec.write ++
    tx.messageBytes

/-- The transaction in base 64. -/
def toBase64 (tx : Transaction) : String := Base64.encode tx.toBytes

/-- The addresses whose signatures are needed, in the order of the slots. -/
def requiredSigners (tx : Transaction) : List Address :=
  tx.message.keys.take tx.message.required

/-- The transaction with a signature in the slot of the given number. -/
def setSlot (tx : Transaction) (i : Nat) (s : Signature) : Transaction :=
  ⟨tx.signatures.set i s, tx.message, by rw [List.length_set, tx.slots_eq], tx.keys_le⟩

/-- Puts a signature into the first slot of its signer. -/
def addSignature (tx : Transaction) (signer : Address) (s : Signature) : Result Transaction :=
  match tx.requiredSigners.idxOf? signer with
  | some i => .ok (tx.setSlot i s)
  | none => .error (.invalidTransaction (signer.text ++ " is not a required signer"))

/-- Whether no slot is empty. -/
def isFullySigned (tx : Transaction) : Bool :=
  tx.signatures.all (· ≠ .empty)

/-- The text of the first signature, once it is there. -/
def id (tx : Transaction) : Option String :=
  match tx.signatures with
  | s :: _ => if s = .empty then none else some s.text
  | [] => none

end Transaction

end Wager
