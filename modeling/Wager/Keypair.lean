import Wager.Crypto.Ed25519
import Wager.Json.Decode
import Wager.Transaction.Basic

/-!
# Key pairs as wallets

A wallet that is a key pair in a file: it signs whatever it is asked to, once it is connected.

The file holds the 64 bytes of secret and public key as an array of numbers. The public half must
belong to the secret half. A transaction is handed to the ledger only when no slot of it is empty.

## Main definitions

* `Keypair`: A key pair.
* `Keypair.parse`: The key pair in a file.
* `KeypairWallet`: A wallet with a key pair.
* `KeypairWallet.connect`, `disconnect`, `sign`, `prepare`, `send`: What it does.
* `KeypairWallet.Request`, `KeypairWallet.Reply`: What it may be asked and what it replies.
* `KeypairWallet.serve`: Serves a request.
-/

namespace Wager

/-- A key pair, given by its secret. -/
structure Keypair where
  secret : FixedBytes 32
  deriving DecidableEq

namespace Keypair

/-- The address of the key pair. -/
def address (k : Keypair) : Address := ⟨Ed25519.publicKey k.secret⟩

/-- The signature of bytes. -/
def sign (k : Keypair) (message : List UInt8) : Signature := ⟨Ed25519.sign k.secret message⟩

/-- The key pair with the given 64 bytes. -/
def ofBytes? (bs : List UInt8) : Option Keypair := do
  let secret ← FixedBytes.ofList? 32 (bs.take 32)
  let k : Keypair := ⟨secret⟩
  if k.address.bytes.toList = bs.drop 32 then return k else none

/-- The key pair in a file's text. -/
def parse (contents : String) : Result Keypair :=
  match (Json.decode? (.list .byte) contents).bind ofBytes? with
  | some k => .ok k
  | none => .error .walletUnavailable

end Keypair

/-- A wallet with a key pair. -/
structure KeypairWallet where
  key : Keypair
  connected : Bool := false
  deriving DecidableEq

namespace KeypairWallet

/-- Connects the wallet; gives its address. -/
def connect (w : KeypairWallet) : Address × KeypairWallet :=
  (w.key.address, { w with connected := true })

/-- Disconnects the wallet. -/
def disconnect (w : KeypairWallet) : KeypairWallet := { w with connected := false }

/-- What a wallet says that is not connected. -/
def notConnected : Error := .walletRejected "wallet is not connected"

/-- The signature of bytes. -/
def sign (w : KeypairWallet) (message : List UInt8) : Result Signature :=
  if w.connected then .ok (w.key.sign message) else .error notConnected

/-- The transaction to hand to the ledger: the given one with this wallet's signature. -/
def prepare (w : KeypairWallet) (tx : Transaction) : Result Transaction := do
  let signature ← w.sign tx.messageBytes
  let signed ← tx.addSignature w.key.address signature
  if signed.isFullySigned then return signed
  else .error (.invalidTransaction "transaction needs signatures this wallet cannot provide")

/-- Hands a transaction to the ledger with this wallet's signature, and gives the ledger's word.
What cannot be prepared is not handed over. -/
def send {m : Type → Type} [Monad m] (ledger : Transaction → m (Result String))
    (w : KeypairWallet) (tx : Transaction) : m (Result String) :=
  match w.prepare tx with
  | .ok signed => ledger signed
  | .error e => return .error e

/-- What a wallet may be asked. -/
inductive Request
  | connect
  | disconnect
  | sign (message : List UInt8)
  | send (tx : Transaction)
  deriving DecidableEq

/-- What a wallet replies. -/
inductive Reply
  | connected (address : Address)
  | disconnected
  | signed (signature : Result Signature)
  | sent (word : Result String)

/-- Serves a request. Only what is to be sent reaches the ledger. -/
def serve {m : Type → Type} [Monad m] (ledger : Transaction → m (Result String))
    (w : KeypairWallet) : Request → m (Reply × KeypairWallet)
  | .connect => return (.connected w.connect.1, w.connect.2)
  | .disconnect => return (.disconnected, w.disconnect)
  | .sign message => return (.signed (w.sign message), w)
  | .send tx => do
    let word ← w.send ledger tx
    return (.sent word, w)

end KeypairWallet

end Wager
