import Wager.Address
import Wager.Token.Mint
import Wager.Token.Amount

/-!
# The connected wallet

What a client knows of the person's wallet: a handle on it, its address, and what it is doing.

Handles are opened when they are first needed and kept. A handle survives a failed connection, so
that a second try does not ask for the wallet again; only disconnecting gives it up.

## Main definitions

* `Wallet.Phase`: What the wallet is doing.
* `Wallet`: What is known of it.
* `Wallet.Connection`: What connecting gives.

## Theorems

* `Wallet.address_finishSigning`: Signing changes no address.
* `Wallet.finishSigning_cases`: When signing ends in a connected wallet.
-/

namespace Wager

/-- What the wallet is doing. -/
inductive Wallet.Phase
  | disconnected
  | connecting
  | connected
  | signingChallenge
  | signingTransaction
  deriving DecidableEq

/-- The name of a phase. -/
def Wallet.Phase.name : Wallet.Phase → String
  | .disconnected => "disconnected"
  | .connecting => "connecting"
  | .connected => "connected"
  | .signingChallenge => "signing_challenge"
  | .signingTransaction => "signing_transaction"

/-- What is known of the wallet: the handle on it and the one on the ledger, the address of the
connected wallet, and the balance that was read last. -/
structure Wallet where
  phase : Wallet.Phase := .disconnected
  provider : Option Nat := none
  address : Option Address := none
  balance : Option TokenAmount := none
  ledger : Option Nat := none
  deriving DecidableEq

/-- What connecting gives: the address and, if it was asked for, the signature of its text. -/
structure Wallet.Connection where
  address : Address
  signature : Option String := none
  deriving DecidableEq

namespace Wallet

/-- A wallet that is connected, with its address. -/
def connect (address : Address) (w : Wallet) : Wallet :=
  { w with address := some address, phase := .connected }

/-- After a failed connection: no address, but the handles are kept. -/
def fail (w : Wallet) : Wallet := { w with address := none, phase := .disconnected }

/-- After signing: connected, unless something else has happened meanwhile. -/
def finishSigning (w : Wallet) : Wallet :=
  match w.phase with
  | .signingChallenge | .signingTransaction => { w with phase := .connected }
  | _ => w

/-- Signing changes no address. -/
@[simp]
theorem address_finishSigning (w : Wallet) : w.finishSigning.address = w.address := by
  unfold finishSigning
  split <;> rfl

/-- After signing the wallet is connected if it was signing, else it is as it was. -/
theorem finishSigning_cases (w : Wallet) :
    (w.phase = .signingChallenge ∨ w.phase = .signingTransaction) ∧
        w.finishSigning = { w with phase := .connected } ∨
      ¬ (w.phase = .signingChallenge ∨ w.phase = .signingTransaction) ∧ w.finishSigning = w := by
  obtain ⟨phase, _, _, _, _⟩ := w
  cases phase <;> simp [finishSigning]

/-- The owner whose balance is read: the wallet's address, else the given one. -/
def owner? (w : Wallet) (known : Option Address) : Option Address := w.address.or known

end Wallet

end Wager
