import Wager.Client.Basic
import Wager.Keypair

/-!
# Scripts

What a server, a wallet and a ledger say when they only follow a script.

A script has a line of cues for each role, that is, for each kind of call. A call takes the next
cue of its role: an error, a value, silence, or that the answer is held back until somebody gives
it. Past the end of a line the role says what it usually does. A wallet that sends a transaction
hands it to the ledger, so such a call plays two roles, one after the other.

## Main definitions

* `Role.Given`, `Role.Outcome`: What a script may say of the calls of a role.
* `Cue`: What a script says about one call.
* `Script`, `Usual`: A script, with what is said when it says nothing.
* `StagedWallet`: The wallet that follows it.
-/

namespace Wager

/-- What a script may give as the value of a call. -/
abbrev Role.Given : Role → Type
  | .renew => Credentials
  | .signIn => SignInReply
  | .getProfile => Profile
  | .listDuels => List Duel
  | .requestTransaction => String
  | .finalize | .resolve => Json.Value
  | .connectWallet | .sendTransaction | .disconnectWallet => Unit
  | .signMessage => List UInt8
  | .readBalance => TokenAmount
  | .handOver => String

/-- What a script says of the outcome of a call: an error, a value, or success with whatever the
role usually gives. -/
abbrev Role.Outcome (r : Role) : Type := Result (Option r.Given)

/-- What a script says about one call. -/
inductive Cue (r : Role)
  | answers (o : r.Outcome)
  | silent
  | held

/-- What a server usually says. -/
structure Usual where
  renewed : Credentials
  signedIn : SignInReply
  profile : Profile
  duels : List Duel := []
  payload : String := ""
  finalized : (hash : String) → Json.Value
  resolved : Duel.Resolution → Json.Value

/-- A script: the cues of each role, how the attempts to open handles end, and what the server
usually says. -/
structure Script where
  usual : Usual
  cues : (r : Role) → List (Cue r)
  openWallet : List (Result Unit) := []
  openLedger : List (Result Unit) := []

/-- The wallet that follows a script: one with an address that signs by reversing, or a key pair
that may turn out to be unusable. -/
inductive StagedWallet
  | puppet (address : Address)
  | keypair (k : Result Keypair)

namespace StagedWallet

/-- How an attempt to open the wallet ends. -/
def opening : StagedWallet → Result Unit
  | .puppet _ => .ok ()
  | .keypair k => k.map fun _ => ()

/-- The key pair as a wallet. -/
def keypairWallet (k : Result Keypair) (connected : Bool) : Result KeypairWallet :=
  k.map fun key => { key, connected }

/-- The wallet's address. -/
def address : StagedWallet → Result Address
  | .puppet a => .ok a
  | .keypair k => k.map Keypair.address

/-- The wallet's signature of a message. -/
def sign (message : List UInt8) (connected : Bool) : StagedWallet → Result (List UInt8)
  | .puppet _ => .ok message.reverse
  | .keypair k => do
    let signature ← (← keypairWallet k connected).sign message
    return signature.bytes.toList

/-- The signature that a puppet puts on transactions. -/
def puppetSignature : Signature := ⟨⟨List.replicate 64 7, by simp⟩⟩

/-- The transaction that the wallet hands to the ledger. -/
def prepare (tx : Transaction) (connected : Bool) : StagedWallet → Result Transaction
  | .puppet a => tx.addSignature a puppetSignature
  | .keypair k => do (← keypairWallet k connected).prepare tx

end StagedWallet

/-- The setting that a script makes. -/
def Script.setting (s : Script) (mint : Mint) (patience : Nat) (wallet : StagedWallet) :
    Setting where
  mint := mint
  patience := patience
  openWallet n :=
    match s.openWallet[n]? with
    | some (.error e) => .error e
    | _ => wallet.opening
  openLedger n := s.openLedger.getD n (.ok ())

end Wager
