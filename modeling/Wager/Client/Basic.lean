import Wager.Call
import Wager.Notices.Basic
import Wager.ProfileCache
import Wager.Routine
import Wager.Session.Access
import Wager.Wallet

/-!
# Clients

The state that the operations of a client share, and the form of these operations.

Several operations may be under way at a time. They share the session, the wallet, the notices and
the cached profile, and meet nowhere else.

Opening a handle is answered at once, so it is part of a section. Who answers is given by a setting:
for each kind of handle, how the first, second, … attempt to open one ends. A handle is known by
the number of attempts before it, so no two handles are the same.

## Main definitions

* `Setting`: What does not change while a client runs.
* `Client`: The shared state.
* `Operation`: A routine of a client.
-/

namespace Wager

/-- What does not change while a client runs: the token it follows, the milliseconds that a wallet is
given for an answer, and how the attempts to open handles end. -/
structure Setting where
  mint : Mint
  patience : Nat
  openWallet : Nat → Result Unit
  openLedger : Nat → Result Unit

/-- An attempt to open a handle. -/
inductive Attempt
  | wallet
  | ledger
  deriving DecidableEq

/-- The state of a client. -/
structure Client where
  session : Session := {}
  wallet : Wallet := {}
  attempts : List Attempt := []
  notices : Notices := {}
  cache : ProfileCache := {}
  files : Files := {}

/-- An operation of a client. -/
abbrev Operation : Type → Type := Routine Client Wait Wait.Answer

namespace Client

/-- An operation on the session as one of the client. -/
def ofSession {α : Type} (r : Session.Operation α) : Operation α :=
  r.embed session (fun s c => { c with session := s }) fun id => .await (Wait.renewal id)

instance : MonadLift Session.Operation Operation := ⟨ofSession⟩

/-- A change of what is known of the wallet. -/
def changeWallet (f : Wallet → Wallet) : Operation Unit :=
  .change fun c => { c with wallet := f c.wallet }

/-- A section of the notices. -/
def inNotices {α : Type} (f : Timestamp → Notices → α × Notices) : Operation α :=
  .atomically fun now c =>
    let (a, notices) := f now c.notices
    (a, { c with notices })

/-- Makes a call and waits for the answer. -/
def ask (c : Call) : Operation c.Reply := .await (Wait.call c)

/-- How many attempts to open a kind of handle there were. -/
def attemptsAt (c : Client) (a : Attempt) : Nat := c.attempts.count a

/-- Notes an attempt. -/
def tried (c : Client) (a : Attempt) : Client := { c with attempts := c.attempts ++ [a] }

/-- The handle on the ledger; opens one if there is none. -/
def openLedger (setting : Setting) (c : Client) : Result Nat × Client :=
  match c.wallet.ledger with
  | some handle => (.ok handle, c)
  | none =>
    let handle := c.attemptsAt .ledger
    let c := c.tried .ledger
    match setting.openLedger handle with
    | .ok () => (.ok handle, { c with wallet := { c.wallet with ledger := some handle } })
    | .error e => (.error e, c)

/-- The handle on the wallet; opens one if there is none. -/
def openWallet (setting : Setting) (c : Client) : Result Nat × Client :=
  match c.wallet.provider with
  | some handle => (.ok handle, c)
  | none =>
    let handle := c.attemptsAt .wallet
    let c := c.tried .wallet
    match setting.openWallet handle with
    | .ok () => (.ok handle, { c with wallet := { c.wallet with provider := some handle } })
    | .error e => (.error e, c)

/-- Caches a profile. -/
def cacheProfile (p : Profile) (now : Timestamp) (c : Client) : Client :=
  let (cache, files) := c.cache.store c.files now p
  { c with cache, files }

/-- Forgets the cached profile. -/
def forgetProfile (c : Client) : Client :=
  let (cache, files) := c.cache.clear c.files
  { c with cache, files }

end Client

end Wager
