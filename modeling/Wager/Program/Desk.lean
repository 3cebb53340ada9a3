import Wager.Client.Execution
import Wager.Program.Command
import Wager.Config
import Wager.Keypair
import Wager.Remote.Ledger
import Wager.Remote.Service

/-!
# The desk

A client at work for one command: who answers its calls, and what it keeps beside its own state.

The server and the ledger are reached through a peer, and the wallet is a key pair. All of them
answer at once, so an operation of the client runs to its end here. What is asked of the server is
asked for whoever is signed in, and may take a renewal of the client's own session.

## Main definitions

* `Machine`: Where a program runs.
* `Desk`: What answers a client, and what it keeps.
* `Desk.answer`: The answer to each wait.
* `Job`: A computation of the program.
-/

namespace Wager

/-- Where a program runs: environment, files, keychain, time of day, and who is out there. -/
structure Machine where
  environment : Environment
  files : Files
  keychain : Keychain
  now : Timestamp
  peer : Remote.Peer

/-- What answers a client: the settings, the key pair that they name, the token, and the machine's
time and peer. -/
structure Desk where
  config : Config
  keypair : Result Keypair
  mint : Mint
  now : Timestamp
  peer : Remote.Peer

/-- What is kept at a desk: the requests that were sent, the handles of connected wallets, the ledger
of each call to one, and what was printed. -/
structure Desk.Tray where
  sent : List Remote.Request := []
  connected : List Nat := []
  calls : List Nat := []
  printed : String := ""

namespace Desk

/-- A computation at a desk. -/
abbrev Work : Type → Type := StateM (Client × Tray)

/-- The key pair that the settings name. -/
def keypairOf (config : Config) (env : Environment) (fs : Files) : Result Keypair :=
  match config.keypairPath with
  | none => .error .walletUnavailable
  | some name => match fs.readText (env.path name) with
    | .ok contents => Keypair.parse contents
    | .error _ => .error .walletUnavailable

/-- The setting of a client at a desk. -/
def setting (d : Desk) : Setting where
  mint := d.mint
  patience := d.config.walletTimeout.toNat * 1000
  openWallet _ := d.keypair.map fun _ => ()
  openLedger _ := .ok ()

/-- The server. -/
def service (d : Desk) : Remote.Service := ⟨d.peer, d.config.apiUrl⟩

/-- The ledger. -/
def ledger (d : Desk) : Remote.Ledger := ⟨d.peer, d.config.rpcUrl⟩

/-- Talks to the server on behalf of the client's session. -/
def converse {α : Type} (x : Remote.Service.Conversation α) : Work α := fun (client, tray) =>
  let (a, session, sent) := x (client.session, tray.sent)
  (a, { client with session }, { tray with sent })

/-- Makes an authorized request. -/
def authorized {α : Type} (d : Desk) (e : Remote.Endpoint α) : Work (Result α) :=
  converse (d.service.authorized d.now e)

/-- The wallet behind a handle. -/
def wallet (d : Desk) (handle : Nat) (tray : Tray) : Result KeypairWallet :=
  d.keypair.map fun key => { key, connected := handle ∈ tray.connected }

/-- Talks to a ledger. Its requests are numbered from one on. -/
def callLedger {α : Type} (handle : Nat) (x : Nat → Remote.Exchange α) : Work α :=
  fun (client, tray) =>
    let (a, sent) := x (tray.calls.count handle + 1) tray.sent
    (a, client, { tray with sent, calls := tray.calls ++ [handle] })

/-- Notes whether a wallet is connected. -/
def setConnected (handle : Nat) (isConnected : Bool) : Work Unit :=
  modify fun (client, tray) =>
    let others := tray.connected.filter (· ≠ handle)
    (client, { tray with connected := if isConnected then handle :: others else others })

/-- Connects a wallet. -/
def connect (d : Desk) (handle : Nat) : Work (Result Address) := do
  setConnected handle true
  return d.keypair.map Keypair.address

/-- Has a wallet sign a message. -/
def sign (d : Desk) (handle : Nat) (message : String) : Work (Result (List UInt8)) := do
  let (_, tray) ← get
  return do
    let signature ← (← d.wallet handle tray).sign (Text.bytes message)
    return signature.bytes.toList

/-- Has a wallet sign a transaction and hand it to the ledger. -/
def send (d : Desk) (handle ledger : Nat) (tx : Transaction) : Work (Result String) := do
  let (_, tray) ← get
  match d.wallet handle tray with
  | .error e => return .error e
  | .ok w => w.send (fun signed => callLedger ledger fun number => d.ledger.submit number signed) tx

/-- The answer to a call. -/
def reply (d : Desk) : (c : Call) → Work c.Reply
  | .renew refresh => converse <| Remote.Service.exchange <|
    Remote.Endpoint.renewal.ask d.peer d.config.apiUrl (some refresh)
  | .signIn address signature => converse (d.service.unauthorized (.signIn address signature))
  | .getProfile => d.authorized .profile
  | .listDuels => d.authorized .duels
  | .requestTransaction a => d.authorized (.transaction a)
  | .finalize a hash => d.authorized (.finalize a hash)
  | .resolve r => d.authorized (.resolve r)
  | .connectWallet handle => Timely.answered <$> d.connect handle
  | .signMessage handle message => Timely.answered <$> d.sign handle message
  | .sendTransaction handle ledger tx => Timely.answered <$> d.send handle ledger tx
  | .disconnectWallet handle => do
    setConnected handle false
    return .answered (.ok ())
  | .readBalance ledger account => callLedger ledger fun number => d.ledger.balance number account

/-- The answer to a wait. -/
def answer (d : Desk) : (w : Wait) → Work w.Answer
  | .renewal id => converse (d.service.renewal d.now id)
  | .call c => d.reply c

/-- Runs an operation of the client to its end. -/
def run {α : Type} (d : Desk) (operation : Operation α) : Work α := operation.run (fun _ => d.now) d.answer

end Desk

/-- A computation of the program, which may give up. -/
abbrev Job : Type → Type := ExceptT Report Desk.Work

namespace Job

/-- Prints a line. -/
def say (line : String) : Job Unit :=
  modify fun (client, tray) => (client, { tray with printed := tray.printed ++ line ++ "\n" })

/-- The result, or what was being done when it could not be got. -/
def orReport {α : Type} (doing : Option String) (r : Result α) : Job α :=
  match r, doing with
  | .ok a, _ => return a
  | .error e, none => throw (.ofError e)
  | .error e, some text => throw (Report.context text (.ofError e))

/-- Runs an operation of the client. -/
def run {α : Type} (d : Desk) (operation : Operation α) : Job α := ExceptT.lift (d.run operation)

/-- Runs an operation of the client that may fail. -/
def attempt {α : Type} (d : Desk) (doing : Option String) (operation : Operation (Result α)) :
    Job α := do
  orReport doing (← run d operation)

end Job

end Wager
