import Wager.Client.Basic
import Wager.Encoding.Base64

/-!
# Connecting and using the wallet

Connecting, reading the balance, signing and sending, and disconnecting.

A connected wallet is used again without asking, unless a signature is wanted that proves who the
person is; the text to sign is the wallet's own address. While the person is asked for that, a
notice says so. A failed connection leaves the client disconnected.

Disconnecting forgets everything at once and only then tells the wallet, so nothing that goes wrong
there can keep a client connected.

## Main definitions

* `Client.connect`, `Client.balance`, `Client.submit`, `Client.disconnect`: The operations.
-/

namespace Wager.Client

/-- What the person reads while the wallet asks for the first signature. -/
def prompt : String := "Please confirm wallet connection"

/-- The answer of a wallet; that it came too late is trouble of the connection. -/
def inTime {α : Type} (setting : Setting) (operation : String) : Timely α → Result α
  | .answered r => r
  | .late =>
    .error (.networkFailure s!"wallet {operation} timed out after {setting.patience / 1000}s")

/-- Connects the wallet and has it sign its address if wanted. -/
def tryConnect (setting : Setting) (sign : Bool) : ExceptT Error Operation Wallet.Connection := do
  let _ ← ExceptT.mk <| .atomically fun _ c => c.openLedger setting
  let handle ← ExceptT.mk <| .atomically fun _ c => c.openWallet setting
  changeWallet fun w => { w with phase := .connecting }
  let address ← ExceptT.mk <| inTime setting "connect" <$> ask (.connectWallet handle)
  changeWallet (Wallet.connect address)
  if sign then
    changeWallet fun w => { w with phase := .signingChallenge }
    let signature ← ExceptT.mk <|
      inTime setting "challenge signing" <$> ask (.signMessage handle address.text)
    changeWallet Wallet.finishSigning
    return { address, signature := some (Base64.encode signature) }
  else return { address }

/-- Connects the wallet, showing the prompt while it signs. -/
def connectAnew (setting : Setting) (sign : Bool) : Operation (Result Wallet.Connection) := do
  let shown ← if sign then some <$> inNotices fun now ns => ns.loading now prompt else pure none
  let outcome ← (tryConnect setting sign).run
  if let some id := shown then inNotices fun _ ns => ((), ns.remove id)
  match outcome with
  | .ok connection => return .ok connection
  | .error e =>
    changeWallet Wallet.fail
    return .error (.connectFailed e)

/-- Connects the wallet, with a signature of its address if wanted. Without one, a wallet that is
connected is used as it is. -/
def connect (setting : Setting) (sign : Bool) : Operation (Result Wallet.Connection) := do
  match ← .look fun c => if sign then none else c.wallet.address with
  | some address => return .ok { address }
  | none => connectAnew setting sign

/-- The balance of the connected wallet, else of the known owner. An account that does not exist
holds nothing. -/
def balance (setting : Setting) (known : Option Address) : Operation (Result TokenAmount) :=
  ExceptT.run do
    let some owner ← (Routine.look fun c => c.wallet.owner? known : Operation _)
      | throw .walletUnavailable
    let ledger ← ExceptT.mk <| .atomically fun _ c => c.openLedger setting
    let found ← ExceptT.mk <| ask (.readBalance ledger (setting.mint.accountOf owner))
    let balance := found.getD (.zero setting.mint.decimals)
    changeWallet fun w => { w with balance := some balance }
    return balance

/-- Has the wallet sign a transaction that the server has built, and send it. Gives the
transaction's signature. -/
def submit (setting : Setting) (payload : String) : Operation (Result String) := ExceptT.run do
  let _ ← ExceptT.mk <| connect setting false
  let tx ← ExceptT.mk <| pure (Transaction.ofBase64 payload)
  let some handle ← (Routine.look fun c => c.wallet.provider : Operation _)
    | throw .walletUnavailable
  let ledger ← ExceptT.mk <| .atomically fun _ c => c.openLedger setting
  changeWallet fun w => { w with phase := .signingTransaction }
  let answer ← ask (.sendTransaction handle ledger tx)
  changeWallet Wallet.finishSigning
  ExceptT.mk <| pure (inTime setting "transaction signing" answer)

/-- Forgets the wallet and disconnects it. -/
def disconnect : Operation Unit := do
  let handle ← .atomically fun _ c => (c.wallet.provider, { c with wallet := {} })
  if let some handle := handle then
    let _ ← ask (.disconnectWallet handle)

end Wager.Client
