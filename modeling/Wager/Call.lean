import Wager.Credentials
import Wager.Duel.Action
import Wager.Error
import Wager.Token.Amount
import Wager.Transaction.Basic

/-!
# Calls

What a client asks of others, and what it may get for an answer.

There are three others: the server, the person's wallet and the ledger. A wallet may take its time,
because it asks the person, so what is asked of a wallet may also stay without an answer until the
client gives up.

Opening a handle on the wallet or the ledger is no call: it is answered at once (see `Setting`). What
a wallet asks of the ledger, when it hands over a transaction that it has signed, is no call of the
client either, but it is a kind of its own for whoever plays both of them.

## Main definitions

* `Call`: What is asked.
* `Role`, `Call.role`: The kinds of calls, and the kind of a call.
* `Call.Reply`: What may be answered.
* `Timely`: An answer, unless it came too late.
* `Wait`: What a client may wait for.
-/

namespace Wager

/-- What is asked of the server, of an open wallet or of an open ledger. -/
inductive Call
  | renew (refresh : String)
  | signIn (address signature : String)
  | getProfile
  | listDuels
  | requestTransaction (action : Duel.Action)
  | finalize (action : Duel.Action) (hash : String)
  | resolve (resolution : Duel.Resolution)
  | connectWallet (wallet : Nat)
  | signMessage (wallet : Nat) (message : String)
  | sendTransaction (wallet ledger : Nat) (tx : Transaction)
  | disconnectWallet (wallet : Nat)
  | readBalance (ledger : Nat) (account : Address)

/-- The kinds of calls. The last one is the hand-over of a signed transaction to the ledger. -/
inductive Role
  | renew
  | signIn
  | getProfile
  | listDuels
  | requestTransaction
  | finalize
  | resolve
  | connectWallet
  | signMessage
  | sendTransaction
  | disconnectWallet
  | readBalance
  | handOver
  deriving DecidableEq

/-- The role that answers a call. -/
def Call.role : Call → Role
  | .renew _ => .renew
  | .signIn .. => .signIn
  | .getProfile => .getProfile
  | .listDuels => .listDuels
  | .requestTransaction _ => .requestTransaction
  | .finalize .. => .finalize
  | .resolve _ => .resolve
  | .connectWallet _ => .connectWallet
  | .signMessage .. => .signMessage
  | .sendTransaction .. => .sendTransaction
  | .disconnectWallet _ => .disconnectWallet
  | .readBalance .. => .readBalance

/-- An answer, unless it came too late. -/
inductive Timely (α : Type)
  | answered (r : Result α)
  | late

/-- What may be answered to a call. -/
abbrev Call.Reply : Call → Type
  | .renew _ => Result Credentials
  | .signIn .. => Result SignInReply
  | .getProfile => Result Profile
  | .listDuels => Result (List Duel)
  | .requestTransaction _ => Result String
  | .finalize .. => Result Json.Value
  | .resolve _ => Result Json.Value
  | .connectWallet _ => Timely Address
  | .signMessage .. => Timely (List UInt8)
  | .sendTransaction .. => Timely String
  | .disconnectWallet _ => Timely Unit
  | .readBalance .. => Result (Option TokenAmount)

/-- What a call comes to when the time for it is up; nothing if the time is not limited. -/
def Call.late? : (c : Call) → Option c.Reply
  | .connectWallet _ | .signMessage .. | .sendTransaction .. | .disconnectWallet _ => some .late
  | _ => none

/-- Whether the time for a call is limited. -/
def Call.isTimed (c : Call) : Bool := c.late?.isSome

/-- What a client may wait for: the outcome of a renewal, which others may be waiting for too, or
the answer to a call of its own. -/
inductive Wait
  | renewal (id : Nat)
  | call (c : Call)

/-- What is waited for. -/
abbrev Wait.Answer : Wait → Type
  | .renewal _ => Result String
  | .call c => c.Reply

end Wager
