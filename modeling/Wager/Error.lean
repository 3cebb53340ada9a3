/-!
# Errors

What can go wrong for a client, by cause, with the wording for logs and the wording for people.

A failed wallet connection wraps its cause, and connecting may be part of connecting, so causes nest;
what a person is told depends on the innermost one. Only a message that the server wrote for people
is passed on to them, everything else is told in general words.

## Main definitions

* `Error`: The causes.
* `Error.message`: The wording with its details.
* `Error.rootCause`: The innermost cause of a failed connection.
* `Error.userMessage`: The wording for people.
-/

namespace Wager

/-- Why an operation failed. -/
inductive Error
  | walletUnavailable
  | walletRejected (reason : String)
  | connectFailed (cause : Error)
  | authExpired
  | networkFailure (detail : String)
  | remoteRejected (status : Nat) (message : Option String)
  | submissionRejected (reason : String)
  | invalidTransaction (detail : String)
  | invalidAddress (detail : String)
  deriving DecidableEq

/-- What an operation gives, or why it failed. -/
abbrev Result (α : Type) := Except Error α

namespace Error

/-- The wording with all details. -/
def message : Error → String
  | .walletUnavailable => "No wallet provider available"
  | .walletRejected reason => "Wallet request rejected: " ++ reason
  | .connectFailed cause => "Wallet connection failed: " ++ cause.message
  | .authExpired => "Session expired - sign in again"
  | .networkFailure detail => "Network error: " ++ detail
  | .remoteRejected status message =>
    s!"Request rejected ({status}): " ++ message.getD "no details"
  | .submissionRejected reason => "Transaction rejected by the network: " ++ reason
  | .invalidTransaction detail => "Invalid transaction: " ++ detail
  | .invalidAddress detail => "Invalid address: " ++ detail

/-- The innermost cause of a failed connection; any other error is its own cause. -/
def rootCause : Error → Error
  | .connectFailed cause => cause.rootCause
  | e => e

/-- What people are told when there is nothing better to say. -/
def genericMessage : String := "Something went wrong. Please try again."

/-- What people are told when there is no wallet. -/
def noWalletMessage : String := "No wallet found. Install a wallet to continue."

/-- The wording for people. -/
def userMessage : Error → String
  | .remoteRejected _ (some message) => message
  | .remoteRejected _ none => genericMessage
  | .connectFailed cause =>
    match cause.rootCause with
    | .walletRejected _ => "Wallet connection was declined"
    | .walletUnavailable => noWalletMessage
    | _ => "Wallet connection failed"
  | .walletUnavailable => noWalletMessage
  | .walletRejected _ => "Request was declined in the wallet"
  | .authExpired => "Your session has expired. Please sign in again."
  | .submissionRejected _ => "The network rejected the transaction"
  | .networkFailure _ => "Unable to reach the server. Check your connection."
  | .invalidTransaction _ => genericMessage
  | .invalidAddress _ => genericMessage

end Error

end Wager
