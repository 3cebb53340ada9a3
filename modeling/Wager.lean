import Wager.Text.Blank
import Wager.Text.Utf8
import Wager.Number.Whole
import Wager.Encoding.Base58
import Wager.Encoding.Base64
import Wager.Crypto.Ed25519
import Wager.Json.Decode
import Wager.Json.Text
import Wager.Time.Rfc3339
import Wager.Token.Amount
import Wager.Token.Mint
import Wager.Transaction.Basic
import Wager.Credentials
import Wager.Duel.Action
import Wager.Remote.Failure
import Wager.Text.Quoted
import Wager.Text.Alphanumeric
import Wager.Text.Joining
import Wager.Text.Direction
import Wager.Text.Composed
import Wager.Url.Host
import Wager.Report
import Wager.Files
import Wager.Store.Basic
import Wager.Notices.Timed
import Wager.Keypair
import Wager.Config
import Wager.ProfileCache
import Wager.Routine
import Wager.Client.Execution
import Wager.Rehearsal.Basic
import Wager.Main
import Wager.Remote.Service
import Wager.Remote.Ledger
import Wager.Proofs.Encoding.Base64
import Wager.Proofs.Encoding.Codec
import Wager.Proofs.Transaction.Wire
import Wager.Proofs.Interleaving
import Wager.Proofs.Session.Sections
import Wager.Proofs.Session.Traffic
import Wager.Proofs.Session.SingleFlight
import Wager.Proofs.Session.SigningOut
import Wager.Proofs.Session.Discipline
import Wager.Proofs.Session.Starting
import Wager.Proofs.Session.Threads
import Wager.Proofs.Transaction.Signing
import Wager.Proofs.Keypair.Handover
import Wager.Proofs.Client.Deeds
import Wager.Proofs.Client.Execution
import Wager.Proofs.Client.Segments
import Wager.Proofs.Client.Callers
import Wager.Proofs.Wallet.Moves
import Wager.Proofs.Wallet.Phases
import Wager.Proofs.Wallet.Leaving
import Wager.Proofs.Time.Calendar
import Wager.Proofs.Time.Rfc3339
import Wager.Proofs.Json.Quoted
import Wager.Proofs.Json.Documents
import Wager.Proofs.Store.Entries
import Wager.Proofs.Session.Pairs
import Wager.Proofs.Session.SigningIn
import Wager.Proofs.Session.Rotation
import Wager.Proofs.Client.Loading
import Wager.Proofs.Client.Departure
import Wager.Proofs.Store.Agreement
import Wager.Proofs.Session.Spending
import Wager.Proofs.Remote.Authorized
import Wager.Proofs.Remote.Asking
import Wager.Proofs.Remote.Outcome
import Wager.Proofs.Session.Alone
import Wager.Proofs.Notices.Fading
import Wager.Proofs.Client.Alone
import Wager.Proofs.Client.SigningIn
import Wager.Proofs.Notices.Following
import Wager.Proofs.Wallet.Holdings
import Wager.Proofs.Wallet.Keeping
import Wager.Proofs.Client.Identity
import Wager.Proofs.Remote.Renewing
import Wager.Proofs.Notices.Listing
import Wager.Proofs.Transaction.Slots
import Wager.Proofs.Files
import Wager.Proofs.Profile.Clearing
import Wager.Proofs.Profile.Written
import Wager.Proofs.Profile.Restarting
import Wager.Proofs.Token.Rendering
import Wager.Proofs.Json.Records
import Wager.Proofs.Text.Cutting
import Wager.Proofs.Remote.Refusal
import Wager.Proofs.Number.Whole
import Wager.Proofs.Remote.Balance
import Wager.Proofs.Client.Balance
import Wager.Proofs.Duel.Opening
import Wager.Proofs.Encoding.Base58
import Wager.Proofs.Address
import Wager.Proofs.Json.Values
import Wager.Proofs.Duel.Bodies
import Wager.Proofs.Paths
import Wager.Proofs.Config
import Wager.Proofs.Program.Configuring
import Wager.Proofs.Notices.Staying
import Wager.Proofs.Client.Prompting
import Wager.Proofs.Client.Prompts
