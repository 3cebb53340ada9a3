import Wager.Duel.Action
import Wager.Number.Numeral
import Wager.Number.Whole
import Wager.Report
import Wager.Text.Quoted
import Wager.Time.Rfc3339

/-!
# Commands

What the program can be told to do, and how arguments are read.

A command is told by its first argument. Its other arguments are kept as they are at first, because
some things are checked before them: a program that cannot read its settings does not complain about
arguments.

## Main definitions

* `Command`: What the program is told to do.
* `Command.parse`: The command in a list of arguments.
* `Command.opening`, `Command.target`: Reading the arguments of actions.
* `Command.usage`: What the program says about itself.
-/

namespace Wager

/-- What the program is told to do. -/
inductive Command
  | usage
  | configure (keypair : Option String)
  | signIn
  | status
  | balance (owner : Option String)
  | account (owner : Option String)
  | duels
  | duel (id : Option String)
  | statistics
  | create (args : List String)
  | join (args : List String)
  | resolve (args : List String)
  | signOut
  | unknown (name : String)
  deriving DecidableEq

namespace Command

/-- What the program says about itself. -/
def usageText : String := String.intercalate "\n" [
  "Usage: duels <command>",
  "",
  "Commands:",
  "  init [keypair]                           Write the config file, optionally setting the keypair",
  "  login                                    Sign in with the configured keypair wallet",
  "  status                                   Show session, cached user and balance",
  "  balance [owner]                          Token balance for an owner address",
  "  ata <owner>                              Print the associated token account address",
  "  duels                                    List your duels and how many await resolution",
  "  duel <id>                                Show a duel and its players",
  "  stats                                    Show your duel statistics",
  "  create <question> <price> <date> <answer> [commission]",
  "                                           Create a duel (date as RFC 3339)",
  "  join <duel-id> <answer>                  Join a duel",
  "  resolve <duel-id> <answer>               Resolve one of your duels",
  "  logout                                   Clear stored credentials and cached user"]

/-- The command in a list of arguments. -/
def parse : List String → Command
  | [] => .usage
  | name :: args =>
    match name with
    | "-h" | "--help" | "help" => .usage
    | "init" => .configure args.head?
    | "login" => .signIn
    | "status" => .status
    | "balance" => .balance args.head?
    | "ata" => .account args.head?
    | "duels" => .duels
    | "duel" => .duel args.head?
    | "stats" => .statistics
    | "create" => .create args
    | "join" => .join args
    | "resolve" => .resolve args
    | "logout" => .signOut
    | other => .unknown other

/-- The commission of a duel if none is given. -/
def defaultCommission : UInt64 := 3

/-- That an argument cannot be read, and why. -/
def invalid {α : Type} (what arg why : String) : Except Report α :=
  .error ⟨"Invalid " ++ what ++ " " ++ Text.inQuotes arg, [why]⟩

/-- Reads the number of an answer. -/
def answer (arg : String) : Except Report UInt8 :=
  match Whole.read 255 arg with
  | .ok n => .ok (.ofNat n)
  | .error f => invalid "answer" arg f.message

/-- Reads a date. -/
def date (arg : String) : Except Report Timestamp :=
  match Timestamp.parse? arg with
  | some t => .ok t
  | none => invalid "event date" arg "malformed date"

/-- Reads a commission, if it is given. -/
def commission : List String → Except Report UInt64
  | [] => .ok defaultCommission
  | arg :: _ =>
    match Whole.read 0xFFFFFFFFFFFFFFFF arg with
    | .ok n => .ok (.ofNat n)
    | .error f => invalid "commission" arg f.message

/-- Reads a price. -/
def price (arg : String) : Except Report Binary64 :=
  match Binary64.read arg with
  | .ok x => .ok x
  | .error f => invalid "price" arg f.message

/-- The duel that the arguments describe. -/
def opening : List String → Except Report Duel.Opening
  | question :: amount :: day :: guess :: rest => do
    let eventDate ← date day
    let commission ← commission rest
    return {
      imageUrl := "", backgroundUrl := "", question, price := ← price amount, commission
      info := [], eventDate, answer := ← answer guess }
  | _ => .error ⟨"create needs <question> <price> <date> <answer> [commission]", []⟩

/-- The duel and the answer that the arguments of a command name. -/
def target (command : String) : List String → Except Report (String × UInt8)
  | id :: guess :: _ => do return (id, ← answer guess)
  | _ => .error ⟨command ++ " needs <duel-id> <answer>", []⟩

end Command

end Wager
