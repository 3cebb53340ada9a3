import Wager.Error

/-!
# Reports of failure

What a program tells when it gives up: what it was doing, and the causes behind that.

A report is the chain of messages from the outermost to the innermost. A single cause is only
indented; several are numbered.

## Main definitions

* `Report`: A chain of messages.
* `Report.context`: What was being done.
* `Report.ofError`: The report of an error.
* `Report.text`: The text of a report.
-/

namespace Wager

/-- What went wrong, and the causes behind it from the outside in. -/
structure Report where
  message : String
  causes : List String := []
  deriving DecidableEq

namespace Report

/-- The report that something was not possible because of another. -/
def context (message : String) (r : Report) : Report := ⟨message, r.message :: r.causes⟩

/-- The messages of an error and of the errors that it wraps. -/
def chain : Error → List String
  | .connectFailed cause => (Error.connectFailed cause).message :: chain cause
  | e => [e.message]

/-- The report of an error. -/
def ofError : Error → Report
  | .connectFailed cause => ⟨(Error.connectFailed cause).message, chain cause⟩
  | e => ⟨e.message, []⟩

/-- The lines of a text. -/
def lines (s : String) : List (List Char) := s.toList.splitOn '\n'

/-- A message with a lead before its first line and blanks of that width before the others. -/
def indented (lead : List Char) (message : String) : List Char :=
  match lines message with
  | [] => lead
  | first :: rest =>
    lead ++ first ++ rest.flatMap fun l => '\n' :: (List.replicate lead.length ' ' ++ l)

/-- The number of a cause, right-aligned. -/
def number (n : Nat) : List Char :=
  let ds := Nat.toDigits 10 n
  List.replicate (5 - ds.length) ' ' ++ ds ++ [':', ' ']

/-- The causes, each on its own lines. -/
def causeText : List String → List Char
  | [] => []
  | [cause] => '\n' :: indented [' ', ' ', ' ', ' '] cause
  | causes => causes.zipIdx.flatMap fun (cause, i) => '\n' :: indented (number i) cause

/-- The text of a report. -/
def text (r : Report) : String :=
  if r.causes.isEmpty then r.message
  else r.message ++ "\n\nCaused by:" ++ String.ofList (causeText r.causes)

end Report

end Wager
