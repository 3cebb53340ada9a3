import Wager.Url.Escape

/-!
# Paths of addresses

How the path of an address is read.

A path is a row of steps. Steps that stay where they are or lead back are taken out, in whichever
way their points are written. A step that looks like the letter of a drive cannot be left again; for
files it is written with a colon, and if a path begins with it there is no host.

Line breaks within an address are passed over, with one exception. If the path of a file begins with
the letter of a drive and a break comes next, then the letter is a step of its own, and what follows is
taken as it is for the next one.

## Main definitions

* `Url.unbroken`: A text without line breaks.
* `Url.Scheme`: The kinds of schemes.
* `Url.Walk`: A path as far as it is read.
* `Url.Walk.through`: Reads the steps of a path.
-/

namespace Wager.Url

/-- Whether a character is passed over wherever it stands in an address: it ends or indents a line. -/
def isBreak (c : Char) : Bool := c ∈ ['\t', '\n', '\r']

/-- The text without line breaks. -/
def unbroken (cs : List Char) : List Char := cs.filter (!isBreak ·)

/-- The kinds of schemes: those of the web, with the socket that is used if none is named, that of
files, and all others. -/
inductive Scheme
  | web (socket : Nat)
  | file
  | other
  deriving DecidableEq

/-- The kind of a scheme with a name. -/
def Scheme.ofName (name : List Char) : Scheme :=
  match String.ofList name with
  | "http" | "ws" => .web 80
  | "https" | "wss" => .web 443
  | "ftp" => .web 21
  | "file" => .file
  | _ => .other

/-- The socket that is used if none is named. -/
def Scheme.usualSocket? : Scheme → Option Nat
  | .web socket => some socket
  | _ => none

/-- Whether a character stands between the parts of an address. -/
def Scheme.isSlash (s : Scheme) (c : Char) : Bool := c = '/' || (c = '\\' && s ≠ .other)

/-- Whether a step stays where it is. -/
def isHere (step : List Char) : Bool :=
  String.ofList (step.map Char.toLower) ∈ [".", "%2e"]

/-- Whether a step leads back. -/
def isBack (step : List Char) : Bool :=
  String.ofList (step.map Char.toLower) ∈ ["..", ".%2e", "%2e.", "%2e%2e"]

/-- Whether a step begins like the letter of a drive and has nothing else in it, but perhaps behind a
backslash. -/
def isDrive : List Char → Bool
  | letter :: mark :: rest =>
    letter.isAlpha && (mark = ':' || mark = '|') && (rest.isEmpty || rest.head? = some '\\')
  | _ => false

/-- The letter of a drive at the beginning of a step, and what a line break cuts off from it, if there is
anything. -/
def cutDrive? (step : List Char) : Option (Char × List Char) :=
  match step.dropWhile isBreak with
  | [] => none
  | letter :: rest =>
    match rest.dropWhile isBreak with
    | ':' :: c :: rest =>
      let rest := unbroken rest
      if letter.isAlpha ∧ isBreak c ∧ !rest.isEmpty then some (letter, rest) else none
    | _ => none

/-- A path as far as it is read: its steps, and whether it began with the letter of a drive where that
leaves no host. -/
structure Walk where
  steps : List (List Char) := []
  isOnDrive : Bool := false
  deriving DecidableEq

namespace Walk

/-- Leads back from the last step, if there is one that can be left. -/
def back (w : Walk) : Walk :=
  match w.steps.getLast? with
  | some last => if isDrive last then w else { w with steps := w.steps.dropLast }
  | none => w

/-- Goes a step that leads on. -/
def go (w : Walk) (step : List Char) : Walk := { w with steps := w.steps ++ [escape inPath step] }

/-- Goes a step that leads on from the root of a file's path, where a drive may be named. -/
def goFirst (w : Walk) (step : List Char) : Walk :=
  match cutDrive? step, unbroken step with
  | some (letter, rest), _ => { w with steps := [[letter, ':'], escape inPath rest] }
  | none, [letter, mark] =>
    if isDrive [letter, mark] then { steps := [[letter, ':']], isOnDrive := true }
    else w.go [letter, mark]
  | none, plain => w.go plain

/-- Reads steps. Where the last one leads nowhere, the path ends in a slash. -/
def through (s : Scheme) (w : Walk) : List (List Char) → Walk
  | [] => w
  | step :: rest =>
    let isLast := rest.isEmpty
    let plain := unbroken step
    if isBack plain then through s (if isLast then w.back.go [] else w.back) rest
    else if isHere plain then through s (if isLast then w.go [] else w) rest
    else if s = .file ∧ w.steps.isEmpty then through s (w.goFirst step) rest
    else through s (w.go plain) rest

/-- The text of the path. -/
def text (w : Walk) : List Char := w.steps.flatMap ('/' :: ·)

end Walk

/-- The steps between the separators of a path. -/
def Scheme.steps (s : Scheme) (cs : List Char) : List (List Char) :=
  (cs.map fun c => if s.isSlash c then '/' else c).splitOn '/'

end Wager.Url
