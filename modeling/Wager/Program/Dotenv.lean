import Wager.Config
import Wager.Text.Alphanumeric
import Wager.Text.Blank

/-!
# Variables from a file

A file next to the program may set variables of the environment that are not set yet.

Each line sets a variable. A value may be quoted, plainly or with escapes, and may then go on over
several lines; outside of plain quotes it may name other variables, whose values are put in. What
follows a value must be a comment. A line that makes no sense ends the reading, and what was set
before stays.

## Main definitions

* `Dotenv.lines`: The lines of a file, with those joined that a quote holds together.
* `Dotenv.assignment?`: The variable and the value of a line.
* `Dotenv.load`: An environment with the variables of a file.
-/

namespace Wager.Dotenv

/-! ### Lines -/

/-- Where a character of a line stands: outside of quotes, after a blank there, in quotes with or
without escapes, or behind the mark of an escape. -/
inductive Place
  | plain
  | blank
  | escape
  | weak
  | weakEscape
  | strong
  | strongEscape
  deriving DecidableEq

/-- Where the next character stands. -/
def Place.next (p : Place) (c : Char) : Place :=
  match p with
  | .escape => .plain
  | .weakEscape => .weak
  | .strongEscape => .strong
  | .weak => if c = '\\' then .weakEscape else if c = '\x22' then .plain else .weak
  | .strong => if c = '\\' then .strongEscape else if c = '\x27' then .plain else .strong
  | .plain | .blank =>
    if c = '\\' then .escape
    else if c = '\x22' then .weak
    else if c = '\x27' then .strong
    else if p = .plain ∧ Text.isBlank c ∧ c ≠ '\n' ∧ c ≠ '\r' then .blank
    else .plain

/-- Whether a comment is all that stands before the end of the line. -/
def isComment (cs : List Char) : Bool := (Text.trimStart cs).head? = some '#'

/-- A line without the mark of its end. -/
def withoutEnd (reversed : List Char) : List Char :=
  match reversed with
  | '\r' :: rest => rest.reverse
  | cs => cs.reverse

/-- The lines of a text, of which `line` is read already, in reverse; nothing stands for a last line
that is not complete. `isSkipped` tells that the rest of the line is a comment. -/
def linesFrom (p : Place) (isSkipped : Bool) (line : List Char) :
    List Char → List (Option (List Char))
  | [] =>
    if isSkipped then [some line.reverse]
    else if p = .plain then [some (withoutEnd line)] else [none]
  | c :: rest =>
    if isSkipped then
      if c = '\n' then some line.reverse :: linesFrom .plain (isComment rest) [] rest
      else linesFrom p true line rest
    else if p = .blank ∧ c = '#' then linesFrom .plain true line rest
    else if p.next c = .plain ∧ c = '\n' then
      some (withoutEnd line) :: linesFrom .plain (isComment rest) [] rest
    else linesFrom (p.next c) false (c :: line) rest

/-- The lines of a text. -/
def lines (cs : List Char) : List (Option (List Char)) := linesFrom .plain (isComment cs) [] cs

/-! ### Values -/

/-- How a name of a variable within a value is written. -/
inductive Naming
  | none
  | bare
  | braced
  deriving DecidableEq

/-- A value as far as it is read: the quotes it is in, whether the next character is escaped, whether
the value has ended, the name that is being read, and the text, in reverse. -/
structure Reading where
  quote : Option Char := .none
  isEscaped : Bool := false
  hasEnded : Bool := false
  naming : Naming := .none
  name : List Char := []
  text : List Char := []

namespace Reading

/-- Puts in the value of the variable whose name was read. -/
def filled (lookup : String → String) (r : Reading) : Reading :=
  { r with
    naming := .none
    name := []
    text := (lookup (String.ofList r.name.reverse)).toList.reverse ++ r.text }

/-- Takes a character of the value. -/
def take (r : Reading) (c : Char) : Reading := { r with text := c :: r.text }

/-- Reads an escaped character. -/
def takeEscaped (r : Reading) (c : Char) : Option Reading :=
  let r := { r with isEscaped := false }
  if c ∈ ['\\', '\x27', '\x22', '$', ' '] then some (r.take c)
  else if c = 'n' then some (r.take '\n')
  else .none

/-- Reads a character after the name of a variable has begun. -/
def takeName (lookup : String → String) (r : Reading) (c : Char) : Reading :=
  if Text.isAlphanumeric c then { r with name := c :: r.name }
  else if r.naming = .braced then
    if c = '\x7d' then r.filled lookup else { r with name := c :: r.name }
  else if c = '\x7b' ∧ r.name.isEmpty then { r with naming := .braced }
  else if c = '$' then { r.filled lookup with naming := .bare }
  else (r.filled lookup).take c

/-- Reads a character outside of plain quotes. -/
def takePlain (r : Reading) (c : Char) : Reading :=
  if c = '$' then { r with naming := .bare }
  else if r.quote = some c then { r with quote := .none }
  else if c = '\\' then { r with isEscaped := true }
  else if r.quote.isSome then r.take c
  else if c = '\x27' ∨ c = '\x22' then { r with quote := some c }
  else if c = ' ' ∨ c = '\t' then { r with hasEnded := true }
  else r.take c

/-- Reads a value to its end. -/
def finish (lookup : String → String) (r : Reading) : List Char → Option String
  | [] =>
    if r.naming = .braced ∨ r.quote.isSome then .none
    else some (String.ofList (r.filled lookup).text.reverse)
  | c :: rest =>
    if r.hasEnded then
      if c = '#' then finish lookup r []
      else if c = ' ' ∨ c = '\t' then finish lookup r rest
      else .none
    else if r.isEscaped then
      match r.takeEscaped c with
      | some r => finish lookup r rest
      | .none => .none
    else if r.quote = some '\x27' then
      finish lookup (if c = '\x27' then { r with quote := .none } else r.take c) rest
    else if r.naming ≠ .none then finish lookup (r.takeName lookup c) rest
    else finish lookup (r.takePlain c) rest
  termination_by cs => cs.length

end Reading

/-! ### Assignments -/

/-- The name in front, and what follows it. -/
def name? (cs : List Char) : Option (List Char × List Char) :=
  let isPart (c : Char) := c.isAlphanum || c = '_' || c = '.'
  match cs with
  | c :: _ =>
    if c.isAlpha || c = '_' then some (cs.takeWhile isPart, Text.trimStart (cs.dropWhile isPart))
    else none
  | [] => none

/-- What follows the sign of an assignment. -/
def afterSign? : List Char → Option (List Char)
  | '=' :: rest => some (Text.trimStart rest)
  | _ => none

/-- The name in an assignment, and what follows the sign. A word may stand before the name, and may
itself be the name. -/
def named? (line : List Char) : Option (List Char × List Char) := do
  let (name, rest) ← name? line
  match afterSign? rest with
  | some value => some (name, value)
  | none =>
    if String.ofList name = "export" then
      let (name, rest) ← name? rest
      (afterSign? rest).map (name, ·)
    else none

/-- The variable and the value of a line, or that it sets none; nothing if the line makes no sense.
Blanks around a line do not count, not even one behind the mark of an escape. -/
def assignment? (lookup : String → String) (line : List Char) : Option (Option (String × String)) :=
  let line := Text.trim line
  if line.isEmpty ∨ line.head? = some '#' then some none
  else do
    let (name, value) ← named? line
    if value.isEmpty ∨ value.head? = some '#' then return some (String.ofList name, "")
    let value ← Reading.finish lookup {} value
    return some (String.ofList name, value)

/-- Sets a variable that is not set. -/
def assign (env : Environment) (name value : String) : Environment :=
  match env.values.get? name with
  | some _ => env
  | none => { env with values := env.values.set name value }

/-- Sets the variables of lines, up to one that makes no sense. -/
def assignAll (env : Environment) : List (Option (List Char)) → Environment
  | [] => env
  | none :: _ => env
  | some line :: rest =>
    match assignment? (fun name => (env.values.get? name).getD "") line with
    | none => env
    | some none => assignAll env rest
    | some (some (name, value)) => assignAll (assign env name value) rest

/-- The name of the file. -/
def fileName : String := ".env"

/-- The text of the file that is found first, from a directory upwards. -/
def find? (fs : Files) (directory : Path) : Option String :=
  match fs.node? (directory ++ [fileName]) with
  | some (.file content) => Text.ofBytes? content
  | _ =>
    if directory.isEmpty then none else find? fs directory.dropLast
  termination_by directory.length
  decreasing_by
    rename_i h
    have : directory ≠ [] := by simpa using h
    have := List.length_pos_iff.2 this
    simp only [List.length_dropLast]
    omega

/-- The environment with the variables of the file, if there is one. -/
def load (env : Environment) (fs : Files) : Environment :=
  match find? fs env.directory with
  | none => env
  | some text =>
    let cs := match text.toList with
      | '\ufeff' :: rest => rest
      | cs => cs
    assignAll env (lines cs)

end Wager.Dotenv
