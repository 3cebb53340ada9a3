import Wager.Encoding.Hex
import Wager.Json.Value
import Wager.Number.Layout

/-!
# Texts of documents

Writing document values, on one line or spread over lines with two blanks to a level.

Only what the format demands is escaped: quotes, backslashes and control characters, the common ones
of those by their short names.

## Main definitions

* `Json.quoted`: A text in quotes.
* `Json.Value.compact`: A value on one line.
* `Json.Value.pretty`: A value spread over lines.
-/

namespace Wager.Json

/-- A character of a text, escaped where it must be. -/
def escaped (c : Char) : List Char :=
  if c = '"' then ['\\', '"']
  else if c = '\\' then ['\\', '\\']
  else if c = '\x08' then ['\\', 'b']
  else if c = '\x0c' then ['\\', 'f']
  else if c = '\n' then ['\\', 'n']
  else if c = '\r' then ['\\', 'r']
  else if c = '\t' then ['\\', 't']
  else if c.toNat < 0x20 then ['\\', 'u', '0', '0', Hex.digit (c.toNat / 16), Hex.digit c.toNat]
  else [c]

/-- A text in quotes. -/
def quoted (s : String) : List Char :=
  '"' :: (s.toList.flatMap escaped ++ ['"'])

/-- A number. -/
def Number.text : Number → List Char
  | .whole n => n.repr.toList
  | .real x => (x.documentText.getD "null").toList

namespace Value

mutual

/-- A value on one line. -/
def compactChars : Value → List Char
  | .null => "null".toList
  | .bool b => (if b then "true" else "false").toList
  | .number n => n.text
  | .text s => quoted s
  | .array items => '[' :: (compactItems items ++ [']'])
  | .object members => '\x7b' :: (compactMembers members ++ ['\x7d'])

/-- Items on one line. -/
def compactItems : List Value → List Char
  | [] => []
  | [v] => v.compactChars
  | v :: rest => v.compactChars ++ ',' :: compactItems rest

/-- Members on one line. -/
def compactMembers : List (String × Value) → List Char
  | [] => []
  | [(k, v)] => quoted k ++ ':' :: v.compactChars
  | (k, v) :: rest => quoted k ++ ':' :: (v.compactChars ++ ',' :: compactMembers rest)

end

/-- A value on one line. -/
def compact (v : Value) : String := String.ofList v.compactChars

/-- A new line at a level. -/
def lineAt (level : Nat) : List Char := '\n' :: List.replicate (2 * level) ' '

mutual

/-- A value spread over lines, itself at a level. -/
def prettyChars (level : Nat) : Value → List Char
  | .array (v :: rest) =>
    '[' :: (prettyItems (level + 1) (v :: rest) ++ lineAt level ++ [']'])
  | .object (m :: rest) =>
    '\x7b' :: (prettyMembers (level + 1) (m :: rest) ++ lineAt level ++ ['\x7d'])
  | .array [] => ['[', ']']
  | .object [] => ['\x7b', '\x7d']
  | .null => "null".toList
  | .bool b => (if b then "true" else "false").toList
  | .number n => n.text
  | .text s => quoted s

/-- Items on lines of their own. -/
def prettyItems (level : Nat) : List Value → List Char
  | [] => []
  | [v] => lineAt level ++ v.prettyChars level
  | v :: rest => lineAt level ++ v.prettyChars level ++ ',' :: prettyItems level rest

/-- Members on lines of their own. -/
def prettyMembers (level : Nat) : List (String × Value) → List Char
  | [] => []
  | [(k, v)] => lineAt level ++ quoted k ++ ':' :: ' ' :: v.prettyChars level
  | (k, v) :: rest =>
    lineAt level ++ quoted k ++ ':' :: ' ' :: v.prettyChars level ++ ',' :: prettyMembers level rest

end

/-- A value spread over lines. -/
def pretty (v : Value) : String := String.ofList (v.prettyChars 0)

end Value

end Wager.Json
