import Wager.Text.Hidden

/-!
# Quoted text

A text in quotes for a message, so that it can be told where it begins and ends and what is in it.

Quotes and backslashes are escaped, common control characters have short names, and whatever would
not be seen is spelled out by number.

## Main definitions

* `Text.inQuotes`: A text in quotes.
-/

namespace Wager.Text

/-- A character as it stands between quotes. -/
def quotedChar (c : Char) : List Char :=
  if c = '\x00' then ['\\', '0']
  else if c = '\t' then ['\\', 't']
  else if c = '\r' then ['\\', 'r']
  else if c = '\n' then ['\\', 'n']
  else if c = '"' then ['\\', '"']
  else if c = '\\' then ['\\', '\\']
  else if isHidden c then '\\' :: 'u' :: '\x7b' :: (Nat.toDigits 16 c.toNat ++ ['\x7d'])
  else [c]

/-- A text in quotes. -/
def inQuotes (s : String) : String :=
  String.ofList ('"' :: (s.toList.flatMap quotedChar ++ ['"']))

end Wager.Text
