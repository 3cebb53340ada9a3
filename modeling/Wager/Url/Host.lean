import Wager.Url.Domain
import Wager.Url.Escape
import Wager.Url.Numeric

/-!
# Hosts

The host in an address: a name or a number.

The schemes of the web have names that are turned into plain ones, and a name that looks like a
number is one. Other schemes take names as they are, and only escape what controls. Eight groups
stand in brackets everywhere.

## Main definitions

* `Url.Host`: A host.
* `Url.Host.ofWeb?`, `Url.Host.ofOther?`: Reading a host.
* `Url.Host.text`: Writing a host.
-/

namespace Wager.Url

/-- A host: a name, which may be empty, four bytes or eight groups. -/
inductive Host
  | name (text : List Char)
  | bytes (n : UInt32)
  | groups (gs : Groups)
  deriving DecidableEq

namespace Host

/-- No host. -/
def empty : Host := .name []

/-- Reads a host in brackets. -/
def inBrackets? (cs : List Char) : Option Host :=
  if cs.getLast? = some ']' then (groups? (cs.drop 1).dropLast).map .groups else none

/-- Reads a host of the web. -/
def ofWeb? (cs : List Char) : Option Host :=
  if cs.head? = some '[' then inBrackets? cs
  else do
    let name ← plainName? (← unescaped? cs).toList
    if name.isEmpty then none
    else if isNumeric name then (fourBytes? name).map .bytes
    else some (.name name)

/-- What no host of another scheme may hold. -/
def isBarred (c : Char) : Bool :=
  c ∈ ['\x00', '\t', '\n', '\r', ' ', '#', '/', ':', '<', '>', '?', '@', '[', '\\', ']', '^', '|']

/-- Reads a host of another scheme. -/
def ofOther? (cs : List Char) : Option Host :=
  if cs.head? = some '[' then inBrackets? cs
  else if cs.any isBarred then none
  else some (.name (escapeControls cs))

/-- The text of a host. -/
def text : Host → List Char
  | .name cs => cs
  | .bytes n => fourBytesText n
  | .groups gs => '[' :: groupsText gs ++ [']']

end Host

end Wager.Url
