import Wager.Encoding.Base58
import Wager.Encoding.Codec
import Wager.Error
import Wager.Text.Blank

/-!
# Addresses

Addresses of accounts and programs on the ledger: 32 bytes, written in base 58.

A text is read without the blanks around it. A text of more than 44 bytes is not looked at, since no
address needs more; otherwise a foreign character is found before a wrong length.

## Main definitions

* `Address`: An address.
* `Address.text`: Its text.
* `Address.parse`: The address that a text names.
-/

namespace Wager

/-- An address on the ledger. -/
structure Address where
  bytes : FixedBytes 32
  deriving DecidableEq

namespace Address

/-- The address in base 58. -/
def text (a : Address) : String := String.ofList (Base58.encode a.bytes.toList)

/-- Why a text is no address. -/
inductive Fault
  | wrongSize
  | invalidText
  deriving DecidableEq

/-- The wording of a fault. -/
def Fault.message : Fault → String
  | .wrongSize => "String is the wrong size"
  | .invalidText => "Invalid Base58 string"

/-- The most bytes that the text of an address has. -/
def maxTextBytes : Nat := 44

/-- Reads a text without blanks around it. -/
def read (s : String) : Except Fault Address :=
  if maxTextBytes < s.utf8ByteSize then .error .wrongSize
  else match Base58.decode s.toList with
    | none => .error .invalidText
    | some bs => match FixedBytes.ofList? 32 bs with
      | none => .error .wrongSize
      | some bytes => .ok ⟨bytes⟩

/-- Reads a text, keeping it in the error. -/
def parse (s : String) : Result Address :=
  match read (Text.trimmed s) with
  | .ok a => .ok a
  | .error f => .error (.invalidAddress (Text.trimmed s ++ ": " ++ f.message))

/-- The address with a text that is known to name one. -/
def known (s : String) : Address :=
  match read s with
  | .ok a => a
  | .error _ => ⟨.zero 32⟩

end Address

end Wager
