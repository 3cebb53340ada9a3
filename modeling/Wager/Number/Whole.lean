/-!
# Whole numbers in text

Reading a whole number that must fit a given limit, with the reason when it cannot be read.

Digits are taken from the left and the limit is checked after each of them, so of two faults in one
text the one further left is reported: `999x` is too large for a byte, `99x` holds an invalid digit.
A leading plus sign is accepted, a minus sign never.

## Main definitions

* `Whole.Fault`: Why a text is no number below the limit.
* `Whole.read`: The number that a text stands for.
-/

namespace Wager.Whole

/-- Why a text cannot be read as a whole number. -/
inductive Fault
  | empty
  | invalidDigit
  | tooLarge
  deriving DecidableEq

/-- The wording of a fault. -/
def Fault.message : Fault → String
  | .empty => "cannot parse integer from empty string"
  | .invalidDigit => "invalid digit found in string"
  | .tooLarge => "number too large to fit in target type"

/-- The value of a decimal digit. -/
def digitValue (c : Char) : Nat :=
  c.toNat - '0'.toNat

/-- Reads further digits of a number that starts with `acc`. -/
def readDigits (limit acc : Nat) : List Char → Except Fault Nat
  | [] => .ok acc
  | c :: cs =>
    if c.isDigit then
      if acc * 10 + digitValue c ≤ limit then readDigits limit (acc * 10 + digitValue c) cs
      else .error .tooLarge
    else .error .invalidDigit

/-- Reads a number of at most `limit`, with an optional plus sign. -/
def readChars (limit : Nat) : List Char → Except Fault Nat
  | [] => .error .empty
  | ['+'] => .error .invalidDigit
  | '+' :: cs => readDigits limit 0 cs
  | cs => readDigits limit 0 cs

/-- Reads a number of at most `limit` from a text. -/
def read (limit : Nat) (s : String) : Except Fault Nat :=
  readChars limit s.toList

end Wager.Whole
