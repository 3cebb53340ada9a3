import Wager.Json.Decode
import Wager.Number.Binary64

/-!
# Token amounts

An amount of a token in its smallest units, and its exact text.

The text is the amount divided by a power of ten, as a decimal without zeros at its end. It is made
from the digits alone, so nothing is lost however large the amount and however small the unit.

## Main definitions

* `TokenAmount`: An amount.
* `TokenAmount.text`: Its decimal text.
* `TokenAmount.toBinary64`: The nearest thing to it among the doubles.
-/

namespace Wager

/-- An amount of a token: whole units, of which `10 ^ decimals` are one token. -/
structure TokenAmount where
  amount : UInt64
  decimals : UInt8
  deriving DecidableEq

namespace TokenAmount

/-- Nothing. -/
def zero (decimals : UInt8) : TokenAmount := ⟨0, decimals⟩

/-- Whether there is nothing. -/
def isZero (a : TokenAmount) : Bool := a.amount == 0

/-- The decimal digits, with zeros in front so that there are more than `decimals`. -/
def digits (amount decimals : Nat) : List Char :=
  let ds := Nat.toDigits 10 amount
  List.replicate (decimals + 1 - ds.length) '0' ++ ds

/-- Digits without the zeros at their end. -/
def dropZeros (ds : List Char) : List Char :=
  (ds.reverse.dropWhile (· == '0')).reverse

/-- The decimal text of `amount / 10 ^ decimals`. -/
def chars (amount decimals : Nat) : List Char :=
  let ds := digits amount decimals
  let whole := ds.take (ds.length - decimals)
  match dropZeros (ds.drop (ds.length - decimals)) with
  | [] => whole
  | fraction => whole ++ '.' :: fraction

/-- The amount in tokens. -/
def text (a : TokenAmount) : String :=
  String.ofList (chars a.amount.toNat a.decimals.toNat)

/-- The power of a double by squaring, from the bits of the exponent. -/
def power (fuel : Nat) (result base : Binary64) (n : Nat) : Binary64 :=
  match fuel with
  | 0 => result
  | fuel + 1 =>
    let result := if n % 2 = 1 then result.mul base else result
    if n / 2 = 0 then result else power fuel result (base.mul base) (n / 2)

/-- The amount in tokens as a double. -/
def toBinary64 (a : TokenAmount) : Binary64 :=
  (Binary64.ofNat a.amount.toNat).div (power 8 (.ofNat 1) (.ofNat 10) a.decimals.toNat)

/-- The amount as a document. -/
def toValue (a : TokenAmount) : Json.Value :=
  .object [("amount", .ofNat a.amount.toNat), ("decimals", .ofNat a.decimals.toNat)]

/-- Reads an amount from a document. -/
def decoder : Json.Decoder TokenAmount :=
  .record ["amount", "decimals"] fun budget slots =>
    match slots with
    | [amount, decimals] => do
      let amount ← Json.Decoder.required .word budget amount
      let decimals ← Json.Decoder.required .byte budget decimals
      return ⟨amount, decimals⟩
    | _ => none

end TokenAmount

end Wager
