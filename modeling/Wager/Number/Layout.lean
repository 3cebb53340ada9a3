import Wager.Number.Shortest

/-!
# Texts of doubles

How a double is written: in documents, where a number must show that it is no whole number, and in
sentences, where it reads like one.

Both write the shortest digits. In a document the digits are placed around a point for exponents
from -5 to 15, with at least one decimal, and in scientific notation otherwise, the exponent always
with its sign. In a sentence there is never an exponent, and a whole number has no point.

## Main definitions

* `Binary64.documentText`: The text in a document.
* `Binary64.plainText`: The text in a sentence.
-/

namespace Wager.Binary64

/-- The digits with a point so that the leading one has the exponent `lead`; `tail` stands in for
the decimals where there are none. -/
def positional (digits : List Char) (lead : Int) (tail : List Char) : List Char :=
  if lead < 0 then
    '0' :: '.' :: (List.replicate (-lead - 1).toNat '0' ++ digits)
  else
    let whole := lead.toNat + 1
    if digits.length ≤ whole then
      digits ++ List.replicate (whole - digits.length) '0' ++ tail
    else digits.take whole ++ '.' :: digits.drop whole

/-- The digits in scientific notation. -/
def scientific (digits : List Char) (lead : Int) : List Char :=
  let fraction := if digits.length ≤ 1 then [] else '.' :: digits.drop 1
  let sign := if lead < 0 then '-' else '+'
  digits.take 1 ++ fraction ++ 'e' :: sign :: Nat.toDigits 10 lead.natAbs

/-- A minus sign where one is due. -/
def signed (negative : Bool) (cs : List Char) : List Char :=
  if negative then '-' :: cs else cs

/-- The text of a finite double in a document. -/
def documentText (x : Binary64) : Option String :=
  (x.shortest .toEven).map fun (s, d) =>
    String.ofList <| signed s <|
      if -5 ≤ d.leading ∧ d.leading < 16 then positional d.text d.leading ['.', '0']
      else scientific d.text d.leading

/-- The text of a double in a sentence. -/
def plainText (x : Binary64) : String :=
  match x.view, x.shortest .up with
  | .notANumber, _ => "NaN"
  | .infinite s, _ => if s then "-inf" else "inf"
  | .finite .., some (s, d) => String.ofList (signed s (positional d.text d.leading []))
  | .finite .., none => ""

end Wager.Binary64
