import Wager.Encoding.Hex

/-!
# Ranges and rows

How tables of characters are written down.

A class of characters is a list of ranges. A table that says more of its characters than that they
are in it has rows of numbers, and is written as a text, because a long text costs nothing to check
while a long list does. Rows are separated by blanks and numbers by any other mark; a table may give
marks a meaning of their own.

## Main definitions

* `Text.inRanges`: Whether a character is in a class.
* `Text.rows`: The rows of a table.
* `Text.numbers`: The numbers of a row.
-/

namespace Wager.Text

/-- Whether the character lies in one of the ranges, of which the first and the last character are
given. -/
def inRanges (ranges : List (Nat × Nat)) (c : Char) : Bool :=
  ranges.any fun (first, last) => first ≤ c.toNat && c.toNat ≤ last

/-- The rows of a table. -/
def rows (table : String) : List (List Char) :=
  (table.toList.splitOnP Char.isWhitespace).filter (!·.isEmpty)

/-- The numbers of a row, which are hexadecimal. -/
def numbers (row : List Char) : List Nat :=
  ((row.splitOnP fun c => (Hex.value? c).isNone).filter (!·.isEmpty)).map Hex.number

end Wager.Text
