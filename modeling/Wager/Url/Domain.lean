import Wager.Text.Composed
import Wager.Text.Direction
import Wager.Text.Joining
import Wager.Url.Likeness
import Wager.Url.Punycode

/-!
# Names of hosts

How a name of a host in any script is turned into the plain one by which the host is found.

A name is a row of labels with points between them. First every character is replaced by what it
stands for, and the result is composed. Then each label is looked at by itself: one beyond ASCII is
written in Punycode behind a sign, and one that is written so already must read as a label that
would be written that way. A label may not start with a mark, invisible joiners may only stand where
letters are joined, and in a name with letters from right to left no label may mix directions so
that it could be taken for another one.

## Main definitions

* `Url.Label`: A label as it reads and as it is written.
* `Url.plainName?`: The plain form of a name.
-/

namespace Wager.Url

/-- The characters of ASCII that no name may hold. -/
def isDenied (c : Char) : Bool :=
  c.toNat ≤ 32 || c.toNat = 127 ||
    c ∈ ['%', '#', '/', ':', '<', '>', '?', '@', '[', '\\', ']', '^', '|']

/-- Whether the text is plain. -/
def isPlain (cs : List Char) : Bool := cs.all (·.toNat < 128)

/-! ### Joiners -/

/-- Whether the first letter that is not passed over joins its neighbour. -/
def joins (isJoining : Char → Bool) : List Char → Bool
  | [] => false
  | c :: rest => isJoining c || (Text.isTransparent c && joins isJoining rest)

/-- Whether all joiners stand where they have an effect: behind a sign that takes off a vowel, or, if
it is the one that keeps letters apart, between letters that would be joined. What stands before is
given in reverse. -/
def areJoinersApt (before : List Char) : List Char → Bool
  | [] => true
  | c :: rest =>
    let isApt :=
      if c = '\u200C' then
        before.head?.any Text.isVirama ||
          (joins Text.joinsNext before && joins Text.joinsPrevious rest)
      else if c = '\u200D' then before.head?.any Text.isVirama
      else true
    isApt && areJoinersApt (c :: before) rest

/-! ### Directions -/

/-- Whether a character makes the direction of a name matter. -/
def turnsAround (c : Char) : Bool := Text.direction c ∈ [.right, .arabicDigit]

/-- Whether a label keeps to one direction: that of its first letter. At its end must stand a letter of
that direction or a digit, apart from marks, and digits of both kinds do not mix. -/
def keepsDirection (label : List Char) : Bool :=
  let directions := label.map Text.direction
  let withoutMarks := (directions.reverse.dropWhile (· = .mark)).reverse
  match directions.head?, withoutMarks.getLast? with
  | none, _ => true
  | some .left, last? =>
    directions.all (· ∉ [.right, .arabicDigit]) && last?.all (· ∈ [.left, .europeanDigit])
  | some .right, last? =>
    directions.all (· ≠ .left) && last?.all (· ∈ [.right, .europeanDigit, .arabicDigit]) &&
      !(directions.contains .europeanDigit && directions.contains .arabicDigit)
  | some _, _ => false

/-! ### Labels -/

/-- A label as it reads and as it is written. -/
structure Label where
  read : List Char
  written : List Char

/-- What stands in front of a label that is written in Punycode. -/
def punycodeSign : List Char := ['x', 'n', '-', '-']

/-- The most characters that are written in Punycode. -/
def maxEncoded : Nat := 1000

/-- The most characters that are read as Punycode. -/
def maxDecoded : Nat := 2000

/-- Whether a label that is not plain may stand in a name. -/
def isAllowed (label : List Char) : Bool :=
  !label.head?.any Text.isMark && areJoinersApt [] label && label.length ≤ maxEncoded

/-- Whether a text is a label as it would be after all replacements. -/
def isReplaced (label : List Char) : Bool :=
  label.all (fun c => likeness? c = some [c] && !isDenied c && c ≠ '.') &&
    Text.composed label = label

/-- The label that is written, after all replacements. -/
def label? (cs : List Char) : Option Label :=
  if cs.any isDenied then none
  else if punycodeSign.isPrefixOf cs then
    if isPlain cs && cs.length ≤ maxDecoded + 4 then do
      let read ← Punycode.decode? (cs.drop 4)
      if !isPlain read && isReplaced read && isAllowed read then some ⟨read, cs⟩ else none
    else none
  else if isPlain cs then some ⟨cs, cs⟩
  else if isAllowed cs then some ⟨cs, punycodeSign ++ Punycode.encode cs⟩
  else none

/-! ### Names -/

/-- A name with every character replaced by what it stands for. -/
def replaced? (name : List Char) : Option (List Char) :=
  (name.mapM likeness?).map fun cs => Text.composed cs.flatten

/-- The plain form of a name. -/
def plainName? (name : List Char) : Option (List Char) := do
  let labels ← ((← replaced? name).splitOn '.').mapM label?
  if (labels.any (·.read.any turnsAround)) && !labels.all (keepsDirection ·.read) then none
  else some ((labels.map (·.written)).intersperse ['.']).flatten

end Wager.Url
