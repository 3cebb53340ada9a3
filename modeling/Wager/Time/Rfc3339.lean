import Wager.Text.Blank
import Wager.Number.Numeral
import Wager.Time.Timestamp

/-!
# Times in text

Writing points in time as `2026-11-01T00:00:00Z`, and reading that and its relatives.

Writing is strict: universal time, four digits or a sign and more of them for the year, and the
fraction in groups of three digits, as many as lose nothing. Reading is lenient: a blank or a small
letter may stand for the `T`, numbers may lack zeros in front, blanks may surround the separators,
and the distance from universal time may be written in several ways.

## Main definitions

* `Timestamp.text`: The text of a point in time.
* `Timestamp.sentenceText`: The text in a sentence.
* `Timestamp.parse?`: The point in time that a text names.
-/

namespace Wager.Timestamp

/-- A number with at least `width` digits. -/
def padded (width n : Nat) : List Char :=
  let ds := Nat.toDigits 10 n
  List.replicate (width - ds.length) '0' ++ ds

/-- A year. -/
def yearText (year : Int) : List Char :=
  if 0 ≤ year ∧ year ≤ 9999 then padded 4 year.toNat
  else (if year < 0 then '-' else '+') :: padded 4 year.natAbs

/-- The fraction of a second in the fewest groups of three digits. -/
def fractionText (nanos : Nat) : List Char :=
  if nanos = 0 then []
  else if nanos % 1000000 = 0 then '.' :: padded 3 (nanos / 1000000)
  else if nanos % 1000 = 0 then '.' :: padded 6 (nanos / 1000)
  else '.' :: padded 9 nanos

/-- A date. -/
def dateText (d : Date) : List Char :=
  yearText d.year ++ '-' :: padded 2 d.month ++ '-' :: padded 2 d.day

/-- A time of day; a leap second is the sixtieth of its minute. -/
def clockText (secondOfDay nanos : Nat) : List Char :=
  let leap := nanos / 1000000000
  padded 2 (secondOfDay / 3600) ++ ':' :: padded 2 (secondOfDay / 60 % 60) ++
    ':' :: padded 2 (secondOfDay % 60 + leap) ++ fractionText (nanos % 1000000000)

/-- The date of a point in time. -/
def date (t : Timestamp) : Date := .ofDays (t.seconds / 86400)

/-- The text with the given separator and ending. -/
def chars (t : Timestamp) (separator : Char) (ending : List Char) : List Char :=
  dateText t.date ++ separator :: clockText (t.seconds % 86400).toNat t.nanos ++ ending

/-- The text of a point in time. -/
def text (t : Timestamp) : String := String.ofList (t.chars 'T' ['Z'])

/-- The text of a point in time in a sentence. -/
def sentenceText (t : Timestamp) : String := String.ofList (t.chars ' ' " UTC".toList)

/-- Reads a number of at most `width` digits behind blanks. -/
def readNumber (width : Nat) (cs : List Char) : Option (Nat × List Char) :=
  let cs := Text.trimStart cs
  match (cs.take width).takeWhile Char.isDigit with
  | [] => none
  | ds => some (Numeral.digitsValue ds, cs.drop ds.length)

/-- Reads a year: four digits at most, or any number of them behind a sign. -/
def readYear (cs : List Char) : Option (Int × List Char) :=
  match Text.trimStart cs with
  | '-' :: rest => (digitsHere rest).map fun (n, rest) => (-(n : Int), rest)
  | '+' :: rest => (digitsHere rest).map fun (n, rest) => ((n : Int), rest)
  | cs => (readNumber 4 cs).map fun (n, rest) => ((n : Int), rest)
where
  digitsHere (cs : List Char) : Option (Nat × List Char) :=
    match Numeral.spanDigits cs with
    | ([], _) => none
    | (ds, rest) => some (Numeral.digitsValue ds, rest)

/-- Reads a number in a range. -/
def readWithin (low high : Nat) (cs : List Char) : Option (Nat × List Char) := do
  let (n, rest) ← readNumber 2 cs
  if low ≤ n ∧ n ≤ high then return (n, rest) else none

/-- Reads a separator that blanks may precede. -/
def readMark (mark : Char) (cs : List Char) : Option (List Char) :=
  match Text.trimStart cs with
  | c :: rest => if c = mark then some rest else none
  | [] => none

/-- Reads a date. -/
def readDate (cs : List Char) : Option (Date × List Char) := do
  let (year, cs) ← readYear cs
  let (month, cs) ← readWithin 1 12 (← readMark '-' cs)
  let (day, cs) ← readWithin 1 31 (← readMark '-' cs)
  let d : Date := ⟨year, month, day⟩
  if d.isValid then return (d, cs) else none

/-- Reads the fraction of a second, to nanoseconds; further digits are dropped. -/
def readFraction (cs : List Char) : Option (Nat × List Char) :=
  match cs with
  | '.' :: rest =>
    match Numeral.spanDigits rest with
    | ([], _) => none
    | (ds, rest) =>
      let kept := ds.take 9
      some (Numeral.digitsValue kept * Nat.pow 10 (9 - kept.length), rest)
  | _ => some (0, cs)

/-- Reads a time of day as its second, with a sixtieth second counted in the nanoseconds. -/
def readClock (cs : List Char) : Option (Nat × Nat × List Char) := do
  let (hour, cs) ← readWithin 0 23 cs
  let (minute, cs) ← readWithin 0 59 (← readMark ':' cs)
  let (second, cs) ← readWithin 0 60 (← readMark ':' cs)
  let (nanos, cs) ← readFraction cs
  let leap := if second = 60 then 1 else 0
  return (hour * 3600 + minute * 60 + second - leap, nanos + leap * 1000000000, cs)

/-- Reads exactly two digits, the first of them at most `high`. -/
def readTwo (high : Char) : List Char → Option (Nat × List Char)
  | a :: b :: rest =>
    if a.isDigit ∧ b.isDigit ∧ a ≤ high then some (Numeral.digitsValue [a, b], rest) else none
  | _ => none

/-- Reads the seconds by which a clock is ahead of universal time. -/
def readOffset (cs : List Char) : Option (Int × List Char) :=
  match Text.trimStart cs with
  | [] => none
  | c :: rest =>
    if c = 'Z' ∨ c = 'z' then some (0, rest)
    else if [c] ++ rest.take 2 |>.map Char.toUpper |> (· = ['U', 'T', 'C']) then
      some (0, rest.drop 2)
    else if c = '+' ∨ c = '-' ∨ c = '\u2212' then do
      let (hours, rest) ← readTwo '9' rest
      let rest := rest.dropWhile fun c => c = ':' || Text.isBlank c
      let (minutes, rest) ← readTwo '5' rest
      let ahead : Int := hours * 3600 + minutes * 60
      if ahead < 86400 then return (if c = '+' then ahead else -ahead, rest) else none
    else none

/-- The point in time that the characters name. -/
def ofChars? (cs : List Char) : Option Timestamp := do
  let (date, cs) ← readDate cs
  let c :: cs := cs | none
  if c = 'T' ∨ c = 't' ∨ c = ' ' then
    let (second, nanos, cs) ← readClock cs
    let (ahead, cs) ← readOffset cs
    if cs.all Text.isBlank then
      let localTime : Timestamp := ⟨date.toDays * 86400 + second, nanos⟩
      let t := localTime.addSeconds (-ahead)
      if localTime.inRange && t.inRange then return t else none
    else none
  else none

/-- The point in time that a text names. -/
def parse? (s : String) : Option Timestamp := ofChars? s.toList

end Wager.Timestamp
