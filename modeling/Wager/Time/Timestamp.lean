import Wager.Time.Calendar

/-!
# Points in time

Points in time to the nanosecond, and their order, distance and range.

A leap second is the second before it with more than a second's worth of nanoseconds, so it sorts
between its neighbours. The years that can be written are bounded; a sum that leaves them has no
answer.

## Main definitions

* `Timestamp`: A point in time.
* `Timestamp.le`: The order in time.
* `Timestamp.addSeconds`, `Timestamp.addMillis?`: A later point.
* `Timestamp.minutesSince`: Whole minutes between two points.
-/

namespace Wager

/-- A point in time: whole seconds since the beginning of 1970, and nanoseconds on top, from a
billion on within a leap second. -/
structure Timestamp where
  seconds : Int
  nanos : Nat
  deriving DecidableEq

namespace Timestamp

/-- The first second of the first year there is. -/
def minSeconds : Int := (Date.mk (-262143) 1 1).toDays * 86400

/-- The last second of the last year there is. -/
def maxSeconds : Int := (Date.mk 262142 12 31).toDays * 86400 + 86399

/-- Whether the point lies within the years there are. -/
def inRange (t : Timestamp) : Bool := minSeconds ≤ t.seconds && t.seconds ≤ maxSeconds

/-- Whether `a` is not after `b`. -/
def le (a b : Timestamp) : Bool :=
  a.seconds < b.seconds || (a.seconds == b.seconds && a.nanos ≤ b.nanos)

/-- The point some seconds later. -/
def addSeconds (t : Timestamp) (seconds : Int) : Timestamp :=
  ⟨t.seconds + seconds, t.nanos⟩

/-- The point some hours later. Within a leap second, where `nanos` counts on past the second, the
later point keeps that count, though no leap second is there. Hours are only added to the present
time, and no clock shows a leap second. -/
def addHours (t : Timestamp) (hours : Nat) : Timestamp := t.addSeconds (hours * 3600)

/-- The point some milliseconds later. -/
def addMillis (t : Timestamp) (millis : Nat) : Timestamp :=
  let nanos := t.nanos + millis % 1000 * 1000000
  ⟨t.seconds + millis / 1000 + nanos / 1000000000, nanos % 1000000000⟩

/-- The point some milliseconds later, unless it lies beyond the last year. -/
def addMillis? (t : Timestamp) (millis : Nat) : Option Timestamp :=
  let later := t.addMillis millis
  if later.inRange then some later else none

/-- Whole minutes from an earlier point to `t`, none if it is in fact later. -/
def minutesSince (t earlier : Timestamp) : Nat :=
  (((t.seconds - earlier.seconds) * 1000000000 + (t.nanos - earlier.nanos : Int)) /
    60000000000).toNat

theorem le_trans {a b c : Timestamp} (hab : a.le b = true) (hbc : b.le c = true) :
    a.le c = true := by
  simp only [le, Bool.or_eq_true, Bool.and_eq_true, decide_eq_true_eq, beq_iff_eq] at *
  omega

end Timestamp

end Wager
