import Wager.Notices.Basic
import Wager.Time.Timers

/-!
# Notices on a clock

Notices whose lifetimes are watched by timers.

A timer is started with each notice that has a lifetime, and removes the notice when the lifetime
has passed on the timers' clock. Timers have a clock of their own, because the time by which a
notice was created is the time of day, which may be set while timers run on.

## Main definitions

* `Notices.Timed`: Notices with the timers that watch them.
* `Notices.Timed.watch`: Starts the timer of a notice.
* `Notices.Timed.settle`, `Notices.Timed.advance`: Firing what is due.
-/

namespace Wager.Notices

/-- Notices and the timers of those that have a lifetime. -/
structure Timed where
  notices : Notices := {}
  timers : Timers Nat := {}

namespace Timed

/-- Starts the timer of a notice with a lifetime. -/
def watch (t : Timed) (id lifetime : Nat) : Timed :=
  { t with timers := t.timers.start lifetime id }

/-- Fires the timers that are due, in order. -/
def fire (notices : Notices) (timers : Timers Nat) : Timed :=
  match _h : timers.due? with
  | some (id, others) => fire (notices.remove id) others
  | none => ⟨notices, timers⟩
  termination_by timers.pending.length
  decreasing_by have := Timers.length_of_due? _h; omega

/-- Fires what is due. -/
def settle (t : Timed) : Timed := fire t.notices t.timers

/-- Lets time pass and fires what is due. -/
def advance (t : Timed) (millis : Nat) : Timed := fire t.notices (t.timers.advance millis)

end Timed

end Wager.Notices
