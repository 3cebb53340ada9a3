/-!
# Timers

Timers on a clock of their own, which only moves on when it is told to.

What is due fires in the order of the deadlines, and at one deadline in the order in which the
timers were started. What a timer starts counts from the time that the clock shows when it fires, so
whoever wants it to count from the deadline moves the clock on from one deadline to the next:
`untilNext?` tells how far that is.

## Main definitions

* `Timers`: A clock with the timers that run on it.
* `Timers.start`, `Timers.stop`: Starting and stopping a timer.
* `Timers.advance`: Moves the clock on.
* `Timers.due?`: The timer that fires next.
* `Timers.untilNext?`: How long it is until the next deadline.
-/

namespace Wager

/-- A clock in milliseconds and the timers that run on it, each with its deadline, in the order in
which they fire. -/
structure Timers (τ : Type) where
  elapsed : Nat := 0
  pending : List (Nat × τ) := []
  deriving DecidableEq

namespace Timers

variable {τ : Type}

/-- Puts a timer behind all that fire before it. -/
def insert (deadline : Nat) (t : τ) : List (Nat × τ) → List (Nat × τ)
  | [] => [(deadline, t)]
  | (d, u) :: rest =>
    if d ≤ deadline then (d, u) :: insert deadline t rest else (deadline, t) :: (d, u) :: rest

/-- Starts a timer that fires after some milliseconds. -/
def start (ts : Timers τ) (millis : Nat) (t : τ) : Timers τ :=
  { ts with pending := insert (ts.elapsed + millis) t ts.pending }

/-- Stops all timers of a kind. -/
def stop (ts : Timers τ) (kind : τ → Bool) : Timers τ :=
  { ts with pending := ts.pending.filter fun (_, t) => !kind t }

/-- Moves the clock on. -/
def advance (ts : Timers τ) (millis : Nat) : Timers τ := { ts with elapsed := ts.elapsed + millis }

/-- The timer that fires next, if one is due, and the others. -/
def due? (ts : Timers τ) : Option (τ × Timers τ) :=
  match ts.pending with
  | [] => none
  | (deadline, t) :: rest =>
    if deadline ≤ ts.elapsed then some (t, { ts with pending := rest }) else none

/-- How long it is until the next deadline. -/
def untilNext? (ts : Timers τ) : Option Nat :=
  ts.pending.head?.map fun (deadline, _) => deadline - ts.elapsed

/-- Takes out all timers that are due, in the order in which they fire. -/
def takeDue (ts : Timers τ) : List τ × Timers τ :=
  let (due, pending) := ts.pending.span fun (deadline, _) => deadline ≤ ts.elapsed
  (due.map (·.2), { ts with pending })

/-- A timer that fires is gone. -/
theorem length_of_due? {ts ts' : Timers τ} {t : τ} (h : ts.due? = some (t, ts')) :
    ts'.pending.length + 1 = ts.pending.length := by
  obtain ⟨elapsed, pending⟩ := ts
  cases pending with
  | nil => simp [due?] at h
  | cons first rest =>
    obtain ⟨deadline, u⟩ := first
    simp only [due?] at h
    split at h
    · simp only [Option.some.injEq, Prod.mk.injEq] at h
      obtain ⟨-, rfl⟩ := h
      rfl
    · simp at h

end Timers

end Wager
