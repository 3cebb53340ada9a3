import Wager.Time.Timestamp

/-!
# Routines

Operations on shared state that wait for answers.

A routine does its work in sections: a section reads the time and the state, changes the state, and
nothing comes between. Between sections a routine may wait for an answer from outside; while it
waits, other routines run on the same state. So what can go wrong between several operations is
decided by where they wait and by what they do when they are resumed, and both can be read off the
routine: it is a finite tree, whose leaves are results and whose branches at a wait are the possible
answers. A property of all that a routine may still do is a recursive function on that tree.

A routine that is dropped while it waits just ends there.

## Main definitions

* `Routine`: A routine over a state `σ`, waits `ω` and answers `ρ`.
* `Routine.embed`: A routine as part of a larger one.
* `Routine.proceed`: Runs a routine up to its next wait.
* `Routine.run`: Runs a routine to its end with somebody who answers at once.

## Theorems

* `Routine.bind_assoc`, `Routine.bind_done`: Routines compose.
* `Routine.proceed_bind`: A composed routine proceeds with its first part first.
* `Routine.run_bind`: A composed routine runs its parts one after the other.
* `Routine.run_proceed`: A routine runs by proceeding to its next wait.
-/

namespace Wager

/-- A routine: a result, a section and what follows it, or a wait and what follows each answer.
What follows a section is chosen by the state that the section found. -/
inductive Routine (σ ω : Type) (ρ : ω → Type) (α : Type) : Type
  | done (a : α)
  | act (effect : Timestamp → σ → σ) (next : Timestamp → σ → Routine σ ω ρ α)
  | wait (w : ω) (next : ρ w → Routine σ ω ρ α)

namespace Routine

variable {σ ω : Type} {ρ : ω → Type} {α β γ : Type}

/-- One routine after another. -/
def bind (r : Routine σ ω ρ α) (k : α → Routine σ ω ρ β) : Routine σ ω ρ β :=
  match r with
  | done a => k a
  | act effect next => act effect fun now s => (next now s).bind k
  | wait w next => wait w fun a => (next a).bind k

instance : Monad (Routine σ ω ρ) where
  pure := done
  bind := bind

/-- A section that gives a result. -/
def atomically (f : Timestamp → σ → α × σ) : Routine σ ω ρ α :=
  act (fun now s => (f now s).2) fun now s => done (f now s).1

/-- Looks at the state. -/
def look (f : σ → α) : Routine σ ω ρ α := act (fun _ s => s) fun _ s => done (f s)

/-- Changes the state. -/
def change (f : σ → σ) : Routine σ ω ρ Unit := act (fun _ s => f s) fun _ _ => done ()

/-- Waits for an answer. -/
def await (w : ω) : Routine σ ω ρ (ρ w) := wait w done

/-- The routine on a larger state that the smaller one is got from and put into, with `answer` for
its waits. -/
def embed {τ ω' : Type} {ρ' : ω' → Type} (get : τ → σ) (put : σ → τ → τ)
    (answer : (w : ω) → Routine τ ω' ρ' (ρ w)) : Routine σ ω ρ α → Routine τ ω' ρ' α
  | done a => done a
  | act effect next => act (fun now t => put (effect now (get t)) t) fun now t =>
    (next now (get t)).embed get put answer
  | wait w next => (answer w).bind fun a => (next a).embed get put answer

/-- Runs a routine up to its next wait or its end. -/
def proceed (now : Timestamp) : Routine σ ω ρ α → σ → Routine σ ω ρ α × σ
  | done a, s => (done a, s)
  | act effect next, s => (next now s).proceed now (effect now s)
  | wait w next, s => (wait w next, s)

/-- Runs a routine to its end. `answer` answers each wait and keeps state of its own beside the
routine's, in which the time is found as well. -/
def run {τ : Type} (clock : τ → Timestamp) (answer : (w : ω) → StateM (σ × τ) (ρ w)) :
    Routine σ ω ρ α → StateM (σ × τ) α
  | done a, s => (a, s)
  | act effect next, s =>
    (next (clock s.2) s.1).run clock answer (effect (clock s.2) s.1, s.2)
  | wait w next, s => (next (answer w s).1).run clock answer (answer w s).2

@[simp]
theorem bind_done (r : Routine σ ω ρ α) : r.bind done = r := by
  induction r with
  | done a => rfl
  | act effect next ih => simp only [bind, ih]
  | wait w next ih => simp only [bind, ih]

theorem bind_assoc (r : Routine σ ω ρ α) (k : α → Routine σ ω ρ β) (l : β → Routine σ ω ρ γ) :
    (r.bind k).bind l = r.bind fun a => (k a).bind l := by
  induction r with
  | done a => rfl
  | act effect next ih => simp only [bind, ih]
  | wait w next ih => simp only [bind, ih]

instance : LawfulMonad (Routine σ ω ρ) :=
  LawfulMonad.mk' _ (fun r => bind_done r) (fun _ _ => rfl) bind_assoc

/-- A composed routine proceeds with its first part; when that has come to its end it goes on with
the second. -/
theorem proceed_bind (now : Timestamp) (r : Routine σ ω ρ α) (k : α → Routine σ ω ρ β) (s : σ) :
    (r.bind k).proceed now s = ((r.proceed now s).1.bind k).proceed now (r.proceed now s).2 := by
  induction r generalizing s with
  | done a => rfl
  | act effect next ih => exact ih now s (effect now s)
  | wait w next => rfl

/-- A composed routine runs its first part to the end and then its second one. -/
theorem run_bind {τ : Type} (clock : τ → Timestamp) (answer : (w : ω) → StateM (σ × τ) (ρ w))
    (r : Routine σ ω ρ α) (k : α → Routine σ ω ρ β) (s : σ × τ) :
    (r >>= k).run clock answer s
      = (k (r.run clock answer s).1).run clock answer (r.run clock answer s).2 := by
  induction r generalizing s with
  | done a => rfl
  | act effect next ih => exact ih (clock s.2) s.1 (effect (clock s.2) s.1, s.2)
  | wait w next ih => exact ih (answer w s).1 (answer w s).2

/-- A routine that is run proceeds to its next wait or its end, at one time, and goes on from there. -/
theorem run_proceed {τ : Type} (clock : τ → Timestamp) (answer : (w : ω) → StateM (σ × τ) (ρ w))
    (r : Routine σ ω ρ α) (s : σ) (t : τ) :
    r.run clock answer (s, t)
      = (r.proceed (clock t) s).1.run clock answer ((r.proceed (clock t) s).2, t) := by
  induction r generalizing s with
  | done a => rfl
  | act effect next ih => exact ih (clock t) s (effect (clock t) s)
  | wait w next => rfl

end Routine

end Wager
