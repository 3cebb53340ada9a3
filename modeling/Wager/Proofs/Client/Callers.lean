import Wager.Proofs.Client.Segments
import Wager.Proofs.Interleaving

/-!
# Callers of one client

Callers that carry out operations on one client, interleaved where they wait.

What an operation does in a segment is all that matters of it here: a caller that has stopped keeps to
its moves whatever it is answered and whatever the others have left of the client
(`Client.Stopped`). So each event is one move of one caller, and a caller is not concerned by the moves
of the others.

## Main definitions

* `Client.Stopped`: A caller has stopped, and will only make moves.

## Theorems

* `Client.stopped_proceed`, `Client.Stopped.goOn?`: A caller comes, or goes on, and makes a move.
* `Client.answer?_eq_none_of_goOn?`: A caller that waits and does not go on has no answer at hand.
* `Client.preserves_stopped`: All callers have stopped at every moment.
-/

namespace Wager.Client

variable {Q α γ ξ : Type}

/-- A caller has stopped where a move has brought it, and will only make moves. -/
def Stopped (moves : Q → Segment α) (caller : Caller Q (Operation α)) : Prop :=
  KeepsOn (moves caller.request) caller.rest ∧
    ∃ cause c x c', StopsAt caller.rest x ∧ moves caller.request cause c x c'

/-- Whoever comes makes a first move. -/
theorem stopped_proceed {moves : Q → Segment α} {q : Q} {r : Operation α} (hkeeps : Keeps (moves q) r)
    (now : Timestamp) (c : Client) :
    Stopped moves ⟨q, (r.proceed now c).1⟩ ∧
      ∃ x, StopsAt (r.proceed now c).1 x ∧ moves q .called c x (r.proceed now c).2 := by
  obtain ⟨hrest, x, hstops, hmoves⟩ := (hkeeps c).proceed now
  exact ⟨⟨hrest, .called, c, x, _, hstops, hmoves⟩, x, hstops, hmoves⟩

section

variable {operation : Q → Operation α} {moves : Q → Segment α}
  {answer? : Client → γ → (w : Wait) → Option w.Answer} {change : Timestamp → ξ → Client → Client}

/-- Whoever goes on has waited for what it is answered, and makes a move. -/
theorem Stopped.goOn? {caller caller' : Caller Q (Operation α)} (h : Stopped moves caller)
    {now : Timestamp} {given : γ} {c c' : Client}
    (hgoes : (Routine.usage operation answer? change).goOn? now given caller c
      = some (caller', c')) :
    Stopped moves caller' ∧ caller'.request = caller.request ∧
      ∃ w answer x, StopsAt caller.rest (.waits w) ∧ answer? c given w = some answer ∧
        StopsAt caller'.rest x ∧ moves caller.request (.answered w answer) c x c' := by
  obtain ⟨w, next, answer, hrest, hanswer, rfl, rfl⟩ := Routine.goOn?_usage_eq_some_iff.mp hgoes
  have hkeeps := h.1
  rw [hrest] at hkeeps
  obtain ⟨hrest', x, hstops, hmoves⟩ := (hkeeps answer c).proceed now
  refine ⟨⟨hrest', _, c, x, _, hstops, hmoves⟩, rfl, w, answer, x, ?_, hanswer, hstops, hmoves⟩
  rw [hrest]
  exact rfl

/-- Whoever waits and does not go on has no answer at hand. -/
theorem answer?_eq_none_of_goOn? {caller : Caller Q (Operation α)} {now : Timestamp} {given : γ}
    {c : Client} (hstays : (Routine.usage operation answer? change).goOn? now given caller c = none)
    {w : Wait} (hwaits : StopsAt caller.rest (.waits w)) : answer? c given w = none := by
  obtain ⟨q, rest⟩ := caller
  cases rest with
  | done reply => exact nomatch hwaits
  | act effect next => exact hwaits.elim
  | wait w' next =>
    cases hwaits
    exact Option.map_eq_none_iff.mp hstays

/-- All callers have stopped, whatever happens. -/
theorem preserves_stopped (hkeeps : ∀ q, Keeps (moves q) (operation q)) :
    (Routine.usage operation answer? change).Preserves (fun _ => True) fun _ => Stopped moves where
  come now q c _ := ⟨trivial, (stopped_proceed (hkeeps q) now c).1, fun _ hother => hother⟩
  goOn _ _ _ _ _ _ _ h hgoes := ⟨trivial, (h.goOn? hgoes).1, fun _ hother => hother⟩
  change _ _ _ _ := ⟨trivial, fun _ hother => hother⟩

end

end Wager.Client
