import Wager.Proofs.Positions
import Wager.Routine

/-!
# Callers on one state

Several callers of one state, interleaved where they wait, and what holds at every moment.

Three things can happen next: somebody comes with a request, a caller goes on with what it is given,
or the state changes for a reason of its own. Any of them may happen at any time, in any order and
any number of times; the clock may show anything. What a caller does when it comes and when it goes on
is up to the `Usage`. Mostly callers carry out routines, so each of them comes to its next wait and
goes on from there when it is given an answer (`Routine.usage`).

What is known at every moment is known of the state and of each caller (`Shared.Holds`). A caller only
has to keep what is known of the state and of itself, and to leave alone what is known of the others
(`Usage.Preserves`). So no proof of a run has to look at more than one caller at a time.

## Main definitions

* `Shared`: A state with its callers.
* `Happening`: What may happen next.
* `Usage`: How a state is used.
* `Usage.step`, `Usage.run`: What happens, once and many times.
* `Usage.Steps`: What may come of what happens.
* `Shared.Holds`, `Usage.Preserves`: What is known at a moment, and a usage that preserves it.
* `Caller`, `Routine.usage`: Callers that carry out routines.

## Theorems

* `Shared.holds_start`: What is known before anybody has come.
* `Usage.steps`: Nothing else comes of what happens.
* `Usage.Preserves.run_induction`: What every step preserves holds after a run.
* `Usage.Preserves.run`: What is known at every moment.
* `Routine.goOn?_usage_eq_some_iff`: A caller goes on when there is an answer for it.
-/

namespace Wager

/-- A state and its callers, in the order in which they came. -/
structure Shared (σ κ : Type) where
  state : σ
  callers : List κ := []

/-- What may happen next: somebody comes with a request, a caller goes on with what it is given, or
the state changes. -/
inductive Happening (Q γ ξ : Type)
  | call (q : Q)
  | goOn (n : Nat) (given : γ)
  | change (x : ξ)

/-- How callers use a state: what becomes of somebody who comes with a request, and of a caller that
is given something, if it can go on with that; and how the state may change otherwise. -/
structure Usage (σ κ Q γ ξ : Type) where
  come : Timestamp → Q → σ → κ × σ
  goOn? : Timestamp → γ → κ → σ → Option (κ × σ)
  change : Timestamp → ξ → σ → σ

/-- What is known of a state and of each of its callers. -/
structure Shared.Holds {σ κ : Type} (I : σ → Prop) (K : σ → κ → Prop) (t : Shared σ κ) : Prop where
  state : I t.state
  callers : ∀ (n : Nat) (c : κ), t.callers[n]? = some c → K t.state c

/-- As long as nobody has come there is only the state. -/
theorem Shared.holds_start {σ κ : Type} {I : σ → Prop} {K : σ → κ → Prop} {s : σ} (h : I s) :
    ({ state := s } : Shared σ κ).Holds I K where
  state := h
  callers n c hc := by simp only [List.getElem?_nil, reduceCtorEq] at hc

namespace Usage

variable {σ κ Q γ ξ : Type} (u : Usage σ κ Q γ ξ)

/-- The traffic after something has happened at some time. A caller that cannot go on stays where it
is. -/
def step (t : Shared σ κ) : Timestamp × Happening Q γ ξ → Shared σ κ
  | (now, .call q) =>
    { state := (u.come now q t.state).2, callers := t.callers ++ [(u.come now q t.state).1] }
  | (now, .goOn n given) =>
    match t.callers[n]?.bind fun c => u.goOn? now given c t.state with
    | some (c, state) => { state, callers := t.callers.set n c }
    | none => t
  | (now, .change x) => { t with state := u.change now x t.state }

/-- The traffic after what has happened. -/
def run (t : Shared σ κ) (events : List (Timestamp × Happening Q γ ξ)) : Shared σ κ :=
  events.foldl u.step t

theorem run_append (t : Shared σ κ) (earlier later : List (Timestamp × Happening Q γ ξ)) :
    u.run t (earlier ++ later) = u.run (u.run t earlier) later :=
  List.foldl_append

/-- What may come of what happens: a caller comes or goes on, the state changes, or nothing does. -/
inductive Steps (t : Shared σ κ) : Timestamp × Happening Q γ ξ → Shared σ κ → Prop
  | called (now : Timestamp) (q : Q) :
    Steps t (now, .call q)
      { state := (u.come now q t.state).2, callers := t.callers ++ [(u.come now q t.state).1] }
  | wentOn (now : Timestamp) (n : Nat) (given : γ) (c c' : κ) (state : σ)
    (hcaller : t.callers[n]? = some c) (hgoes : u.goOn? now given c t.state = some (c', state)) :
    Steps t (now, .goOn n given) { state, callers := t.callers.set n c' }
  | stayed (now : Timestamp) (n : Nat) (given : γ)
    (hstays : ∀ c, t.callers[n]? = some c → u.goOn? now given c t.state = none) :
    Steps t (now, .goOn n given) t
  | changed (now : Timestamp) (x : ξ) :
    Steps t (now, .change x) { t with state := u.change now x t.state }

/-- A caller that is there goes on if it can. -/
theorem step_goOn_of_some {t : Shared σ κ} {now : Timestamp} {n : Nat} {given : γ} {c c' : κ}
    {state : σ} (hcaller : t.callers[n]? = some c)
    (hgoes : u.goOn? now given c t.state = some (c', state)) :
    u.step t (now, .goOn n given) = { state, callers := t.callers.set n c' } := by
  simp only [step, hcaller, Option.bind_some, hgoes]

theorem steps (t : Shared σ κ) (e : Timestamp × Happening Q γ ξ) : u.Steps t e (u.step t e) := by
  rcases e with ⟨now, q | ⟨n, given⟩ | x⟩
  · exact .called now q
  · cases hgoes : t.callers[n]?.bind fun c => u.goOn? now given c t.state with
    | none =>
      have hstep : u.step t (now, .goOn n given) = t := by simp only [step, hgoes]
      rw [hstep]
      exact .stayed now n given fun c hc => Option.bind_eq_none_iff.mp hgoes c hc
    | some next =>
      obtain ⟨c, hcaller, hgoes⟩ := Option.bind_eq_some_iff.mp hgoes
      rw [u.step_goOn_of_some hcaller hgoes]
      exact .wentOn now n given c next.1 next.2 hcaller hgoes
  · exact .changed now x

/-- Whatever happens, what is known of the state and of each caller is known afterwards. Who comes and
who goes on keeps what is known of the state, and what is known of everybody else. -/
structure Preserves (I : σ → Prop) (K : σ → κ → Prop) : Prop where
  come : ∀ now q s, I s → I (u.come now q s).2 ∧ K (u.come now q s).2 (u.come now q s).1 ∧
    ∀ other, K s other → K (u.come now q s).2 other
  goOn : ∀ now given c s c' s', I s → K s c → u.goOn? now given c s = some (c', s') →
    I s' ∧ K s' c' ∧ ∀ other, K s other → K s' other
  change : ∀ now x s, I s → I (u.change now x s) ∧ ∀ other, K s other → K (u.change now x s) other

namespace Preserves

variable {u} {I : σ → Prop} {K : σ → κ → Prop} (h : u.Preserves I K) {t : Shared σ κ}

include h

theorem step (ht : t.Holds I K) (e : Timestamp × Happening Q γ ξ) : (u.step t e).Holds I K := by
  have hsteps := u.steps t e
  generalize u.step t e = t' at hsteps
  cases hsteps with
  | called now q =>
    obtain ⟨hstate, hnew, hothers⟩ := h.come now q t.state ht.state
    refine ⟨hstate, fun n c hc => ?_⟩
    rcases getElem?_concat_eq_some hc with hold | ⟨-, rfl⟩
    · exact hothers c (ht.callers n c hold)
    · exact hnew
  | wentOn now n given c c' state hcaller hgoes =>
    obtain ⟨hstate, hnew, hothers⟩ :=
      h.goOn now given c t.state c' state ht.state (ht.callers n c hcaller) hgoes
    refine ⟨hstate, fun m other hm => ?_⟩
    rcases getElem?_set_eq_some hm with ⟨-, rfl⟩ | ⟨-, hold⟩
    · exact hnew
    · exact hothers other (ht.callers m other hold)
  | stayed now n given hstays => exact ht
  | changed now x =>
    obtain ⟨hstate, hothers⟩ := h.change now x t.state ht.state
    exact ⟨hstate, fun n c hc => hothers c (ht.callers n c hc)⟩

/-- What every step of a run preserves holds at its end. -/
theorem run_induction {P : Shared σ κ → Prop} {events : List (Timestamp × Happening Q γ ξ)}
    (hstep : ∀ t e, e ∈ events → t.Holds I K → P t → P (u.step t e)) (ht : t.Holds I K) (hP : P t) :
    P (u.run t events) := by
  -- On the events, with what is known carried along.
  induction events generalizing t with
  | nil => exact hP
  | cons e events ih =>
    refine ih ?_ (h.step ht e) (hstep t e List.mem_cons_self ht hP)
    exact fun t e he => hstep t e (List.mem_cons_of_mem _ he)

theorem run (ht : t.Holds I K) (events : List (Timestamp × Happening Q γ ξ)) :
    (u.run t events).Holds I K :=
  h.run_induction (fun _ e _ ht _ => h.step ht e) ht ht

end Preserves

end Usage

/-! ### Routines -/

/-- A caller: what it came for, and what is left to do. -/
structure Caller (Q ρ : Type) where
  request : Q
  rest : ρ

/-- A caller has been given a reply. -/
def Caller.HasReturned {σ ω Q β : Type} {ρ : ω → Type} (c : Caller Q (Routine σ ω ρ β)) : Prop :=
  ∃ reply, c.rest = .done reply

namespace Routine

variable {σ ω Q γ ξ β : Type} {ρ : ω → Type}

/-- Callers that carry out routines on the state. Whoever waits goes on as soon as there is an answer
in the state or in what is given. -/
def usage (operation : Q → Routine σ ω ρ β) (answer? : σ → γ → (w : ω) → Option (ρ w))
    (change : Timestamp → ξ → σ → σ) : Usage σ (Caller Q (Routine σ ω ρ β)) Q γ ξ where
  come now q s :=
    let (rest, s) := (operation q).proceed now s
    ({ request := q, rest }, s)
  goOn? now given c s :=
    match c.rest with
    | .wait w next => (answer? s given w).map fun answer =>
      let (rest, s) := (next answer).proceed now s
      ({ c with rest }, s)
    | _ => none
  change := change

variable {operation : Q → Routine σ ω ρ β} {answer? : σ → γ → (w : ω) → Option (ρ w)}
  {change : Timestamp → ξ → σ → σ}

/-- A caller goes on when it waits and there is an answer for it. -/
theorem goOn?_usage_eq_some_iff {now : Timestamp} {given : γ} {c c' : Caller Q (Routine σ ω ρ β)}
    {s s' : σ} : (usage operation answer? change).goOn? now given c s = some (c', s') ↔
      ∃ w next answer, c.rest = .wait w next ∧ answer? s given w = some answer ∧
        c' = ⟨c.request, ((next answer).proceed now s).1⟩ ∧ s' = ((next answer).proceed now s).2 := by
  obtain ⟨q, rest⟩ := c
  cases rest with
  | done a => simp [usage]
  | act effect next => simp [usage]
  | wait w next =>
    simp only [usage, Option.map_eq_some_iff, Prod.mk.injEq]
    constructor
    · rintro ⟨answer, hanswer, rfl, rfl⟩
      exact ⟨w, next, answer, rfl, hanswer, rfl, rfl⟩
    · rintro ⟨_, _, answer, ⟨⟩, hanswer, rfl, rfl⟩
      exact ⟨answer, hanswer, rfl, rfl⟩

end Routine

end Wager
