import Wager.Client.Basic

/-!
# Segments of operations

What an operation does between two of its waits, with nothing known of what others do meanwhile.

An operation that is called or answered runs up to its next wait or to its end. That is a segment,
and nothing comes between its sections. A `Segment` tells what may happen in one, given what made it
begin, and an operation keeps to it if all its segments do, whatever it is answered and whatever
client it then finds.

So operations that share a client may be taken apart: whatever the interleaving, what happens next
is one segment of one of them. And operations may be put together: where a segment of the first part
ends, the second part goes on in the same segment. `Along` has the place for this, and a rule for
each way to compose and for each single step.

## Main definitions

* `Client.Cause`, `Client.Stop`, `Client.Segment`: What makes a segment begin, where it stops, and
  what may happen in it.
* `Client.Along`: What happens in the segments of an operation, and at its end.
* `Client.Keeps`, `Client.KeepsAfter`, `Client.KeepsOn`: An operation keeps to what may happen: from
  its beginning, in the segment that it is in, or from its next wait on.

## Theorems

* `Client.Along.bind`, `Client.Along.attempt`: The rules for composing.
* `Client.KeepsAfter.proceed`: What happens in one segment, and what is left after it.
* `Client.KeepsAfter.map`, `Client.Keeps.map`: An operation with another result keeps to the same.
-/

namespace Wager.Client

/-- What makes an operation go on: it is called, or what it has waited for is answered. -/
inductive Cause
  | called
  | answered (w : Wait) (answer : w.Answer)

/-- What was waited for, if anything. -/
def Cause.wait? : Cause → Option Wait
  | .called => none
  | .answered w _ => some w

/-- Where an operation stops. -/
inductive Stop (α : Type)
  | waits (w : Wait)
  | ends (a : α)

namespace Stop

variable {α β : Type}

/-- What is waited for, if anything. -/
def wait? : Stop α → Option Wait
  | .waits w => some w
  | .ends _ => none

def map (f : α → β) : Stop α → Stop β
  | .waits w => .waits w
  | .ends a => .ends (f a)

theorem wait?_eq_some_iff (x : Stop α) (w : Wait) : x.wait? = some w ↔ x = .waits w := by
  cases x with
  | waits w' =>
    exact ⟨fun h => congrArg waits (Option.some.inj h), fun h => congrArg some (waits.inj h)⟩
  | ends a => exact ⟨nofun, nofun⟩

@[simp]
theorem wait?_map (f : α → β) (x : Stop α) : (x.map f).wait? = x.wait? := by
  cases x <;> rfl

end Stop

/-- What may happen in a segment: what made it begin, the client that it found, where it has
stopped, and the client that it left. -/
abbrev Segment (α : Type) := Cause → Client → Stop α → Client → Prop

/-- In the segments of an operation that lead to a wait only `W` happens, and at its end `P` holds.
The first segment was begun by `cause` with the client `c₀`, and has come to the client `c`. -/
def Along {α : Type} (W : Cause → Client → Wait → Client → Prop) (cause : Cause) (c₀ c : Client)
    (r : Operation α) (P : α → Cause → Client → Client → Prop) : Prop :=
  match r with
  | .done a => P a cause c₀ c
  | .act effect next => ∀ now, Along W cause c₀ (effect now c) (next now c) P
  | .wait w next => W cause c₀ w c ∧
    ∀ answer c', Along W (.answered w answer) c' c' (next answer) P

section

variable {α β : Type}

/-- What is left of an operation after what made it go on keeps to what may happen. -/
def KeepsAfter (S : Segment α) (cause : Cause) (c : Client) (r : Operation α) : Prop :=
  Along (fun cause c₀ w => S cause c₀ (.waits w)) cause c c r fun a cause c₀ => S cause c₀ (.ends a)

/-- An operation keeps to what may happen, whatever client it finds. -/
def Keeps (S : Segment α) (r : Operation α) : Prop := ∀ c, KeepsAfter S .called c r

/-- An operation that has stopped keeps to what may happen from then on. -/
def KeepsOn (S : Segment α) : Operation α → Prop
  | .wait w next => ∀ answer c, KeepsAfter S (.answered w answer) c (next answer)
  | _ => True

/-- Where an operation has stopped. -/
def StopsAt : Operation α → Stop α → Prop
  | .done a, x => x = .ends a
  | .act .., _ => False
  | .wait w _, x => x = .waits w

theorem StopsAt.unique {r : Operation α} {x y : Stop α} (h : StopsAt r x) (h' : StopsAt r y) :
    x = y := by
  cases r with
  | done a => exact Eq.trans h (Eq.symm h')
  | act effect next => exact h.elim
  | wait w next => exact Eq.trans h (Eq.symm h')

/-- What may happen, with another result. -/
def Segment.map (f : α → β) (S : Segment α) : Segment β := fun cause c x c' =>
  ∃ y, S cause c y c' ∧ x = y.map f

/-- What happens in a segment, and what is left after it. -/
theorem KeepsAfter.proceed {S : Segment α} {cause : Cause} {c : Client} {r : Operation α}
    (h : KeepsAfter S cause c r) (now : Timestamp) :
    KeepsOn S (r.proceed now c).1 ∧
      ∃ x, StopsAt (r.proceed now c).1 x ∧ S cause c x (r.proceed now c).2 := by
  -- The segment has come to some client already, else there is nothing to do the induction on.
  suffices hsuffices : ∀ c', Along (fun cause c₀ w => S cause c₀ (.waits w)) cause c c' r
      (fun a cause c₀ => S cause c₀ (.ends a)) → KeepsOn S (r.proceed now c').1 ∧
        ∃ x, StopsAt (r.proceed now c').1 x ∧ S cause c x (r.proceed now c').2 from hsuffices c h
  clear h
  intro c' h
  induction r generalizing c' with
  | done a => exact ⟨trivial, .ends a, rfl, h⟩
  | act effect next ih => exact ih now c' (effect now c') (h now)
  | wait w next => exact ⟨h.2, .waits w, rfl, h.1⟩

namespace Along

variable {W : Cause → Client → Wait → Client → Prop} {cause : Cause} {c₀ c : Client}
  {P : α → Cause → Client → Client → Prop} {Q : β → Cause → Client → Client → Prop}

/-! ### Composition -/

theorem pure {a : α} (h : P a cause c₀ c) : Along W cause c₀ c (pure a) P :=
  h

theorem imp {W' : Cause → Client → Wait → Client → Prop} {r : Operation α}
    {P' : α → Cause → Client → Client → Prop} (h : Along W cause c₀ c r P)
    (hW : ∀ cause c₀ w c, W cause c₀ w c → W' cause c₀ w c)
    (hP : ∀ a cause c₀ c, P a cause c₀ c → P' a cause c₀ c) : Along W' cause c₀ c r P' := by
  induction r generalizing cause c₀ c with
  | done a => exact hP _ _ _ _ h
  | act effect next ih => exact fun now => ih now c (h now)
  | wait w next ih => exact ⟨hW _ _ _ _ h.1, fun answer c' => ih answer (h.2 answer c')⟩

theorem bind {r : Operation α} {k : α → Operation β}
    (h : Along W cause c₀ c r fun a cause c₀ c => Along W cause c₀ c (k a) Q) :
    Along W cause c₀ c (r >>= k) Q := by
  -- The second part goes on in the segment in which the first one ends.
  induction r generalizing cause c₀ c with
  | done a => exact h
  | act effect next ih => exact fun now => ih now c (h now)
  | wait w next ih => exact ⟨h.1, fun answer c' => ih answer (h.2 answer c')⟩

theorem map {r : Operation α} {f : α → β}
    (h : Along W cause c₀ c r fun a => Q (f a)) : Along W cause c₀ c (f <$> r) Q := by
  rw [map_eq_pure_bind]
  exact bind h

/-- What may fail is followed by what comes after it only if it succeeds. -/
theorem attempt {r : Operation (Result α)} {k : α → ExceptT Error Operation β}
    {Q : Result β → Cause → Client → Client → Prop}
    (h : Along W cause c₀ c r fun outcome cause c₀ c => match outcome with
      | .ok a => Along W cause c₀ c (k a).run Q
      | .error e => Q (.error e) cause c₀ c) :
    Along W cause c₀ c (ExceptT.mk r >>= k).run Q := by
  rw [ExceptT.run_bind, ExceptT.run_mk]
  refine bind (h.imp (fun _ _ _ _ hW => hW) ?_)
  intro outcome cause c₀ c hQ
  cases outcome with
  | ok a => exact hQ
  | error e => exact hQ

theorem lift {r : Operation α} {k : α → ExceptT Error Operation β}
    {Q : Result β → Cause → Client → Client → Prop}
    (h : Along W cause c₀ c r fun a cause c₀ c => Along W cause c₀ c (k a).run Q) :
    Along W cause c₀ c (liftM r >>= k : ExceptT Error Operation β).run Q := by
  rw [ExceptT.run_bind, ExceptT.run_liftM, bind_map_left]
  exact bind h

/-! ### Single steps -/

theorem atomically {f : Timestamp → Client → α × Client}
    (h : ∀ now, P (f now c).1 cause c₀ (f now c).2) : Along W cause c₀ c (.atomically f) P :=
  h

theorem openLedger {setting : Setting} {P : Result Nat → Cause → Client → Client → Prop}
    (h : ∀ outcome c', c.openLedger setting = (outcome, c') → P outcome cause c₀ c') :
    Along W cause c₀ c (.atomically fun _ c => c.openLedger setting) P :=
  fun _ => h _ _ rfl

theorem openWallet {setting : Setting} {P : Result Nat → Cause → Client → Client → Prop}
    (h : ∀ outcome c', c.openWallet setting = (outcome, c') → P outcome cause c₀ c') :
    Along W cause c₀ c (.atomically fun _ c => c.openWallet setting) P :=
  fun _ => h _ _ rfl

theorem look {f : Client → α} (h : P (f c) cause c₀ c) : Along W cause c₀ c (.look f) P :=
  fun _ => h

theorem changeWallet {f : Wallet → Wallet} {P : Unit → Cause → Client → Client → Prop}
    (h : P () cause c₀ { c with wallet := f c.wallet }) :
    Along W cause c₀ c (Client.changeWallet f) P :=
  fun _ => h

/-- A section of the notices, with what it does. -/
theorem notify {f : Timestamp → Notices → α × Notices}
    (h : ∀ now, P (f now c.notices).1 cause c₀ { c with notices := (f now c.notices).2 }) :
    Along W cause c₀ c (Client.inNotices f) P :=
  h

/-- What happens to the notices is left open. -/
theorem inNotices {f : Timestamp → Notices → α × Notices}
    (h : ∀ a notices, P a cause c₀ { c with notices }) :
    Along W cause c₀ c (Client.inNotices f) P :=
  notify fun _ => h _ _

theorem ask {q : Call} {P : q.Reply → Cause → Client → Client → Prop}
    (hW : W cause c₀ (.call q) c)
    (h : ∀ (answer : q.Reply) c', P answer (.answered (.call q) answer) c' c') :
    Along W cause c₀ c (Client.ask q) P :=
  ⟨hW, h⟩

end Along

/-- What may happen in the segments of an operation may happen in those of one with another result. -/
theorem KeepsAfter.map {S : Segment α} {S' : Segment β} {cause : Cause} {c : Client}
    {r : Operation α} {f : α → β} (h : KeepsAfter S cause c r)
    (hS : ∀ cause c x c', S cause c x c' → S' cause c (x.map f) c') :
    KeepsAfter S' cause c (f <$> r) := by
  refine Along.map (Along.imp h ?_ ?_)
  · exact fun cause c w c' hwaits => hS cause c (.waits w) c' hwaits
  · exact fun a cause c c' hends => hS cause c (.ends a) c' hends

theorem Keeps.map {S : Segment α} {r : Operation α} (h : Keeps S r) (f : α → β) :
    Keeps (S.map f) (f <$> r) := fun c =>
  (h c).map fun _ _ x _ hS => ⟨x, hS, rfl⟩

end

end Wager.Client
