import Wager.Proofs.Client.Handles

/-!
# Deeds

What an operation of a client does that others notice.

An operation is run in surroundings that answer what it asks. They may do as they like: answer at
once or late, with anything, and change the client while the operation waits, because other
operations run then. So what is shown for all surroundings holds however the operation is
interleaved with others.

Not all that an operation does can be seen at the end, for the others leave their traces as well.
Therefore its deeds are noted while it runs: which handles it tries to open and what comes of that,
what it asks and what it is answered, and what it does to the notices. What it does to the wallet's
state and to the cache is nobody else's business and is no deed.

Operations are put together from parts, and what they do is read off in the same way, from the first
part to the last: `Surroundings.Does` has a rule for each way to compose and for each single step.

## Main definitions

* `Client.Surroundings`: Surroundings that an operation runs in.
* `Client.Deed`: What others notice.
* `Client.Surroundings.run`, `Client.Surroundings.deeds`: What an operation comes to, and its deeds
  on the way.
* `Client.Surroundings.Does`: What is known of both.
* `Client.Opens`: The deeds of opening a handle.

## Theorems

* `Client.Surroundings.deeds_bind`: The deeds of a composed operation are those of its parts.
* `Client.Surroundings.Does.bind`, `Client.Surroundings.Does.attempt`: The rules for composing.
* `Client.Obtains.opens`: Opening a handle does nothing else.
-/

namespace Wager.Client

/-- Surroundings that an operation runs in: the setting, the clock, and the answers, in giving which
they may change the client and a state of their own. -/
structure Surroundings (τ : Type) where
  setting : Setting
  clock : τ → Timestamp
  answer : (w : Wait) → StateM (Client × τ) w.Answer

/-- What others notice of an operation: an attempt to open a handle with its outcome, something that
it asks with the answer, or a change of the notices. -/
inductive Deed
  | tried (a : Attempt) (outcome : Result Unit)
  | asked (w : Wait) (answer : w.Answer)
  | noticed (before after : Notices)

/-- How an attempt to open a handle ends. -/
def opening (setting : Setting) (c : Client) : Attempt → Result Unit
  | .wallet => setting.openWallet (c.attemptsAt .wallet)
  | .ledger => setting.openLedger (c.attemptsAt .ledger)

/-- The deeds of a section. No section tries to open more than one handle. -/
def sectionDeeds (setting : Setting) (c c' : Client) : List Deed :=
  (c'.attempts.drop c.attempts.length).map (fun a => .tried a (opening setting c a)) ++
    if c'.notices = c.notices then [] else [.noticed c.notices c'.notices]

theorem sectionDeeds_eq_nil {setting : Setting} {c c' : Client} (ha : c'.attempts = c.attempts)
    (hn : c'.notices = c.notices) : sectionDeeds setting c c' = [] := by
  rw [sectionDeeds, ha, hn, List.drop_length, if_pos rfl]
  rfl

theorem sectionDeeds_tried {setting : Setting} {c c' : Client} (a : Attempt)
    (ha : c'.attempts = c.attempts ++ [a]) (hn : c'.notices = c.notices) :
    sectionDeeds setting c c' = [.tried a (opening setting c a)] := by
  rw [sectionDeeds, ha, hn, List.drop_left, if_pos rfl]
  rfl

theorem sectionDeeds_noticed {setting : Setting} {c c' : Client} (ha : c'.attempts = c.attempts)
    (hn : c'.notices ≠ c.notices) :
    sectionDeeds setting c c' = [.noticed c.notices c'.notices] := by
  rw [sectionDeeds, ha, List.drop_length, if_neg hn]
  rfl

/-! ### Opening handles -/

/-- The deeds of opening a handle of a kind: none if there is one already, else an attempt, the
outcome of which is that of the opening. -/
inductive Opens (a : Attempt) : List Deed → Result Nat → Prop
  | held (handle : Nat) : Opens a [] (.ok handle)
  | opened (handle : Nat) : Opens a [.tried a (.ok ())] (.ok handle)
  | failed (e : Error) : Opens a [.tried a (.error e)] (.error e)

/-- Whatever comes of opening a handle, it is one attempt at most and no notice. -/
theorem Obtains.opens {a : Attempt} {get : Wallet → Option Nat}
    {put : Option Nat → Wallet → Wallet} {setting : Setting} {c c' : Client} {outcome : Result Nat}
    (h : Obtains a get put (opening setting c a) c (outcome, c')) :
    Opens a (sectionDeeds setting c c') outcome := by
  cases h with
  | held handle hheld =>
    rw [sectionDeeds_eq_nil rfl rfl]
    exact .held handle
  | opened hnone hopened =>
    rw [sectionDeeds_tried a, hopened]
    · exact .opened _
    · rfl
    · rfl
  | failed e hnone hopened =>
    rw [sectionDeeds_tried a, hopened]
    · exact .failed e
    · rfl
    · rfl

/-! ### Operations -/

namespace Surroundings

variable {τ α β : Type} (e : Surroundings τ)

/-- What an operation comes to, and what it leaves behind. -/
def run (r : Operation α) (s : Client × τ) : α × (Client × τ) := Routine.run e.clock e.answer r s

/-- What an operation does on the way. -/
def deeds : Operation α → Client × τ → List Deed
  | .done _, _ => []
  | .act effect next, s =>
    sectionDeeds e.setting s.1 (effect (e.clock s.2) s.1) ++
      deeds (next (e.clock s.2) s.1) (effect (e.clock s.2) s.1, s.2)
  | .wait w next, s => .asked w (e.answer w s).1 :: deeds (next (e.answer w s).1) (e.answer w s).2

/-- The deeds of a composed operation are those of its first part and then those of its second. -/
theorem deeds_bind (r : Operation α) (k : α → Operation β) (s : Client × τ) :
    e.deeds (r >>= k) s = e.deeds r s ++ e.deeds (k (e.run r s).1) (e.run r s).2 := by
  -- On the first operation, which passes on what it leaves behind.
  induction r generalizing s with
  | done a => rfl
  | act effect next ih =>
    -- The deeds of the section come first on both sides.
    have hrest := ih (e.clock s.2) s.1 (effect (e.clock s.2) s.1, s.2)
    refine (congrArg (sectionDeeds e.setting s.1 (effect (e.clock s.2) s.1) ++ ·) hrest).trans ?_
    exact (List.append_assoc ..).symm
  | wait w next ih =>
    exact congrArg (Deed.asked w (e.answer w s).1 :: ·) (ih (e.answer w s).1 (e.answer w s).2)

/-- The deeds of an operation, what it comes to and what it leaves behind are as `P` tells. -/
def Does (s : Client × τ) (r : Operation α) (P : List Deed → α → Client × τ → Prop) : Prop :=
  P (e.deeds r s) (e.run r s).1 (e.run r s).2

namespace Does

variable {e} {s : Client × τ} {P : List Deed → α → Client × τ → Prop}
  {Q : List Deed → β → Client × τ → Prop}

/-- What follows from what is known is known. -/
theorem imp {r : Operation α} {P' : List Deed → α → Client × τ → Prop} (h : e.Does s r P)
    (himp : ∀ ds a s', P ds a s' → P' ds a s') : e.Does s r P' :=
  himp _ _ _ h

/-! ### Composition -/

theorem pure (a : α) (h : P [] a s) : e.Does s (pure a) P :=
  h

theorem bind {r : Operation α} {k : α → Operation β}
    (h : e.Does s r fun ds a s' => e.Does s' (k a) fun ds' => Q (ds ++ ds')) :
    e.Does s (r >>= k) Q := by
  have hrun : e.run (r >>= k) s = e.run (k (e.run r s).1) (e.run r s).2 :=
    Routine.run_bind e.clock e.answer r k s
  rw [Does, deeds_bind, hrun]
  exact h

theorem map {r : Operation α} {f : α → β} (h : e.Does s r fun ds a => Q ds (f a)) :
    e.Does s (f <$> r) Q := by
  rw [map_eq_pure_bind]
  refine bind (h.imp fun ds a s' hQ => pure (f a) ?_)
  rw [List.append_nil]
  exact hQ

/-- What may fail is followed by what comes after it only if it succeeds. -/
theorem attempt {r : Operation (Result α)} {k : α → ExceptT Error Operation β}
    {Q : List Deed → Result β → Client × τ → Prop}
    (h : e.Does s r fun ds outcome s' => match outcome with
      | .ok a => e.Does s' (k a).run fun ds' => Q (ds ++ ds')
      | .error err => Q ds (.error err) s') :
    e.Does s (ExceptT.mk r >>= k).run Q := by
  rw [ExceptT.run_bind, ExceptT.run_mk]
  refine bind (h.imp fun ds outcome s' hQ => ?_)
  cases outcome with
  | ok a => exact hQ
  | error err =>
    -- What would have come after it does nothing.
    refine pure _ ?_
    rw [List.append_nil]
    exact hQ

theorem lift {r : Operation α} {k : α → ExceptT Error Operation β}
    {Q : List Deed → Result β → Client × τ → Prop}
    (h : e.Does s r fun ds a s' => e.Does s' (k a).run fun ds' => Q (ds ++ ds')) :
    e.Does s (liftM r >>= k : ExceptT Error Operation β).run Q := by
  rw [ExceptT.run_bind, ExceptT.run_liftM, bind_map_left]
  exact bind h

/-! ### Single steps -/

theorem atomically {f : Timestamp → Client → α × Client}
    (h : P (sectionDeeds e.setting s.1 (f (e.clock s.2) s.1).2) (f (e.clock s.2) s.1).1
      ((f (e.clock s.2) s.1).2, s.2)) :
    e.Does s (.atomically f) P := by
  -- A section that gives a result is followed by nothing.
  rw [← List.append_nil (sectionDeeds ..)] at h
  exact h

theorem look {f : Client → α} (h : P [] (f s.1) s) : e.Does s (.look f) P := by
  have hnil : sectionDeeds e.setting s.1 s.1 = [] := sectionDeeds_eq_nil rfl rfl
  refine atomically (f := fun _ c => (f c, c)) ?_
  rw [hnil]
  exact h

theorem changeWallet {f : Wallet → Wallet} {P : List Deed → Unit → Client × τ → Prop}
    (h : P [] () ({ s.1 with wallet := f s.1.wallet }, s.2)) :
    e.Does s (Client.changeWallet f) P := by
  have hnil : sectionDeeds e.setting s.1 { s.1 with wallet := f s.1.wallet } = [] :=
    sectionDeeds_eq_nil rfl rfl
  refine atomically (f := fun _ c => ((), { c with wallet := f c.wallet })) ?_
  rw [hnil]
  exact h

theorem inNotices {f : Timestamp → Notices → α × Notices}
    (hne : (f (e.clock s.2) s.1.notices).2 ≠ s.1.notices)
    (h : P [.noticed s.1.notices (f (e.clock s.2) s.1.notices).2]
      (f (e.clock s.2) s.1.notices).1
      ({ s.1 with notices := (f (e.clock s.2) s.1.notices).2 }, s.2)) :
    e.Does s (Client.inNotices f) P := by
  have hdeeds : sectionDeeds e.setting s.1
      { s.1 with notices := (f (e.clock s.2) s.1.notices).2 }
      = [.noticed s.1.notices (f (e.clock s.2) s.1.notices).2] := sectionDeeds_noticed rfl hne
  rw [← hdeeds] at h
  exact atomically h

theorem ask {c : Call} {P : List Deed → c.Reply → Client × τ → Prop}
    (h : ∀ answer s', e.answer (.call c) s = (answer, s') → P [.asked (.call c) answer] answer s') :
    e.Does s (Client.ask c) P :=
  h _ _ rfl

theorem openLedger {P : List Deed → Result Nat → Client × τ → Prop}
    (h : ∀ ds outcome c, Opens .ledger ds outcome → P ds outcome (c, s.2)) :
    e.Does s (.atomically fun _ c => c.openLedger e.setting) P :=
  atomically (h _ _ _ (obtains_ledger e.setting s.1).opens)

theorem openWallet {P : List Deed → Result Nat → Client × τ → Prop}
    (h : ∀ ds outcome c, Opens .wallet ds outcome → P ds outcome (c, s.2)) :
    e.Does s (.atomically fun _ c => c.openWallet e.setting) P :=
  atomically (h _ _ _ (obtains_wallet e.setting s.1).opens)

end Does

end Surroundings

end Wager.Client
