import Wager.Proofs.Session.Traffic

/-!
# Operations between the sections of others

What an operation may rely on when other threads run between any two of its sections, and what they
may rely on.

A lock protects a part of the session: that of the slot the slot, that of the epoch the epoch. Who
holds it finds that part as it was left. The rest may change, though not in every way: renewals
stay known and finished, and the epoch only grows. `Interferes` is all this, and a fact that
survives it is `Stable`.

The other side is `Act`, which lists what a section may be. `Ensures` puts the two together: an
operation that starts with some locks, where something is known, only does what is allowed and
ends with some locks, where something else is known. It is read off the operation section by
section, and what was learned in one section may be used in the next one as far as it is stable.
Operations are put together from parts, and so are these statements.

The weak spot is `joinRenewal`. When it comes to publish a renewal it still knows that none is
outstanding, for it has held the lock of the slot since it looked. Of the epoch it only knows that
it was the present one when it was read.

## Main definitions

* `Session.Task`: What runs on a thread.
* `Session.Interferes`, `Session.Stable`: What others may do, and what survives it.
* `Session.Act`: What a section may do.
* `Session.Ensures`: An operation keeps to this.

## Theorems

* `Session.Act.interferes`: What a section does is interference to those who hold other locks.
* `Session.Ensures.bind`, `Session.ensures_section`, `Session.ensures_under`: The rules.
* `Session.Task.ensures`: All operations keep to what is allowed.
-/

namespace Wager.Session

/-- What runs on a thread: a request of a caller, or the completion of a renewal when the server has
answered. -/
inductive Task
  | request (q : Request)
  | complete (id : Nat) (answer : Result Credentials)

/-- The operation of a task. -/
def Task.operation : Task → Operation Reply
  | .request q => q.operation
  | .complete id answer => do
    Session.complete id answer
    return .done

/-! ### Interference -/

/-- What other threads may do to a session while a thread holds some locks. -/
structure Interferes (own : List Lock) (s s' : Session) : Prop where
  renewal : ∀ (id : Nat) (r : Renewal), s.renewals[id]? = some r →
    ∃ r' : Renewal, s'.renewals[id]? = some r' ∧ r'.refresh = r.refresh ∧ r'.epoch = r.epoch ∧
      (r'.outcome = none → r.outcome = none)
  epoch_le : s.epoch ≤ s'.epoch
  slot : .slot ∈ own → s'.slot = s.slot
  epoch : .epoch ∈ own → s'.epoch = s.epoch

namespace Interferes

variable {own : List Lock} {s s' s'' : Session}

theorem of_renewals_eq (hr : s'.renewals = s.renewals) (he : s.epoch ≤ s'.epoch)
    (hslot : .slot ∈ own → s'.slot = s.slot) (hepoch : .epoch ∈ own → s'.epoch = s.epoch) :
    Interferes own s s' :=
  ⟨fun _ r h => ⟨r, by rw [hr, h], rfl, rfl, fun ho => ho⟩, he, hslot, hepoch⟩

/-- What touches neither the slot nor the epoch nor the renewals does not interfere with anybody. -/
theorem of_eq (hr : s'.renewals = s.renewals) (he : s'.epoch = s.epoch) (hslot : s'.slot = s.slot) :
    Interferes own s s' :=
  of_renewals_eq hr (Nat.le_of_eq he.symm) (fun _ => hslot) fun _ => he

theorem outcome?_ne_none (h : Interferes own s s') {id : Nat} (hid : s.outcome? id ≠ none) :
    s'.outcome? id ≠ none := by
  intro hnone
  cases hr : s.renewals[id]? with
  | none =>
    rw [outcome?, hr] at hid
    exact hid rfl
  | some r =>
    rcases h.renewal id r hr with ⟨r', hr', -, -, hout⟩
    rw [outcome?, hr', Option.bind_some] at hnone
    rw [outcome?, hr, Option.bind_some] at hid
    exact hid (hout hnone)

end Interferes

/-- What is known survives what others may do. -/
def Stable (own : List Lock) (P : Session → Prop) : Prop :=
  ∀ s s', Interferes own s s' → P s → P s'

theorem stable_true (own : List Lock) : Stable own fun _ => True :=
  fun _ _ _ _ => trivial

theorem Stable.and {own : List Lock} {P Q : Session → Prop} (hP : Stable own P)
    (hQ : Stable own Q) : Stable own fun s => P s ∧ Q s :=
  fun s s' hi h => ⟨hP s s' hi h.1, hQ s s' hi h.2⟩

/-- More locks keep out more. -/
theorem Stable.mono {own own' : List Lock} {P : Session → Prop} (hP : Stable own P)
    (hsub : ∀ l ∈ own, l ∈ own') : Stable own' P := by
  intro s s' hi hs
  have hown : Interferes own s s' :=
    ⟨hi.renewal, hi.epoch_le, fun hl => hi.slot (hsub _ hl), fun hl => hi.epoch (hsub _ hl)⟩
  exact hP s s' hown hs

/-- Who holds the slot may rely on there being no renewal to join. -/
theorem stable_vacant {own : List Lock} (hslot : .slot ∈ own) :
    Stable own fun s => s.outstanding? = none := by
  intro s s' hi hs
  cases hout : s'.outstanding? with
  | none => rfl
  | some id =>
    rcases (outstanding?_eq_some_iff s' id).mp hout with ⟨hid, hnone⟩
    -- The slot is the same, and a renewal that has finished in it stays so.
    rw [hi.slot hslot] at hid
    cases hid' : s.outcome? id with
    | none =>
      rw [(outstanding?_eq_some_iff s id).mpr ⟨hid, hid'⟩] at hs
      simp only [reduceCtorEq] at hs
    | some outcome =>
      have hne : s.outcome? id ≠ none := by
        rw [hid']
        simp only [ne_eq, reduceCtorEq, not_false_eq_true]
      exact absurd hnone (hi.outcome?_ne_none hne)

/-- An epoch that was the present one is not in the future. -/
theorem stable_epoch_le (own : List Lock) (epoch : Nat) : Stable own fun s => epoch ≤ s.epoch :=
  fun _ _ hi hs => Nat.le_trans hs hi.epoch_le

/-- Who holds the epoch may rely on it. -/
theorem stable_epoch {own : List Lock} (hepoch : .epoch ∈ own) (epoch : Nat) :
    Stable own fun s => s.epoch = epoch := by
  intro s s' hi hs
  rw [hi.epoch hepoch, hs]

/-- A renewal keeps its epoch. -/
theorem stable_renewal (own : List Lock) (id epoch : Nat) :
    Stable own fun s => ∃ r : Renewal, s.renewals[id]? = some r ∧ r.epoch = epoch := by
  intro s s' hi hs
  rcases hs with ⟨r, hr, he⟩
  rcases hi.renewal id r hr with ⟨r', hr', -, he', -⟩
  exact ⟨r', hr', he'.trans he⟩

/-- A renewal that has finished stays so. -/
theorem stable_finished (own : List Lock) (id : Nat) : Stable own fun s => s.outcome? id ≠ none :=
  fun _ _ hi hs => hi.outcome?_ne_none hs

/-! ### Sections -/

/-- What a section of a thread that holds some locks may do, and which locks it holds after that. -/
inductive Act (task : Task) (own : List Lock) (s : Session) : Session → List Lock → Prop
  | acquired (l : Lock) : Act task own s (s.acquire l) (l :: own)
  | released (l : Lock) (hl : l ∈ own) : Act task own s (s.release l) (own.erase l)
  | looked : Act task own s s own
  | read (store : Store) (hread : s.store.ReadTo store)
    (htask : ∀ id answer, task ≠ .complete id answer) : Act task own s { s with store } own
  | wrote (store : Store) (hepoch : .epoch ∈ own)
    (hdue : ∀ id answer, task = .complete id answer →
      ∃ r : Renewal, s.renewals[id]? = some r ∧ r.epoch = s.epoch) :
    Act task own s { s with store } own
  | movedOn (hepoch : .epoch ∈ own) : Act task own s s.nextEpoch own
  | published (refresh : String) (epoch : Nat) (hslot : .slot ∈ own) (hout : s.outstanding? = none)
    (hle : epoch ≤ s.epoch) : Act task own s (s.publish refresh epoch).2 own
  | left (id : Nat) (hslot : .slot ∈ own) (hfinished : s.outcome? id ≠ none) :
    Act task own s (s.leave id) own
  | emptied (hslot : .slot ∈ own) (htask : task = .request .clear) : Act task own s s.emptySlot own
  | recorded (id : Nat) (outcome : Result String) : Act task own s (s.record id outcome) own

namespace Act

variable {task : Task} {own own' : List Lock} {s s' : Session}

/-- What a section does is interference to those who hold none of its locks. -/
theorem interferes (ha : Act task own s s' own') (other : List Lock)
    (hother : ∀ l ∈ other, l ∉ own) : Interferes other s s' := by
  cases ha with
  | acquired l => exact .of_eq rfl rfl rfl
  | released l hl => exact .of_eq rfl rfl rfl
  | looked => exact .of_eq rfl rfl rfl
  | read store hread htask => exact .of_eq rfl rfl rfl
  | wrote store hepoch hdue => exact .of_eq rfl rfl rfl
  | movedOn hepoch =>
    -- The lock of the epoch is held, so nobody relies on the epoch.
    refine .of_renewals_eq rfl (Nat.le_succ _) (fun _ => rfl) ?_
    intro hl
    exact absurd hepoch (hother _ hl)
  | published refresh epoch hslot hout hle =>
    -- The lock of the slot is held, and the renewals before this one are as they were.
    refine ⟨?_, Nat.le_refl _, ?_, fun _ => rfl⟩
    · intro id r hr
      refine ⟨r, ?_, rfl, rfl, fun ho => ho⟩
      simp only [publish]
      rw [List.getElem?_append_left (List.getElem?_eq_some_iff.mp hr).1]
      exact hr
    · intro hl
      exact absurd hslot (hother _ hl)
  | left id hslot hfinished =>
    refine .of_renewals_eq (renewals_leave s id) (Nat.le_of_eq (epoch_leave s id).symm) ?_ ?_
    · intro hl
      exact absurd hslot (hother _ hl)
    · intro _
      exact epoch_leave s id
  | emptied hslot htask =>
    refine .of_renewals_eq rfl (Nat.le_refl _) ?_ (fun _ => rfl)
    intro hl
    exact absurd hslot (hother _ hl)
  | recorded id outcome =>
    refine ⟨?_, Nat.le_refl _, fun _ => rfl, fun _ => rfl⟩
    intro other r hr
    rw [renewals_record, hr]
    refine ⟨_, rfl, ?_⟩
    by_cases hid : id = other
    · simp only [hid, if_true, reduceCtorEq, false_implies, and_self]
    · simp only [hid, if_false, imp_self, and_self]

/-- A section takes a lock, or gives one back that its thread holds, or leaves the locks alone. -/
theorem locks (ha : Act task own s s' own') : (own' = own ∧ s'.held = s.held) ∨
    (∃ l, own' = l :: own ∧ s'.held = l :: s.held) ∨
      ∃ l ∈ own, own' = own.erase l ∧ s'.held = s.held.erase l := by
  cases ha with
  | acquired l => exact Or.inr (Or.inl ⟨l, rfl, rfl⟩)
  | released l hl => exact Or.inr (Or.inr ⟨l, hl, rfl, rfl⟩)
  | left id hslot hfinished =>
    left
    unfold leave
    split <;> exact ⟨rfl, rfl⟩
  | _ => exact Or.inl ⟨rfl, rfl⟩

end Act

/-! ### Operations -/

/-- An operation that starts with some locks, where `P` is known, only has sections that are
allowed, and ends with some locks, where `Q` is known of its result. After each section something
stable is known, by which the next one is justified. -/
def Ensures {α : Type} (task : Task) (own : List Lock) (P : Session → Prop) (r : Operation α)
    (own' : List Lock) (Q : α → Session → Prop) : Prop :=
  match r with
  | .done a => own = own' ∧ ∀ s, P s → Q a s
  | .act effect next => ∀ now s, P s → ∃ (mid : List Lock) (R : Session → Prop),
    Act task own s (effect now s) mid ∧ R (effect now s) ∧ Stable mid R ∧
      Ensures task mid R (next now s) own' Q
  | .wait id next => ∀ outcome, ∃ R : Session → Prop,
    (∀ s, P s → s.outcome? id = some outcome → R s) ∧ Stable own R ∧
      Ensures task own R (next outcome) own' Q

section Rules

variable {α β : Type} {task : Task} {own mid own' : List Lock} {P P' : Session → Prop}

/-- What is known beforehand may be more. -/
theorem Ensures.of_imp {r : Operation α} {Q : α → Session → Prop} (hP : ∀ s, P s → P' s)
    (h : Ensures task own P' r own' Q) : Ensures task own P r own' Q := by
  cases r with
  | done a => exact ⟨h.1, fun s hs => h.2 s (hP s hs)⟩
  | act effect next => exact fun now s hs => h now s (hP s hs)
  | wait id next =>
    intro outcome
    rcases h outcome with ⟨R, hR, hstable, hnext⟩
    exact ⟨R, fun s hs hout => hR s (hP s hs) hout, hstable, hnext⟩

theorem ensures_pure {Q : α → Session → Prop} (a : α) (h : ∀ s, P s → Q a s) :
    Ensures task own P (pure a : Operation α) own Q :=
  ⟨rfl, h⟩

theorem Ensures.bind {r : Operation α} {k : α → Operation β} {Q : α → Session → Prop}
    {S : β → Session → Prop} (h : Ensures task own P r mid Q)
    (hk : ∀ a, Ensures task mid (Q a) (k a) own' S) : Ensures task own P (r >>= k) own' S := by
  induction r generalizing own P with
  | done a =>
    rcases h with ⟨rfl, hQ⟩
    exact (hk a).of_imp hQ
  | act effect next ih =>
    intro now s hs
    rcases h now s hs with ⟨own₁, R, hact, hR, hstable, hnext⟩
    exact ⟨own₁, R, hact, hR, hstable, ih now s hnext⟩
  | wait id next ih =>
    intro outcome
    rcases h outcome with ⟨R, hR, hstable, hnext⟩
    exact ⟨R, hR, hstable, ih outcome hnext⟩

/-- One section. -/
theorem ensures_section {f : Timestamp → Session → α × Session} {Q : α → Session → Prop}
    (hact : ∀ now s, P s → Act task own s (f now s).2 mid)
    (hQ : ∀ now s, P s → Q (f now s).1 (f now s).2) (hstable : ∀ a, Stable mid (Q a)) :
    Ensures task own P (Routine.atomically f) mid Q := by
  intro now s hs
  -- What is known after it is `Q` of what it gave.
  exact ⟨mid, Q (f now s).1, hact now s hs, hQ now s hs, hstable _, rfl, fun _ h => h⟩

theorem ensures_look {f : Session → α} {Q : α → Session → Prop} (hQ : ∀ s, P s → Q (f s) s)
    (hstable : ∀ a, Stable own (Q a)) : Ensures task own P (Routine.look f) own Q :=
  ensures_section (f := fun _ s => (f s, s)) (fun _ _ _ => .looked) (fun _ s hs => hQ s hs) hstable

theorem ensures_change {f : Session → Session} {Q : Session → Prop}
    (hact : ∀ s, P s → Act task own s (f s) mid) (hQ : ∀ s, P s → Q (f s))
    (hstable : Stable mid Q) : Ensures task own P (Routine.change f) mid fun _ => Q :=
  ensures_section (f := fun _ s => ((), f s)) (fun _ s hs => hact s hs) (fun _ s hs => hQ s hs)
    fun _ => hstable

/-- Who waits for a renewal learns that it has finished. -/
theorem ensures_await {id : Nat} {Q : Result String → Session → Prop}
    (hQ : ∀ outcome s, P s → s.outcome? id = some outcome → Q outcome s)
    (hstable : ∀ outcome, Stable own (Q outcome)) :
    Ensures task own P (Routine.await id : Operation (Result String)) own Q := by
  intro outcome
  exact ⟨Q outcome, hQ outcome, hstable outcome, rfl, fun _ hs => hs⟩

/-- An operation under a lock. What is known at its end has to last without the lock. -/
theorem ensures_under {l : Lock} {operation : Operation α} {Q R : α → Session → Prop}
    (hP : Stable own P) (h : Ensures task (l :: own) P operation (l :: own) Q)
    (hQ : ∀ a s, Q a s → R a s) (hR : ∀ a, Stable own (R a)) :
    Ensures task own P (under l operation) own R := by
  -- Locks are no part of what is known.
  have hacquire : Ensures task own P (Routine.change (acquire l)) (l :: own) fun _ => P := by
    refine ensures_change (fun _ _ => .acquired l) ?_
      (hP.mono fun _ hl => List.mem_cons_of_mem _ hl)
    intro s hs
    exact hP s (s.acquire l) (.of_eq rfl rfl rfl) hs
  have hrelease : ∀ a,
      Ensures task (l :: own) (Q a) (Routine.change (release l)) own fun _ => R a := by
    intro a
    refine ensures_change ?_ ?_ (hR a)
    · intro s _
      have hact : Act task (l :: own) s (s.release l) ((l :: own).erase l) :=
        .released l List.mem_cons_self
      rw [List.erase_cons_head] at hact
      exact hact
    · intro s hs
      exact hR a s (s.release l) (.of_eq rfl rfl rfl) (hQ a s hs)
  refine hacquire.bind fun _ => h.bind fun a => (hrelease a).bind fun _ => ?_
  exact ensures_pure a fun _ hs => hs

end Rules

/-! ### The operations of a session -/

section Operations

variable {task : Task}

/-- Looking up a credential says nothing of the rest, so all that was known is known. -/
theorem ensures_credential {own : List Lock} {P : Session → Prop}
    (htask : ∀ id answer, task ≠ .complete id answer) (hP : Stable own P) (name : String) :
    Ensures task own P (credential name) own fun _ => P := by
  refine ensures_section ?_ ?_ fun _ => hP
  · intro now s _
    exact .read (s.store.get now name).2 (.get s.store now name .refl) htask
  · intro now s hs
    exact hP s (s.read name now).2 (.of_eq rfl rfl rfl) hs

/-- Keeping a pair, as a completion only does in the epoch of its renewal. -/
theorem ensures_keep {own : List Lock} {P : Session → Prop} (hepoch : .epoch ∈ own)
    (hdue : ∀ s, P s → ∀ id answer, task = .complete id answer →
      ∃ r : Renewal, s.renewals[id]? = some r ∧ r.epoch = s.epoch)
    (hP : Stable own P) (pair : Credentials) : Ensures task own P (keep pair) own fun _ => P := by
  have hwrite : ∀ name value hours, Ensures task own P
      (Routine.atomically fun now s => ((), s.write name value hours now)) own fun _ => P := by
    intro name value hours
    refine ensures_section ?_ ?_ fun _ => hP
    · intro now s hs
      exact .wrote (s.store.set name value (now.addHours hours)) hepoch (hdue s hs)
    · intro now s hs
      exact hP s (s.write name value hours now) (.of_eq rfl rfl rfl) hs
  exact (hwrite _ _ _).bind fun _ => hwrite _ _ _

/-- A renewal is published under the lock of the slot, where none is outstanding. -/
theorem ensures_joinRenewal (htask : ∀ id answer, task ≠ .complete id answer) :
    Ensures task [] (fun _ => True) joinRenewal [] fun _ _ => True := by
  refine ensures_under (Q := fun _ _ => True) (stable_true []) ?_ (fun _ _ _ => trivial)
    fun _ => stable_true []
  have hslot : Lock.slot ∈ [Lock.slot] := List.mem_singleton_self _
  have hvacant := stable_vacant hslot
  -- If there is nothing to join, this is known as long as the lock is held.
  refine Ensures.bind (Q := fun found s => found = none → s.outstanding? = none)
    (ensures_look (fun _ _ hnone => hnone) ?_) ?_
  · intro found s s' hi hs hnone
    exact hvacant s s' hi (hs hnone)
  · intro found
    cases found with
    | some id => exact ensures_pure _ fun _ _ => trivial
    | none =>
      refine (Ensures.of_imp (fun s hs => hs rfl) (ensures_credential htask hvacant _)).bind ?_
      intro refresh
      cases refresh with
      | none => exact ensures_pure _ fun _ _ => trivial
      | some refresh =>
        -- The epoch may move on after it was read, but not back.
        have hread : ∀ epoch, Stable [Lock.slot] fun s => s.outstanding? = none ∧ epoch ≤ s.epoch :=
          fun epoch => hvacant.and (stable_epoch_le _ epoch)
        refine Ensures.bind (Q := fun epoch s => s.outstanding? = none ∧ epoch ≤ s.epoch)
          (ensures_under (Q := fun epoch s => s.outstanding? = none ∧ epoch ≤ s.epoch) hvacant
            (ensures_look (fun s hs => ⟨hs, Nat.le_refl _⟩) ?_) (fun _ _ hs => hs) hread) ?_
        · exact fun epoch => (hread epoch).mono fun _ hl => List.mem_cons_of_mem _ hl
        · intro epoch
          refine Ensures.bind (Q := fun _ _ => True) (ensures_section ?_ (fun _ _ _ => trivial)
            fun _ => stable_true _) fun _ => ensures_pure _ fun _ _ => trivial
          intro now s hs
          exact .published refresh epoch hslot hs.1 hs.2

/-- A caller only takes a renewal out of the slot that has finished. -/
theorem ensures_renew (htask : ∀ id answer, task ≠ .complete id answer) :
    Ensures task [] (fun _ => True) renew [] fun _ _ => True := by
  refine (ensures_joinRenewal htask).bind ?_
  intro joined
  cases joined with
  | error e => exact ensures_pure _ fun _ _ => trivial
  | ok id =>
    have hfinished : ∀ own, Stable own fun s => s.outcome? id ≠ none :=
      fun own => stable_finished own id
    refine Ensures.bind (Q := fun _ s => s.outcome? id ≠ none)
      (ensures_await ?_ fun _ => hfinished []) ?_
    · intro outcome s _ hout
      rw [hout]
      simp only [ne_eq, reduceCtorEq, not_false_eq_true]
    · intro outcome
      have hleave : Ensures task [.slot] (fun s => s.outcome? id ≠ none)
          (Routine.change (leave id)) [.slot] fun _ _ => True := by
        refine ensures_change ?_ (fun _ _ => trivial) (stable_true _)
        intro s hs
        exact .left id (List.mem_singleton_self _) hs
      refine Ensures.bind (Q := fun _ _ => True) (ensures_under (hfinished []) hleave
        (fun _ _ _ => trivial) fun _ => stable_true []) ?_
      exact fun _ => ensures_pure _ fun _ _ => trivial

theorem ensures_access (htask : ∀ id answer, task ≠ .complete id answer) :
    Ensures task [] (fun _ => True) access [] fun _ _ => True := by
  have hrenew : Ensures task [] (fun _ => True) (do return (← renew).map some) [] fun _ _ => True :=
    (ensures_renew htask).bind fun _ => ensures_pure _ fun _ _ => trivial
  have hlook : Ensures task [] (fun _ => True) (under .slot (Routine.look outstanding?)) []
      fun _ _ => True :=
    ensures_under (stable_true []) (ensures_look (fun _ _ => trivial) fun _ => stable_true _)
      (fun _ _ _ => trivial) fun _ => stable_true []
  refine (ensures_credential htask (stable_true []) accessName).bind ?_
  intro token
  cases token with
  | some token => exact ensures_pure _ fun _ _ => trivial
  | none =>
    refine hlook.bind fun found => ?_
    cases found with
    | some id => exact hrenew
    | none =>
      refine (ensures_credential htask (stable_true []) refreshName).bind fun refresh => ?_
      cases refresh with
      | none => exact ensures_pure _ fun _ _ => trivial
      | some refresh => exact hrenew

theorem ensures_isOpen (htask : ∀ id answer, task ≠ .complete id answer) :
    Ensures task [] (fun _ => True) isOpen [] fun _ _ => True :=
  (ensures_credential htask (stable_true []) refreshName).bind fun _ =>
    ensures_pure _ fun _ _ => trivial

theorem ensures_establish (htask : ∀ id answer, task ≠ .complete id answer) (pair : Credentials) :
    Ensures task [] (fun _ => True) (establish pair) [] fun _ _ => True := by
  refine ensures_under (stable_true []) (ensures_keep (List.mem_singleton_self _) ?_ (stable_true _)
    pair) (fun _ _ _ => trivial) fun _ => stable_true []
  -- Who begins a session keeps its pair in any epoch.
  intro s _ id answer hcomplete
  exact absurd hcomplete (htask id answer)

theorem ensures_clear : Ensures (.request .clear) [] (fun _ => True) clear [] fun _ _ => True := by
  have hremove : ∀ name, Ensures (.request .clear) [.epoch] (fun _ => True)
      (Routine.change (remove name)) [.epoch] fun _ _ => True := by
    intro name
    refine ensures_change ?_ (fun _ _ => trivial) (stable_true _)
    intro s _
    refine .wrote (s.store.remove name) (List.mem_singleton_self _) ?_
    intro id answer hcomplete
    simp only [reduceCtorEq] at hcomplete
  have hnext : Ensures (.request .clear) [.epoch] (fun _ => True) (Routine.change nextEpoch)
      [.epoch] fun _ _ => True :=
    ensures_change (fun _ _ => .movedOn (List.mem_singleton_self _)) (fun _ _ => trivial)
      (stable_true _)
  have hempty : Ensures (.request .clear) [.slot] (fun _ => True) (Routine.change emptySlot) [.slot]
      fun _ _ => True :=
    ensures_change (fun _ _ => .emptied (List.mem_singleton_self _) rfl) (fun _ _ => trivial)
      (stable_true _)
  refine Ensures.bind (Q := fun _ _ => True) (ensures_under (stable_true [])
    (hnext.bind fun _ => (hremove _).bind fun _ => hremove _) (fun _ _ _ => trivial)
    fun _ => stable_true []) fun _ => ?_
  exact ensures_under (stable_true []) hempty (fun _ _ _ => trivial) fun _ => stable_true []

/-- A completion that keeps its pair does so in the epoch of its renewal, since it has held the
lock of the epoch since it compared the two. -/
theorem ensures_conclude (id : Nat) (answer : Result Credentials) (started : Nat) :
    Ensures (.complete id answer) []
      (fun s => ∃ r : Renewal, s.renewals[id]? = some r ∧ r.epoch = started)
      (conclude started answer) [] fun _ _ => True := by
  cases answer with
  | error e => exact ensures_pure _ fun _ _ => trivial
  | ok pair =>
    have hknown : ∀ own, Stable own fun s =>
        ∃ r : Renewal, s.renewals[id]? = some r ∧ r.epoch = started :=
      fun own => stable_renewal own id started
    -- Under the lock the epoch of the session stays what it was compared with.
    have hdue := (hknown [Lock.epoch]).and (stable_epoch (List.mem_singleton_self _) started)
    refine ensures_under (Q := fun _ _ => True) (hknown []) ?_ (fun _ _ _ => trivial)
      fun _ => stable_true []
    refine Ensures.bind (Q := fun epoch s =>
      (∃ r : Renewal, s.renewals[id]? = some r ∧ r.epoch = started) ∧ s.epoch = epoch)
      (ensures_look (fun s hs => ⟨hs, rfl⟩) ?_) ?_
    · exact fun epoch => (hknown _).and (stable_epoch (List.mem_singleton_self _) epoch)
    · intro epoch
      by_cases hepoch : epoch = started
      · subst hepoch
        rw [if_pos rfl]
        refine Ensures.bind (ensures_keep (List.mem_singleton_self _) ?_ hdue pair) fun _ =>
          ensures_pure _ fun _ _ => trivial
        intro s hs other answer' heq
        rw [Task.complete.injEq] at heq
        rcases hs with ⟨⟨r, hr, he⟩, hs⟩
        rw [← heq.1]
        exact ⟨r, hr, he.trans hs.symm⟩
      · rw [if_neg hepoch]
        exact ensures_pure _ fun _ _ => trivial

theorem ensures_complete (id : Nat) (answer : Result Credentials) :
    Ensures (.complete id answer) [] (fun _ => True) (complete id answer) [] fun _ _ => True := by
  refine Ensures.bind (Q := fun found s => ∀ r : Renewal, found = some r →
    ∃ r' : Renewal, s.renewals[id]? = some r' ∧ r'.epoch = r.epoch) (ensures_look ?_ ?_) ?_
  · intro s _ r hr
    exact ⟨r, ((unfinished?_eq_some_iff s id r).mp hr).1, rfl⟩
  · -- It was unfinished when it was looked up; that it is of its epoch lasts.
    intro found s s' hi hs r hr
    exact stable_renewal [] id r.epoch s s' hi (hs r hr)
  · intro found
    cases found with
    | none => exact ensures_pure _ fun _ _ => trivial
    | some r =>
      refine Ensures.bind (Ensures.of_imp (fun s hs => hs r rfl)
        (ensures_conclude id answer r.epoch)) fun outcome => ?_
      exact ensures_change (fun _ _ => .recorded id outcome) (fun _ _ => trivial) (stable_true [])

end Operations

/-- All operations keep to what is allowed, and end without locks. -/
theorem Task.ensures (task : Task) :
    Ensures task [] (fun _ => True) task.operation [] fun _ _ => True := by
  have hdone : ∀ reply : Reply, Ensures task [] (fun _ => True) (pure reply : Operation Reply) []
      fun _ _ => True :=
    fun reply => ensures_pure reply fun _ _ => trivial
  cases task with
  | complete id answer => exact (ensures_complete id answer).bind fun _ => hdone _
  | request q =>
    have htask : ∀ id answer, Task.request q ≠ .complete id answer := by
      intro id answer
      simp only [ne_eq, reduceCtorEq, not_false_eq_true]
    cases q with
    | access => exact (ensures_access htask).bind fun _ => hdone _
    | renew => exact (ensures_renew htask).bind fun _ => hdone _
    | isOpen => exact (ensures_isOpen htask).bind fun _ => hdone _
    | establish pair => exact (ensures_establish htask pair).bind fun _ => hdone _
    | clear => exact ensures_clear.bind fun _ => hdone _

end Wager.Session
