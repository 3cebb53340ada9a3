import Wager.Proofs.Session.Discipline

/-!
# Starting a renewal

What a caller does between the reading of the epoch and the renewal that it starts.

A renewal is started in three sections. The epoch is read under its lock, the lock is given back, and
the renewal is published. Between any two of them the session may move on, so a renewal need not be
of the epoch in which it is published. It is of the epoch that was read.

No operation publishes a renewal in any other way (`Careful`).

## Main definitions

* `Session.reading`, `Session.starting`, `Session.publishing`: What is left to do from each of the
  three sections on.
* `Session.Careful`: An operation starts renewals in this way only.

## Theorems

* `Session.joinRenewal_eq`: The sections in which a renewal is joined or started.
* `Session.Task.careful`: All operations start renewals in this way.
-/

namespace Wager.Session

/-- What is left to do once the lock of the epoch was given back: a renewal of an epoch is
published. -/
def publishing (refresh : String) (epoch : Nat) : Operation (Result Nat) := do
  let id ← Routine.atomically fun _ s => s.publish refresh epoch
  Routine.change (release .slot)
  return .ok id

/-- What is left to do once an epoch was read. -/
def starting (refresh : String) (epoch : Nat) : Operation (Result Nat) := do
  Routine.change (release .epoch)
  publishing refresh epoch

/-- What is left to do when the epoch is read next. -/
def reading (refresh : String) : Operation (Result Nat) := do
  starting refresh (← Routine.look epoch)

/-- The sections in which a renewal is joined or started. The credential is read first, and the epoch
after that. -/
theorem joinRenewal_eq : joinRenewal = (do
    Routine.change (acquire .slot)
    match ← Routine.look outstanding? with
    | some id =>
      Routine.change (release .slot)
      return .ok id
    | none =>
      match ← credential refreshName with
      | none =>
        Routine.change (release .slot)
        return .error .authExpired
      | some refresh =>
        Routine.change (acquire .epoch)
        reading refresh) := by
  simp only [joinRenewal, under, bind_assoc]
  congr 1
  funext _
  congr 1
  funext found
  cases found with
  | some id => rfl
  | none =>
    simp only [bind_assoc]
    congr 1
    funext refresh
    cases refresh <;> rfl

/-! ### Operations -/

/-- An operation that only starts renewals of epochs that it has read just before. -/
inductive Careful {α : Type} : Operation α → Prop
  | done (a : α) : Careful (.done a)
  | act {effect : Timestamp → Session → Session} {next : Timestamp → Session → Operation α}
    (hkeeps : ∀ now s, (effect now s).renewals.length = s.renewals.length)
    (hnext : ∀ now s, Careful (next now s)) : Careful (.act effect next)
  | wait {id : Nat} {next : Result String → Operation α} (hnext : ∀ outcome, Careful (next outcome)) :
    Careful (.wait id next)
  | reads (refresh : String) {k : Result Nat → Operation α} (hk : ∀ joined, Careful (k joined)) :
    Careful (reading refresh >>= k)

namespace Careful

variable {α β : Type}

theorem bind {r : Operation α} {k : α → Operation β} (h : Careful r) (hk : ∀ a, Careful (k a)) :
    Careful (r >>= k) := by
  induction h with
  | done a => exact hk a
  | act hkeeps _ ih => exact .act hkeeps ih
  | wait _ ih => exact .wait ih
  | reads refresh _ ih =>
    rw [bind_assoc]
    exact .reads refresh ih

theorem look (f : Session → α) : Careful (Routine.look f) :=
  .act (fun _ _ => rfl) fun _ _ => .done _

theorem change (f : Session → Session) (hf : ∀ s, (f s).renewals.length = s.renewals.length) :
    Careful (Routine.change f) :=
  .act (fun _ s => hf s) fun _ _ => .done _

theorem under {l : Lock} {operation : Operation α} (h : Careful operation) :
    Careful (Session.under l operation) :=
  (change (acquire l) fun _ => rfl).bind fun _ => h.bind fun a =>
    (change (release l) fun _ => rfl).bind fun _ => .done a

theorem credential (name : String) : Careful (Session.credential name) :=
  .act (fun _ _ => rfl) fun _ _ => .done _

theorem keep (pair : Credentials) : Careful (Session.keep pair) :=
  .act (fun _ _ => rfl) fun _ _ => .act (fun _ _ => rfl) fun _ _ => .done _

theorem joinRenewal : Careful Session.joinRenewal := by
  rw [joinRenewal_eq]
  refine (change (acquire .slot) fun _ => rfl).bind fun _ => (look outstanding?).bind fun found => ?_
  cases found with
  | some id => exact (change (release .slot) fun _ => rfl).bind fun _ => .done _
  | none =>
    refine (credential _).bind fun refresh => ?_
    cases refresh with
    | none => exact (change (release .slot) fun _ => rfl).bind fun _ => .done _
    | some refresh =>
      refine (change (acquire .epoch) fun _ => rfl).bind fun _ => ?_
      rw [← bind_pure (reading refresh)]
      exact .reads refresh fun joined => .done joined

theorem renew : Careful Session.renew := by
  refine joinRenewal.bind fun joined => ?_
  cases joined with
  | error e => exact .done _
  | ok id =>
    have hleave : Careful (Routine.change (leave id)) := change (leave id) fun s => by
      rw [renewals_leave]
    exact .wait fun outcome => hleave.under.bind fun _ => .done outcome

theorem access : Careful Session.access := by
  have hrenew : Careful (do return (← Session.renew).map some) := renew.bind fun _ => .done _
  refine (credential _).bind fun token => ?_
  cases token with
  | some token => exact .done _
  | none =>
    refine (under (look _)).bind fun found => ?_
    cases found with
    | some id => exact hrenew
    | none =>
      refine (credential _).bind fun refresh => ?_
      cases refresh with
      | none => exact .done _
      | some refresh => exact hrenew

theorem clear : Careful Session.clear := by
  have hremove (name : String) : Careful (Routine.change (remove name)) :=
    change (remove name) fun _ => rfl
  have hnext : Careful (Routine.change nextEpoch) := change nextEpoch fun _ => rfl
  have hempty : Careful (Routine.change emptySlot) := change emptySlot fun _ => rfl
  exact (under (hnext.bind fun _ => (hremove _).bind fun _ => hremove _)).bind fun _ => hempty.under

theorem conclude (started : Nat) (answer : Result Credentials) :
    Careful (Session.conclude started answer) := by
  cases answer with
  | error e => exact .done _
  | ok pair =>
    refine under ((look _).bind fun epoch => ?_)
    split
    · exact (keep pair).bind fun _ => .done _
    · exact .done _

theorem complete (id : Nat) (answer : Result Credentials) :
    Careful (Session.complete id answer) := by
  refine (look _).bind fun found => ?_
  cases found with
  | none => exact .done _
  | some r =>
    refine (conclude r.epoch answer).bind fun outcome => change (record id outcome) fun s => ?_
    rw [record, List.length_modify]

end Careful

/-- All operations start renewals in this way only. -/
theorem Task.careful (task : Task) : Careful task.operation := by
  cases task with
  | complete id answer => exact (Careful.complete id answer).bind fun _ => .done _
  | request q =>
    cases q with
    | access => exact Careful.access.bind fun _ => .done _
    | renew => exact Careful.renew.bind fun _ => .done _
    | isOpen =>
      exact ((Careful.credential _).bind fun _ => .done _ : Careful Session.isOpen).bind
        fun _ => .done _
    | establish pair => exact (Careful.keep pair).under.bind fun _ => .done _
    | clear => exact Careful.clear.bind fun _ => .done _

end Wager.Session
