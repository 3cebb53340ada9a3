import Mathlib.Data.List.Induction
import Wager.Proofs.Session.Starting

/-!
# Sessions on several threads

Operations of one session on several threads, interleaved at every section that the locks allow.

On one thread the end of a session is one step. On several it is not: the session moves on to its
next epoch and loses its credentials under the lock of the epoch, and the slot is emptied after
that, under its own lock. Starting a renewal is not one step either. It reads the credential first
and the epoch after that, and only the slot is locked in between. So two things that hold on one
thread do not hold here, and `race_on_threads` has the runs. A session that is ended between the
two readings comes back: the renewal spends the old credential but is of the new epoch, and keeps
its pair. And a session that begins between the two halves of an end loses its renewal out of the
slot, so the next caller starts another one with the same credential.

What does hold is said in terms of what the locks protect. A completion keeps its pair only in the
epoch that its renewal has on record, and epochs do not come back; and an outstanding renewal
stays in the slot until the end of a session takes it out there. What is on record is the epoch that
was read when the renewal was started, and a run tells in which move that was (`Started`).

There are two invariants. Every thread stands where something stable is known that justifies what it
will do, by `Ensures`, and no lock has two owners. And every thread starts a renewal only of an epoch
that it has read, or has yet to read, by `Careful`.

## Main definitions

* `Session.Thread`, `Session.Threads`: A thread, and a session with its threads.
* `Session.Move`, `Threads.step`, `Threads.run`: What happens, once and many times.
* `Threads.resets`, `Threads.calm`: A renewal is taken out of the slot by the end of a session, or
  none is in a whole run.
* `Thread.Stands`, `Threads.Sound`: The invariant of the locks.
* `Threads.Started`: A renewal was started in a run, and when its epoch was read.
* `Threads.Traced`, `Threads.Accounted`: The invariant of the epochs that were read.

## Theorems

* `Act.store_eq`: A completion of a renewal of another epoch leaves the store alone.
* `Act.attached`: An outstanding renewal stays in the slot.
* `Threads.Sound.moves`: What a move does to sound threads.
* `Threads.sound_run`, `Threads.accounted_run`: The invariants hold at every moment.
* `Threads.order_on_threads`: What holds in every order.
* `Threads.race_on_threads`: What does not.
-/

namespace Wager.Session

deriving instance DecidableEq for Task

/-! ### Moves -/

/-- A thread: its task, and what is left to do. -/
structure Thread where
  task : Task
  rest : Operation Reply

/-- A session and the threads that work on it, in the order in which they came. -/
structure Threads where
  session : Session
  threads : List Thread := []

/-- What may happen next: a thread comes with a task, or a thread goes on for one section. -/
inductive Move
  | spawn (task : Task)
  | advance (n : Nat)

/-- A task that ends the session. -/
def Task.isClear : Task → Bool
  | .request .clear => true
  | _ => false

namespace Threads

/-- A session over a store without threads. -/
def start (store : Store) : Threads where
  session := { store }

/-- The threads after a move at some time. A section that takes a lock has to wait until the lock is
free, and whoever waits for a renewal until it has finished. -/
def step (t : Threads) : Timestamp × Move → Threads
  | (_, .spawn task) => { t with threads := t.threads ++ [{ task, rest := task.operation }] }
  | (now, .advance n) =>
    match t.threads[n]? with
    | some { task, rest := .act effect next } =>
      if (effect now t.session).held.Nodup then {
        session := effect now t.session
        threads := t.threads.set n { task, rest := next now t.session } }
      else t
    | some { task, rest := .wait id next } =>
      match t.session.outcome? id with
      | some outcome => { t with threads := t.threads.set n { task, rest := next outcome } }
      | none => t
    | _ => t

/-- The threads after some moves. -/
def run (t : Threads) (moves : List (Timestamp × Move)) : Threads := moves.foldl step t

/-- The move changes the slot on behalf of a task that ends the session: it takes out a renewal. -/
def resets (t : Threads) : Timestamp × Move → Bool
  | (_, .spawn _) => false
  | (now, .advance n) =>
    (t.threads[n]?.any fun thread => thread.task.isClear) &&
      (t.step (now, .advance n)).session.slot != t.session.slot

/-- No move of a run takes a renewal out of the slot on behalf of a task that ends the session. -/
def calm (t : Threads) : List (Timestamp × Move) → Bool
  | [] => true
  | m :: moves => !t.resets m && (t.step m).calm moves

end Threads

/-! ### Sections -/

namespace Act

variable {task : Task} {own own' : List Lock} {s s' : Session}

/-- A completion of a renewal of another epoch leaves the store alone. -/
theorem store_eq {id : Nat} {answer : Result Credentials} {r : Renewal}
    (ha : Act (.complete id answer) own s s' own') (hr : s.renewals[id]? = some r)
    (hepoch : r.epoch ≠ s.epoch) : s'.store = s.store := by
  cases ha with
  | read store hread htask => exact absurd rfl (htask id answer)
  | wrote store hlock hdue =>
    -- A completion only writes in the epoch of its renewal.
    rcases hdue id answer rfl with ⟨r', hr', hpresent⟩
    rw [hr, Option.some.injEq] at hr'
    subst hr'
    exact absurd hpresent hepoch
  | left other hslot hfinished => exact store_leave s other
  | _ => rfl

/-- No renewal is of an epoch to come. -/
theorem epoch_le (ha : Act task own s s' own')
    (h : ∀ (id : Nat) (r : Renewal), s.renewals[id]? = some r → r.epoch ≤ s.epoch) (id : Nat)
    (r : Renewal) (hr : s'.renewals[id]? = some r) : r.epoch ≤ s'.epoch := by
  cases ha with
  | movedOn hlock => exact Nat.le_succ_of_le (h id r hr)
  | published refresh epoch hslot hout hle =>
    rcases renewal_of_publish hr with hr | ⟨-, rfl⟩
    · exact h id r hr
    · -- Its epoch was the present one when it was read.
      exact hle
  | left other hslot hfinished =>
    rw [renewals_leave] at hr
    rw [epoch_leave]
    exact h id r hr
  | recorded other outcome =>
    rcases renewal_of_record hr with ⟨r', hr', he, -⟩
    rw [← he]
    exact h id r' hr'
  | _ => exact h id r hr

/-- An outstanding renewal stays in the slot, but for the end of a session. -/
theorem attached (ha : Act task own s s' own') (hreset : task.isClear = true → s'.slot = s.slot)
    (first : Nat) (h : ∀ id, first ≤ id → s.IsOutstanding id → s.slot = some id) (id : Nat)
    (hid : first ≤ id) (hout : s'.IsOutstanding id) : s'.slot = some id := by
  cases ha with
  | published refresh epoch hslot hnone hle =>
    rcases hout with ⟨r, hr, ho⟩
    rcases renewal_of_publish hr with hr | ⟨rfl, -⟩
    · -- It would have been there to join.
      rw [outstanding?_of_slot (h id hid ⟨r, hr, ho⟩) ⟨r, hr, ho⟩] at hnone
      simp only [reduceCtorEq] at hnone
    · rfl
  | left other hslot hfinished =>
    rcases hout with ⟨r, hr, ho⟩
    rw [renewals_leave] at hr
    have hthere := h id hid ⟨r, hr, ho⟩
    -- What is taken out has finished, so it is not the outstanding one.
    have hne : s.slot ≠ some other := by
      intro hother
      rw [hthere, Option.some.injEq] at hother
      subst hother
      exact hfinished (outcome?_eq_none_of_isOutstanding ⟨r, hr, ho⟩)
    rw [leave_eq_self hne]
    exact hthere
  | emptied hslot htask =>
    -- The slot was empty already, or this would be a reset.
    subst htask
    rw [hreset rfl]
    exact h id hid hout
  | recorded other outcome =>
    rcases hout with ⟨r, hr, ho⟩
    rcases renewal_of_record hr with ⟨r', hr', -, heq⟩
    rw [heq ho] at hr'
    exact h id hid ⟨r, hr', ho⟩
  | _ => exact h id hid hout

/-- What a section does to the locks of its thread, when it does not take one that is held: they
stay different, they are held, and the locks of others stay theirs. -/
theorem owned (ha : Act task own s s' own') (hnodup : own.Nodup) (hheld : ∀ l ∈ own, l ∈ s.held)
    (hfree : s'.held.Nodup) : own'.Nodup ∧ (∀ l ∈ own', l ∈ s'.held) ∧
      ∀ l, l ∉ own → l ∈ s.held → l ∉ own' ∧ l ∈ s'.held := by
  rcases ha.locks with ⟨rfl, heq⟩ | ⟨l, rfl, heq⟩ | ⟨l, hl, rfl, heq⟩
  · rw [heq]
    exact ⟨hnodup, hheld, fun _ hother hl => ⟨hother, hl⟩⟩
  · -- The lock was free, so nobody had it.
    rw [heq, List.nodup_cons] at hfree
    have hnot : l ∉ own := fun hl => hfree.1 (hheld l hl)
    rw [heq]
    refine ⟨List.nodup_cons.mpr ⟨hnot, hnodup⟩, ?_, ?_⟩
    · intro l' hl'
      rcases List.mem_cons.mp hl' with rfl | hl'
      · exact List.mem_cons_self
      · exact List.mem_cons_of_mem _ (hheld l' hl')
    · intro l' hother hl'
      refine ⟨?_, List.mem_cons_of_mem _ hl'⟩
      intro hmem
      rcases List.mem_cons.mp hmem with rfl | hmem
      · exact hfree.1 hl'
      · exact hother hmem
  · -- The lock was held once, so it is free now.
    rw [heq]
    refine ⟨hnodup.erase l, ?_, ?_⟩
    · intro l' hl'
      rw [hnodup.mem_erase_iff] at hl'
      exact (List.mem_erase_of_ne hl'.1).mpr (hheld l' hl'.2)
    · intro l' hother hl'
      refine ⟨fun hmem => hother (List.mem_of_mem_erase hmem), ?_⟩
      have hne : l' ≠ l := fun h => hother (h ▸ hl)
      exact (List.mem_erase_of_ne hne).mpr hl'

end Act

/-! ### The invariant -/

/-- Who owns the locks after thread `n`, which held `own`, has come to hold `own'`. -/
def ownerAfter (n : Nat) (own own' : List Lock) (owner : Lock → Option Nat) (l : Lock) :
    Option Nat :=
  if l ∈ own' then some n else if l ∈ own then none else owner l

theorem ownerAfter_of_mem {n : Nat} {own own' : List Lock} {owner : Lock → Option Nat} {l : Lock}
    (h : l ∈ own') : ownerAfter n own own' owner l = some n :=
  if_pos h

theorem ownerAfter_of_not_mem {n : Nat} {own own' : List Lock} {owner : Lock → Option Nat}
    {l : Lock} (h : l ∉ own) (h' : l ∉ own') : ownerAfter n own own' owner l = owner l := by
  rw [ownerAfter, if_neg h', if_neg h]

/-- A lock has an owner after that only if it is one of the thread's, or another's as before. -/
theorem mem_or_of_ownerAfter {n k : Nat} {own own' : List Lock} {owner : Lock → Option Nat}
    {l : Lock} (h : ownerAfter n own own' owner l = some k) :
    l ∈ own' ∨ l ∉ own ∧ owner l = some k := by
  by_cases h' : l ∈ own'
  · exact Or.inl h'
  · right
    rw [ownerAfter, if_neg h'] at h
    by_cases hl : l ∈ own
    · rw [if_pos hl] at h
      simp only [reduceCtorEq] at h
    · rw [if_neg hl] at h
      exact ⟨hl, h⟩

/-- A thread holds locks of its own and knows something stable, by which the rest of its operation
only does what is allowed. -/
def Thread.Stands (owner : Lock → Option Nat) (n : Nat) (s : Session) (thread : Thread) : Prop :=
  ∃ (own : List Lock) (P : Session → Prop), own.Nodup ∧ (∀ l ∈ own, owner l = some n) ∧
    Stable own P ∧ P s ∧ Ensures thread.task own P thread.rest [] fun _ _ => True

namespace Threads

/-- No renewal is of an epoch to come, every lock that has an owner is held, and every thread
stands. -/
structure Sound (t : Threads) : Prop where
  epoch_le : ∀ (id : Nat) (r : Renewal), t.session.renewals[id]? = some r →
    r.epoch ≤ t.session.epoch
  stands : ∃ owner : Lock → Option Nat, (∀ l n, owner l = some n → l ∈ t.session.held) ∧
    ∀ (n : Nat) (thread : Thread), t.threads[n]? = some thread → thread.Stands owner n t.session

theorem sound_start (store : Store) : (start store).Sound where
  epoch_le id r h := by simp only [start, List.getElem?_nil, reduceCtorEq] at h
  stands := by
    refine ⟨fun _ => none, ?_, ?_⟩
    · intro l n h
      simp only [reduceCtorEq] at h
    · intro n thread h
      simp only [start, List.getElem?_nil, reduceCtorEq] at h

/-- A thread that comes with a task holds nothing and knows nothing. -/
theorem Sound.spawn {t : Threads} (h : t.Sound) (task : Task) :
    Sound { t with threads := t.threads ++ [{ task, rest := task.operation }] } := by
  refine ⟨h.epoch_le, ?_⟩
  rcases h.stands with ⟨owner, hheld, hstands⟩
  refine ⟨owner, hheld, ?_⟩
  intro n thread hthread
  rcases getElem?_concat_eq_some hthread with hthread | ⟨-, rfl⟩
  · exact hstands n thread hthread
  · refine ⟨[], fun _ => True, List.nodup_nil, ?_, stable_true [], trivial, task.ensures⟩
    intro l hl
    simp only [List.not_mem_nil] at hl

/-- A thread that goes on with the outcome of its renewal leaves the session alone. -/
theorem Sound.wake {t : Threads} (h : t.Sound) (n : Nat) (task : Task) (id : Nat)
    (next : Result String → Operation Reply) (outcome : Result String)
    (hthread : t.threads[n]? = some { task, rest := .wait id next })
    (hout : t.session.outcome? id = some outcome) :
    Sound { t with threads := t.threads.set n { task, rest := next outcome } } := by
  refine ⟨h.epoch_le, ?_⟩
  rcases h.stands with ⟨owner, hheld, hstands⟩
  refine ⟨owner, hheld, ?_⟩
  intro m thread hm
  rcases getElem?_set_eq_some hm with ⟨rfl, rfl⟩ | ⟨-, hm⟩
  · -- It learns that the renewal has finished, and keeps its locks.
    rcases hstands n _ hthread with ⟨own, P, hnodup, howner, -, hP, hensures⟩
    rcases hensures outcome with ⟨R, hR, hstable, hnext⟩
    exact ⟨own, R, hnodup, howner, hstable, hR t.session hP hout, hnext⟩
  · exact hstands m thread hm

/-- A section does what is allowed to its thread. What the others know survives it, since none of
them holds one of the locks that it holds. -/
theorem Sound.act {t : Threads} (h : t.Sound) (now : Timestamp) (n : Nat) (task : Task)
    (effect : Timestamp → Session → Session) (next : Timestamp → Session → Operation Reply)
    (hthread : t.threads[n]? = some { task, rest := .act effect next })
    (hfree : (effect now t.session).held.Nodup) :
    (∃ own own', Act task own t.session (effect now t.session) own') ∧
      Sound {
        session := effect now t.session
        threads := t.threads.set n { task, rest := next now t.session } } := by
  rcases h.stands with ⟨owner, hheld, hstands⟩
  rcases hstands n _ hthread with ⟨own, P, hnodup, howner, -, hP, hensures⟩
  rcases hensures now t.session hP with ⟨own', R, hact, hR, hstable, hnext⟩
  have hown : ∀ l ∈ own, l ∈ t.session.held := fun l hl => hheld l n (howner l hl)
  rcases hact.owned hnodup hown hfree with ⟨hnodup', hown', hothers⟩
  refine ⟨⟨own, own', hact⟩, fun id r hr => hact.epoch_le h.epoch_le id r hr, ?_⟩
  refine ⟨ownerAfter n own own' owner, ?_, ?_⟩
  · intro l k hl
    rcases mem_or_of_ownerAfter hl with hl' | ⟨hl', hk⟩
    · exact hown' l hl'
    · exact (hothers l hl' (hheld l k hk)).2
  · intro m thread hm
    rcases getElem?_set_eq_some hm with ⟨rfl, rfl⟩ | ⟨hnm, hm⟩
    · exact ⟨own', R, hnodup', fun l hl => ownerAfter_of_mem hl, hstable, hR, hnext⟩
    · rcases hstands m thread hm with ⟨other, Q, hother, howner', hstable', hQ, hensures'⟩
      -- A lock of another thread has another owner.
      have hdisjoint : ∀ l ∈ other, l ∉ own := by
        intro l hl hmem
        have heq := (howner l hmem).symm.trans (howner' l hl)
        rw [Option.some.injEq] at heq
        exact hnm heq
      have hsurvives := hstable' t.session _ (hact.interferes other hdisjoint) hQ
      refine ⟨other, Q, hother, ?_, hstable', hsurvives, hensures'⟩
      intro l hl
      have hfresh := (hothers l (hdisjoint l hl) (hheld l m (howner' l hl))).1
      rw [ownerAfter_of_not_mem (hdisjoint l hl) hfresh]
      exact howner' l hl

/-- What a move does: a thread comes, a section is done, or the session is left alone. -/
inductive Moves (t : Threads) : Timestamp × Move → Threads → Prop
  | spawned (now : Timestamp) (task : Task) (threads : List Thread) :
    Moves t (now, .spawn task) { t with threads }
  | acted (now : Timestamp) (n : Nat) (thread : Thread) (session : Session) (own own' : List Lock)
    (threads : List Thread) (hthread : t.threads[n]? = some thread)
    (hact : Act thread.task own t.session session own') :
    Moves t (now, .advance n) { session, threads }
  | waited (now : Timestamp) (n : Nat) (threads : List Thread) :
    Moves t (now, .advance n) { t with threads }

/-- Sound threads only make these moves, and stay sound. -/
theorem Sound.moves {t : Threads} (h : t.Sound) (m : Timestamp × Move) :
    t.Moves m (t.step m) ∧ (t.step m).Sound := by
  rcases m with ⟨now, task | n⟩
  · exact ⟨.spawned now task _, h.spawn task⟩
  · cases hthread : t.threads[n]? with
    | none =>
      simp only [step, hthread]
      exact ⟨.waited now n t.threads, h⟩
    | some thread =>
      rcases thread with ⟨task, reply | ⟨effect, next⟩ | ⟨id, next⟩⟩
      · simp only [step, hthread]
        exact ⟨.waited now n t.threads, h⟩
      · by_cases hfree : (effect now t.session).held.Nodup
        · rcases h.act now n task effect next hthread hfree with ⟨⟨own, own', hact⟩, hsound⟩
          simp only [step, hthread, hfree, if_true]
          exact ⟨.acted now n _ _ own own' _ hthread hact, hsound⟩
        · -- The lock is held, so the thread has to wait.
          simp only [step, hthread, hfree, if_false]
          exact ⟨.waited now n t.threads, h⟩
      · cases hout : t.session.outcome? id with
        | none =>
          -- The renewal has not finished, so the thread has to wait.
          simp only [step, hthread, hout]
          exact ⟨.waited now n t.threads, h⟩
        | some outcome =>
          simp only [step, hthread, hout]
          exact ⟨.waited now n _, h.wake n task id next outcome hthread hout⟩

/-- The invariant holds at every moment. -/
theorem sound_run {t : Threads} (h : t.Sound) (moves : List (Timestamp × Move)) :
    (t.run moves).Sound := by
  induction moves generalizing t with
  | nil => exact h
  | cons m moves ih => exact ih (h.moves m).2

theorem Moves.interferes {t t' : Threads} {m : Timestamp × Move} (hm : t.Moves m t') :
    Interferes [] t.session t'.session := by
  cases hm with
  | spawned now task threads => exact .of_eq rfl rfl rfl
  | acted now n thread session own own' threads hthread hact =>
    refine hact.interferes [] ?_
    intro l hl
    simp only [List.not_mem_nil] at hl
  | waited now n threads => exact .of_eq rfl rfl rfl

/-! ### What was read -/

theorem run_concat (t : Threads) (moves : List (Timestamp × Move)) (m : Timestamp × Move) :
    t.run (moves ++ [m]) = (t.run moves).step m := by
  rw [run, run, List.foldl_append, List.foldl_cons, List.foldl_nil]

theorem step_of_free {t : Threads} {now : Timestamp} {n : Nat} {task : Task}
    {effect : Timestamp → Session → Session} {next : Timestamp → Session → Operation Reply}
    (hthread : t.threads[n]? = some { task, rest := .act effect next })
    (hfree : (effect now t.session).held.Nodup) :
    t.step (now, .advance n) = {
      session := effect now t.session
      threads := t.threads.set n { task, rest := next now t.session } } := by
  simp only [step, hthread, hfree, if_true]

/-- In a run a renewal was started. In one move its thread, which had read the credential, read the
epoch; in another one it published the renewal. -/
inductive Started (t : Threads) (id : Nat) (refresh : String) (epoch : Nat) :
    List (Timestamp × Move) → Prop
  | mk (before between since : List (Timestamp × Move)) (now now' : Timestamp) (n : Nat)
    (task : Task) (k : Result Nat → Operation Reply)
    (hread : (t.run before).threads[n]? = some { task, rest := reading refresh >>= k })
    (hepoch : (t.run before).session.epoch = epoch)
    (hid : (t.run (before ++ (now, .advance n) :: between)).session.renewals.length = id)
    (hpublished : (t.run (before ++ (now, .advance n) :: between ++
        [(now', .advance n)])).session.renewals[id]? = some { refresh, epoch }) :
    Started t id refresh epoch
      (before ++ (now, .advance n) :: between ++ (now', .advance n) :: since)

theorem Started.concat {t : Threads} {id epoch : Nat} {refresh : String}
    {moves : List (Timestamp × Move)} (h : t.Started id refresh epoch moves)
    (m : Timestamp × Move) : t.Started id refresh epoch (moves ++ [m]) := by
  cases h with
  | mk before between since now now' n task k hread hepoch hid hpublished =>
    rw [List.append_assoc, List.cons_append]
    exact .mk before between (since ++ [m]) now now' n task k hread hepoch hid hpublished

/-- What a thread is about after some moves: it will start a renewal only of an epoch that it has yet
to read, or it has read one and is about to start that renewal. -/
inductive Traced (t : Threads) (n : Nat) : Thread → List (Timestamp × Move) → Prop
  | careful (thread : Thread) (moves : List (Timestamp × Move)) (h : Careful thread.rest) :
    Traced t n thread moves
  | read (before between : List (Timestamp × Move)) (now : Timestamp) (task : Task)
    (refresh : String) (k : Result Nat → Operation Reply) (hk : ∀ joined, Careful (k joined))
    (hread : (t.run before).threads[n]? = some { task, rest := reading refresh >>= k })
    (rest : Operation Reply)
    (hrest : rest = starting refresh (t.run before).session.epoch >>= k ∨
      rest = publishing refresh (t.run before).session.epoch >>= k) :
    Traced t n { task, rest } (before ++ (now, .advance n) :: between)

theorem Traced.concat {t : Threads} {n : Nat} {thread : Thread} {moves : List (Timestamp × Move)}
    (h : t.Traced n thread moves) (m : Timestamp × Move) : t.Traced n thread (moves ++ [m]) := by
  cases h with
  | careful _ _ h => exact .careful thread _ h
  | read before between now task refresh k hk hread rest hrest =>
    rw [List.append_assoc, List.cons_append]
    exact .read before (between ++ [m]) now task refresh k hk hread rest hrest

/-- After some moves all threads are careful, and every renewal was started by one. -/
structure Accounted (t : Threads) (moves : List (Timestamp × Move)) : Prop where
  threads : ∀ (n : Nat) (thread : Thread), (t.run moves).threads[n]? = some thread →
    t.Traced n thread moves
  renewals : ∀ (id : Nat) (r : Renewal), (t.run moves).session.renewals[id]? = some r →
    t.Started id r.refresh r.epoch moves

namespace Accounted

variable {t : Threads} {moves : List (Timestamp × Move)} {now : Timestamp} {n : Nat} {task : Task}

/-- A move that leaves all threads and renewals as they were. -/
theorem same (h : t.Accounted moves) (m : Timestamp × Move)
    (hsame : (t.run moves).step m = t.run moves) : t.Accounted (moves ++ [m]) := by
  refine ⟨fun n thread hthread => ?_, fun id r hr => ?_⟩
  · rw [run_concat, hsame] at hthread
    exact (h.threads n thread hthread).concat m
  · rw [run_concat, hsame] at hr
    exact (h.renewals id r hr).concat m

theorem spawn (h : t.Accounted moves) (task : Task) :
    t.Accounted (moves ++ [(now, .spawn task)]) := by
  refine ⟨fun n thread hthread => ?_, fun id r hr => ?_⟩
  · rw [run_concat] at hthread
    rcases getElem?_concat_eq_some hthread with hthread | ⟨-, rfl⟩
    · exact (h.threads n thread hthread).concat _
    · exact .careful _ _ task.careful
  · rw [run_concat] at hr
    exact (h.renewals id r hr).concat _

/-- A section, by what is left of its thread and what it does to the renewals. -/
theorem act (h : t.Accounted moves) {effect : Timestamp → Session → Session}
    {next : Timestamp → Session → Operation Reply}
    (hthread : (t.run moves).threads[n]? = some { task, rest := .act effect next })
    (hnext : t.Traced n { task, rest := next now (t.run moves).session }
      (moves ++ [(now, .advance n)]))
    (hrenewals : (effect now (t.run moves).session).held.Nodup → ∀ (id : Nat) (r : Renewal),
      (effect now (t.run moves).session).renewals[id]? = some r →
        t.Started id r.refresh r.epoch (moves ++ [(now, .advance n)])) :
    t.Accounted (moves ++ [(now, .advance n)]) := by
  by_cases hfree : (effect now (t.run moves).session).held.Nodup
  · have hstep := step_of_free hthread hfree
    refine ⟨fun m thread hm => ?_, fun id r hr => ?_⟩
    · rw [run_concat, hstep] at hm
      rcases getElem?_set_eq_some hm with ⟨rfl, rfl⟩ | ⟨-, hm⟩
      · exact hnext
      · exact (h.threads m thread hm).concat _
    · rw [run_concat, hstep] at hr
      exact hrenewals hfree id r hr
  · refine h.same _ ?_
    simp only [step, hthread, hfree, if_false]

/-- A section that starts no renewal. -/
theorem act_of_length_eq (h : t.Accounted moves) (hsound : (t.run moves).Sound)
    {effect : Timestamp → Session → Session} {next : Timestamp → Session → Operation Reply}
    (hthread : (t.run moves).threads[n]? = some { task, rest := .act effect next })
    (hkeeps : (effect now (t.run moves).session).renewals.length
      = (t.run moves).session.renewals.length)
    (hnext : t.Traced n { task, rest := next now (t.run moves).session }
      (moves ++ [(now, .advance n)])) :
    t.Accounted (moves ++ [(now, .advance n)]) := by
  refine h.act hthread hnext fun hfree id r hr => ?_
  -- Nobody touches the credential and the epoch of a renewal.
  have hinterferes := (hsound.moves (now, .advance n)).1.interferes
  rw [step_of_free hthread hfree] at hinterferes
  have hlt : id < (t.run moves).session.renewals.length :=
    hkeeps ▸ (List.getElem?_eq_some_iff.mp hr).1
  obtain ⟨r', hr', hrefresh, hepoch, -⟩ :=
    hinterferes.renewal id _ (List.getElem?_eq_getElem hlt)
  obtain rfl : r' = r := Option.some.inj (hr'.symm.trans hr)
  rw [hrefresh, hepoch]
  exact (h.renewals id _ (List.getElem?_eq_getElem hlt)).concat _

/-- A thread that has read an epoch starts a renewal of that epoch. -/
theorem advance_of_read {before between : List (Timestamp × Move)} {now' : Timestamp}
    (h : t.Accounted (before ++ (now', .advance n) :: between))
    (hsound : (t.run (before ++ (now', .advance n) :: between)).Sound) {refresh : String}
    {k : Result Nat → Operation Reply} (hk : ∀ joined, Careful (k joined))
    (hread : (t.run before).threads[n]? = some { task, rest := reading refresh >>= k })
    {rest : Operation Reply}
    (hrest : rest = starting refresh (t.run before).session.epoch >>= k ∨
      rest = publishing refresh (t.run before).session.epoch >>= k)
    (hthread : (t.run (before ++ (now', .advance n) :: between)).threads[n]?
      = some { task, rest }) :
    t.Accounted (before ++ (now', .advance n) :: between ++ [(now, .advance n)]) := by
  rcases hrest with rfl | rfl
  · refine h.act_of_length_eq hsound hthread rfl ?_
    rw [List.append_assoc, List.cons_append]
    exact .read before (between ++ [(now, .advance n)]) now' task refresh k hk hread _ (.inr rfl)
  · refine h.act hthread (.careful _ _ (.act (fun _ _ => rfl) fun _ _ => hk _)) ?_
    intro hfree id r hr
    rcases renewal_of_publish hr with hold | ⟨hid, rfl⟩
    · exact (h.renewals id r hold).concat _
    · -- The renewal is the one that was published just now.
      refine .mk before between [] now' now n task k hread rfl hid.symm ?_
      rw [run_concat, step_of_free hthread hfree]
      exact hr

/-- A careful thread goes on, and it may read an epoch now. -/
theorem advance_of_careful (h : t.Accounted moves) (hsound : (t.run moves).Sound)
    {rest : Operation Reply} (hcareful : Careful rest)
    (hthread : (t.run moves).threads[n]? = some { task, rest }) :
    t.Accounted (moves ++ [(now, .advance n)]) := by
  cases hcareful with
  | done a =>
    refine h.same _ ?_
    simp only [step, hthread]
  | act hkeeps hnext =>
    exact h.act_of_length_eq hsound hthread (hkeeps now _) (.careful _ _ (hnext now _))
  | reads refresh hk =>
    exact h.act_of_length_eq hsound hthread rfl
      (.read moves [] now task refresh _ hk hthread _ (.inl rfl))
  | @wait id next hnext =>
    cases hout : (t.run moves).session.outcome? id with
    | none =>
      refine h.same _ ?_
      simp only [step, hthread, hout]
    | some outcome =>
      have hstep : (t.run moves).step (now, .advance n) = { t.run moves with
          threads := (t.run moves).threads.set n { task, rest := next outcome } } := by
        simp only [step, hthread, hout]
      refine ⟨fun m thread hm => ?_, fun id r hr => ?_⟩
      · rw [run_concat, hstep] at hm
        rcases getElem?_set_eq_some hm with ⟨rfl, rfl⟩ | ⟨-, hm⟩
        · exact .careful _ _ (hnext outcome)
        · exact (h.threads m thread hm).concat _
      · rw [run_concat, hstep] at hr
        exact (h.renewals id r hr).concat _

theorem concat (h : t.Accounted moves) (hsound : (t.run moves).Sound) (m : Timestamp × Move) :
    t.Accounted (moves ++ [m]) := by
  rcases m with ⟨now, task | n⟩
  · exact h.spawn task
  · cases hthread : (t.run moves).threads[n]? with
    | none =>
      refine h.same _ ?_
      simp only [step, hthread]
    | some thread =>
      cases h.threads n thread hthread with
      | careful _ _ hcareful => exact h.advance_of_careful hsound hcareful hthread
      | read before between now' task refresh k hk hread rest hrest =>
        exact h.advance_of_read hsound hk hread hrest hthread

end Accounted

/-- At every moment all threads and all renewals are accounted for. -/
theorem accounted_run (store : Store) (moves : List (Timestamp × Move)) :
    (start store).Accounted moves := by
  induction moves using List.reverseRecOn with
  | nil => exact ⟨nofun, nofun⟩
  | append_singleton moves m ih => exact ih.concat (sound_run (sound_start store) moves) m

/-! ### Any order -/

theorem Moves.store_eq {t t' : Threads} {now : Timestamp} {n id : Nat} {answer : Result Credentials}
    {rest : Operation Reply} {r : Renewal} (hm : t.Moves (now, .advance n) t')
    (hthread : t.threads[n]? = some { task := .complete id answer, rest })
    (hr : t.session.renewals[id]? = some r) (hepoch : r.epoch ≠ t.session.epoch) :
    t'.session.store = t.session.store := by
  cases hm with
  | acted now n thread session own own' threads hthread' hact =>
    rw [hthread, Option.some.injEq] at hthread'
    subst hthread'
    exact hact.store_eq hr hepoch
  | waited now n threads => rfl

theorem Moves.attached {t t' : Threads} {m : Timestamp × Move} (hm : t.Moves m t')
    (hkept : ∀ n thread, m.2 = .advance n → t.threads[n]? = some thread →
      thread.task.isClear = true → t'.session.slot = t.session.slot) (first : Nat)
    (hslot : ∀ id, first ≤ id → t.session.IsOutstanding id → t.session.slot = some id) (id : Nat)
    (hid : first ≤ id) (hout : t'.session.IsOutstanding id) : t'.session.slot = some id := by
  cases hm with
  | spawned now task threads => exact hslot id hid hout
  | acted now n thread session own own' threads hthread hact =>
    exact hact.attached (hkept n thread rfl hthread) first hslot id hid hout
  | waited now n threads => exact hslot id hid hout

/-- A move on behalf of the end of a session that is not a reset leaves the slot as it was. -/
theorem slot_step {t : Threads} {m : Timestamp × Move} (hcalm : t.resets m = false) (n : Nat)
    (thread : Thread) (hm : m.2 = .advance n) (hthread : t.threads[n]? = some thread)
    (hclear : thread.task.isClear = true) : (t.step m).session.slot = t.session.slot := by
  rcases m with ⟨now, move⟩
  have hmove : move = .advance n := hm
  subst hmove
  simp only [resets, hthread, Option.any_some, hclear, Bool.true_and, bne_eq_false_iff_eq] at hcalm
  exact hcalm

theorem attached_run {t : Threads} (h : t.Sound) (moves : List (Timestamp × Move))
    (hcalm : t.calm moves = true) (first : Nat)
    (hslot : ∀ id, first ≤ id → t.session.IsOutstanding id → t.session.slot = some id) :
    ∀ id, first ≤ id → (t.run moves).session.IsOutstanding id →
      (t.run moves).session.slot = some id := by
  induction moves generalizing t with
  | nil => exact hslot
  | cons m moves ih =>
    simp only [calm, Bool.and_eq_true, Bool.not_eq_true'] at hcalm
    refine ih (h.moves m).2 hcalm.2 ?_
    exact (h.moves m).1.attached (slot_step hcalm.1) first hslot

/-- What holds on several threads, in any order of their sections. A renewal is of the epoch that its
thread read in some earlier move, and once the session has moved on from that epoch, no section of a
completion of it touches the store. And of the renewals that were started since the end of a session
last took one out of the slot, one at most is outstanding. -/
theorem order_on_threads (store : Store) (before since : List (Timestamp × Move)) :
    let moment := (start store).run before
    let t := moment.run since
    (∀ id r, t.session.renewals[id]? = some r →
      (start store).Started id r.refresh r.epoch (before ++ since) ∧
      (r.epoch < t.session.epoch → ∀ now n answer rest,
        t.threads[n]? = some { task := .complete id answer, rest } →
          (t.step (now, .advance n)).session.store = t.session.store)) ∧
      (moment.calm since = true → ∀ i j, moment.session.renewals.length ≤ i →
        moment.session.renewals.length ≤ j → t.session.IsOutstanding i → t.session.IsOutstanding j →
          i = j) := by
  intro moment t
  have hmoment : moment.Sound := sound_run (sound_start store) before
  have hsound : t.Sound := sound_run hmoment since
  refine ⟨?_, ?_⟩
  · intro id r hr
    have hrun : (start store).run (before ++ since) = t := List.foldl_append
    refine ⟨(accounted_run store (before ++ since)).renewals id r (by rw [hrun]; exact hr), ?_⟩
    intro hepoch now n answer rest hthread
    exact (hsound.moves (now, .advance n)).1.store_eq hthread hr (Nat.ne_of_lt hepoch)
  · intro hcalm i j hi hj hout hout'
    -- Nothing was started before the moment since the moment.
    have hnone : ∀ id, moment.session.renewals.length ≤ id → moment.session.IsOutstanding id →
        moment.session.slot = some id := by
      intro id hid hid'
      rcases hid' with ⟨r, hr, -⟩
      exact absurd (List.getElem?_eq_some_iff.mp hr).1 (Nat.not_lt.mpr hid)
    -- So both are in the slot.
    have hslot := attached_run hmoment since hcalm _ hnone
    have heq := hslot i hi hout
    rw [hslot j hj hout', Option.some.injEq] at heq
    exact heq.symm

/-- Two runs. In one a caller has read the epoch when the session is ended, and publishes its renewal
after that; the pair is not kept when the server has granted it. In the other two callers come for a
renewal, each section of the one between two of the other. There is one renewal then, and no other. -/
theorem order_on_threads_sample :
    let now : Timestamp := { seconds := 0, nanos := 0 }
    let spawn (task : Task) : Timestamp × Move := (now, .spawn task)
    let advance (n sections : Nat) : List (Timestamp × Move) :=
      .replicate sections (now, .advance n)
    let establish := spawn (.request (.establish { access := "A", refresh := "R" }))
    let renew := spawn (.request .renew)
    let clear := spawn (.request .clear)
    let complete := spawn (.complete 0 (.ok { access := "A'", refresh := "R'" }))
    let late := establish :: advance 0 4 ++ renew :: advance 1 6 ++ clear :: advance 2 5 ++
      advance 1 2 ++ complete :: advance 3 3
    let both := (List.replicate 12 (advance 1 1 ++ advance 2 1)).flatten
    let since := establish :: advance 0 4 ++ renew :: renew :: both
    let t := (start .inMemory).run late
    (∃ r, t.session.renewals[0]? = some r ∧ (start .inMemory).Started 0 r.refresh r.epoch late ∧
      r.epoch < t.session.epoch ∧
      (t.step (now, .advance 3)).session.store = t.session.store) ∧
    ((t.run (advance 3 4)).session.store.get now refreshName).1 = none ∧
    ((start .inMemory).run since).session.IsOutstanding 0 ∧
      ∀ j, ((start .inMemory).run since).session.IsOutstanding j → 0 = j := by
  intro now spawn advance establish renew clear complete late both since t
  -- This is said of any run, and the run itself is only named, because its terms are large.
  have horder : ∀ moves t', (start .inMemory).run moves = t' → ∀ r,
      t'.session.renewals[0]? = some r →
        (start .inMemory).Started 0 r.refresh r.epoch moves ∧
        (r.epoch < t'.session.epoch → ∀ answer rest,
          t'.threads[3]? = some { task := .complete 0 answer, rest } →
            (t'.step (now, .advance 3)).session.store = t'.session.store) := by
    rintro moves _ rfl r hr
    have horder := (order_on_threads .inMemory [] moves).1 0 r hr
    exact ⟨horder.1, fun hepoch => horder.2 hepoch now 3⟩
  refine ⟨?_, by decide +kernel, ?_⟩
  · obtain ⟨r, hr, hzero⟩ : ∃ r, t.session.renewals[0]? = some r ∧ r.epoch = 0 :=
      Option.map_eq_some_iff.mp (by decide +kernel)
    obtain ⟨⟨_, rest⟩, hthread, rfl⟩ : ∃ thread, t.threads[3]? = some thread ∧
        thread.task = .complete 0 (.ok { access := "A'", refresh := "R'" }) :=
      Option.map_eq_some_iff.mp (by decide +kernel)
    have hepoch : r.epoch < t.session.epoch := by
      rw [hzero]
      decide +kernel
    obtain ⟨hstarted, hstore⟩ := horder late t rfl r hr
    exact ⟨r, hr, hstarted, hepoch, hstore hepoch _ rest hthread⟩
  · have hout : ((start .inMemory).run since).session.IsOutstanding 0 := by
      rw [isOutstanding_iff, ← Option.isSome_iff_exists]
      decide +kernel
    refine ⟨hout, fun j hj => ?_⟩
    have horder := order_on_threads .inMemory [] since
    exact horder.2 (by decide +kernel) 0 j (Nat.zero_le _) (Nat.zero_le _) hout hj

/-- What does not hold on several threads, in two runs. In the first one a renewal has read its
credential when the session is ended, and its pair is kept after that. In the second one a session
begins between the two halves of the end of another, and its renewal is taken out of the slot, so
that there are two with its credential. -/
theorem race_on_threads :
    let now : Timestamp := { seconds := 0, nanos := 0 }
    let spawn (task : Task) : Timestamp × Move := (now, .spawn task)
    let advance (n sections : Nat) : List (Timestamp × Move) :=
      .replicate sections (now, .advance n)
    let establish := spawn (.request (.establish { access := "A", refresh := "R" }))
    let renew := spawn (.request .renew)
    let clear := spawn (.request .clear)
    let complete := spawn (.complete 0 (.ok { access := "A'", refresh := "R'" }))
    let stored (t : Threads) := (t.session.store.get now refreshName).1
    let calls (t : Threads) := t.session.renewals.map fun r => (r.refresh, r.outcome.isNone)
    let read := (start .inMemory).run (establish :: advance 0 4 ++ renew :: advance 1 3)
    let removed := read.run (clear :: advance 2 5)
    let ended := removed.run (advance 1 5 ++ advance 2 3)
    let halfway := (start .inMemory).run (clear :: advance 0 5)
    let begun := halfway.run (establish :: advance 1 4 ++ renew :: advance 2 8)
    (stored read = some "R" ∧ stored removed = none ∧ stored ended = none ∧
        calls ended = [("R", true)] ∧ stored (ended.run (complete :: advance 3 7)) = some "R'") ∧
      stored halfway = none ∧ stored begun = some "R" ∧
        calls (begun.run (advance 0 3 ++ renew :: advance 3 8)) = [("R", true), ("R", true)] := by
  decide +kernel

end Threads

end Wager.Session
