import Wager.Proofs.Notices.Following

/-!
# Listing notices

What a listing shows, told from what was done to the notices.

The history of a run tells which notices were added, and of each of them what has happened since
(`Showing.postings`). From that it can be read off what should be listed at some time of day
(`Showing.live`): what has not been taken back, and has no lifetime or lives still. The list itself
goes another way. Timers take from it what they were started for, and every listing drops what it
finds expired, so the list depends on who has looked at it before. It never has anything else than
what was added and is not over, and it lacks of that only what a listing has found expired
(`Showing.Accords`), whatever the clocks show.

If the clock never goes back and no timer fires early, what is missing had its time anyway, and a
listing shows exactly what it should (`Showing.lists_live`).

This needs every notice to end within the calendar. The lifetimes that notices keep are bounded, but
not by the calendar: a lifetime that is too long for the one is too long for the other by far, so a
notice ends beyond the calendar with its bounded lifetime exactly if it does with its own
(`Posting.isExpired_kept_eq_none_iff`). No listing succeeds while there is such a notice, and no
listing drops it, so that only its removal helps (`Showing.listable_iff`).

## Main definitions

* `Notice.lasts`, `Notice.IsDated`: A notice lives still; it ends within the calendar.
* `Showing.Posting`, `Showing.postings`: What was added, with what has happened since.
* `Showing.live`: What should be listed.
* `Showing.given`: The identifiers that adding has given.
* `Showing.Awaits`, `Showing.Accords`: What the timers and the list have to do with what was added.
* `Showing.Orderly`: The clock does not go back, notices end within the calendar, and timers are not
  early.

## Theorems

* `prune_isDecided_iff`: When a listing fails.
* `Showing.given_eq`: Identifiers are given in order.
* `Showing.awaits_run`, `Showing.accords_run`: Timers and list accord with what was added.
* `Showing.lists_live`: A listing shows what it should.
* `Showing.listable_iff`: When a listing succeeds.
* `Showing.overlong_lifetime`: A lifetime that makes listings fail.
-/

namespace Wager

/-! ### Ends of lifetimes -/

namespace Notice

/-- Whether a notice lives still: it has no lifetime, or its end is yet to come. -/
def lasts (n : Notice) (now : Timestamp) : Bool :=
  match n.lifetime with
  | none => true
  | some lifetime => !(n.createdAt.addMillis lifetime).le now

/-- The lifetime of a notice, if it has one, ends within the calendar. -/
def IsDated (n : Notice) : Prop :=
  ∀ lifetime, n.lifetime = some lifetime → (n.createdAt.addMillis lifetime).inRange = true

instance (n : Notice) : Decidable n.IsDated :=
  decidable_of_iff (∀ lifetime ∈ n.lifetime, (n.createdAt.addMillis lifetime).inRange = true) Iff.rfl

end Notice

/-- What is over stays over. -/
theorem Notice.lasts_of_le {n : Notice} {now later : Timestamp} (h : now.le later = true)
    (hlasts : n.lasts later = true) : n.lasts now = true := by
  unfold lasts at *
  cases hlifetime : n.lifetime with
  | none => rfl
  | some lifetime =>
    simp only [hlifetime, Bool.not_eq_true'] at hlasts ⊢
    by_contra hle
    rw [Bool.not_eq_false] at hle
    rw [Timestamp.le_trans hle h] at hlasts
    exact nomatch hlasts

/-- The longest lifetime that expiry counts with is longer than all years there are. -/
theorem Timestamp.not_inRange_addMillis {t : Timestamp} (ht : t.inRange = true) {millis : Nat}
    (h : Notice.maxCounted ≤ millis) : (t.addMillis millis).inRange = false := by
  have hmin : minSeconds = -8334601228800 := by decide
  have hmax : maxSeconds = 8210266876799 := by decide
  unfold Notice.maxCounted at h
  simp only [inRange, addMillis, hmin, hmax, Bool.and_eq_true, decide_eq_true_eq,
    Bool.and_eq_false_iff, decide_eq_false_iff_not] at *
  omega

namespace Notices

/-! ### What a listing drops -/

/-- A listing fails only because of a notice whose expiry cannot be decided. -/
theorem prune_isDecided_iff (now : Timestamp) (l : List Notice) :
    (prune now l).2 = true ↔ ∀ n ∈ l, n.isExpired now ≠ none := by
  constructor
  · intro h
    induction l with
    | nil => exact fun n hn => absurd hn List.not_mem_nil
    | cons m l ih =>
      rw [prune] at h
      cases hexpired : m.isExpired now with
      | none => simp only [hexpired, Bool.false_eq_true] at h
      | some isExpired =>
        rw [hexpired] at h
        rw [List.forall_mem_cons, hexpired]
        refine ⟨Option.some_ne_none _, ih ?_⟩
        cases isExpired with
        | true => exact h
        | false => exact h
  · intro h
    rw [prune_eq_filter h]

theorem active_of_isDecided {ns : Notices} {now : Timestamp}
    (h : ∀ n ∈ ns.items, n.isExpired now ≠ none) :
    (ns.active now).1 = some (ns.items.filter fun n => n.isExpired now = some false) := by
  rw [active, prune_eq_filter h]
  rfl

theorem active_eq_some_iff (ns : Notices) (now : Timestamp) :
    (∃ l, (ns.active now).1 = some l) ↔ ∀ n ∈ ns.items, n.isExpired now ≠ none := by
  rw [← prune_isDecided_iff, active]
  generalize prune now ns.items = pruned
  obtain ⟨items, isDecided⟩ := pruned
  cases isDecided <;> simp

namespace Showing

/-! ### What was added -/

/-- A notice that was added, as it was asked for: whether a timer was started for it, and what has
happened since. -/
structure Posting where
  notice : Notice
  isWatched : Bool
  since : List (Timestamp × Action)

/-- What some actions have added, in order. The first notice gets the identifier `id`, and every
further one the next. -/
def postings (id : Nat) : List (Timestamp × Action) → List Posting
  | [] => []
  | (now, .add kind text lifetime hasTimers) :: since =>
    ⟨⟨id, text, kind, now, lifetime⟩, lifetime.isSome && hasTimers, since⟩ ::
      postings (id + 1) since
  | _ :: since => postings id since

namespace Posting

/-- The notice as it is kept. -/
def kept (p : Posting) : Notice :=
  { p.notice with lifetime := p.notice.lifetime.map (min · Notice.maxLifetime) }

/-- The notice was removed by its identifier, or all notices were. -/
def IsTakenBack (p : Posting) : Prop :=
  ∃ a ∈ p.since, a.2 = .remove p.notice.id ∨ a.2 = .clear

instance (p : Posting) : Decidable p.IsTakenBack :=
  inferInstanceAs (Decidable (∃ a ∈ p.since, a.2 = .remove p.notice.id ∨ a.2 = .clear))

/-- An action by which the notice goes: its removal, that of all notices, or its timer. -/
def EndsBy (p : Posting) (a : Action) : Prop :=
  a = .remove p.notice.id ∨ a = .clear ∨ p.isWatched = true ∧ a = .fire p.notice.id

instance (p : Posting) (a : Action) : Decidable (p.EndsBy a) :=
  inferInstanceAs (Decidable (_ ∨ _ ∨ _ ∧ _))

/-- Such an action has happened. -/
def IsOver (p : Posting) : Prop := ∃ a ∈ p.since, p.EndsBy a.2

instance (p : Posting) : Decidable p.IsOver :=
  inferInstanceAs (Decidable (∃ a ∈ p.since, p.EndsBy a.2))

/-- A listing has found the notice expired. -/
def IsDropped (p : Posting) : Prop :=
  ∃ a ∈ p.since, a.2 = .list ∧ p.kept.isExpired a.1 = some true

/-- The posting when one more action has happened. -/
def extend (p : Posting) (a : Timestamp × Action) : Posting := { p with since := p.since ++ [a] }

@[simp] theorem notice_extend (p : Posting) (a : Timestamp × Action) :
    (p.extend a).notice = p.notice := rfl

@[simp] theorem kept_extend (p : Posting) (a : Timestamp × Action) :
    (p.extend a).kept = p.kept := rfl

theorem isOver_extend_iff (p : Posting) (a : Timestamp × Action) :
    (p.extend a).IsOver ↔ p.IsOver ∨ p.EndsBy a.2 := by
  have hends : ∀ b, (p.extend a).EndsBy b ↔ p.EndsBy b := fun _ => Iff.rfl
  simp only [IsOver, hends]
  simp only [extend, List.mem_append, List.mem_singleton, or_and_right, exists_or,
    exists_eq_left]

/-- The timer of the notice has not fired yet. -/
def IsAwaited (p : Posting) : Prop := p.isWatched = true ∧ ∀ a ∈ p.since, a.2 ≠ .fire p.notice.id

theorem isAwaited_extend_iff (p : Posting) (a : Timestamp × Action) :
    (p.extend a).IsAwaited ↔ p.IsAwaited ∧ a.2 ≠ .fire p.notice.id := by
  simp only [IsAwaited, extend, List.mem_append, List.mem_singleton, or_imp, forall_and,
    forall_eq, and_assoc]

theorem IsDropped.extend {p : Posting} (h : p.IsDropped) (a : Timestamp × Action) :
    (p.extend a).IsDropped := by
  obtain ⟨b, hb, hlist, hexpired⟩ := h
  exact ⟨b, List.mem_append_left _ hb, hlist, hexpired⟩

end Posting

/-- What was added and is not over. -/
def remaining (actions : List (Timestamp × Action)) : List Posting :=
  (postings 1 actions).filter fun p => ¬ p.IsOver

/-- What should be listed at some time of day: what was added and not taken back, and lives still. -/
def live (actions : List (Timestamp × Action)) (now : Timestamp) : List Notice :=
  ((postings 1 actions).filter fun p => ¬ p.IsTakenBack ∧ p.notice.lasts now).map Posting.notice

/-- The identifiers that adding gives in a run. -/
def given (s : Showing) : List (Timestamp × Action) → List Nat
  | [] => []
  | (now, .add kind text lifetime hasTimers) :: later =>
    (s.notices.add now kind text lifetime).1 ::
      (s.step (now, .add kind text lifetime hasTimers)).given later
  | a :: later => (s.step a).given later

theorem postings_concat (id : Nat) (actions : List (Timestamp × Action)) (a : Timestamp × Action) :
    postings id (actions ++ [a]) =
      (postings id actions).map (·.extend a) ++ postings (id + (postings id actions).length) [a] := by
  induction actions generalizing id with
  | nil => rfl
  | cons b actions ih =>
    obtain ⟨now, action⟩ := b
    cases action with
    | add kind text lifetime hasTimers =>
      simp only [List.cons_append, postings, ih, List.map_cons, List.length_cons]
      rw [Nat.add_right_comm id 1, Nat.add_assoc id]
      rfl
    | remove _ | clear | list | fire _ | look => exact ih id

/-- Notices are numbered in the order in which they are added. -/
theorem ids_postings (id : Nat) (actions : List (Timestamp × Action)) :
    (postings id actions).map (·.notice.id) = List.range' id (postings id actions).length := by
  induction actions generalizing id with
  | nil => rfl
  | cons a actions ih =>
    obtain ⟨now, action⟩ := a
    cases action with
    | add kind text lifetime hasTimers =>
      simp only [postings, List.map_cons, List.length_cons, List.range'_succ, ih]
    | remove _ | clear | list | fire _ | look => exact ih id

theorem sorted_postings (id : Nat) (actions : List (Timestamp × Action)) :
    (postings id actions).Pairwise fun p q => p.notice.id < q.notice.id := by
  have hids : (List.range' id (postings id actions).length).Pairwise (· < ·) :=
    List.pairwise_lt_range'
  rw [← ids_postings] at hids
  exact List.pairwise_map.mp hids

theorem id_lt_of_mem_postings {id : Nat} {actions : List (Timestamp × Action)} {p : Posting}
    (h : p ∈ postings id actions) : p.notice.id < id + (postings id actions).length := by
  have hid : p.notice.id ∈ (postings id actions).map (·.notice.id) := List.mem_map_of_mem h
  rw [ids_postings, List.mem_range'_1] at hid
  exact hid.2

/-! ### Identifiers -/

theorem nextId_step_fire (s : Showing) (now : Timestamp) (id : Nat) :
    (s.step (now, .fire id)).notices.nextId = s.notices.nextId := by
  by_cases h : id ∈ s.pending
  · rw [step_fire h]
    exact nextId_remove _ id
  · rw [step_fire_of_not_pending h]

theorem nextId_step (s : Showing) (a : Timestamp × Action) :
    (s.step a).notices.nextId = s.notices.nextId + (postings s.notices.nextId [a]).length := by
  obtain ⟨now, action⟩ := a
  cases action with
  | add kind text lifetime hasTimers => rfl
  | remove id => exact nextId_remove _ id
  | clear => rfl
  | list => rfl
  | fire id => exact nextId_step_fire s now id
  | look => rfl

/-- Adding gives the identifiers by which the notices are known afterwards. -/
theorem given_eq (s : Showing) (actions : List (Timestamp × Action)) :
    s.given actions = (postings s.notices.nextId actions).map (·.notice.id) := by
  induction actions generalizing s with
  | nil => rfl
  | cons a actions ih =>
    have hnext := nextId_step s a
    obtain ⟨now, action⟩ := a
    cases action with
    | add kind text lifetime hasTimers =>
      rw [given, ih, hnext]
      rfl
    | remove _ | clear | list | fire _ | look =>
      rw [given, ih, hnext]
      · rfl
      · exact fun _ _ _ _ _ h => nomatch h

theorem nextId_run (actions : List (Timestamp × Action)) :
    (run {} actions).notices.nextId = 1 + (postings 1 actions).length := by
  induction actions using List.reverseRecOn with
  | nil => rfl
  | append_singleton actions a ih =>
    rw [run_concat, nextId_step, postings_concat, List.length_append, List.length_map, ih,
      Nat.add_assoc]

/-! ### Timers that have not fired -/

/-- The timers that have not fired are those of what is watched, one for each. -/
structure Awaits (s : Showing) (actions : List (Timestamp × Action)) : Prop where
  nodup : s.pending.Nodup
  mem_iff : ∀ p ∈ postings 1 actions, p.notice.id ∈ s.pending ↔ p.IsAwaited

namespace Awaits

variable {s s' : Showing} {actions : List (Timestamp × Action)}

/-- An action that adds nothing, and is no timer that has not fired. -/
theorem of_pending_eq (h : s.Awaits actions) {a : Timestamp × Action}
    (hpending : s'.pending = s.pending)
    (hnone : postings (1 + (postings 1 actions).length) [a] = [])
    (hother : ∀ id ∈ s.pending, a.2 ≠ .fire id) : s'.Awaits (actions ++ [a]) where
  nodup := hpending ▸ h.nodup
  mem_iff p hp := by
    rw [postings_concat, hnone, List.append_nil, List.mem_map] at hp
    obtain ⟨q, hq, rfl⟩ := hp
    rw [hpending, Posting.isAwaited_extend_iff, ← h.mem_iff q hq, Posting.notice_extend]
    exact ⟨fun hid => ⟨hid, hother _ hid⟩, And.left⟩

theorem add (h : s.Awaits actions) (hnext : s.notices.nextId = 1 + (postings 1 actions).length)
    (hfresh : s.notices.nextId ∉ s.pending) (now : Timestamp) (kind : Notice.Kind) (text : String)
    (lifetime : Option Nat) (hasTimers : Bool) :
    (s.step (now, .add kind text lifetime hasTimers)).Awaits
      (actions ++ [(now, .add kind text lifetime hasTimers)]) := by
  have hpending : (s.step (now, .add kind text lifetime hasTimers)).pending =
      if lifetime.isSome && hasTimers then s.pending ++ [s.notices.nextId] else s.pending := rfl
  refine ⟨?_, fun p hp => ?_⟩
  · rw [hpending]
    split
    · refine List.nodup_append.mpr ⟨h.nodup, List.nodup_singleton _, ?_⟩
      rintro m hm n hn rfl
      rw [List.mem_singleton.mp hn] at hm
      exact hfresh hm
    · exact h.nodup
  · rw [postings_concat, ← hnext, List.mem_append, List.mem_map] at hp
    rw [hpending]
    rcases hp with ⟨q, hq, rfl⟩ | hp
    · have hne : q.notice.id ≠ s.notices.nextId := by
        rw [hnext]
        exact Nat.ne_of_lt (id_lt_of_mem_postings hq)
      rw [Posting.isAwaited_extend_iff, ← h.mem_iff q hq, Posting.notice_extend]
      split <;> simp [hne]
    · -- Nothing has happened yet since the new notice was added.
      rw [List.mem_singleton.mp hp]
      simp only [Posting.IsAwaited, List.not_mem_nil, false_implies, implies_true, and_true]
      split <;> simp_all

theorem fire (h : s.Awaits actions) (now : Timestamp) (id : Nat) :
    (s.step (now, .fire id)).Awaits (actions ++ [(now, .fire id)]) := by
  by_cases hid : id ∈ s.pending
  · rw [step_fire hid]
    refine ⟨h.nodup.erase id, fun p hp => ?_⟩
    rw [postings_concat, List.mem_append, List.mem_map] at hp
    obtain ⟨q, hq, rfl⟩ := hp.resolve_right List.not_mem_nil
    rw [Posting.isAwaited_extend_iff, ← h.mem_iff q hq, Posting.notice_extend,
      h.nodup.mem_erase_iff, and_comm, ne_eq, ne_eq, Action.fire.injEq, eq_comm]
  · rw [step_fire_of_not_pending hid]
    refine h.of_pending_eq rfl rfl ?_
    rintro other hother heq
    rw [Action.fire.injEq] at heq
    exact hid (heq ▸ hother)

end Awaits

theorem awaits_run (actions : List (Timestamp × Action)) : (run {} actions).Awaits actions := by
  induction actions using List.reverseRecOn with
  | nil => exact ⟨.nil, fun p hp => absurd hp List.not_mem_nil⟩
  | append_singleton actions a ih =>
    have hfresh : (run {} actions).notices.nextId ∉ (run {} actions).pending := fun h =>
      Nat.lt_irrefl _ ((sound_run sound_start actions).pending _ h)
    rw [run_concat]
    obtain ⟨now, action⟩ := a
    cases action with
    | add kind text lifetime hasTimers =>
      exact ih.add (nextId_run actions) hfresh now kind text lifetime hasTimers
    | remove id => exact ih.of_pending_eq rfl rfl fun _ _ h => nomatch h
    | clear => exact ih.of_pending_eq rfl rfl fun _ _ h => nomatch h
    | list => exact ih.of_pending_eq rfl rfl fun _ _ h => nomatch h
    | fire id => exact ih.fire now id
    | look => exact ih.of_pending_eq rfl rfl fun _ _ h => nomatch h

/-! ### The list -/

/-- What the list has to do with what was added: it has only what is not over, in its order, and
lacks of that only what a listing has dropped. -/
structure Accords (s : Showing) (actions : List (Timestamp × Action)) : Prop where
  items : s.notices.items.Sublist ((remaining actions).map Posting.kept)
  dropped : ∀ p ∈ remaining actions, p.kept ∉ s.notices.items → p.IsDropped

theorem since_postings_singleton {id : Nat} {a : Timestamp × Action} {p : Posting}
    (h : p ∈ postings id [a]) : p.since = [] := by
  obtain ⟨now, action⟩ := a
  cases action with
  | add kind text lifetime hasTimers => rw [List.mem_singleton.mp h]
  | remove _ | clear | list | fire _ | look => exact absurd h List.not_mem_nil

/-- An action ends some of what remains, and may add to it. -/
theorem remaining_concat (actions : List (Timestamp × Action)) (a : Timestamp × Action) :
    remaining (actions ++ [a]) =
      ((remaining actions).filter fun p => ¬ p.EndsBy a.2).map (·.extend a) ++
        postings (1 + (postings 1 actions).length) [a] := by
  have hnew : ∀ p ∈ postings (1 + (postings 1 actions).length) [a], ¬ p.IsOver := by
    rintro p hp ⟨b, hb, -⟩
    rw [since_postings_singleton hp] at hb
    exact List.not_mem_nil hb
  rw [remaining, postings_concat, List.filter_append, List.filter_map, remaining,
    List.filter_filter]
  congr 1
  · congr 1
    refine List.filter_congr fun p _ => ?_
    simp only [Function.comp_apply, Posting.isOver_extend_iff, not_or, Bool.decide_and,
      Bool.and_comm]
  · exact List.filter_eq_self.mpr fun p hp => decide_eq_true (hnew p hp)

/-- An action that adds nothing, and takes from the list what it ends. -/
theorem Accords.of_filter {s s' : Showing} {actions : List (Timestamp × Action)}
    (h : s.Accords actions) {a : Timestamp × Action} (keeps : Nat → Bool)
    (hnone : postings (1 + (postings 1 actions).length) [a] = [])
    (hends : ∀ p ∈ remaining actions, ¬ p.EndsBy a.2 ↔ keeps p.notice.id = true)
    (hitems : s'.notices.items = s.notices.items.filter fun n => keeps n.id) :
    s'.Accords (actions ++ [a]) := by
  have hremaining : remaining (actions ++ [a]) =
      ((remaining actions).filter fun p => keeps p.notice.id).map (·.extend a) := by
    rw [remaining_concat, hnone, List.append_nil]
    congr 1
    refine List.filter_congr fun p hp => ?_
    rw [Bool.eq_iff_iff, decide_eq_true_iff]
    exact hends p hp
  refine ⟨?_, ?_⟩
  · -- What is kept of a posting does not depend on what happens later.
    have hkept : (((remaining actions).filter fun p => keeps p.notice.id).map
        (·.extend a)).map Posting.kept =
          ((remaining actions).map Posting.kept).filter fun n => keeps n.id := by
      rw [List.map_map, List.filter_map]
      rfl
    rw [hitems, hremaining, hkept]
    exact h.items.filter _
  · intro p hp hgone
    rw [hremaining, List.mem_map] at hp
    obtain ⟨q, hq, rfl⟩ := hp
    rw [List.mem_filter] at hq
    rw [hitems, List.mem_filter, Posting.kept_extend] at hgone
    exact (h.dropped q hq.1 fun hlisted => hgone ⟨hlisted, hq.2⟩).extend a

/-- A new notice comes last. -/
theorem Accords.add {s : Showing} {actions : List (Timestamp × Action)} (h : s.Accords actions)
    (hnext : s.notices.nextId = 1 + (postings 1 actions).length) (now : Timestamp)
    (kind : Notice.Kind) (text : String) (lifetime : Option Nat) (hasTimers : Bool) :
    (s.step (now, .add kind text lifetime hasTimers)).Accords
      (actions ++ [(now, .add kind text lifetime hasTimers)]) := by
  have hremaining : (remaining (actions ++ [(now, .add kind text lifetime hasTimers)])).map
      Posting.kept = (remaining actions).map Posting.kept ++
        [s.notices.next now kind text lifetime] := by
    have hends : ∀ p ∈ remaining actions,
        decide (¬ p.EndsBy (.add kind text lifetime hasTimers)) = true := by
      intro p _
      simp [Posting.EndsBy]
    rw [remaining_concat, List.filter_eq_self.mpr hends, List.map_append, List.map_map, ← hnext]
    rfl
  have hitems : (s.step (now, .add kind text lifetime hasTimers)).notices.items =
      s.notices.items ++ [s.notices.next now kind text lifetime] := rfl
  refine ⟨?_, ?_⟩
  · rw [hitems, hremaining]
    exact h.items.append (.refl _)
  · intro p hp hgone
    rw [hitems, List.mem_append, not_or] at hgone
    rw [remaining_concat, List.mem_append, List.mem_map] at hp
    rcases hp with ⟨q, hq, rfl⟩ | hp
    · exact (h.dropped q (List.mem_of_mem_filter hq) hgone.1).extend _
    · -- The new notice is listed.
      rw [← hnext] at hp
      rw [List.mem_singleton.mp hp] at hgone
      exact absurd (List.mem_singleton.mpr rfl) hgone.2

/-- A listing drops what it finds expired. -/
theorem Accords.list {s : Showing} {actions : List (Timestamp × Action)} (h : s.Accords actions)
    (now : Timestamp) : (s.step (now, .list)).Accords (actions ++ [(now, .list)]) := by
  have hremaining : remaining (actions ++ [(now, .list)]) =
      (remaining actions).map (·.extend (now, .list)) := by
    have hends : ∀ p ∈ remaining actions, decide (¬ p.EndsBy .list) = true := by
      intro p _
      simp [Posting.EndsBy]
    rw [remaining_concat, List.filter_eq_self.mpr hends]
    exact List.append_nil _
  have hitems : (s.step (now, .list)).notices.items = (prune now s.notices.items).1 := rfl
  refine ⟨?_, ?_⟩
  · rw [hitems, hremaining, List.map_map]
    exact (prune_fades now s.notices.items).1.trans h.items
  · intro p hp hgone
    rw [hremaining, List.mem_map] at hp
    obtain ⟨q, hq, rfl⟩ := hp
    rw [hitems, Posting.kept_extend] at hgone
    by_cases hlisted : q.kept ∈ s.notices.items
    · exact ⟨(now, .list), List.mem_append_right _ List.mem_cons_self, rfl,
        isExpired_of_pruned hlisted hgone⟩
    · exact (h.dropped q hq hlisted).extend _

/-- A timer takes away what it was started for, unless it has fired before. -/
theorem Accords.fire {s : Showing} {actions : List (Timestamp × Action)} (h : s.Accords actions)
    (hawaits : s.Awaits actions) (now : Timestamp) (id : Nat) :
    (s.step (now, .fire id)).Accords (actions ++ [(now, .fire id)]) := by
  have hmem : ∀ p ∈ remaining actions, p.notice.id ∈ s.pending ↔ p.IsAwaited := fun p hp =>
    hawaits.mem_iff p (List.mem_of_mem_filter hp)
  by_cases hid : id ∈ s.pending
  · rw [step_fire hid]
    refine h.of_filter (· != id) rfl ?_ (items_remove _ id)
    intro p hp
    have hwatched : p.notice.id = id → p.isWatched = true := by
      rintro rfl
      exact ((hmem p hp).mp hid).1
    simp only [Posting.EndsBy, reduceCtorEq, false_or, Action.fire.injEq, not_and, bne_iff_ne,
      ne_eq]
    exact ⟨fun hends heq => hends (hwatched heq) heq.symm, fun hne _ heq => hne heq.symm⟩
  · rw [step_fire_of_not_pending hid]
    refine h.of_filter (fun _ => true) rfl ?_ (List.filter_true _).symm
    intro p hp
    simp only [Posting.EndsBy, reduceCtorEq, false_or, Action.fire.injEq, not_and, iff_true]
    rintro hwatched rfl
    -- What remains has not had its timer fire, so that timer would be pending.
    rw [remaining, List.mem_filter, decide_eq_true_iff] at hp
    refine hid ((hawaits.mem_iff p hp.1).mpr ⟨hwatched, fun a ha hfire => hp.2 ⟨a, ha, ?_⟩⟩)
    exact .inr (.inr ⟨hwatched, hfire⟩)

theorem accords_run (actions : List (Timestamp × Action)) : (run {} actions).Accords actions := by
  induction actions using List.reverseRecOn with
  | nil => exact ⟨.refl _, fun p hp => absurd hp List.not_mem_nil⟩
  | append_singleton actions a ih =>
    rw [run_concat]
    obtain ⟨now, action⟩ := a
    cases action with
    | add kind text lifetime hasTimers =>
      exact ih.add (nextId_run actions) now kind text lifetime hasTimers
    | remove id =>
      refine ih.of_filter (· != id) rfl ?_ (items_remove _ id)
      intro p _
      simp only [Posting.EndsBy, Action.remove.injEq, reduceCtorEq, and_false, or_false, bne_iff_ne]
      exact ne_comm
    | clear =>
      refine ih.of_filter (fun _ => false) rfl ?_ ?_
      · intro p _
        simp only [Posting.EndsBy, reduceCtorEq, and_false, or_false, or_true, not_true_eq_false,
          Bool.false_eq_true]
      · exact (List.filter_eq_nil_iff.mpr fun _ _ => Bool.false_ne_true).symm
    | list => exact ih.list now
    | fire id => exact ih.fire (awaits_run actions) now id
    | look =>
      refine ih.of_filter (fun _ => true) rfl ?_ (List.filter_true _).symm
      intro p _
      simp only [Posting.EndsBy, reduceCtorEq, and_false, or_false, not_false_eq_true]

/-! ### Ends within the calendar -/

/-- A bounded lifetime ends beyond the calendar exactly if the lifetime itself does. -/
theorem Posting.isExpired_kept_eq_none_iff {p : Posting}
    (h : p.notice.createdAt.inRange = true) (now : Timestamp) :
    p.kept.isExpired now = none ↔ ¬ p.notice.IsDated := by
  obtain ⟨⟨id, text, kind, createdAt, lifetime⟩, isWatched, since⟩ := p
  cases lifetime with
  | none => simp [kept, Notice.isExpired, Notice.IsDated]
  | some lifetime =>
    have hbounded : (createdAt.addMillis
        (min (min lifetime Notice.maxLifetime) Notice.maxCounted)).inRange =
          (createdAt.addMillis lifetime).inRange := by
      have hle : Notice.maxCounted ≤ Notice.maxLifetime := by decide
      by_cases hcounted : lifetime ≤ Notice.maxCounted
      · rw [Nat.min_eq_left (Nat.le_trans hcounted hle), Nat.min_eq_left hcounted]
      · -- Both end beyond the calendar.
        rw [Timestamp.not_inRange_addMillis h (by omega),
          Timestamp.not_inRange_addMillis h (by omega)]
    simp only [kept, Notice.isExpired, Option.map_some, Timestamp.addMillis?, Option.map_eq_none_iff,
      Notice.IsDated, Option.some.injEq, forall_eq', hbounded]
    split <;> simp_all

/-- A lifetime that ends within the calendar is below all bounds. -/
theorem lifetime_lt_of_isDated {n : Notice} (h : n.createdAt.inRange = true) (hdated : n.IsDated)
    {lifetime : Nat} (hlifetime : n.lifetime = some lifetime) : lifetime < Notice.maxCounted := by
  by_contra hle
  have hout := Timestamp.not_inRange_addMillis h (Nat.le_of_not_lt hle)
  rw [hdated lifetime hlifetime] at hout
  exact nomatch hout

/-- A notice that ends within the calendar is kept as it was asked for. -/
theorem Posting.kept_of_isDated {p : Posting} (h : p.notice.createdAt.inRange = true)
    (hdated : p.notice.IsDated) : p.kept = p.notice := by
  have hlifetime : p.notice.lifetime.map (min · Notice.maxLifetime) = p.notice.lifetime := by
    cases heq : p.notice.lifetime with
    | none => rfl
    | some lifetime =>
      have hlt := lifetime_lt_of_isDated h hdated heq
      have hle : Notice.maxCounted ≤ Notice.maxLifetime := by decide
      rw [Option.map_some, Nat.min_eq_left (by omega)]
  rw [kept, hlifetime]

/-- Such a notice has expired when its end has come. -/
theorem isExpired_of_isDated {n : Notice} (h : n.createdAt.inRange = true) (hdated : n.IsDated)
    (now : Timestamp) : n.isExpired now = some (!n.lasts now) := by
  unfold Notice.isExpired Notice.lasts
  cases heq : n.lifetime with
  | none => rfl
  | some lifetime =>
    have hlt := lifetime_lt_of_isDated h hdated heq
    simp only [Nat.min_eq_left (Nat.le_of_lt hlt), Timestamp.addMillis?, hdated lifetime heq,
      if_true, Option.map_some, Bool.not_not]

/-! ### What should be listed -/

/-- What has happened since is part of what has happened. -/
theorem since_subset {id : Nat} {actions : List (Timestamp × Action)} {p : Posting}
    (h : p ∈ postings id actions) : p.since ⊆ actions := by
  induction actions generalizing id with
  | nil => exact absurd h List.not_mem_nil
  | cons a actions ih =>
    obtain ⟨now, action⟩ := a
    cases action with
    | add kind text lifetime hasTimers =>
      rcases List.mem_cons.mp h with rfl | h
      · exact List.subset_cons_self _ _
      · exact List.subset_cons_of_subset _ (ih h)
    | remove _ | clear | list | fire _ | look => exact List.subset_cons_of_subset _ (ih h)

/-- A notice is created at a time that the clock has shown. -/
theorem createdAt_mem {id : Nat} {actions : List (Timestamp × Action)} {p : Posting}
    (h : p ∈ postings id actions) : p.notice.createdAt ∈ actions.map (·.1) := by
  induction actions generalizing id with
  | nil => exact absurd h List.not_mem_nil
  | cons a actions ih =>
    rw [List.map_cons, List.mem_cons]
    obtain ⟨now, action⟩ := a
    cases action with
    | add kind text lifetime hasTimers =>
      rcases List.mem_cons.mp h with rfl | h
      · exact .inl rfl
      · exact .inr (ih h)
    | remove _ | clear | list | fire _ | look => exact .inr (ih h)

/-- No time that the clock has shown is later than this one, as is so of a clock that never goes
back. Every notice is added at a time within the calendar and ends within it, and no timer fires
while its notice lives. -/
structure Orderly (actions : List (Timestamp × Action)) (now : Timestamp) : Prop where
  clock : ∀ a ∈ actions, a.1.le now = true
  dated : ∀ p ∈ postings 1 actions, p.notice.createdAt.inRange = true ∧ p.notice.IsDated
  timers : ∀ p ∈ postings 1 actions, p.isWatched = true →
    ∀ a ∈ p.since, a.2 = .fire p.notice.id → p.notice.lasts a.1 = false

namespace Orderly

variable {actions : List (Timestamp × Action)} {now : Timestamp}

/-- What lives still and was not taken back is not over. -/
theorem mem_remaining (h : Orderly actions now) {p : Posting} (hp : p ∈ postings 1 actions)
    (hlasts : p.notice.lasts now = true) (hkept : ¬ p.IsTakenBack) : p ∈ remaining actions := by
  refine List.mem_filter.mpr ⟨hp, decide_eq_true ?_⟩
  rintro ⟨a, ha, hremoved | hcleared | ⟨hwatched, hfired⟩⟩
  · exact hkept ⟨a, ha, .inl hremoved⟩
  · exact hkept ⟨a, ha, .inr hcleared⟩
  · -- Its timer would have fired while it lived.
    have hlasted := Notice.lasts_of_le (h.clock a (since_subset hp ha)) hlasts
    rw [h.timers p hp hwatched a ha hfired] at hlasted
    exact nomatch hlasted

/-- Nor has a listing dropped it. -/
theorem not_isDropped (h : Orderly actions now) {p : Posting} (hp : p ∈ postings 1 actions)
    (hlasts : p.notice.lasts now = true) : ¬ p.IsDropped := by
  rintro ⟨a, ha, -, hexpired⟩
  obtain ⟨hrange, hdated⟩ := h.dated p hp
  have hlasted := Notice.lasts_of_le (h.clock a (since_subset hp ha)) hlasts
  rw [p.kept_of_isDated hrange hdated, isExpired_of_isDated hrange hdated, hlasted] at hexpired
  exact nomatch hexpired

/-- What is listed and lives still is what should be listed. -/
theorem filter_lasts_eq_live (h : Orderly actions now) :
    (run {} actions).notices.items.filter (·.lasts now) = live actions now := by
  have haccords := accords_run actions
  have hkept : ∀ p ∈ postings 1 actions, p.kept = p.notice := fun p hp =>
    p.kept_of_isDated (h.dated p hp).1 (h.dated p hp).2
  refine eq_of_sublist_of_subset ?_ ?_ ?_
  · -- The list has only what is not over, and that was not taken back.
    have hover : ∀ p : Posting, ¬ p.IsOver → ¬ p.IsTakenBack := by
      rintro p hnot ⟨a, ha, hremoved | hcleared⟩
      · exact hnot ⟨a, ha, .inl hremoved⟩
      · exact hnot ⟨a, ha, .inr (.inl hcleared)⟩
    have hsame : (remaining actions).map Posting.kept = (remaining actions).map Posting.notice :=
      List.map_congr_left fun p hp => hkept p (List.mem_of_mem_filter hp)
    refine (haccords.items.filter _).trans ?_
    rw [hsame, List.filter_map, remaining, List.filter_filter]
    refine (List.monotone_filter_right _ fun p hp => ?_).map _
    simp only [Function.comp_apply, Bool.and_eq_true, decide_eq_true_iff] at hp ⊢
    exact ⟨hover p hp.2, hp.1⟩
  · refine List.Pairwise.map _ ?_ ((sorted_postings 1 actions).sublist List.filter_sublist)
    rintro p q hlt heq
    rw [heq] at hlt
    exact Nat.lt_irrefl _ hlt
  · intro n hn
    obtain ⟨p, hp, rfl⟩ := List.mem_map.mp hn
    rw [List.mem_filter, decide_eq_true_iff] at hp
    obtain ⟨hp, hback, hlasts⟩ := hp
    rw [List.mem_filter, ← hkept p hp]
    refine ⟨?_, by rwa [hkept p hp]⟩
    by_contra hgone
    exact h.not_isDropped hp hlasts
      (haccords.dropped p (h.mem_remaining hp hlasts hback) hgone)

end Orderly

/-- A listing shows what it should. Adding gives identifiers in increasing order, by which the notices
are known; and if the clock never goes back, notices end within the calendar and no timer is early,
what is listed at some time is exactly what was added and not taken back, by its identifier or with
all others, and has no lifetime or lives still, as it was added and in that order. -/
theorem lists_live (actions : List (Timestamp × Action)) :
    (given {} actions).Pairwise (· < ·) ∧
    given {} actions = (postings 1 actions).map (·.notice.id) ∧
    ∀ now, Orderly actions now →
      ((run {} actions).notices.active now).1 = some (live actions now) := by
  refine ⟨?_, given_eq {} actions, ?_⟩
  · rw [given_eq]
    exact List.pairwise_map.mpr (sorted_postings 1 actions)
  · intro now h
    -- Every notice ends within the calendar, so of each it is decided whether it has expired.
    have hlisted : ∀ n ∈ (run {} actions).notices.items,
        n.isExpired now = some (!n.lasts now) := by
      intro n hn
      obtain ⟨p, hp, rfl⟩ := List.mem_map.mp ((accords_run actions).items.subset hn)
      obtain ⟨hrange, hdated⟩ := h.dated p (List.mem_of_mem_filter hp)
      rw [p.kept_of_isDated hrange hdated]
      exact isExpired_of_isDated hrange hdated now
    have hdecided : ∀ n ∈ (run {} actions).notices.items, n.isExpired now ≠ none := by
      intro n hn
      rw [hlisted n hn]
      exact Option.some_ne_none _
    have hfilter : (run {} actions).notices.items.filter (fun n => n.isExpired now = some false) =
        (run {} actions).notices.items.filter (·.lasts now) := by
      refine List.filter_congr fun n hn => ?_
      rw [hlisted n hn]
      simp
    rw [active_of_isDecided hdecided, hfilter, h.filter_lasts_eq_live]

/-- Of five notices one is removed, one is dropped by a listing, one is cleared, and one has its timer
fire; and the fifth is a prompt. -/
theorem lists_live_sample :
    let actions : List (Timestamp × Action) := [(⟨0, 0⟩, .add .error "cleared" (some 3000) true),
      (⟨0, 0⟩, .clear), (⟨1, 0⟩, .add .loading "prompt" none true),
      (⟨1, 0⟩, .add .success "removed" (some 3000) true), (⟨1, 0⟩, .remove 3),
      (⟨1, 0⟩, .add .warning "dropped" (some 1000) false), (⟨2, 0⟩, .list),
      (⟨2, 0⟩, .add .warning "timed" (some 1000) true), (⟨3, 0⟩, .fire 5)]
    let now : Timestamp := ⟨3, 500⟩
    Orderly actions now ∧ ((run {} actions).notices.active now).1 =
      some [⟨2, "prompt", .loading, ⟨1, 0⟩, none⟩] := by
  intro actions now
  have horderly : Orderly actions now := by
    exact ⟨by decide, by decide, by decide⟩
  exact ⟨horderly, (lists_live actions).2.2 now horderly⟩

/-! ### Listings that fail -/

/-- When a listing succeeds. With clocks that show times within the calendar, in whatever order, it
does exactly if all that was added with an end beyond the calendar is over: it was removed, all
notices were, or its timer has fired. No listing drops such a notice. -/
theorem listable_iff (actions : List (Timestamp × Action))
    (h : ∀ a ∈ actions, a.1.inRange = true) (now : Timestamp) :
    ((∃ l, ((run {} actions).notices.active now).1 = some l) ↔
      ∀ p ∈ postings 1 actions, p.notice.IsDated ∨ p.IsOver) ∧
    ∀ p ∈ postings 1 actions, ¬ p.notice.IsDated → ¬ p.IsOver →
      p.kept ∈ (run {} actions).notices.items ∧
        p.kept ∈ ((run {} actions).notices.active now).2.items := by
  have haccords := accords_run actions
  have hrange : ∀ p ∈ postings 1 actions, p.notice.createdAt.inRange = true := by
    intro p hp
    obtain ⟨a, ha, heq⟩ := List.mem_map.mp (createdAt_mem hp)
    rw [← heq]
    exact h a ha
  -- What ends beyond the calendar never counts as expired, so no listing has dropped it.
  have hlisted : ∀ p ∈ postings 1 actions, ¬ p.notice.IsDated → ¬ p.IsOver →
      p.kept ∈ (run {} actions).notices.items := by
    intro p hp hdated hover
    by_contra hgone
    obtain ⟨a, -, -, hexpired⟩ :=
      haccords.dropped p (List.mem_filter.mpr ⟨hp, decide_eq_true hover⟩) hgone
    rw [(p.isExpired_kept_eq_none_iff (hrange p hp) a.1).mpr hdated] at hexpired
    exact nomatch hexpired
  refine ⟨?_, ?_⟩
  · rw [active_eq_some_iff]
    constructor
    · intro hdecided p hp
      by_contra hnot
      rw [not_or] at hnot
      exact hdecided p.kept (hlisted p hp hnot.1 hnot.2)
        ((p.isExpired_kept_eq_none_iff (hrange p hp) now).mpr hnot.1)
    · intro hdated n hn
      obtain ⟨p, hp, rfl⟩ := List.mem_map.mp (haccords.items.subset hn)
      rw [remaining, List.mem_filter, decide_eq_true_iff] at hp
      rw [ne_eq, p.isExpired_kept_eq_none_iff (hrange p hp.1) now, not_not]
      exact (hdated p hp.1).resolve_right hp.2
  · intro p hp hdated hover
    refine ⟨hlisted p hp hdated hover, ?_⟩
    by_contra hgone
    have hexpired := isExpired_of_pruned (hlisted p hp hdated hover) hgone
    rw [(p.isExpired_kept_eq_none_iff (hrange p hp) now).mpr hdated] at hexpired
    exact nomatch hexpired

/-- A notice for a minute, and one whose lifetime is the largest that expiry counts with and that was
removed. Listing finds the first one. -/
theorem listable_iff_sample :
    let now : Timestamp := ⟨1700000000, 0⟩
    let actions : List (Timestamp × Action) := [(now, .add .success "minute" (some 60000) false),
      (now, .add .warning "ages" (some 9223372036854775807) true), (now, .remove 2)]
    (∀ a ∈ actions, a.1.inRange = true) ∧ ∃ l, ((run {} actions).notices.active now).1 = some l := by
  intro now actions
  have h : ∀ a ∈ actions, a.1.inRange = true := by decide
  exact ⟨h, (listable_iff actions h now).1.mpr (by decide)⟩

/-- What is not so of every lifetime. Beside a prompt there is a notice with the largest lifetime that
expiry counts with. It is still on the list, but nobody gets to see the list any more. -/
theorem overlong_lifetime :
    let now : Timestamp := ⟨1700000000, 0⟩
    let s := run {} [(now, .add .loading "kept" none true),
      (now, .add .success "big" (some 9223372036854775807) true), (now, .list)]
    (s.notices.active now).1 = none ∧ s.notices.items.map Notice.text = ["kept", "big"] := by
  decide

end Showing

end Notices

end Wager
