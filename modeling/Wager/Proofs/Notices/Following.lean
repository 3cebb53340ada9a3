import Mathlib.Data.List.Induction
import Mathlib.Data.List.Perm.Subperm
import Wager.Proofs.Notices.Fading

/-!
# Following notices

What a renderer has on its screen that follows the events, and what another one is given that lists
the notices.

Notices are added, removed, cleared and listed by anybody at any time of day, and timers fire in any
order. A timer is started with each notice that has a lifetime, if there is something for it to run
on. What a follower has on its screen is what the events say that it has seen (`screen`).

A notice that goes is announced, with one exception. Listing drops what has expired by the time of
day, and says nothing; the timer then finds nothing that it could announce when it fires. So a
follower keeps for good what was listed between its expiry and its timer (`silent_drop`). Nothing
else is lost: the list and the screen of whoever has seen everything are the same, in the same order,
but for what a listing has dropped in this way (`Showing.shows_run`). As long as every listing comes
when the timers of all that has expired have fired, following is as good as listing
(`Showing.following`).

## Main definitions

* `Notices.screen`: What a follower shows.
* `Notices.Shows`: What the screen of a follower that has seen everything has to do with the list.
* `Notices.Showing`, `Showing.Action`: Notices with their timers and a follower, and what happens.
* `Showing.HasFired`: The timers of all that has expired have fired.
* `Showing.Drops`: A listing drops a notice before its timer has fired.

## Theorems

* `Shows.add`, `Shows.remove`, `Shows.clear`, `Shows.active`: What each operation does to list and
  screen.
* `Showing.run_fire`: The timers of a clock fire in one of the orders.
* `Showing.gone_announced`: What goes is announced, or dropped by a listing.
* `Showing.shows_run`: What is on the screen and not on the list was dropped by a listing.
* `Showing.following`: Following is as good as listing.
* `Showing.silent_drop`: A notice that is gone and still on the screen.
-/

namespace Wager.Notices

/-! ### Screens -/

/-- A screen after an event. -/
def Event.applyTo (screen : List Notice) : Event → List Notice
  | .added n => screen ++ [n]
  | .removed id => screen.filter (·.id != id)
  | .cleared => []

/-- A screen after what a follower finds. What it has missed changes nothing. -/
def Seen.applyTo (screen : List Notice) : Seen → List Notice
  | .event e => e.applyTo screen
  | .lagged _ => screen

/-- What a follower shows that has seen this. -/
def screen (seen : List Seen) : List Notice := seen.foldl Seen.applyTo []

/-- What a follower shows that has seen everything from the start. -/
def shown (ns : Notices) : List Notice := screen (ns.events.map .event)

/-- An event by which a notice is gone. -/
def Event.Ends (e : Event) (n : Notice) : Prop := e = .removed n.id ∨ e = .cleared

@[simp] theorem shown_announce (ns : Notices) (e : Event) :
    (ns.announce e).shown = e.applyTo ns.shown := by
  simp only [shown, screen, announce, List.map_append, List.map_cons, List.map_nil,
    List.foldl_append, List.foldl_cons, List.foldl_nil, Seen.applyTo]

/-! ### The list and the screen -/

/-- The screen of a follower that has seen everything: what is listed in its order, and besides only
what was lost. -/
structure Shows (ns : Notices) (lost : Notice → Prop) : Prop where
  items : ns.items.Sublist ns.shown
  lost : ∀ n ∈ ns.shown, n ∉ ns.items → lost n
  sorted : ns.shown.Pairwise fun m n => m.id < n.id
  lt : ∀ n ∈ ns.shown, n.id < ns.nextId

theorem shows_empty : ({} : Notices).Shows fun _ => False :=
  ⟨.refl _, fun _ h => absurd h List.not_mem_nil, .nil, fun _ h => absurd h List.not_mem_nil⟩

theorem shown_add (ns : Notices) (now : Timestamp) (kind : Notice.Kind) (text : String)
    (lifetime : Option Nat) : (ns.add now kind text lifetime).2.shown =
      ns.shown ++ [ns.next now kind text lifetime] :=
  shown_announce _ _

/-- Removing what is not listed says nothing. -/
theorem remove_of_not_listed {ns : Notices} {id : Nat} (h : ∀ n ∈ ns.items, n.id ≠ id) :
    ns.remove id = ns := by
  have hnone : ns.items.any (·.id == id) = false := by
    rw [List.any_eq_false]
    intro n hn heq
    exact h n hn (beq_iff_eq.mp heq)
  rw [remove, if_neg (ne_true_of_eq_false hnone)]

/-- Removing what is listed is announced. -/
theorem remove_of_listed {ns : Notices} {n : Notice} (h : n ∈ ns.items) :
    ns.remove n.id =
      { ns with items := ns.items.filter (·.id != n.id) }.announce (.removed n.id) := by
  rw [remove, if_pos (List.any_eq_true.mpr ⟨n, h, beq_self_eq_true n.id⟩)]

/-- Only what has expired is dropped. -/
theorem isExpired_of_pruned {now : Timestamp} {l : List Notice} {n : Notice} (hn : n ∈ l)
    (hgone : n ∉ (prune now l).1) : n.isExpired now = some true := by
  induction l with
  | nil => exact absurd hn List.not_mem_nil
  | cons m l ih =>
    rw [prune] at hgone
    cases hexpired : m.isExpired now with
    | none =>
      -- From here on everything is kept.
      rw [hexpired] at hgone
      exact absurd hn hgone
    | some isExpired =>
      rw [hexpired] at hgone
      cases isExpired with
      | true =>
        rcases List.mem_cons.mp hn with rfl | hn
        · exact hexpired
        · exact ih hn hgone
      | false =>
        have hgone : n ∉ m :: (prune now l).1 := hgone
        rw [List.mem_cons, not_or] at hgone
        exact ih ((List.mem_cons.mp hn).resolve_left hgone.1) hgone.2

/-- Where expiry can be decided, all that has expired is dropped. -/
theorem prune_eq_filter {now : Timestamp} {l : List Notice}
    (h : ∀ n ∈ l, n.isExpired now ≠ none) :
    prune now l = (l.filter fun n => n.isExpired now = some false, true) := by
  induction l with
  | nil => rfl
  | cons m l ih =>
    rw [List.forall_mem_cons] at h
    cases hexpired : m.isExpired now with
    | none => exact absurd hexpired h.1
    | some isExpired =>
      cases isExpired with
      | true =>
        rw [prune, hexpired, ih h.2, List.filter_cons_of_neg (by simp [hexpired])]
      | false =>
        rw [prune, hexpired, ih h.2, List.filter_cons_of_pos (by simp [hexpired])]
        rfl

/-- Where expiry can be decided and nothing has expired, everything is listed. -/
theorem prune_eq_self {now : Timestamp} {l : List Notice}
    (h : ∀ n ∈ l, n.isExpired now = some false) : prune now l = (l, true) := by
  have hall : ∀ n ∈ l, decide (n.isExpired now = some false) = true := fun n hn =>
    decide_eq_true (h n hn)
  have hdecided : ∀ n ∈ l, n.isExpired now ≠ none := by
    intro n hn
    rw [h n hn]
    exact Option.some_ne_none false
  rw [prune_eq_filter hdecided, List.filter_eq_self.mpr hall]

/-- Lists without repetition that agree in what they have and in its order are equal. -/
theorem eq_of_sublist_of_subset {α : Type} {l m : List α} (h : l.Sublist m) (hnodup : m.Nodup)
    (hsubset : m ⊆ l) : l = m :=
  h.eq_of_length_le (List.Nodup.subperm hnodup hsubset).length_le

namespace Shows

variable {ns : Notices} {lost lost' : Notice → Prop}

theorem mono (h : ns.Shows lost) (himp : ∀ n, lost n → lost' n) : ns.Shows lost' :=
  ⟨h.items, fun n hn hgone => himp n (h.lost n hn hgone), h.sorted, h.lt⟩

/-- A screen on which nothing was lost is the list. -/
theorem eq_items (h : ns.Shows lost) (hnone : ∀ n, ¬ lost n) : ns.shown = ns.items := by
  have hsubset : ns.shown ⊆ ns.items := by
    intro n hn
    by_contra hgone
    exact hnone n (h.lost n hn hgone)
  have hnodup : ns.shown.Nodup := by
    refine h.sorted.imp ?_
    rintro m n hlt rfl
    exact Nat.lt_irrefl _ hlt
  exact (eq_of_sublist_of_subset h.items hnodup hsubset).symm

theorem add (h : ns.Shows lost) (now : Timestamp) (kind : Notice.Kind) (text : String)
    (lifetime : Option Nat) : (ns.add now kind text lifetime).2.Shows lost where
  items := by
    rw [shown_add]
    exact h.items.append (.refl _)
  lost n hn hgone := by
    rw [shown_add, List.mem_append] at hn
    have hgone : n ∉ ns.items ++ [ns.next now kind text lifetime] := hgone
    rw [List.mem_append, not_or] at hgone
    exact h.lost n (hn.resolve_right hgone.2) hgone.1
  sorted := by
    rw [shown_add]
    refine List.pairwise_append.mpr ⟨h.sorted, List.pairwise_singleton .., ?_⟩
    intro m hm n hn
    rw [List.mem_singleton.mp hn]
    exact h.lt m hm
  lt n hn := by
    rw [shown_add] at hn
    rcases List.mem_append.mp hn with hn | hn
    · exact Nat.lt_succ_of_lt (h.lt n hn)
    · rw [List.mem_singleton.mp hn]
      exact Nat.lt_succ_self _

theorem remove (h : ns.Shows lost) (id : Nat) : (ns.remove id).Shows lost := by
  by_cases hlisted : ∃ n ∈ ns.items, n.id = id
  · obtain ⟨n, hn, rfl⟩ := hlisted
    have hshown : (ns.remove n.id).shown = ns.shown.filter (·.id != n.id) := by
      rw [remove_of_listed hn, shown_announce]
      rfl
    refine ⟨?_, ?_, ?_, ?_⟩
    · rw [hshown, items_remove]
      exact h.items.filter _
    · intro m hm hgone
      rw [hshown, List.mem_filter] at hm
      rw [items_remove, List.mem_filter] at hgone
      exact h.lost m hm.1 fun hlisted => hgone ⟨hlisted, hm.2⟩
    · rw [hshown]
      exact h.sorted.sublist List.filter_sublist
    · intro m hm
      rw [hshown] at hm
      rw [nextId_remove]
      exact h.lt m (List.mem_of_mem_filter hm)
  · rwa [remove_of_not_listed fun n hn heq => hlisted ⟨n, hn, heq⟩]

theorem clear : ns.clear.Shows lost := by
  have hshown : ns.clear.shown = [] := shown_announce _ _
  refine ⟨List.nil_sublist _, ?_, ?_, ?_⟩
  · intro n hn
    rw [hshown] at hn
    exact absurd hn List.not_mem_nil
  · rw [hshown]
    exact .nil
  · intro n hn
    rw [hshown] at hn
    exact absurd hn List.not_mem_nil

/-- Listing takes what has expired off the list, and leaves it on the screen. -/
theorem active (h : ns.Shows lost) (now : Timestamp) :
    (ns.active now).2.Shows fun n => lost n ∨ n ∈ ns.items ∧ n ∉ (ns.active now).2.items where
  items := (fades_active ns now).items.trans h.items
  lost n hn hgone := by
    by_cases hlisted : n ∈ ns.items
    · exact .inr ⟨hlisted, hgone⟩
    · exact .inl (h.lost n hn hlisted)
  sorted := h.sorted
  lt := h.lt

end Shows

/-! ### What happens -/

/-- Notices, the timers that have not fired and those that have, each by the notice that it is for,
and a follower from the start: where it stands, and what it has found. -/
structure Showing where
  notices : Notices := {}
  pending : List Nat := []
  fired : List Nat := []
  position : Follower := 0
  seen : List Seen := []

/-- What may happen next: an operation, a timer that fires, or that the follower looks for news. A
notice is added with a timer if it has a lifetime and the timer has something to run on. -/
inductive Showing.Action
  | add (kind : Notice.Kind) (text : String) (lifetime : Option Nat) (hasTimers : Bool)
  | remove (id : Nat)
  | clear
  | list
  | fire (id : Nat)
  | look
  deriving DecidableEq

namespace Showing

/-- The notices after an action at some time of day. A timer only fires once. -/
def step (s : Showing) : Timestamp × Action → Showing
  | (now, .add kind text lifetime hasTimers) =>
    let (id, notices) := s.notices.add now kind text lifetime
    { s with
      notices
      pending := if lifetime.isSome && hasTimers then s.pending ++ [id] else s.pending }
  | (_, .remove id) => { s with notices := s.notices.remove id }
  | (_, .clear) => { s with notices := s.notices.clear }
  | (now, .list) => { s with notices := (s.notices.active now).2 }
  | (_, .fire id) =>
    if id ∈ s.pending then
      { s with
        notices := s.notices.remove id
        pending := s.pending.erase id
        fired := s.fired ++ [id] }
    else s
  | (_, .look) =>
    let (news, position) := s.notices.drain s.position
    { s with position, seen := s.seen ++ news }

/-- The notices after some actions. -/
def run (s : Showing) (actions : List (Timestamp × Action)) : Showing := actions.foldl step s

theorem run_append (s : Showing) (actions later : List (Timestamp × Action)) :
    s.run (actions ++ later) = (s.run actions).run later :=
  List.foldl_append

theorem run_concat (s : Showing) (actions : List (Timestamp × Action)) (a : Timestamp × Action) :
    s.run (actions ++ [a]) = (s.run actions).step a :=
  run_append s actions [a]

theorem step_fire {s : Showing} {now : Timestamp} {id : Nat} (h : id ∈ s.pending) :
    s.step (now, .fire id) =
      { s with
        notices := s.notices.remove id
        pending := s.pending.erase id
        fired := s.fired ++ [id] } :=
  if_pos h

theorem step_fire_of_not_pending {s : Showing} {now : Timestamp} {id : Nat} (h : id ∉ s.pending) :
    s.step (now, .fire id) = s :=
  if_neg h

/-- On a clock the timers fire one after the other, in the order of their deadlines. -/
theorem run_fire (s : Showing) (now : Timestamp) (timers : Timers Nat)
    (h : timers.pending.map (·.2) = s.pending) :
    ∃ ids : List Nat,
      let s' := s.run (ids.map fun id => (now, .fire id))
      s'.notices = (Timed.fire s.notices timers).notices ∧
        s'.pending = (Timed.fire s.notices timers).timers.pending.map (·.2) := by
  -- On the timers that fire, as in `Timed.fades_fire`.
  generalize hns : s.notices = ns
  induction ns, timers using Timed.fire.induct generalizing s with
  | case1 ns timers id others hdue ih =>
    obtain ⟨deadline, hpending⟩ := Timed.pending_of_due? hdue
    rw [hpending, List.map_cons] at h
    have hstep : s.step (now, .fire id) = _ := step_fire (h ▸ List.mem_cons_self : id ∈ s.pending)
    have hothers : others.pending.map (·.2) = s.pending.erase id := by
      rw [← h, List.erase_cons_head]
    obtain ⟨ids, hnotices, hleft⟩ := ih (s.step (now, .fire id))
      (by rw [hstep]; exact hothers) (by rw [hstep, hns])
    rw [Timed.fire_of_due hdue]
    exact ⟨id :: ids, hnotices, hleft⟩
  | case2 ns timers hdue =>
    rw [Timed.fire_of_not_due hdue]
    exact ⟨[], hns, h.symm⟩

/-! ### Timers and listings -/

/-- Whatever is listed and has expired by this time of day, its timer has fired. -/
def HasFired (s : Showing) (now : Timestamp) : Prop :=
  ∀ n ∈ s.notices.items, n.isExpired now = some true → n.id ∈ s.fired

instance (s : Showing) (now : Timestamp) : Decidable (s.HasFired now) :=
  inferInstanceAs (Decidable (∀ n ∈ s.notices.items, n.isExpired now = some true → n.id ∈ s.fired))

/-- A listing drops a notice before its timer has fired. -/
structure Drops (s : Showing) (a : Timestamp × Action) (n : Notice) : Prop where
  list : a.2 = .list
  listed : n ∈ s.notices.items
  gone : n ∉ (s.notices.active a.1).2.items
  unfired : n.id ∉ s.fired

theorem Drops.expired {s : Showing} {a : Timestamp × Action} {n : Notice} (h : s.Drops a n) :
    n.isExpired a.1 = some true :=
  isExpired_of_pruned h.listed h.gone

/-- Every listing comes when the timers of all that has expired have fired. -/
def ListsInTime (s : Showing) : List (Timestamp × Action) → Prop
  | [] => True
  | a :: actions => (a.2 = .list → s.HasFired a.1) ∧ (s.step a).ListsInTime actions

instance decidableListsInTime (s : Showing) :
    (actions : List (Timestamp × Action)) → Decidable (s.ListsInTime actions)
  | [] => .isTrue trivial
  | a :: actions =>
    have := decidableListsInTime (s.step a) actions
    inferInstanceAs (Decidable ((a.2 = .list → s.HasFired a.1) ∧ (s.step a).ListsInTime actions))

/-- The notices are numbered, and timers are only for identifiers that were given. Nothing is listed
any more once its timer has fired. -/
structure Sound (s : Showing) : Prop where
  numbered : s.notices.IsNumbered
  pending : ∀ id ∈ s.pending, id < s.notices.nextId
  fired : ∀ id ∈ s.fired, id < s.notices.nextId
  unfired : ∀ n ∈ s.notices.items, n.id ∉ s.fired

theorem sound_start : ({} : Showing).Sound :=
  ⟨isNumbered_empty, fun _ h => absurd h List.not_mem_nil, fun _ h => absurd h List.not_mem_nil,
    fun _ h => absurd h List.not_mem_nil⟩

/-- Sound notices of which some have gone, by no timer, are sound. -/
theorem Sound.of_sublist {s : Showing} (h : s.Sound) {notices : Notices}
    (hitems : notices.items.Sublist s.notices.items) (hnextId : notices.nextId = s.notices.nextId) :
    { s with notices }.Sound where
  numbered := ⟨h.numbered.sorted.sublist hitems,
    fun n hn => hnextId ▸ h.numbered.lt n (hitems.subset hn)⟩
  pending id hid := hnextId ▸ h.pending id hid
  fired id hid := hnextId ▸ h.fired id hid
  unfired n hn := h.unfired n (hitems.subset hn)

theorem Sound.step {s : Showing} (h : s.Sound) (a : Timestamp × Action) : (s.step a).Sound := by
  obtain ⟨now, action⟩ := a
  cases action with
  | add kind text lifetime hasTimers =>
    refine ⟨isNumbered_add h.numbered now kind text lifetime, ?_, ?_, ?_⟩
    · intro id hid
      have hid : id ∈ if lifetime.isSome && hasTimers then s.pending ++ [s.notices.nextId]
          else s.pending := hid
      have hmem : id ∈ s.pending ++ [s.notices.nextId] := by
        split at hid
        · exact hid
        · exact List.mem_append_left _ hid
      rcases List.mem_append.mp hmem with hold | hnew
      · exact Nat.lt_succ_of_lt (h.pending id hold)
      · rw [List.mem_singleton.mp hnew]
        exact Nat.lt_succ_self _
    · exact fun id hid => Nat.lt_succ_of_lt (h.fired id hid)
    · intro n hn hfired
      rcases List.mem_append.mp hn with hold | hnew
      · exact h.unfired n hold hfired
      · -- The identifier is new, so no timer for it can have fired.
        rw [List.mem_singleton.mp hnew] at hfired
        exact Nat.lt_irrefl _ (h.fired _ hfired)
  | remove id =>
    refine h.of_sublist ?_ (nextId_remove _ id)
    rw [items_remove]
    exact List.filter_sublist
  | clear => exact h.of_sublist (List.nil_sublist _) rfl
  | list => exact h.of_sublist (fades_active _ now).items rfl
  | fire id =>
    by_cases hpending : id ∈ s.pending
    · rw [step_fire hpending]
      refine ⟨isNumbered_remove h.numbered id, ?_, ?_, ?_⟩
      · intro m hm
        rw [nextId_remove]
        exact h.pending m (List.mem_of_mem_erase hm)
      · intro m hm
        rw [nextId_remove]
        rcases List.mem_append.mp hm with hold | hnew
        · exact h.fired m hold
        · rw [List.mem_singleton.mp hnew]
          exact h.pending id hpending
      · intro n hn hfired
        rw [items_remove, List.mem_filter, bne_iff_ne] at hn
        rcases List.mem_append.mp hfired with hold | hnew
        · exact h.unfired n hn.1 hold
        · exact hn.2 (List.mem_singleton.mp hnew)
    · rwa [step_fire_of_not_pending hpending]
  | look => exact ⟨h.numbered, h.pending, h.fired, h.unfired⟩

theorem sound_run {s : Showing} (h : s.Sound) (actions : List (Timestamp × Action)) :
    (s.run actions).Sound := by
  induction actions generalizing s with
  | nil => exact h
  | cons a actions ih => exact ih (h.step a)

/-- If the timers of all that has expired have fired, a listing finds nothing to drop. -/
theorem Sound.not_expired {s : Showing} (h : s.Sound) {now : Timestamp} (hfired : s.HasFired now)
    {n : Notice} (hn : n ∈ s.notices.items) : n.isExpired now ≠ some true :=
  fun hexpired => h.unfired n hn (hfired n hn hexpired)

/-! ### What is announced -/

/-- What goes is announced with the action by which it goes, unless a listing drops it before its
timer has fired. -/
theorem gone_announced {s : Showing} (h : s.Sound) (a : Timestamp × Action) {n : Notice}
    (hn : n ∈ s.notices.items) (hgone : n ∉ (s.step a).notices.items) :
    (∃ e, (s.step a).notices.events = s.notices.events ++ [e] ∧ e.Ends n) ∨ s.Drops a n := by
  -- Removing takes away nothing but what it announces.
  have hremoved : ∀ id, n ∉ (s.notices.remove id).items →
      ∃ e, (s.notices.remove id).events = s.notices.events ++ [e] ∧ e.Ends n := by
    intro id hgone
    rw [items_remove, List.mem_filter, bne_iff_ne] at hgone
    have hid : n.id = id := by
      by_contra hne
      exact hgone ⟨hn, hne⟩
    rw [← hid, remove_of_listed hn]
    exact ⟨.removed n.id, rfl, .inl rfl⟩
  obtain ⟨now, action⟩ := a
  cases action with
  | add kind text lifetime hasTimers => exact absurd (List.mem_append_left _ hn) hgone
  | remove id => exact .inl (hremoved id hgone)
  | clear => exact .inl ⟨.cleared, rfl, .inr rfl⟩
  | list => exact .inr ⟨rfl, hn, hgone, h.unfired n hn⟩
  | fire id =>
    by_cases hpending : id ∈ s.pending
    · rw [step_fire hpending] at hgone ⊢
      exact .inl (hremoved id hgone)
    · rw [step_fire_of_not_pending hpending] at hgone
      exact absurd hn hgone
  | look => exact absurd hn hgone

theorem shows_step {s : Showing} (h : s.Sound) {lost : Notice → Prop} (hshows : s.notices.Shows lost)
    (a : Timestamp × Action) : (s.step a).notices.Shows fun n => lost n ∨ s.Drops a n := by
  obtain ⟨now, action⟩ := a
  cases action with
  | add kind text lifetime hasTimers => exact (hshows.add now kind text lifetime).mono fun n => .inl
  | remove id => exact (hshows.remove id).mono fun n => .inl
  | clear => exact Shows.clear.mono fun n => .inl
  | list =>
    refine (hshows.active now).mono fun n hlost => hlost.imp id fun hdropped => ?_
    exact ⟨rfl, hdropped.1, hdropped.2, h.unfired n hdropped.1⟩
  | fire id =>
    have hkept : (s.step (now, .fire id)).notices.Shows lost := by
      by_cases hpending : id ∈ s.pending
      · rw [step_fire hpending]
        exact hshows.remove id
      · rwa [step_fire_of_not_pending hpending]
    exact hkept.mono fun n => .inl
  | look => exact hshows.mono fun n => .inl

/-- The screen of a follower that has seen everything has what is listed in its order, and besides
only what some listing has dropped before its timer had fired. -/
theorem shows_run (actions : List (Timestamp × Action)) :
    (run {} actions).notices.Shows fun n =>
      ∃ before a later, actions = before ++ a :: later ∧ (run {} before).Drops a n := by
  induction actions using List.reverseRecOn with
  | nil => exact shows_empty.mono fun n => False.elim
  | append_singleton actions a ih =>
    rw [run_concat]
    refine (shows_step (sound_run sound_start actions) ih a).mono ?_
    rintro n (⟨before, b, later, rfl, hdrops⟩ | hdrops)
    · exact ⟨before, b, later ++ [a], by rw [List.append_assoc, List.cons_append], hdrops⟩
    · exact ⟨actions, a, [], rfl, hdrops⟩

/-! ### What a follower has seen -/

/-- The follower has missed nothing so far. -/
def NeverLags (s : Showing) : Prop := ∀ count, Seen.lagged count ∉ s.seen

/-- A follower that has missed nothing has seen the events up to where it stands. -/
structure Follows (s : Showing) : Prop where
  position : s.position ≤ s.notices.events.length
  seen : s.NeverLags → s.seen = (s.notices.events.take s.position).map .event

/-- What has been announced is never taken back. -/
theorem events_step (s : Showing) (a : Timestamp × Action) :
    s.notices.events <+: (s.step a).notices.events := by
  have hremove : ∀ id, s.notices.events <+: (s.notices.remove id).events := by
    intro id
    rw [remove]
    split
    · exact List.prefix_append _ _
    · exact List.prefix_refl _
  obtain ⟨now, action⟩ := a
  cases action with
  | add kind text lifetime hasTimers => exact List.prefix_append _ _
  | remove id => exact hremove id
  | clear => exact List.prefix_append _ _
  | list => exact List.prefix_refl _
  | fire id =>
    by_cases hpending : id ∈ s.pending
    · rw [step_fire hpending]
      exact hremove id
    · simp only [step_fire_of_not_pending hpending, List.prefix_refl]
  | look => exact List.prefix_refl _

/-- Only looking for news changes what the follower has seen. -/
theorem seen_step {s : Showing} {a : Timestamp × Action} (h : a.2 ≠ .look) :
    (s.step a).seen = s.seen ∧ (s.step a).position = s.position := by
  obtain ⟨now, action⟩ := a
  cases action with
  | add kind text lifetime hasTimers => exact ⟨rfl, rfl⟩
  | remove id => exact ⟨rfl, rfl⟩
  | clear => exact ⟨rfl, rfl⟩
  | list => exact ⟨rfl, rfl⟩
  | fire id =>
    by_cases hpending : id ∈ s.pending
    · rw [step_fire hpending]
      exact ⟨rfl, rfl⟩
    · rw [step_fire_of_not_pending hpending]
      exact ⟨rfl, rfl⟩
  | look => exact absurd rfl h

theorem Follows.look {s : Showing} (h : s.Follows) (now : Timestamp) :
    (s.step (now, .look)).Follows where
  position := Nat.le_refl _
  seen hnever := by
    have hnever : ∀ count, Seen.lagged count ∉ s.seen ++ (s.notices.drain s.position).1 := hnever
    have hbefore : s.NeverLags := fun count hcount =>
      hnever count (List.mem_append_left _ hcount)
    -- It has not missed anything this time either.
    have hnews : (s.notices.drain s.position).1 =
        (s.notices.events.drop s.position).map .event := by
      rw [drain]
      split
      · rename_i hmissed
        rw [hmissed, List.drop_zero]
      · rename_i hmissed
        have hlagged : Seen.lagged ((s.notices.events.drop s.position).length - keptEvents) ∈
            (s.notices.drain s.position).1 := by
          rw [drain, if_neg hmissed]
          exact List.mem_cons_self
        exact absurd (List.mem_append_right _ hlagged) (hnever _)
    have hseen : s.seen ++ (s.notices.drain s.position).1 =
        (s.notices.events.take s.notices.events.length).map .event := by
      rw [h.seen hbefore, hnews, ← List.map_append, List.take_append_drop, List.take_length]
    exact hseen

theorem Follows.step {s : Showing} (h : s.Follows) (a : Timestamp × Action) :
    (s.step a).Follows := by
  by_cases hlook : a.2 = .look
  · obtain ⟨now, action⟩ := a
    cases hlook
    exact h.look now
  · obtain ⟨hseen, hposition⟩ := seen_step (s := s) hlook
    obtain ⟨news, hevents⟩ := events_step s a
    refine ⟨?_, ?_⟩
    · rw [hposition, ← hevents, List.length_append]
      exact Nat.le_add_right_of_le h.position
    · intro hnever
      rw [NeverLags, hseen] at hnever
      rw [hseen, hposition, ← hevents, List.take_append_of_le_length h.position]
      exact h.seen hnever

theorem follows_run {s : Showing} (h : s.Follows) (actions : List (Timestamp × Action)) :
    (s.run actions).Follows := by
  induction actions generalizing s with
  | nil => exact h
  | cons a actions ih => exact ih (h.step a)

/-- The follower has seen everything that was announced, and missed nothing. -/
structure IsUpToDate (s : Showing) : Prop where
  position : s.position = s.notices.events.length
  neverLags : s.NeverLags

theorem Follows.screen_seen {s : Showing} (h : s.Follows) (hupToDate : s.IsUpToDate) :
    screen s.seen = s.notices.shown := by
  rw [h.seen hupToDate.neverLags, hupToDate.position, List.take_length]
  rfl

/-! ### Following and listing -/

/-- What the parts of a run inherit. -/
theorem ListsInTime.of_append {s : Showing} {before later : List (Timestamp × Action)}
    (h : s.ListsInTime (before ++ later)) : (s.run before).ListsInTime later := by
  induction before generalizing s with
  | nil => exact h
  | cons a before ih => exact ih h.2

/-- Nothing is dropped by a listing that comes in time. -/
theorem ListsInTime.not_drops {before later : List (Timestamp × Action)} {a : Timestamp × Action}
    (h : ListsInTime {} (before ++ a :: later)) (n : Notice) : ¬ (run {} before).Drops a n := by
  intro hdrops
  have hfired : (run {} before).HasFired a.1 := h.of_append.1 hdrops.list
  exact hdrops.unfired (hfired n hdrops.listed hdrops.expired)

/-- Following is as good as listing, if every listing comes when the timers of all that has expired
have fired. Whatever goes is announced with the action by which it goes. And whenever a follower that
was there from the start and never lags has seen everything, the timers of all that has expired have
fired, and listing does not fail because a time of expiry lies beyond the calendar, it shows exactly
what is listed, in the same order. -/
theorem following (actions : List (Timestamp × Action)) (h : ListsInTime {} actions) :
    (∀ before a later n, actions = before ++ a :: later →
      n ∈ (run {} before).notices.items → n ∉ (run {} (before ++ [a])).notices.items →
      ∃ e, (run {} (before ++ [a])).notices.events = (run {} before).notices.events ++ [e] ∧
        e.Ends n) ∧
    ∀ now, (run {} actions).IsUpToDate → (run {} actions).HasFired now →
      (∀ n ∈ (run {} actions).notices.items, n.isExpired now ≠ none) →
      ((run {} actions).notices.active now).1 = some (screen (run {} actions).seen) := by
  refine ⟨?_, ?_⟩
  · rintro before a later n rfl hn hgone
    rw [run_concat] at hgone ⊢
    rcases gone_announced (sound_run sound_start before) a hn hgone with hannounced | hdrops
    · exact hannounced
    · exact absurd hdrops (h.not_drops n)
  · intro now hupToDate hfired hdecided
    have hsound : (run {} actions).Sound := sound_run sound_start actions
    have hfollows : (run {} actions).Follows :=
      follows_run ⟨Nat.le_refl _, fun _ => rfl⟩ actions
    have hshown : (run {} actions).notices.shown = (run {} actions).notices.items := by
      refine (shows_run actions).eq_items ?_
      rintro n ⟨before, a, later, rfl, hdrops⟩
      exact h.not_drops n hdrops
    -- Nothing that is listed has expired.
    have hlisted : ∀ n ∈ (run {} actions).notices.items, n.isExpired now = some false := by
      intro n hn
      cases hexpired : n.isExpired now with
      | none => exact absurd hexpired (hdecided n hn)
      | some isExpired =>
        cases isExpired with
        | true => exact absurd hexpired (hsound.not_expired hfired hn)
        | false => rfl
    have hpruned := prune_eq_self hlisted
    rw [hfollows.screen_seen hupToDate, hshown, active, hpruned]
    rfl

/-- A warning of three seconds is shown beside a prompt, and its timer fires before anybody lists. -/
theorem following_sample :
    let later : Timestamp := ⟨3, 0⟩
    let s := run {} [(⟨0, 0⟩, .add .loading "wait" none true),
      (⟨0, 0⟩, .add .warning "gone" (some 3000) true), (later, .fire 2), (later, .list),
      (later, .look)]
    s.IsUpToDate ∧ s.HasFired later ∧ s.notices.events.length = 3 ∧
      (s.notices.active later).1 = some (screen s.seen) := by
  intro later s
  have hupToDate : s.IsUpToDate := by
    refine ⟨rfl, fun count hcount => ?_⟩
    have hseen : s.seen = s.notices.events.map .event := rfl
    rw [hseen, List.mem_map] at hcount
    obtain ⟨e, -, he⟩ := hcount
    exact nomatch he
  have hfired : s.HasFired later := by decide
  exact ⟨hupToDate, hfired, rfl,
    (following _ (by decide)).2 later hupToDate hfired (by decide)⟩

/-- What is not so in every run. A warning of three seconds is listed when they are over, and its
timer fires after that. Nobody lists it any more and all timers have fired, but no event has told so,
and whoever follows the events still shows it. -/
theorem silent_drop :
    let later : Timestamp := ⟨3, 0⟩
    let n : Notice := ⟨1, "gone", .warning, ⟨0, 0⟩, some 3000⟩
    let s := run {} [(⟨0, 0⟩, .add .warning "gone" (some 3000) true), (later, .list),
      (later, .fire 1), (later, .look)]
    s.pending = [] ∧ s.fired = [1] ∧ s.position = s.notices.events.length ∧
      (s.notices.active later).1 = some [] ∧ s.seen = [.event (.added n)] ∧
      screen s.seen = [n] := by
  decide

end Showing

end Wager.Notices
