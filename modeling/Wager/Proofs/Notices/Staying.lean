import Wager.Proofs.Notices.Following

/-!
# Notices that stay

What becomes of a notice without a lifetime, whatever else is done to the notices.

No timer was started for such a notice, and no listing drops it. It is listed until an event ends it,
because somebody has removed it by its identifier or has cleared all notices. So what has happened
since it was added tells whether it is listed (`Notices.Posted`). Whoever uses the notices preserves
this, and it does not matter how: of each use it is only needed that identifiers are not given again
and that nothing without a lifetime goes in silence (`Notices.Evolves`).

What was done to the notices between two moments is read off the notices at these moments: what was
announced meanwhile (`Notices.said`), and what is not listed any more (`Notices.lost`).

## Main definitions

* `Notices.Evolves`: What may become of notices.
* `Notices.Posted`: A notice has been added and is listed until an event ends it.
* `Notices.said`, `Notices.lost`: What was announced, and what has gone.

## Theorems

* `Notices.evolves_add`, `Notices.evolves_remove`, `Notices.evolves_clear`, `Notices.evolves_active`:
  What each use does to the notices.
* `Notices.posted_loading`, `Notices.Posted.evolves`: A prompt is listed until an event ends it.
* `Notices.Posted.mem_active_iff`: What a listing shows of it.
* `Notices.Posted.retract`: Who removes a prompt announces that and takes away nothing else.
-/

namespace Wager.Notices

/-- What may become of notices. What is listed was there before or has a new identifier, and what has
no lifetime goes only with an event that ends it. -/
structure Evolves (ns ns' : Notices) : Prop where
  numbered : ns.IsNumbered → ns'.IsNumbered
  nextId : ns.nextId ≤ ns'.nextId
  fresh : ∀ n ∈ ns'.items, n ∈ ns.items ∨ ns.nextId ≤ n.id
  told : ∃ news, ns'.events = ns.events ++ news ∧ ∀ n, n.id < ns.nextId → n.lifetime = none →
    (n ∈ ns'.items ↔ n ∈ ns.items ∧ ∀ e ∈ news, ¬ e.Ends n)

namespace Evolves

variable {ns ns' ns'' : Notices}

theorem refl (ns : Notices) : ns.Evolves ns where
  numbered h := h
  nextId := Nat.le_refl _
  fresh _ hn := .inl hn
  told := ⟨[], (List.append_nil _).symm, fun _ _ _ =>
    (and_iff_left fun _ he => absurd he List.not_mem_nil).symm⟩

theorem trans (h : ns.Evolves ns') (h' : ns'.Evolves ns'') : ns.Evolves ns'' where
  numbered hns := h'.numbered (h.numbered hns)
  nextId := Nat.le_trans h.nextId h'.nextId
  fresh n hn := by
    rcases h'.fresh n hn with hold | hnew
    · exact h.fresh n hold
    · exact .inr (Nat.le_trans h.nextId hnew)
  told := by
    obtain ⟨news, hevents, hstays⟩ := h.told
    obtain ⟨news', hevents', hstays'⟩ := h'.told
    refine ⟨news ++ news', by rw [hevents', hevents, List.append_assoc], ?_⟩
    intro n hlt hlifetime
    rw [hstays' n (Nat.lt_of_lt_of_le hlt h.nextId) hlifetime, hstays n hlt hlifetime, and_assoc,
      List.forall_mem_append]

end Evolves

/-! ### Uses -/

theorem evolves_add (ns : Notices) (now : Timestamp) (kind : Notice.Kind) (text : String)
    (lifetime : Option Nat) : ns.Evolves (ns.add now kind text lifetime).2 where
  numbered h := isNumbered_add h now kind text lifetime
  nextId := Nat.le_succ _
  fresh n hn := by
    rcases List.mem_append.mp hn with hold | hnew
    · exact .inl hold
    · rw [List.mem_singleton.mp hnew]
      exact .inr (Nat.le_refl _)
  told := by
    refine ⟨[.added (ns.next now kind text lifetime)], rfl, fun n hlt _ => ?_⟩
    -- What was there before is not what is added.
    have hne : n ≠ ns.next now kind text lifetime := by
      rintro rfl
      exact Nat.lt_irrefl _ hlt
    have hends : ∀ m, ¬ (Event.added m).Ends n := by
      rintro m (h | h)
      · exact nomatch h
      · exact nomatch h
    have hitems : (ns.add now kind text lifetime).2.items =
        ns.items ++ [ns.next now kind text lifetime] := rfl
    rw [hitems, List.mem_append, List.mem_singleton, or_iff_left hne, List.forall_mem_singleton,
      and_iff_left (hends _)]

theorem evolves_remove (ns : Notices) (id : Nat) : ns.Evolves (ns.remove id) where
  numbered h := isNumbered_remove h id
  nextId := Nat.le_of_eq (nextId_remove ns id).symm
  fresh n hn := by
    rw [items_remove] at hn
    exact .inl (List.mem_of_mem_filter hn)
  told := by
    by_cases hlisted : ∃ m ∈ ns.items, m.id = id
    · obtain ⟨m, hm, rfl⟩ := hlisted
      rw [remove_of_listed hm]
      refine ⟨[.removed m.id], rfl, fun n _ _ => ?_⟩
      have hends : (Event.removed m.id).Ends n ↔ n.id = m.id := by
        rw [Event.Ends, Event.removed.injEq, or_iff_left (by exact nofun), eq_comm]
      rw [List.forall_mem_singleton, hends, ← ne_eq, ← bne_iff_ne]
      exact List.mem_filter
    · -- Nothing has this identifier, so nothing is announced either.
      have hnone : ∀ m ∈ ns.items, m.id ≠ id := fun m hm hid => hlisted ⟨m, hm, hid⟩
      rw [remove_of_not_listed hnone]
      exact (Evolves.refl ns).told

theorem evolves_clear (ns : Notices) : ns.Evolves ns.clear where
  numbered _ := isNumbered_clear
  nextId := Nat.le_refl _
  fresh _ hn := absurd hn List.not_mem_nil
  told := by
    refine ⟨[.cleared], rfl, fun n _ _ => ⟨fun hn => absurd hn List.not_mem_nil, ?_⟩⟩
    exact fun h => absurd (.inr rfl) (h.2 .cleared (List.mem_singleton_self _))

theorem evolves_active (ns : Notices) (now : Timestamp) : ns.Evolves (ns.active now).2 where
  numbered h := h.fades (fades_active ns now)
  nextId := Nat.le_refl _
  fresh _ hn := .inl ((fades_active ns now).items.subset hn)
  told := by
    refine ⟨[], (List.append_nil _).symm, fun n _ hlifetime => ?_⟩
    rw [and_iff_left fun _ he => absurd he List.not_mem_nil]
    exact ⟨fun hn => (fades_active ns now).items.subset hn,
      fun hn => (fades_active ns now).stays n hn hlifetime⟩

/-! ### Staying -/

/-- A notice has been added. It is listed until an event ends it, and no other notice has its
identifier. -/
structure Posted (ns : Notices) (p : Notice) : Prop where
  lt : p.id < ns.nextId
  own : ∀ n ∈ ns.items, n.id = p.id → n = p
  since : ∃ before later, ns.events = before ++ .added p :: later ∧
    (p ∈ ns.items ↔ ∀ e ∈ later, ¬ e.Ends p)

theorem posted_loading {ns : Notices} (h : ns.IsNumbered) (now : Timestamp) (text : String) :
    (ns.loading now text).2.Posted (ns.next now .loading text none) where
  lt := Nat.lt_succ_self _
  own n hn hid := by
    rcases List.mem_append.mp hn with hold | hnew
    · exact absurd hid (Nat.ne_of_lt (h.lt n hold))
    · exact List.mem_singleton.mp hnew
  since := ⟨ns.events, [], rfl, iff_of_true (List.mem_append_right _ (List.mem_singleton_self _))
    fun _ he => absurd he List.not_mem_nil⟩

namespace Posted

variable {ns ns' : Notices} {p : Notice}

theorem evolves (h : ns.Posted p) (hlifetime : p.lifetime = none) (hevolves : ns.Evolves ns') :
    ns'.Posted p where
  lt := Nat.lt_of_lt_of_le h.lt hevolves.nextId
  own n hn hid := by
    rcases hevolves.fresh n hn with hold | hnew
    · exact h.own n hold hid
    · -- Its identifier has been given before, so nothing new has it.
      exact absurd (hid ▸ h.lt) (Nat.not_lt_of_le hnew)
  since := by
    obtain ⟨before, later, hevents, hlisted⟩ := h.since
    obtain ⟨news, hevents', hstays⟩ := hevolves.told
    refine ⟨before, later ++ news, ?_, ?_⟩
    · rw [hevents', hevents, List.append_assoc, List.cons_append]
    · rw [hstays p h.lt hlifetime, hlisted, List.forall_mem_append]

/-- What was taken back does not come again. -/
theorem not_mem_of_evolves (h : ns.Posted p) (hgone : p ∉ ns.items) (hevolves : ns.Evolves ns') :
    p ∉ ns'.items := by
  intro hn
  rcases hevolves.fresh p hn with hold | hnew
  · exact hgone hold
  · exact Nat.not_lt_of_le hnew h.lt

end Posted

/-- A listing that succeeds gives what it leaves. -/
theorem eq_of_active {ns : Notices} {now : Timestamp} {l : List Notice}
    (h : (ns.active now).1 = some l) : l = (ns.active now).2.items := by
  unfold active at h ⊢
  generalize prune now ns.items = pruned at h ⊢
  obtain ⟨items, isDecided⟩ := pruned
  cases isDecided with
  | true => exact (Option.some.inj h).symm
  | false => exact nomatch h

/-- A listing that succeeds shows everything without a lifetime. -/
theorem mem_active_iff {ns : Notices} {now : Timestamp} {l : List Notice} {n : Notice}
    (h : (ns.active now).1 = some l) (hlifetime : n.lifetime = none) : n ∈ l ↔ n ∈ ns.items := by
  rw [eq_of_active h]
  exact ⟨fun hn => (fades_active ns now).items.subset hn,
    fun hn => (fades_active ns now).stays n hn hlifetime⟩

/-! ### What was done -/

/-- What was announced between two moments. -/
def said (ns ns' : Notices) : List Event := ns'.events.drop ns.events.length

/-- What was listed at one moment and is not at a later one. -/
def lost (ns ns' : Notices) : List Notice := ns.items.filter fun n => n ∉ ns'.items

theorem said_of_append {ns ns' : Notices} {news : List Event}
    (h : ns'.events = ns.events ++ news) : ns.said ns' = news := by
  rw [said, h, List.drop_left]

theorem said_self (ns : Notices) : ns.said ns = [] := said_of_append (List.append_nil _).symm

/-- Nothing has gone of what is all listed still. -/
theorem lost_of_subset {ns ns' : Notices} (h : ns.items ⊆ ns'.items) : ns.lost ns' = [] :=
  List.filter_eq_nil_iff.mpr fun _ hn hgone => of_decide_eq_true hgone (h hn)

theorem lost_self (ns : Notices) : ns.lost ns = [] := lost_of_subset (List.Subset.refl _)

/-- Removing announces at most that. -/
theorem said_remove (ns : Notices) (id : Nat) :
    ns.said (ns.remove id) = [] ∨ ns.said (ns.remove id) = [.removed id] := by
  unfold remove
  split
  · exact .inr (said_of_append rfl)
  · exact .inl (said_self ns)

/-- Removing takes away only what has the identifier. -/
theorem id_of_mem_lost {ns : Notices} {id : Nat} {n : Notice} (h : n ∈ ns.lost (ns.remove id)) :
    n.id = id := by
  rw [lost, List.mem_filter, decide_eq_true_eq, items_remove, List.mem_filter, not_and] at h
  by_contra hne
  exact h.2 h.1 (bne_iff_ne.mpr hne)

theorem not_mem_remove (ns : Notices) (n : Notice) : n ∉ (ns.remove n.id).items := by
  rw [items_remove, List.mem_filter, bne_iff_ne]
  exact fun h => h.2 rfl

/-- A prompt that is taken back at once has been announced, and so has that, and nothing is gone. -/
theorem said_retracted (ns : Notices) (now : Timestamp) (text : String) :
    ns.said ((ns.loading now text).2.remove ns.nextId) =
      [.added (ns.next now .loading text none), .removed ns.nextId] := by
  have hlisted : ns.next now .loading text none ∈ (ns.loading now text).2.items :=
    List.mem_append_right _ (List.mem_singleton_self _)
  refine said_of_append ?_
  have hremove := remove_of_listed hlisted
  exact (congrArg Notices.events hremove).trans (List.append_assoc _ _ _)

theorem lost_retracted {ns : Notices} (h : ns.IsNumbered) (now : Timestamp) (text : String) :
    ns.lost ((ns.loading now text).2.remove ns.nextId) = [] := by
  refine lost_of_subset fun n hn => ?_
  rw [items_remove, List.mem_filter, bne_iff_ne]
  exact ⟨List.mem_append_left _ hn, Nat.ne_of_lt (h.lt n hn)⟩

end Wager.Notices
