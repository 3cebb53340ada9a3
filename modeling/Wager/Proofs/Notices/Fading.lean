import Mathlib.Data.List.Nodup
import Wager.Notices.Timed

/-!
# Fading notices

What becomes of notices when nobody adds any, and when somebody adds one.

Notices go by themselves: a timer removes one whose lifetime has passed, and listing them drops
those that have expired. Both leave what has no lifetime, and neither changes or reorders what
stays. This is `Notices.Fades`. Notices that came and went in between leave no trace in it but
identifiers that were used, so it also holds across a prompt that was shown and taken back
(`fades_retracted`).

Adding a notice puts it behind the others, and says so (`Notices.Gains`).

Identifiers are given in order and never again (`Notices.IsNumbered`), whatever is done to the
notices. So taking a notice back takes back no other one.

## Main definitions

* `Notices.IsNumbered`: The identifiers are in order.
* `Notices.Fades`: What is left of the notices after some time.
* `Notices.Gains`: A notice is added to the others.

## Theorems

* `Notices.isNumbered_add`, `Notices.isNumbered_clear`, `Notices.isNumbered_remove`,
  `Notices.IsNumbered.fades`: Notices stay numbered.
* `Notices.fades_remove`, `Notices.fades_active`, `Notices.Timed.fades_fire`: Timers and listing
  make notices fade.
* `Notices.fades_retracted`: A prompt that was shown and taken back leaves nothing.
-/

namespace Wager.Notices

/-- The identifiers of the notices are in order, and the next one is past them. -/
structure IsNumbered (ns : Notices) : Prop where
  sorted : ns.items.Pairwise fun m n => m.id < n.id
  lt : ∀ n ∈ ns.items, n.id < ns.nextId

/-- What is left of the notices when some time has passed: some of those with a lifetime are gone,
and so is all that has come meanwhile. -/
structure Fades (ns ns' : Notices) : Prop where
  items : ns'.items.Sublist ns.items
  stays : ∀ n ∈ ns.items, n.lifetime = none → n ∈ ns'.items
  nextId : ns.nextId ≤ ns'.nextId

/-- One notice is added behind the others, of some kind and with some text, and it is announced. -/
def Gains (ns : Notices) (kind : Notice.Kind) (text : String) (ns' : Notices) : Prop :=
  ∃ n : Notice, n.kind = kind ∧ n.text = text ∧ ns'.items = ns.items ++ [n] ∧
    ns'.events = ns.events ++ [.added n]

theorem gains_add (ns : Notices) (now : Timestamp) (kind : Notice.Kind) (text : String)
    (lifetime : Option Nat) : ns.Gains kind text (ns.add now kind text lifetime).2 :=
  ⟨ns.next now kind text lifetime, rfl, rfl, rfl, rfl⟩

theorem isNumbered_empty : ({} : Notices).IsNumbered :=
  ⟨.nil, fun _ h => absurd h List.not_mem_nil⟩

/-- A notice that is added gets an identifier of its own. -/
theorem isNumbered_add {ns : Notices} (h : ns.IsNumbered) (now : Timestamp) (kind : Notice.Kind)
    (text : String) (lifetime : Option Nat) : (ns.add now kind text lifetime).2.IsNumbered where
  sorted := by
    refine List.pairwise_append.mpr ⟨h.sorted, List.pairwise_singleton .., ?_⟩
    intro m hm n hn
    rw [List.mem_singleton.mp hn]
    exact h.lt m hm
  lt n hn := by
    rcases List.mem_append.mp hn with hn | hn
    · exact Nat.lt_succ_of_lt (h.lt n hn)
    · rw [List.mem_singleton.mp hn]
      exact Nat.lt_succ_self _

theorem isNumbered_clear {ns : Notices} : ns.clear.IsNumbered :=
  ⟨.nil, fun _ h => absurd h List.not_mem_nil⟩

theorem IsNumbered.fades {ns ns' : Notices} (h : ns.IsNumbered) (hfades : ns.Fades ns') :
    ns'.IsNumbered where
  sorted := h.sorted.sublist hfades.items
  lt n hn := Nat.lt_of_lt_of_le (h.lt n (hfades.items.subset hn)) hfades.nextId

namespace Fades

theorem refl (ns : Notices) : ns.Fades ns := ⟨.refl _, fun _ h _ => h, Nat.le_refl _⟩

theorem trans {ns ns' ns'' : Notices} (h : ns.Fades ns') (h' : ns'.Fades ns'') : ns.Fades ns'' where
  items := h'.items.trans h.items
  stays n hn hlifetime := h'.stays n (h.stays n hn hlifetime) hlifetime
  nextId := Nat.le_trans h.nextId h'.nextId

end Fades

/-! ### Removing -/

theorem items_remove (ns : Notices) (id : Nat) :
    (ns.remove id).items = ns.items.filter (·.id != id) := by
  unfold remove
  split
  · rfl
  · rename_i hnone
    -- Nothing has this identifier, so nothing is filtered out.
    refine (List.filter_eq_self.mpr fun n hn => ?_).symm
    rw [bne_iff_ne]
    intro heq
    exact hnone (List.any_eq_true.mpr ⟨n, hn, beq_iff_eq.mpr heq⟩)

theorem nextId_remove (ns : Notices) (id : Nat) : (ns.remove id).nextId = ns.nextId := by
  unfold remove
  split
  · rfl
  · rfl

/-- What is left of numbered notices is numbered. -/
theorem isNumbered_remove {ns : Notices} (h : ns.IsNumbered) (id : Nat) :
    (ns.remove id).IsNumbered where
  sorted := by
    rw [items_remove]
    exact h.sorted.sublist List.filter_sublist
  lt n hn := by
    rw [items_remove] at hn
    rw [nextId_remove]
    exact h.lt n (List.mem_of_mem_filter hn)

/-- What a timer removes has had a lifetime. -/
theorem fades_remove {ns : Notices} {id : Nat}
    (h : ∀ n ∈ ns.items, n.id = id → n.lifetime ≠ none) : ns.Fades (ns.remove id) where
  items := by
    rw [items_remove]
    exact List.filter_sublist
  stays n hn hlifetime := by
    rw [items_remove, List.mem_filter, bne_iff_ne]
    exact ⟨hn, fun heq => h n hn heq hlifetime⟩
  nextId := Nat.le_of_eq (nextId_remove ns id).symm

/-- Where every identifier is used once, that may be any notice with a lifetime. -/
theorem IsNumbered.fades_remove {ns : Notices} (h : ns.IsNumbered) {n : Notice}
    (hn : n ∈ ns.items) (hlifetime : n.lifetime ≠ none) : ns.Fades (ns.remove n.id) := by
  refine Notices.fades_remove fun m hm hid => ?_
  have hnodup : (ns.items.map Notice.id).Nodup :=
    List.pairwise_map.mpr (h.sorted.imp fun hlt => Nat.ne_of_lt hlt)
  rw [List.inj_on_of_nodup_map hnodup hm hn hid]
  exact hlifetime

/-- Only what has expired is dropped, and what has no lifetime never does. -/
theorem prune_fades (now : Timestamp) (l : List Notice) : (prune now l).1.Sublist l ∧
    ∀ n ∈ l, n.lifetime = none → n ∈ (prune now l).1 := by
  induction l with
  | nil => exact ⟨.refl _, fun _ h => absurd h List.not_mem_nil⟩
  | cons m l ih =>
    rw [prune]
    cases hexpired : m.isExpired now with
    | none => exact ⟨.refl _, fun _ h _ => h⟩
    | some isExpired =>
      cases isExpired with
      | true =>
        refine ⟨ih.1.cons m, fun n hn hlifetime => ?_⟩
        rcases List.mem_cons.mp hn with rfl | hn
        · -- Without a lifetime it would not have expired.
          rw [Notice.isExpired, hlifetime] at hexpired
          exact nomatch hexpired
        · exact ih.2 n hn hlifetime
      | false =>
        refine ⟨ih.1.cons_cons m, fun n hn hlifetime => ?_⟩
        rcases List.mem_cons.mp hn with rfl | hn
        · exact List.mem_cons_self
        · exact List.mem_cons_of_mem m (ih.2 n hn hlifetime)

theorem fades_active (ns : Notices) (now : Timestamp) : ns.Fades (ns.active now).2 where
  items := (prune_fades now ns.items).1
  stays := (prune_fades now ns.items).2
  nextId := Nat.le_refl _

/-- The timer that fires was pending, and so are the others. -/
theorem Timed.pending_of_due? {timers others : Timers Nat} {id : Nat}
    (h : timers.due? = some (id, others)) :
    ∃ deadline, timers.pending = (deadline, id) :: others.pending := by
  unfold Timers.due? at h
  split at h
  · exact nomatch h
  · rename_i deadline t rest hpending
    split at h
    · rw [Option.some.injEq, Prod.mk.injEq] at h
      refine ⟨deadline, ?_⟩
      rw [hpending, ← h.1, ← h.2]
    · exact nomatch h

theorem Timed.fire_of_due {ns : Notices} {timers others : Timers Nat} {id : Nat}
    (h : timers.due? = some (id, others)) :
    Timed.fire ns timers = Timed.fire (ns.remove id) others := by
  rw [Timed.fire]
  split
  · rename_i hdue
    rw [h, Option.some.injEq, Prod.mk.injEq] at hdue
    rw [hdue.1, hdue.2]
  · rename_i hnone
    rw [h] at hnone
    exact absurd hnone (Option.some_ne_none _)

theorem Timed.fire_of_not_due {ns : Notices} {timers : Timers Nat} (h : timers.due? = none) :
    Timed.fire ns timers = ⟨ns, timers⟩ := by
  rw [Timed.fire]
  split
  · rename_i hdue
    rw [h] at hdue
    exact absurd hdue.symm (Option.some_ne_none _)
  · rfl

/-- Whatever timers fire, if none of them is of a notice without a lifetime. -/
theorem Timed.fades_fire (ns : Notices) (timers : Timers Nat)
    (h : ∀ timer ∈ timers.pending, ∀ n ∈ ns.items, n.id = timer.2 → n.lifetime ≠ none) :
    ns.Fades (Timed.fire ns timers).notices := by
  -- On the timers that fire, one after the other.
  induction ns, timers using Timed.fire.induct with
  | case1 ns timers id others hdue ih =>
    obtain ⟨deadline, hpending⟩ := pending_of_due? hdue
    rw [hpending, List.forall_mem_cons] at h
    have hfirst : ns.Fades (ns.remove id) := Notices.fades_remove h.1
    rw [fire_of_due hdue]
    refine hfirst.trans (ih fun timer htimer n hn => ?_)
    exact h.2 timer htimer n (hfirst.items.subset hn)
  | case2 ns timers hdue =>
    rw [fire_of_not_due hdue]
    exact .refl ns

/-! ### Prompts -/

/-- A prompt that is shown and taken back after some time leaves no notice behind. -/
theorem fades_retracted {ns ns' : Notices} (h : ns.IsNumbered) {now : Timestamp} {text : String}
    (hfades : (ns.loading now text).2.Fades ns') : ns.Fades (ns'.remove ns.nextId) := by
  have hshown : (ns.loading now text).2.items = ns.items ++ [ns.next now .loading text none] := rfl
  have hkept : ns.items.filter (·.id != ns.nextId) = ns.items :=
    List.filter_eq_self.mpr fun n hn => bne_iff_ne.mpr (Nat.ne_of_lt (h.lt n hn))
  refine ⟨?_, ?_, ?_⟩
  · -- Of what was there with the prompt, the prompt alone has its identifier.
    have hsub := hfades.items.filter (·.id != ns.nextId)
    have hprompt : [ns.next now .loading text none].filter (·.id != ns.nextId) = [] :=
      List.filter_eq_nil_iff.mpr fun n hn => by
        rw [List.mem_singleton.mp hn]
        exact fun hne => bne_iff_ne.mp hne rfl
    rw [hshown, List.filter_append, hkept, hprompt, List.append_nil] at hsub
    rw [items_remove]
    exact hsub
  · intro n hn hlifetime
    rw [items_remove, List.mem_filter, bne_iff_ne]
    refine ⟨hfades.stays n ?_ hlifetime, Nat.ne_of_lt (h.lt n hn)⟩
    rw [hshown]
    exact List.mem_append_left _ hn
  · rw [nextId_remove]
    exact Nat.le_of_succ_le hfades.nextId

end Wager.Notices
