import Wager.Proofs.Session.Pairs

/-!
# Signing in

What becomes of the pair that a session begins with.

Beginning a session keeps a pair at once, and takes its place among all that keep pairs: what is in
the store is what was issued last. So the pair stays, up to its expiry, until a later event issues
another one. Such an event should belong to what came after, being the beginning of another session
or the answer to a renewal of this one.

There is a gap in that. Ending a session moves on to the next epoch, and that is what keeps the
answers to older renewals out of the store; beginning one leaves the epoch alone. So if nobody has
ended the session before, a renewal that was awaited when the new session began is awaited still,
and its answer replaces the new pair by one of the earlier session (`outdated_pair`). What is proved
here is said of runs in which no such renewal succeeds.

## Main definitions

* `Traffic.IssuesSince`: An event issues a pair, and not by a renewal that was there before.
* `Session.ReadAs`: What readers get of a pair up to its expiry.

## Theorems

* `Session.Follows.isAwaited`: A renewal that is not awaited any more is never awaited again.
* `Traffic.lastIssue_of_never_cleared`: Only ending the session leaves nothing.
* `Traffic.signing_in`: The pair stays until a later event issues another one.
* `Traffic.outdated_pair`: An earlier renewal that succeeds later replaces it.
-/

namespace Wager.Session

/-! ### Renewals that were there before -/

/-- A renewal that is not awaited any more is never awaited again: it has finished, or an epoch has
begun since it was started. -/
theorem Follows.isAwaited {s s' : Session} (h : s.Follows s') (hs : s.Consistent) {id : Nat}
    (hid : id < s.renewals.length) (hawaited : s'.isAwaited id = true) : s.isAwaited id = true := by
  simp only [Session.isAwaited, Option.any_eq_true, beq_iff_eq, unfinished?_eq_some_iff] at hawaited ⊢
  obtain ⟨r', ⟨hr', hnone⟩, hepoch⟩ := hawaited
  have hr := List.getElem?_eq_getElem hid
  obtain ⟨r, hr'', -, hsame, hkept⟩ := h.renewal id _ hr
  rw [hr', Option.some.injEq] at hr''
  subst hr''
  refine ⟨_, ⟨hr, ?_⟩, ?_⟩
  · cases houtcome : s.renewals[id].outcome with
    | none => rfl
    | some outcome =>
      -- Its outcome would have been kept.
      rw [hkept outcome houtcome] at hnone
      exact absurd hnone (Option.some_ne_none outcome)
  · -- Epochs only move on, and the one of the renewal has come already.
    have hcome := hs.epoch_le id _ hr
    have hmoved := h.epoch_le
    omega

/-! ### Reading -/

/-- What readers get of a pair: each credential, or nothing once the clock has shown a time at which
it had expired. -/
structure ReadAs (s : Store) (i : Issue) (readings : List Timestamp) : Prop where
  access : ∀ now, (s.get now accessName).1 = some i.pair.access ∨
    (s.get now accessName).1 = none ∧ ∃ reading ∈ now :: readings, i.access.isExpired reading = true
  refresh : ∀ now, (s.get now refreshName).1 = some i.pair.refresh ∨
    (s.get now refreshName).1 = none ∧
      ∃ reading ∈ now :: readings, i.refresh.isExpired reading = true

theorem readAs_of_holds {s : Store} {readings : List Timestamp} {i : Issue}
    (h : Holds readings (some i) s) (hw : s.IsWorking) : ReadAs s i readings :=
  ⟨h.1.get_eq hw, h.2.get_eq hw⟩

namespace Traffic

/-! ### Events that issue pairs -/

/-- An event issues a pair, and not as the answer to one of the first `count` renewals. -/
structure IssuesSince (t : Traffic) (count : Nat) (e : Timestamp × Event) (i : Issue) : Prop where
  issues : t.Issues e i
  since : ∀ id answer, e.2 = .answer id answer → count ≤ id

/-- Only ending the session leaves nothing. -/
theorem lastIssue_of_never_cleared {t : Traffic} {i : Issue} {events : List (Timestamp × Event)}
    (h : ∀ e ∈ events, e.2 ≠ .call .clear) : ∃ i', t.lastIssue (some i) events = some i' := by
  induction events generalizing t i with
  | nil => exact ⟨i, rfl⟩
  | cons e events ih =>
    rw [List.forall_mem_cons] at h
    obtain ⟨i', hi'⟩ : ∃ i', t.issuing (some i) e = some i' := by
      unfold issuing
      split
      · exact ⟨_, rfl⟩
      · exact absurd rfl h.1
      · split
        · exact ⟨_, rfl⟩
        · exact ⟨_, rfl⟩
      · exact ⟨_, rfl⟩
    rw [lastIssue, hi']
    exact ih h.2

/-! ### Signing in -/

/-- Signing in: whatever went before, beginning a session returns at once, and from then on readers
get the pair that it began with, up to its expiry, until another session begins or a renewal that was
started since succeeds; then they get that pair. It takes that nobody ends the session and that no
renewal that was awaited when the session began brings a pair. -/
theorem signing_in (store : Store) (hw : store.IsWorking) (before later : List (Timestamp × Event))
    (now : Timestamp) (pair : Credentials) (hnow : Datable now)
    (hdatable : ∀ e ∈ later, Datable e.1) :
    let t := (start store).run before
    let t' := t.step (now, .call (.establish pair))
    t'.Returned t.callers.length (.establish pair) .done ∧
      ((∀ e ∈ later, e.2 ≠ .call .clear) →
        (∀ e ∈ later, ∀ id brought, e.2 = .answer id (.ok brought) →
          t.state.isAwaited id = false) →
        ∃ i, ReadAs (t'.run later).state.store i (later.map Prod.fst) ∧
          (i = ⟨pair, now⟩ ∨ ∃ earlier e rest, later = earlier ++ e :: rest ∧
            (t'.run earlier).IssuesSince t.state.renewals.length e i)) := by
  intro t t'
  have hsound : t.Sound := sound_run (sound_start store) before
  have hsound' : t'.Sound := hsound.step _
  have hworking : t.state.store.IsWorking := isWorking_run (sound_start store) hw before
  have hworking' : t'.state.store.IsWorking := (hsound.steps _).isWorking hworking
  have hstep : t' = {
      state := t.state.kept pair now
      callers := t.callers ++ [{ request := .establish pair, rest := .done .done }] } :=
    step_establish t pair now
  refine ⟨?_, ?_⟩
  · rw [hstep]
    exact List.getElem?_concat_length
  · intro hnever hearlier
    have hbegin : Holds (later.map Prod.fst) (some ⟨pair, now⟩) t'.state.store := by
      rw [hstep]
      exact holds_kept _ pair t.state hworking hnow
    have hholds := holds_run hsound' hworking' hbegin
      (fun e he => List.mem_map_of_mem he) hdatable
    obtain ⟨i, hi⟩ := lastIssue_of_never_cleared (t := t') (i := ⟨pair, now⟩) hnever
    rw [hi] at hholds
    refine ⟨i, readAs_of_holds hholds (isWorking_run hsound' hworking' later), ?_⟩
    rcases lastIssue_eq_some hi with hsame | ⟨earlier, e, rest, hsplit, hissues⟩
    · exact Or.inl (Option.some.inj hsame).symm
    · refine Or.inr ⟨earlier, e, rest, hsplit, hissues, ?_⟩
      have hmem : e ∈ later := by
        rw [hsplit]
        exact List.mem_append_right earlier List.mem_cons_self
      intro id answer hanswer
      cases hissues with
      | established now' pair' => exact nomatch hanswer
      | renewed now' id' pair' hawaited =>
        obtain ⟨rfl, rfl⟩ := Prod.mk.inj (Happening.change.inj hanswer)
        -- If it had been there before, it would have been awaited then.
        by_contra hless
        have hfollows : t.state.Follows (t'.run earlier).state :=
          (hsound.steps _).follows.trans (follows_run hsound' earlier)
        have hbefore := hfollows.isAwaited hsound.state (by omega) hawaited
        rw [hearlier _ hmem id' pair' rfl] at hbefore
        exact Bool.false_ne_true hbefore

/-- A renewal that has failed by the time another session begins, and one of that session. -/
theorem signing_in_sample :
    let now : Timestamp := { seconds := 0, nanos := 0 }
    let before : List (Timestamp × Event) :=
      [(now, .call (.establish { access := "a", refresh := "r" })), (now, .call .renew),
        (now, .answer 0 (.error .authExpired))]
    let later : List (Timestamp × Event) :=
      [(now, .call .renew), (now, .answer 1 (.ok { access := "c", refresh := "t" }))]
    let t := (start .inMemory).run before
    let t' := t.step (now, .call (.establish { access := "b", refresh := "s" }))
    ∃ i, ReadAs (t'.run later).state.store i (later.map Prod.fst) ∧
      (i = ⟨{ access := "b", refresh := "s" }, now⟩ ∨
        ∃ earlier e rest, later = earlier ++ e :: rest ∧
          (t'.run earlier).IssuesSince t.state.renewals.length e i) := by
  intro now before later t t'
  have hnow : Datable now := ⟨⟨by decide +kernel, Or.inl (show 0 < 1000000000 by decide)⟩,
    by decide +kernel⟩
  have hdatable : ∀ e ∈ later, Datable e.1 := by
    simp only [later, List.forall_mem_cons]
    exact ⟨hnow, hnow, fun _ h => absurd h List.not_mem_nil⟩
  have hsigned := signing_in .inMemory trivial before later now { access := "b", refresh := "s" }
    hnow hdatable
  refine hsigned.2 ?_ ?_
  · simp only [later, List.forall_mem_cons]
    exact ⟨nofun, nofun, fun _ h => absurd h List.not_mem_nil⟩
  · -- The first renewal has failed, and the second one was not there before.
    simp only [later, List.forall_mem_cons]
    refine ⟨nofun, ?_, fun _ h => absurd h List.not_mem_nil⟩
    intro id brought hanswer
    obtain ⟨rfl, -⟩ := Prod.mk.inj (Happening.change.inj hanswer)
    rfl

/-- A renewal that was awaited when another session began. Its answer, which was brought with a
refresh credential of the earlier session, takes the place of the new pair. -/
theorem outdated_pair :
    let now : Timestamp := { seconds := 0, nanos := 0 }
    let t := (start .inMemory).run
      [(now, .call (.establish { access := "a", refresh := "r" })), (now, .call .renew)]
    let t' := t.step (now, .call (.establish { access := "b", refresh := "s" }))
    let t'' := t'.step (now, .answer 0 (.ok { access := "c", refresh := "t" }))
    t.state.isAwaited 0 = true ∧ t.state.renewals[0]?.map Renewal.refresh = some "r" ∧
      (t'.state.store.get now accessName).1 = some "b" ∧
      (t'.state.store.get now refreshName).1 = some "s" ∧
      (t''.state.store.get now accessName).1 = some "c" ∧
      (t''.state.store.get now refreshName).1 = some "t" :=
  by decide +kernel

end Traffic

end Wager.Session
