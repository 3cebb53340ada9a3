import Wager.Proofs.Session.Pairs

/-!
# Rotation in a keychain that fails

What a keychain holds when a pair was issued while its steps may fail.

A pair is kept by two writes, one for each credential, and a write that fails leaves everything as
it was and tells nobody. So each write has a fate of its own, which is decided by the two steps that
it takes: it is accepted if neither opening the entry nor writing it fails. Where both writes have
the same fate the rotation is whole: the keychain holds the new pair, or what it held before to the
last byte.

Where only one of them is accepted it is not. If it is the first one, the keychain ends up with the
new access credential beside the old refresh credential, which the server takes no more, or beside
none (`half_rotation`).

## Main definitions

* `Session.IsWhole`: A keychain holds a whole pair or nothing.

## Theorems

* `Traffic.store_of_issues`: An event that issues a pair writes both credentials.
* `Traffic.entries_of_issues`: What becomes of each entry is decided by its own write.
* `Traffic.rotation`: Both writes or none leave a whole pair.
* `Traffic.half_rotation`: One write alone does not.
-/

namespace Wager

namespace Session

/-- A keychain holds both credentials of a pair, as they were written when it was issued, or none. -/
def IsWhole (k : Keychain) : Prop :=
  (∃ i : Issue, (Store.keychain k).stored? accessName = some i.access ∧
    (Store.keychain k).stored? refreshName = some i.refresh) ∨
  (Store.keychain k).Lacks accessName ∧ (Store.keychain k).Lacks refreshName

theorem IsWhole.congr {k k' : Keychain} (h : IsWhole k) (hsecrets : k'.secrets = k.secrets) :
    IsWhole k' := by
  unfold IsWhole
  rw [Store.stored?_congr hsecrets accessName, Store.stored?_congr hsecrets refreshName]
  simp only [Store.Lacks, hsecrets]
  exact h

namespace Traffic

/-- An event that issues a pair writes the access credential and then the refresh credential. -/
theorem store_of_issues {t : Traffic} {e : Timestamp × Event} {i : Issue} (h : t.Issues e i) :
    (t.step e).state.store
      = (t.state.store.set accessName i.pair.access i.access.expiresAt).set refreshName
          i.pair.refresh i.refresh.expiresAt := by
  cases h with
  | established now pair =>
    rw [step_establish]
    rfl
  | renewed now id pair hawaited =>
    have hstep : (t.step (now, .answer id (.ok pair))).state
        = t.state.finish id (.ok pair) now := rfl
    rw [hstep]
    rcases store_finish t.state id (.ok pair) now with ⟨pair', heq, -, hkept⟩ | ⟨hnot, -⟩
    · rw [hkept, ← Except.ok.inj heq]
      rfl
    · rw [hnot pair rfl] at hawaited
      exact nomatch hawaited

theorem time_of_issues {t : Traffic} {e : Timestamp × Event} {i : Issue} (h : t.Issues e i) :
    i.time = e.1 := by
  cases h <;> rfl

/-- Each entry is the new one or as it was before, and which of these is decided by its own write. -/
theorem entries_of_issues {t : Traffic} {k : Keychain} (hstore : t.state.store = .keychain k)
    {e : Timestamp × Event} {i : Issue} (hissues : t.Issues e i) (hdatable : Datable e.1) :
    (t.step e).state.store.stored? accessName
        = (if k.Accepts then some i.access else (Store.keychain k).stored? accessName) ∧
      (t.step e).state.store.stored? refreshName
        = if (Store.setKeychain k accessName i.access).Accepts then some i.refresh
          else (Store.keychain k).stored? refreshName := by
  rw [← time_of_issues hissues] at hdatable
  have hstep := store_of_issues hissues
  rw [hstore] at hstep
  have hother : (Store.keychain (Store.setKeychain k accessName i.access)).stored? refreshName
      = (Store.keychain k).stored? refreshName :=
    Store.stored?_set_of_ne (.keychain k) i.access.value i.access.expiresAt accessName_ne
  refine ⟨?_, ?_⟩
  · -- The second write is for the other name.
    rw [hstep, Store.stored?_set_of_ne _ _ _ accessName_ne.symm]
    split
    · rename_i haccepts
      exact Store.stored?_setKeychain_self accessName haccepts hdatable.access
    · rename_i hrefuses
      exact Store.stored?_congr (Store.secrets_setKeychain_of_not_accepts _ _ hrefuses) accessName
  · rw [hstep]
    split
    · rename_i haccepts
      exact Store.stored?_setKeychain_self refreshName haccepts hdatable.refresh
    · rename_i hrefuses
      rw [← hother]
      exact Store.stored?_congr (Store.secrets_setKeychain_of_not_accepts _ _ hrefuses) refreshName

/-- Rotation: whatever steps of the keychain fail, if the writes of the two credentials are both
accepted or both not, then the keychain holds the pair that was issued or exactly what it held
before. So where it held a whole pair or nothing, it does so afterwards. -/
theorem rotation (t : Traffic) (k : Keychain) (hstore : t.state.store = .keychain k)
    (e : Timestamp × Event) (i : Issue) (hissues : t.Issues e i) (hdatable : Datable e.1)
    (hfate : (Store.setKeychain k accessName i.access).Accepts ↔ k.Accepts) :
    ∃ k', (t.step e).state.store = .keychain k' ∧
      ((Store.keychain k').stored? accessName = some i.access ∧
          (Store.keychain k').stored? refreshName = some i.refresh ∨
        k'.secrets = k.secrets) ∧
      (IsWhole k → IsWhole k') := by
  have hentries := entries_of_issues hstore hissues hdatable
  have hstep := store_of_issues hissues
  rw [hstore] at hstep
  rw [hstep] at hentries
  have hresult : (Store.keychain (Store.setKeychain (Store.setKeychain k accessName i.access)
          refreshName i.refresh)).stored? accessName = some i.access ∧
        (Store.keychain (Store.setKeychain (Store.setKeychain k accessName i.access)
          refreshName i.refresh)).stored? refreshName = some i.refresh ∨
      (Store.setKeychain (Store.setKeychain k accessName i.access)
          refreshName i.refresh).secrets = k.secrets := by
    by_cases haccepts : k.Accepts
    · rw [if_pos haccepts, if_pos (hfate.mpr haccepts)] at hentries
      exact Or.inl hentries
    · -- Then the second one is not accepted either, and no secret has changed.
      right
      rw [Store.secrets_setKeychain_of_not_accepts refreshName i.refresh fun h => haccepts (hfate.mp h),
        Store.secrets_setKeychain_of_not_accepts accessName i.access haccepts]
  refine ⟨_, hstep, hresult, fun hwhole => ?_⟩
  rcases hresult with hnew | hsame
  · exact Or.inl ⟨i, hnew⟩
  · exact hwhole.congr hsame

/-- A session that begins in an empty keychain that takes writes, but no other steps. -/
theorem rotation_sample :
    let now : Timestamp := { seconds := 0, nanos := 0 }
    let k : Keychain :=
      { faults := fun _ operation =>
          if operation = .read ∨ operation = .delete then some .platform else none }
    let i : Issue := ⟨{ access := "a", refresh := "r" }, now⟩
    ∃ k', ((start (.keychain k)).step (now, .call (.establish i.pair))).state.store = .keychain k' ∧
      ((Store.keychain k').stored? accessName = some i.access ∧
          (Store.keychain k').stored? refreshName = some i.refresh ∨
        k'.secrets = k.secrets) ∧
      (IsWhole k → IsWhole k') := by
  intro now k i
  have hdatable : Datable now := ⟨⟨by decide +kernel, Or.inl (show 0 < 1000000000 by decide)⟩,
    by decide +kernel⟩
  have haccepts : k.Accepts := ⟨rfl, rfl⟩
  have hfate : (Store.setKeychain k accessName i.access).Accepts ↔ k.Accepts :=
    iff_of_true ⟨rfl, rfl⟩ haccepts
  exact rotation (start (.keychain k)) k rfl (now, .call (.establish i.pair)) i
    (.established now i.pair) hdatable hfate

/-- Rotations of which one write alone is accepted. In the first keychain a session has begun and the
second write of its rotation fails: the new access credential is left beside the refresh credential
of the other pair. In the second one nothing was kept before, and there is an access credential
without a refresh credential. -/
theorem half_rotation :
    let now : Timestamp := { seconds := 0, nanos := 0 }
    let failing : Nat → Keychain := fun last =>
      { faults := fun step operation =>
          if step = last ∧ operation = .write then some .platform else none }
    let old : Issue := ⟨{ access := "a", refresh := "r" }, now⟩
    let new : Issue := ⟨{ access := "b", refresh := "s" }, now⟩
    let begun := (start (.keychain (failing 7))).run [(now, .call (.establish old.pair))]
    let rotated := begun.step (now, .call (.establish new.pair))
    let first := (start (.keychain (failing 3))).step (now, .call (.establish new.pair))
    begun.state.store.stored? accessName = some old.access ∧
      begun.state.store.stored? refreshName = some old.refresh ∧
      rotated.state.store.stored? accessName = some new.access ∧
      rotated.state.store.stored? refreshName = some old.refresh ∧
      first.state.store.stored? accessName = some new.access ∧
      first.state.store.stored? refreshName = none := by
  decide +kernel

end Traffic

end Session

end Wager
