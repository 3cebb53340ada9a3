import Wager.Store.Basic

/-!
# Working stores

What reading and removing do to a store whose medium does not fail.

Looking up a credential may change a store: an entry that turns out to be expired or unreadable is
removed on the way. So what a reader leaves behind is not the store it found but one with fewer
entries, and the two are related by `Store.ReadTo`, for any number of readers. What matters about it
is that nothing appears: a name that is missing before is missing after.

Only removing needs a medium that works. A name that is missing stays missing on any store, since a
failing keychain is read as an empty one.

## Main definitions

* `Store.IsWorking`: The medium never fails.
* `Store.Lacks`: Nothing is kept under a name.
* `Store.ReadTo`: A store and what readers leave of it.

## Theorems

* `Store.get_of_lacks`: Where nothing is kept there is nothing to read.
* `Store.lacks_remove_self`: Removing works on a working store.
* `Store.lacks_remove`, `Store.ReadTo.lacks`: What is missing stays missing.
* `Store.isWorking_set`, `Store.isWorking_remove`, `Store.ReadTo.isWorking`: A working store stays
  one.
-/

namespace Wager

/-! ### Tables and keychains -/

/-- A missing key is still missing when another or the same is erased. -/
theorem Table.get?_erase_eq_none {κ α : Type} [DecidableEq κ] (t : Table κ α) (k k' : κ)
    (h : t.get? k = none) : (t.erase k').get? k = none := by
  by_cases hk : k' = k
  · rw [hk, Table.get?_erase_self]
  · rw [Table.get?_erase_of_ne t hk, h]

namespace Keychain

theorem enter_faults (k : Keychain) : k.enter.2.faults = k.faults := by
  unfold enter
  split <;> rfl

theorem read_faults (k : Keychain) (e : Entry) : (k.read e).2.faults = k.faults := by
  unfold read
  split
  · rfl
  · split
    · rfl
    · split <;> rfl

theorem write_faults (k : Keychain) (e : Entry) (s : String) :
    (k.write e s).2.faults = k.faults := by
  unfold write
  split <;> rfl

theorem delete_faults (k : Keychain) (e : Entry) : (k.delete e).2.faults = k.faults := by
  unfold delete
  split
  · rfl
  · split <;> rfl

/-- An entry that is missing cannot be read. -/
theorem read_of_get?_eq_none (k : Keychain) (e : Entry) (h : k.secrets.get? e = none) :
    ∃ f, k.read e = (.error f, k.tick) := by
  unfold read
  cases hfault : k.faults k.steps .read with
  | some f => exact ⟨f, rfl⟩
  | none => exact ⟨.noEntry, by rw [h]⟩

/-- What is missing is still missing when an entry is deleted. -/
theorem delete_get?_eq_none (k : Keychain) (e e' : Entry) (h : k.secrets.get? e = none) :
    (k.delete e').2.secrets.get? e = none := by
  unfold delete
  split
  · exact h
  · split
    · exact h
    · exact Table.get?_erase_eq_none k.secrets e e' h

/-- A deletion that does not fail removes the entry, whether it was there or not. -/
theorem delete_get?_self (k : Keychain) (e : Entry) (h : k.faults k.steps .delete = none) :
    (k.delete e).2.secrets.get? e = none := by
  unfold delete
  rw [h]
  cases hget : k.secrets.get? e with
  | none => exact hget
  | some secret => exact Table.get?_erase_self k.secrets e

end Keychain

/-! ### Stores -/

namespace Store

/-- The medium never fails. -/
def IsWorking : Store → Prop
  | .memory _ => True
  | .keychain k => ∀ step operation, k.faults step operation = none

/-- Nothing is kept under a name. -/
def Lacks (name : String) : Store → Prop
  | .memory entries => entries.get? (qualified name) = none
  | .keychain k => k.secrets.get? (entryOf name) = none

/-- A store and what is left of it after any number of readers. -/
inductive ReadTo (s : Store) : Store → Prop
  | refl : ReadTo s s
  | get (t : Store) (now : Timestamp) (name : String) : ReadTo s t → ReadTo s (t.get now name).2

/-- Where nothing is kept there is nothing to read. -/
theorem get_of_lacks (s : Store) (now : Timestamp) (name : String) (h : s.Lacks name) :
    (s.get now name).1 = none := by
  cases s with
  | memory entries =>
    have hnone : entries.get? (qualified name) = none := h
    simp only [get, getMemory, hnone]
  | keychain k =>
    have hget : k.secrets.get? (entryOf name) = none := h
    have henter := Keychain.enter_secrets k
    simp only [get, getKeychain]
    rcases hk : k.enter with ⟨_ | _, k'⟩
    · -- A keychain that cannot be entered is read as an empty one.
      rfl
    · rw [hk] at henter
      rcases Keychain.read_of_get?_eq_none k' (entryOf name) (by rw [henter, hget]) with ⟨f, hf⟩
      simp only [hf]

theorem lacks_get (s : Store) (now : Timestamp) (name other : String) (h : s.Lacks name) :
    (s.get now other).2.Lacks name := by
  cases s with
  | memory entries =>
    simp only [get, getMemory]
    split
    · exact h
    · split
      · exact Table.get?_erase_eq_none entries (qualified name) (qualified other) h
      · exact h
  | keychain k =>
    have hget : k.secrets.get? (entryOf name) = none := h
    simp only [get, getKeychain]
    -- Entering and reading may fail but write nothing; what is written afterwards only deletes.
    have henter := Keychain.enter_secrets k
    rcases hk : k.enter with ⟨_ | _, k'⟩
    · rw [hk] at henter
      simp only [Lacks]
      rw [henter, hget]
    · rw [hk] at henter
      have hread := Keychain.read_secrets k' (entryOf other)
      rcases hr : k'.read (entryOf other) with ⟨_ | raw, k''⟩
      · rw [hr] at hread
        simp only [hr, Lacks]
        rw [hread, henter, hget]
      · rw [hr] at hread
        have hk'' : k''.secrets.get? (entryOf name) = none := by rw [hread, henter, hget]
        simp only [hr]
        split
        · exact Keychain.delete_get?_eq_none k'' (entryOf name) (entryOf other) hk''
        · split
          · exact Keychain.delete_get?_eq_none k'' (entryOf name) (entryOf other) hk''
          · exact hk''

theorem lacks_remove (s : Store) (name other : String) (h : s.Lacks name) :
    (s.remove other).Lacks name := by
  cases s with
  | memory entries => exact Table.get?_erase_eq_none entries (qualified name) (qualified other) h
  | keychain k =>
    have hget : k.secrets.get? (entryOf name) = none := h
    have henter := Keychain.enter_secrets k
    simp only [remove, removeKeychain]
    rcases hk : k.enter with ⟨_ | _, k'⟩
    · rw [hk] at henter
      simp only [Lacks]
      rw [henter, hget]
    · rw [hk] at henter
      exact Keychain.delete_get?_eq_none k' (entryOf name) (entryOf other) (by rw [henter, hget])

/-- Removing works on a working store. -/
theorem lacks_remove_self (s : Store) (name : String) (hw : s.IsWorking) :
    (s.remove name).Lacks name := by
  cases s with
  | memory entries => exact Table.get?_erase_self entries (qualified name)
  | keychain k =>
    have hfaults : ∀ step operation, k.enter.2.faults step operation = none := by
      rw [Keychain.enter_faults]
      exact hw
    -- The keychain lets itself be entered, so it comes to the deletion.
    have hopen : k.enter = (.ok (), k.tick) := by
      simp only [Keychain.enter, hw k.steps .enter]
    simp only [remove, removeKeychain, hopen]
    rw [hopen] at hfaults
    exact Keychain.delete_get?_self k.tick (entryOf name) (hfaults _ _)

theorem isWorking_get (s : Store) (now : Timestamp) (name : String) (hw : s.IsWorking) :
    (s.get now name).2.IsWorking := by
  cases s with
  | memory entries => exact trivial
  | keychain k =>
    have hk : ∀ step operation, k.faults step operation = none := hw
    simp only [get, getKeychain, Keychain.enter, hk]
    have hread := Keychain.read_faults k.tick (entryOf name)
    rcases hr : k.tick.read (entryOf name) with ⟨_ | raw, k'⟩
    · rw [hr] at hread
      simp only [IsWorking]
      rw [hread]
      exact hk
    · -- An entry that cannot be used is deleted, which leaves the medium as it is.
      rw [hr] at hread
      have hdelete := Keychain.delete_faults k' (entryOf name)
      simp only
      split
      · simp only [IsWorking]
        rw [hdelete, hread]
        exact hk
      · split
        · simp only [IsWorking]
          rw [hdelete, hread]
          exact hk
        · simp only [IsWorking]
          rw [hread]
          exact hk

theorem isWorking_set (s : Store) (name value : String) (expiresAt : Timestamp) (hw : s.IsWorking) :
    (s.set name value expiresAt).IsWorking := by
  cases s with
  | memory entries => exact trivial
  | keychain k =>
    have hk : ∀ step operation, k.faults step operation = none := hw
    simp only [set, setKeychain, Keychain.enter, hk, IsWorking]
    rw [Keychain.write_faults]
    exact hk

theorem isWorking_remove (s : Store) (name : String) (hw : s.IsWorking) :
    (s.remove name).IsWorking := by
  cases s with
  | memory entries => exact trivial
  | keychain k =>
    have hk : ∀ step operation, k.faults step operation = none := hw
    simp only [remove, removeKeychain, Keychain.enter, hk, IsWorking]
    rw [Keychain.delete_faults]
    exact hk

/-- What readers leave of what readers have left. -/
theorem ReadTo.trans {s t u : Store} (h : s.ReadTo t) (h' : t.ReadTo u) : s.ReadTo u := by
  induction h' with
  | refl => exact h
  | get u now name _ ih => exact .get u now name ih

theorem ReadTo.lacks {s t : Store} (h : s.ReadTo t) (name : String) (hs : s.Lacks name) :
    t.Lacks name := by
  induction h with
  | refl => exact hs
  | get t now other _ ih => exact lacks_get t now name other ih

theorem ReadTo.isWorking {s t : Store} (h : s.ReadTo t) (hs : s.IsWorking) : t.IsWorking := by
  induction h with
  | refl => exact hs
  | get t now name _ ih => exact isWorking_get t now name ih

end Store

end Wager
