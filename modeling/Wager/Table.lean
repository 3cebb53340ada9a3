/-!
# Tables

Finite tables from keys to values, in the order in which keys first came in.

A table is a list of pairs. Setting a key that is there replaces its value in place, so a table made
by these operations has each key once.

## Main definitions

* `Table`: A table.
* `Table.get?`, `Table.set`, `Table.erase`: Looking up, setting and removing a key.

## Theorems

* `Table.get?_set_self`, `Table.get?_set_of_ne`: What is found after setting a key.
* `Table.get?_erase_self`, `Table.get?_erase_of_ne`: What is found after removing a key.
-/

namespace Wager

/-- A table from keys to values. -/
structure Table (κ α : Type) where
  entries : List (κ × α) := []
  deriving DecidableEq

namespace Table

variable {κ α : Type} [DecidableEq κ]

/-- The table without entries. -/
def empty : Table κ α := ⟨[]⟩

/-- The first value under a key in a list of pairs. -/
def find? (k : κ) : List (κ × α) → Option α
  | [] => none
  | (k', v) :: rest => if k' = k then some v else find? k rest

/-- Replaces the value under a key, or adds it at the end. -/
def put (k : κ) (v : α) : List (κ × α) → List (κ × α)
  | [] => [(k, v)]
  | (k', v') :: rest => if k' = k then (k, v) :: rest else (k', v') :: put k v rest

/-- The value under a key. -/
def get? (t : Table κ α) (k : κ) : Option α := find? k t.entries

/-- The table with a value under a key. -/
def set (t : Table κ α) (k : κ) (v : α) : Table κ α := ⟨put k v t.entries⟩

/-- The table without a key. -/
def erase (t : Table κ α) (k : κ) : Table κ α := ⟨t.entries.filter (·.1 ≠ k)⟩

/-- The table of a list of pairs; of equal keys the last counts. -/
def ofList (l : List (κ × α)) : Table κ α := l.foldl (fun t (k, v) => t.set k v) empty

@[simp] theorem get?_set_self (t : Table κ α) (k : κ) (v : α) : (t.set k v).get? k = some v := by
  obtain ⟨l⟩ := t
  simp only [get?, set]
  induction l with
  | nil => simp [put, find?]
  | cons e rest ih =>
    simp only [put]
    split
    · simp [find?]
    · rename_i h
      simp [find?, h, ih]

theorem get?_set_of_ne (t : Table κ α) {k k' : κ} (v : α) (h : k ≠ k') :
    (t.set k v).get? k' = t.get? k' := by
  obtain ⟨l⟩ := t
  simp only [get?, set]
  induction l with
  | nil => simp [put, find?, h]
  | cons e rest ih =>
    simp only [put]
    split
    · rename_i he
      subst he
      simp [find?, h]
    · simp only [find?, ih]

@[simp] theorem get?_erase_self (t : Table κ α) (k : κ) : (t.erase k).get? k = none := by
  obtain ⟨l⟩ := t
  simp only [get?, erase]
  induction l with
  | nil => rfl
  | cons e rest ih =>
    by_cases h : e.1 = k
    · simpa [h] using ih
    · simpa [h, find?] using ih

theorem get?_erase_of_ne (t : Table κ α) {k k' : κ} (h : k ≠ k') :
    (t.erase k).get? k' = t.get? k' := by
  obtain ⟨l⟩ := t
  simp only [get?, erase]
  induction l with
  | nil => rfl
  | cons e rest ih =>
    simp only [ne_eq, decide_not] at ih
    by_cases he : e.1 = k
    · simp [he, find?, h, ih]
    · simp [he, find?, ih]

end Table

end Wager
