/-!
# Positions in a list

Where an entry of a list comes from that was extended at the end or changed in one place. Callers
and threads are known by their positions, so this is asked after every event.

## Theorems

* `getElem?_concat_eq_some`: An entry of an extended list was there before or is the new one.
* `getElem?_set_eq_some`: An entry of a changed list is the new one or was there before.
-/

namespace Wager

theorem getElem?_concat_eq_some {α : Type} {l : List α} {a b : α} {n : Nat}
    (h : (l ++ [a])[n]? = some b) : l[n]? = some b ∨ n = l.length ∧ b = a := by
  rcases Nat.lt_or_ge n l.length with hlt | hge
  · rw [List.getElem?_append_left hlt] at h
    exact Or.inl h
  · right
    have hlen := (List.getElem?_eq_some_iff.mp h).1
    rw [List.length_append, List.length_singleton] at hlen
    have hn : n = l.length := by omega
    rw [hn, List.getElem?_concat_length, Option.some.injEq] at h
    exact ⟨hn, h.symm⟩

theorem getElem?_set_eq_some {α : Type} {l : List α} {a b : α} {n m : Nat}
    (h : (l.set n a)[m]? = some b) : n = m ∧ b = a ∨ n ≠ m ∧ l[m]? = some b := by
  by_cases hnm : n = m
  · left
    have hlen := (List.getElem?_eq_some_iff.mp h).1
    rw [List.length_set] at hlen
    rw [hnm, List.getElem?_set_self hlen, Option.some.injEq] at h
    exact ⟨hnm, h.symm⟩
  · rw [List.getElem?_set_ne hnm] at h
    exact Or.inr ⟨hnm, h⟩

end Wager
