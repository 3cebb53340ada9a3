import Wager.Transaction.Basic

/-!
# Signing transactions

Where a signature goes and what it leaves alone.

A signer may be named more than once among the required ones. Its signature goes into the first of
its slots only, so it takes somebody else to fill the others, and a transaction that names a signer
twice is never complete by that signer alone.

## Main definitions

* `Transaction.IsFirstSlot`: The slot that the signature of a signer goes into.
* `Transaction.Fills`: A transaction is another one with one more signature.

## Theorems

* `Transaction.addSignature_eq_ok_iff`: When a signature can be put in, and what comes of it.
* `Transaction.fills_setSlot`: Putting in a signature touches one slot and nothing else.
* `Transaction.isFullySigned_setSlot_iff`: When no slot is empty afterwards.
-/

namespace Wager.Transaction

/-- Slot `i` belongs to a signer, and no slot before it does. -/
def IsFirstSlot (tx : Transaction) (signer : Address) (i : Nat) : Prop :=
  tx.requiredSigners[i]? = some signer ∧ ∀ j < i, tx.requiredSigners[j]? ≠ some signer

/-- A transaction is another one with a signature in the first slot of a signer. -/
structure Fills (signer : Address) (s : Signature) (tx signed : Transaction) : Prop where
  message : signed.message = tx.message
  slots : ∃ i, tx.IsFirstSlot signer i ∧ signed.signatures[i]? = some s ∧
    ∀ j, j ≠ i → signed.signatures[j]? = tx.signatures[j]?

/-- There are as many slots as required signers. -/
theorem length_requiredSigners (tx : Transaction) :
    tx.requiredSigners.length = tx.signatures.length := by
  rw [requiredSigners, List.length_take, tx.slots_eq, Nat.min_eq_left tx.keys_le]

theorem idxOf?_requiredSigners_eq_some_iff (tx : Transaction) (signer : Address) (i : Nat) :
    tx.requiredSigners.idxOf? signer = some i ↔ tx.IsFirstSlot signer i := by
  rw [List.idxOf?_eq_some_iff, IsFirstSlot, List.getElem?_eq_some_iff]
  constructor
  · rintro ⟨hlt, hi, hbefore⟩
    refine ⟨⟨hlt, hi⟩, ?_⟩
    intro j hj hsome
    rcases List.getElem?_eq_some_iff.mp hsome with ⟨hj', heq⟩
    exact hbefore j hj heq
  · rintro ⟨⟨hlt, hi⟩, hbefore⟩
    refine ⟨hlt, hi, ?_⟩
    intro j hj heq
    exact hbefore j hj (List.getElem?_eq_some_iff.mpr ⟨Nat.lt_trans hj hlt, heq⟩)

theorem IsFirstSlot.lt {tx : Transaction} {signer : Address} {i : Nat}
    (h : tx.IsFirstSlot signer i) : i < tx.signatures.length := by
  rw [← length_requiredSigners]
  exact (List.getElem?_eq_some_iff.mp h.1).1

/-- A signer has one first slot. -/
theorem IsFirstSlot.unique {tx : Transaction} {signer : Address} {i j : Nat}
    (hi : tx.IsFirstSlot signer i) (hj : tx.IsFirstSlot signer j) : i = j := by
  rcases Nat.lt_trichotomy i j with hlt | heq | hlt
  · exact absurd hi.1 (hj.2 i hlt)
  · exact heq
  · exact absurd hj.1 (hi.2 j hlt)

/-- The required signers are those who have a slot. -/
theorem mem_requiredSigners_iff (tx : Transaction) (signer : Address) :
    signer ∈ tx.requiredSigners ↔ ∃ i, tx.IsFirstSlot signer i := by
  constructor
  · intro hmem
    cases hi : tx.requiredSigners.idxOf? signer with
    | none => exact absurd hmem (List.idxOf?_eq_none_iff.mp hi)
    | some i => exact ⟨i, (idxOf?_requiredSigners_eq_some_iff tx signer i).mp hi⟩
  · rintro ⟨i, hi⟩
    exact List.mem_of_getElem? hi.1

/-- A signature can be put in exactly for those who have a slot. -/
theorem addSignature_eq_ok_iff (tx signed : Transaction) (signer : Address) (s : Signature) :
    tx.addSignature signer s = .ok signed ↔
      ∃ i, tx.IsFirstSlot signer i ∧ signed = tx.setSlot i s := by
  unfold addSignature
  split
  · rename_i i hi
    rw [idxOf?_requiredSigners_eq_some_iff] at hi
    rw [Except.ok.injEq]
    constructor
    · intro heq
      exact ⟨i, hi, heq.symm⟩
    · rintro ⟨j, hj, rfl⟩
      rw [hi.unique hj]
  · rename_i hnone
    -- Who has a first slot has been found, so there is none.
    simp only [reduceCtorEq, false_iff, not_exists, not_and]
    intro i hi
    rw [(idxOf?_requiredSigners_eq_some_iff tx signer i).mpr hi] at hnone
    simp only [reduceCtorEq] at hnone

/-- Putting in a signature touches one slot and nothing else. -/
theorem fills_setSlot {tx : Transaction} {signer : Address} {i : Nat}
    (h : tx.IsFirstSlot signer i) (s : Signature) : Fills signer s tx (tx.setSlot i s) where
  message := rfl
  slots := by
    refine ⟨i, h, List.getElem?_set_self h.lt, ?_⟩
    intro j hj
    exact List.getElem?_set_ne hj.symm

theorem isFullySigned_iff (tx : Transaction) :
    tx.isFullySigned = true ↔ ∀ s ∈ tx.signatures, s ≠ .empty := by
  simp only [isFullySigned, List.all_eq_true, decide_eq_true_eq]

/-- No slot is empty once a signature is put in, exactly if that one is not empty and no other slot
was. -/
theorem isFullySigned_setSlot_iff {tx : Transaction} {i : Nat} (hi : i < tx.signatures.length)
    (s : Signature) : (tx.setSlot i s).isFullySigned = true ↔
      s ≠ .empty ∧ ∀ j, j ≠ i → tx.signatures[j]? ≠ some .empty := by
  rw [isFullySigned_iff]
  simp only [setSlot]
  constructor
  · intro h
    refine ⟨h s (List.mem_set hi s), ?_⟩
    intro j hj hempty
    -- A slot that was empty before and is not the one filled is empty still.
    have hmem : Signature.empty ∈ tx.signatures.set i s := by
      refine List.mem_of_getElem? (i := j) ?_
      rw [List.getElem?_set_ne hj.symm, hempty]
    exact h .empty hmem rfl
  · rintro ⟨hs, hothers⟩ u hu rfl
    -- An empty slot is the one filled, or it was there before.
    rcases List.getElem?_of_mem hu with ⟨j, hj⟩
    by_cases hij : j = i
    · rw [hij, List.getElem?_set_self hi, Option.some.injEq] at hj
      exact hs hj
    · rw [List.getElem?_set_ne (Ne.symm hij)] at hj
      exact hothers j hij hj

end Wager.Transaction
