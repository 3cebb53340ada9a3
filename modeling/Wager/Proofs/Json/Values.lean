import Mathlib.Data.List.Pairwise
import Mathlib.Data.String.Basic
import Mathlib.Tactic.SplitIfs
import Wager.Json.Decode

/-!
# Documents kept as values

A value is kept as it is when its own document is read.

A value has more to it than a document asks for: in its objects each key is there once, and the members
are sorted by their keys (`Json.Value.IsKeyed`). Reading a document puts the members in this order one
by one, and members that come in order are put behind the others each time. So nothing is lost but what
is nested too deep.

Setting a member needs none of this. The key has the value afterwards and the other keys have the values
that they had, in any list; and a sorted list stays sorted.

## Main definitions

* `Json.Value.depth`: How deep a value is nested.
* `Json.Value.IsKeyed`: The objects in a value are sorted by their keys.
* `Json.Value.without`: An object without the members of a key.

## Theorems

* `Json.lookup_put_self`, `Json.lookup_put_of_ne`: What is found after a member is set.
* `Json.filter_put`, `Json.pairwise_put`: Taking it out again, and the order of the members.
* `Json.Value.ofMembers_of_sorted`: Sorted members are kept as they are.
* `Json.Decoder.value_toTree`: A value is kept as it is.
-/

namespace Wager.Json

/-! ### Setting a member -/

section

variable {α : Type} {key : String} {value : α}

theorem lookup_put_self (key : String) (value : α) (ms : List (String × α)) :
    (put key value ms).lookup key = some value := by
  induction ms with
  | nil => simp [put]
  | cons m ms ih =>
    obtain ⟨k, v⟩ := m
    rw [put]
    split_ifs with hlt heq
    · simp
    · simp
    · rw [List.lookup_cons, beq_false_of_ne heq, ih]

theorem lookup_put_of_ne {other : String} (h : other ≠ key) (ms : List (String × α)) :
    (put key value ms).lookup other = ms.lookup other := by
  have hother : (other == key) = false := beq_false_of_ne h
  induction ms with
  | nil => rw [put, List.lookup_cons, hother]
  | cons m ms ih =>
    obtain ⟨k, v⟩ := m
    rw [put]
    split_ifs with hlt heq
    · rw [List.lookup_cons, hother]
    · rw [← heq, List.lookup_cons, List.lookup_cons, hother]
    · rw [List.lookup_cons, List.lookup_cons, ih]

theorem filter_key_eq_self {ms : List (String × α)} (h : ∀ m ∈ ms, m.1 ≠ key) :
    ms.filter (·.1 != key) = ms :=
  List.filter_eq_self.mpr fun m hm => bne_iff_ne.mpr (h m hm)

/-- A member that was not there can be taken out again. -/
theorem filter_put {ms : List (String × α)} (h : ∀ m ∈ ms, m.1 ≠ key) :
    (put key value ms).filter (·.1 != key) = ms := by
  induction ms with
  | nil => simp [put]
  | cons m ms ih =>
    obtain ⟨k, v⟩ := m
    obtain ⟨hk, hms⟩ := List.forall_mem_cons.mp h
    have hkeep : ((k, v).1 != key) = true := bne_iff_ne.mpr hk
    rw [put]
    split_ifs with hlt heq
    · rw [List.filter_cons_of_neg (by simp), filter_key_eq_self h]
    · exact absurd heq.symm hk
    · rw [List.filter_cons, if_pos hkeep, ih hms]

theorem mem_put {ms : List (String × α)} (h : ∀ m ∈ ms, m.1 ≠ key) {m : String × α} (hm : m ∈ ms) :
    m ∈ put key value ms :=
  List.mem_of_mem_filter (filter_put h ▸ hm)

theorem eq_or_mem_of_mem_put {ms : List (String × α)} {m : String × α} (h : m ∈ put key value ms) :
    m = (key, value) ∨ m ∈ ms := by
  induction ms with
  | nil => exact .inl (List.mem_singleton.mp h)
  | cons m' ms ih =>
    obtain ⟨k, v⟩ := m'
    rw [put] at h
    split_ifs at h with hlt heq
    · exact List.mem_cons.mp h
    · exact (List.mem_cons.mp h).imp_right (List.mem_cons_of_mem _)
    · rcases List.mem_cons.mp h with rfl | h
      · exact .inr List.mem_cons_self
      · exact (ih h).imp_right (List.mem_cons_of_mem _)

/-- Sorted members stay sorted. -/
theorem pairwise_put {ms : List (String × α)} (h : ms.Pairwise fun m m' => m.1 < m'.1) :
    (put key value ms).Pairwise fun m m' => m.1 < m'.1 := by
  induction ms with
  | nil => exact List.pairwise_singleton _ _
  | cons m ms ih =>
    obtain ⟨k, v⟩ := m
    obtain ⟨hk, hms⟩ := List.pairwise_cons.mp h
    rw [put]
    split_ifs with hlt heq
    · refine List.pairwise_cons.mpr ⟨List.forall_mem_cons.mpr ⟨hlt, fun m hm => ?_⟩, h⟩
      exact hlt.trans (hk m hm)
    · exact List.pairwise_cons.mpr ⟨heq ▸ hk, hms⟩
    · refine List.pairwise_cons.mpr ⟨fun m hm => ?_, ih hms⟩
      rcases eq_or_mem_of_mem_put hm with rfl | hm
      · exact lt_of_le_of_ne (not_lt.mp hlt) (Ne.symm heq)
      · exact hk m hm

/-- A key that comes after all others is put behind them. -/
theorem put_of_forall_lt {ms : List (String × α)} (h : ∀ m ∈ ms, m.1 < key) :
    put key value ms = ms ++ [(key, value)] := by
  induction ms with
  | nil => rfl
  | cons m ms ih =>
    obtain ⟨k, v⟩ := m
    obtain ⟨hk, hms⟩ := List.forall_mem_cons.mp h
    rw [put, if_neg (String.lt_asymm hk), if_neg, ih hms, List.cons_append]
    rintro rfl
    exact String.lt_irrefl _ hk

/-- Members that come in order are put behind those that came before. -/
theorem foldl_put (before ms : List (String × α))
    (h : (before ++ ms).Pairwise fun m m' => m.1 < m'.1) :
    ms.foldl (fun sorted m => put m.1 m.2 sorted) before = before ++ ms := by
  induction ms generalizing before with
  | nil => exact (List.append_nil before).symm
  | cons m ms ih =>
    have hbefore : ∀ m' ∈ before, m'.1 < m.1 := fun m' hm' =>
      (List.pairwise_append.mp h).2.2 m' hm' m List.mem_cons_self
    rw [List.append_cons] at h
    rw [List.foldl_cons, put_of_forall_lt hbefore, ih _ h, List.append_assoc,
      List.singleton_append]

end

/-! ### Values -/

namespace Value

/-- Sorted members are kept as they are. -/
theorem ofMembers_of_sorted {ms : List (String × Value)} (h : ms.Pairwise fun m m' => m.1 < m'.1) :
    ofMembers ms = .object ms :=
  congrArg Value.object (foldl_put [] ms h)

/-- The object without the members of a key. -/
def without (key : String) (v : Value) : Value :=
  .object (v.members.filter (·.1 != key))

mutual

/-- How many containers are open at most at a place in the value. -/
def depth : Value → Nat
  | .array items => itemsDepth items + 1
  | .object members => membersDepth members + 1
  | _ => 0

/-- The same of the items of an array, the array not counted. -/
def itemsDepth : List Value → Nat
  | [] => 0
  | v :: rest => max v.depth (itemsDepth rest)

/-- The same of the members of an object, the object not counted. -/
def membersDepth : List (String × Value) → Nat
  | [] => 0
  | (_, v) :: rest => max v.depth (membersDepth rest)

end

mutual

/-- The objects in the value are sorted by their keys, each key once. -/
def IsKeyed : Value → Prop
  | .array items => itemsAreKeyed items
  | .object members => (members.Pairwise fun m m' => m.1 < m'.1) ∧ membersAreKeyed members
  | _ => True

/-- The same of the items of an array. -/
def itemsAreKeyed : List Value → Prop
  | [] => True
  | v :: rest => v.IsKeyed ∧ itemsAreKeyed rest

/-- The same of the members of an object, the object not counted. -/
def membersAreKeyed : List (String × Value) → Prop
  | [] => True
  | (_, v) :: rest => v.IsKeyed ∧ membersAreKeyed rest

end

end Value

/-! ### Keeping a document -/

namespace Decoder

section

variable {budget : Nat}
  (hkept : ∀ v : Value, v.IsKeyed → v.depth ≤ budget → value budget v.toTree = some v)

include hkept

theorem mapM_itemTrees {items : List Value} (h : Value.itemsAreKeyed items)
    (hbudget : Value.itemsDepth items ≤ budget) :
    (itemTrees items).mapM (value budget) = some items := by
  induction items with
  | nil => rfl
  | cons v rest ih =>
    obtain ⟨hv, hrest⟩ := Nat.max_le.mp hbudget
    rw [itemTrees, List.mapM_cons, hkept v h.1 hv, ih h.2 hrest]
    rfl

theorem membersOf_memberTrees {members : List (String × Value)} (h : Value.membersAreKeyed members)
    (hbudget : Value.membersDepth members ≤ budget) :
    membersOf (value budget) (memberTrees members) = some members := by
  induction members with
  | nil => rfl
  | cons m rest ih =>
    obtain ⟨k, v⟩ := m
    obtain ⟨hv, hrest⟩ := Nat.max_le.mp hbudget
    have hmore := ih h.2 hrest
    rw [membersOf] at hmore
    rw [memberTrees, membersOf, List.mapM_cons, hmore]
    simp only [hkept v h.1 hv, Option.bind_eq_bind, Option.bind_some, Option.pure_def]

end

/-- A value is kept as it is, by a reader that may open as many containers. -/
theorem value_toTree (v : Value) (h : v.IsKeyed) {budget : Nat} (hbudget : v.depth ≤ budget) :
    value budget v.toTree = some v := by
  -- On the containers that may be opened, one of which each container takes.
  induction budget generalizing v with
  | zero =>
    cases v with
    | array items => exact absurd hbudget (Nat.not_succ_le_zero _)
    | object members => exact absurd hbudget (Nat.not_succ_le_zero _)
    | _ => rfl
  | succ budget ih =>
    cases v with
    | array items =>
      rw [Value.toTree, value, mapM_itemTrees ih h (Nat.le_of_succ_le_succ hbudget), Option.map_some]
    | object members =>
      rw [Value.toTree, value, membersOf_memberTrees ih h.2 (Nat.le_of_succ_le_succ hbudget),
        Option.map_some, Value.ofMembers_of_sorted h.1]
    | _ => rfl

/-- An object with free keys is kept with the members that it has. -/
theorem freeObject_toTree {members : List (String × Value)} (h : (Value.object members).IsKeyed)
    {budget : Nat} (hbudget : (Value.object members).depth ≤ budget) :
    freeObject budget (Value.object members).toTree = some members := by
  have hvalue := value_toTree _ h hbudget
  rw [Value.toTree] at hvalue ⊢
  rw [freeObject, hvalue, Option.map_some, Value.members]

end Decoder

end Wager.Json
