import Mathlib.Data.List.Forall2
import Wager.Json.Decode
import Wager.Proofs.Number.Whole

/-!
# Records in documents

What a record in a document has in place of its fields.

Reading goes over the members of an object once for each field. What it finds is told here without
the search: where there is a tree in place of a field it is the only one under that name, and where
there is none the name does not occur. An array holds its fields in order instead, and may end early.

## Main definitions

* `Json.Slot.Of`: What an object has in place of a field.
* `Json.Tree.IsRecord`: What a record has in place of its fields.
* `Json.Slot.Offers`: What may be had in place of a field that may be null.
* `Json.Slot.Gives`: What is had in place of a field that has a default.

## Theorems

* `Json.slotOf?_eq_some_iff`, `Json.slots?_eq_some_iff`: Reading finds just that.
* `Json.Decoder.record_eq_some_iff`: A record is read from what it has in place of its fields.
* `Json.Decoder.nullable_eq_some_iff`, `Json.Decoder.defaulted_eq_some_iff`, …: Which values are read
  for a field.
-/

namespace Wager.Json

/-- What the members of an object have in place of a field. -/
inductive Slot.Of (members : List (String × Tree)) (name : String) : Slot → Prop
  | omitted (h : ∀ t, (name, t) ∉ members) : Of members name .omitted
  | given {before after : List (String × Tree)} {t : Tree}
      (h : members = before ++ (name, t) :: after) (hunique : ∀ t', (name, t') ∉ before ++ after) :
      Of members name (.given t)

/-- What a document has in place of the fields of a record. An object has readable names only; an
array has the fields in order, of which some may be missing at its end. -/
inductive Tree.IsRecord (names : List String) : Tree → List Slot → Prop
  | object {members : List (String × Tree)} {slots : List Slot}
      (h : List.Forall₂ (Slot.Of members) names slots) :
      IsRecord names (.object (members.map fun m => (some m.1, m.2))) slots
  | array {items : List Tree} {missing : Nat} (h : items.length + missing = names.length) :
      IsRecord names (.array items) (items.map .given ++ List.replicate missing .cut)

/-- A list is read if each of its items is. -/
theorem mapM_eq_some_iff {α β : Type} (f : α → Option β) (l : List α) (r : List β) :
    l.mapM f = some r ↔ List.Forall₂ (fun a b => f a = some b) l r := by
  induction l generalizing r with
  | nil => cases r <;> simp
  | cons a l ih =>
    rw [List.mapM_cons]
    cases r with
    | nil => simp [Option.bind_eq_some_iff]
    | cons b r =>
      rw [List.forall₂_cons, ← ih]
      simp [Option.bind_eq_some_iff]

/-- Nothing is found under a name that does not occur. -/
theorem filter_name_eq_nil_iff {members : List (String × Tree)} {name : String} :
    members.filter (·.1 == name) = [] ↔ ∀ t, (name, t) ∉ members := by
  rw [List.filter_eq_nil_iff]
  constructor
  · exact fun h t ht => h _ ht (beq_self_eq_true name)
  · rintro h ⟨key, t⟩ ht hkey
    obtain rfl : key = name := eq_of_beq hkey
    exact h t ht

theorem slotOf?_eq_some_iff (members : List (String × Tree)) (name : String) (slot : Slot) :
    slotOf? members name = some slot ↔ Slot.Of members name slot := by
  unfold slotOf?
  -- What has the name is a list of none, one or more, and more is an error.
  constructor
  · intro h
    split at h
    case h_1 hnone =>
      rw [← Option.some.inj h]
      exact .omitted (filter_name_eq_nil_iff.mp hnone)
    case h_2 key t hone =>
      rw [← Option.some.inj h]
      obtain ⟨before, after, hmembers, hbefore, hkey, hafter⟩ := List.filter_eq_cons_iff.mp hone
      obtain rfl : key = name := eq_of_beq hkey
      refine .given hmembers fun t' ht' => ?_
      rcases List.mem_append.mp ht' with ht' | ht'
      · exact hbefore _ ht' (beq_self_eq_true key)
      · exact filter_name_eq_nil_iff.mp hafter t' ht'
    case h_3 => cases h
  · intro h
    cases h with
    | omitted h => rw [filter_name_eq_nil_iff.mpr h]
    | @given before after t h hunique =>
      have hothers : (before ++ after).filter (·.1 == name) = [] :=
        filter_name_eq_nil_iff.mpr hunique
      rw [List.filter_append, List.append_eq_nil_iff] at hothers
      have hone : members.filter (·.1 == name) = [(name, t)] := by
        rw [h, List.filter_append, hothers.1, List.filter_cons, hothers.2,
          if_pos (beq_self_eq_true name), List.nil_append]
      rw [hone]

/-- The names of an object are read if all of them can be. -/
theorem mapM_members_eq_some_iff (members : List (Option String × Tree))
    (read : List (String × Tree)) :
    (members.mapM fun (k, t) => k.map fun k => (k, t)) = some read ↔
      members = read.map fun m => (some m.1, m.2) := by
  rw [mapM_eq_some_iff]
  induction members generalizing read with
  | nil => cases read <;> simp
  | cons m members ih =>
    cases read with
    | nil => simp
    | cons m' read =>
      rw [List.forall₂_cons, ih, List.map_cons, List.cons.injEq]
      rcases m with ⟨k, t⟩
      rcases m' with ⟨k', t'⟩
      cases k <;> simp

theorem slots?_eq_some_iff (names : List String) (t : Tree) (slots : List Slot) :
    slots? names t = some slots ↔ t.IsRecord names slots := by
  cases t with
  | object members =>
    simp only [slots?, Option.bind_eq_bind, Option.bind_eq_some_iff, mapM_members_eq_some_iff]
    simp only [mapM_eq_some_iff, slotOf?_eq_some_iff]
    constructor
    · rintro ⟨read, rfl, h⟩
      exact .object h
    · rintro (h | _)
      exact ⟨_, rfl, h⟩
  | array items =>
    simp only [slots?]
    constructor
    · intro h
      split at h
      case isTrue hlength =>
        rw [← Option.some.inj h]
        exact .array (Nat.add_sub_cancel' hlength)
      case isFalse => cases h
    · rintro (_ | hlength)
      rw [if_pos (Nat.le.intro hlength), ← hlength, Nat.add_sub_cancel_left]
  | null | bool | number | text =>
    constructor
    all_goals intro h; cases h

/-- A record has something in place of each of its fields. -/
theorem Tree.IsRecord.length_eq {names : List String} {t : Tree} {slots : List Slot}
    (h : t.IsRecord names slots) : slots.length = names.length := by
  cases h with
  | object h => exact h.length_eq.symm
  | array h => rw [List.length_append, List.length_map, List.length_replicate, h]

theorem exists_slot_iff {name : String} {t : Tree} {P : List Slot → Prop} :
    (∃ slots, t.IsRecord [name] slots ∧ P slots) ↔ ∃ x, t.IsRecord [name] [x] ∧ P [x] := by
  constructor
  · rintro ⟨slots, ht, hP⟩
    obtain ⟨x, rfl⟩ := List.length_eq_one_iff.mp ht.length_eq
    exact ⟨x, ht, hP⟩
  · rintro ⟨x, ht, hP⟩
    exact ⟨[x], ht, hP⟩

theorem exists_slots_iff {name name' : String} {t : Tree} {P : List Slot → Prop} :
    (∃ slots, t.IsRecord [name, name'] slots ∧ P slots) ↔
      ∃ x y, t.IsRecord [name, name'] [x, y] ∧ P [x, y] := by
  constructor
  · rintro ⟨slots, ht, hP⟩
    obtain ⟨x, y, rfl⟩ := List.length_eq_two.mp ht.length_eq
    exact ⟨x, y, ht, hP⟩
  · rintro ⟨x, y, ht, hP⟩
    exact ⟨[x, y], ht, hP⟩

/-- What may be had in place of a field that may be null: nothing for null, and nothing if the field is
missing from an object. -/
inductive Slot.Offers {α : Type} (P : Tree → α → Prop) : Slot → Option α → Prop
  | omitted : Offers P .omitted none
  | null : Offers P (.given .null) none
  | given {t : Tree} {a : α} (h : P t a) : Offers P (.given t) (some a)

/-- What is had in place of a field that has a default. -/
inductive Slot.Gives {α : Type} (P : Tree → α → Prop) (default : α) : Slot → α → Prop
  | given {t : Tree} {a : α} (h : P t a) : Gives P default (.given t) a
  | omitted : Gives P default .omitted default
  | cut : Gives P default .cut default

/-- What a document stands for that may be null. -/
inductive Tree.OrNull {α : Type} (P : Tree → α → Prop) : Tree → Option α → Prop
  | null : OrNull P .null none
  | given {t : Tree} {a : α} (h : P t a) : OrNull P t (some a)

namespace Decoder

variable {α : Type} {budget : Nat}

/-- A record is read from what it has in place of its fields, if it may be opened. -/
theorem record_eq_some_iff {names : List String} {build : Nat → List Slot → Option α} {t : Tree}
    {a : α} :
    record names build (budget + 1) t = some a ↔
      ∃ slots, t.IsRecord names slots ∧ build budget slots = some a := by
  simp only [record, Option.bind_eq_some_iff, slots?_eq_some_iff]

theorem text_eq_some_iff {t : Tree} {s : String} :
    text budget t = some s ↔ t = .text (some s) := by
  cases t <;> simp [text]

theorem whole_eq_some_iff {low high n : Int} {t : Tree} :
    whole low high budget t = some n ↔ t = .number (some (.whole n)) ∧ low ≤ n ∧ n ≤ high := by
  unfold whole
  split
  case h_1 m =>
    rw [Option.ite_none_right_eq_some, Option.some.injEq]
    constructor
    · rintro ⟨hrange, rfl⟩
      exact ⟨rfl, hrange⟩
    · rintro ⟨⟨⟩, hrange⟩
      exact ⟨hrange, rfl⟩
  case h_2 hne =>
    refine ⟨nofun, ?_⟩
    rintro ⟨rfl, -⟩
    exact absurd rfl (hne n)

/-- Of a type whose numbers go up to the limit, the one is read that is given. -/
theorem unsigned_eq_some_iff {high : Nat} {ofNat : Nat → α} {toNat : α → Nat}
    (h : Whole.IsUnsigned high ofNat toNat) {t : Tree} {a : α} :
    (whole 0 high budget t).map (fun n => ofNat n.toNat) = some a ↔
      t = .number (some (.whole (toNat a))) := by
  simp only [Option.map_eq_some_iff, whole_eq_some_iff]
  constructor
  · rintro ⟨n, ⟨rfl, hlow, hle⟩, rfl⟩
    rw [h.toNat_ofNat n.toNat (by omega), Int.toNat_of_nonneg hlow]
  · rintro rfl
    have hle := h.toNat_le a
    exact ⟨toNat a, ⟨rfl, by omega, by omega⟩, by rw [Int.toNat_natCast, h.ofNat_toNat]⟩

theorem byte_eq_some_iff {t : Tree} {b : UInt8} :
    byte budget t = some b ↔ t = .number (some (.whole b.toNat)) :=
  unsigned_eq_some_iff Whole.isUnsigned_byte

theorem word_eq_some_iff {t : Tree} {n : UInt64} :
    word budget t = some n ↔ t = .number (some (.whole n.toNat)) :=
  unsigned_eq_some_iff Whole.isUnsigned_word

theorem required_eq_some_iff {d : Decoder α} {slot : Slot} {a : α} :
    required d budget slot = some a ↔ ∃ t, slot = .given t ∧ d budget t = some a := by
  cases slot <;> simp [required]

theorem defaulted_eq_some_iff {d : Decoder α} {P : Tree → α → Prop}
    (hd : ∀ t a, d budget t = some a ↔ P t a) {default : α} {slot : Slot} {a : α} :
    defaulted d default budget slot = some a ↔ slot.Gives P default a := by
  constructor
  · intro h
    cases slot with
    | given t => exact .given ((hd t a).mp h)
    | omitted =>
      cases h
      exact .omitted
    | cut =>
      cases h
      exact .cut
  · intro h
    cases h with
    | given h => exact (hd _ a).mpr h
    | omitted | cut => rfl

theorem nullOr_eq_some_iff {d : Decoder α} {P : Tree → α → Prop}
    (hd : ∀ t a, d budget t = some a ↔ P t a) (hnull : ∀ a, ¬ P .null a) {t : Tree}
    {a : Option α} : nullOr d budget t = some a ↔ t.OrNull P a := by
  constructor
  · intro h
    cases t with
    | null =>
      cases h
      exact .null
    | bool | number | text | array | object =>
      obtain ⟨a, ha, rfl⟩ := Option.map_eq_some_iff.mp h
      exact .given ((hd _ a).mp ha)
  · intro h
    cases h with
    | null => rfl
    | @given _ a h =>
      cases t with
      | null => exact absurd h (hnull a)
      | bool | number | text | array | object =>
        exact congrArg (Option.map some) ((hd _ a).mpr h)

theorem optional_eq_defaulted {d : Decoder α} {slot : Slot} :
    optional d budget slot = defaulted (nullOr d) none budget slot := by
  cases slot <;> rfl

theorem nullable_eq_some_iff {d : Decoder α} {P : Tree → α → Prop}
    (hd : ∀ t a, d budget t = some a ↔ P t a) (hnull : ∀ a, ¬ P .null a) {slot : Slot}
    {a : Option α} : nullable d budget slot = some a ↔ slot.Offers P a := by
  cases slot with
  | omitted =>
    refine ⟨fun h => ?_, fun h => ?_⟩ <;> cases h
    · exact .omitted
    · rfl
  | cut => exact ⟨nofun, nofun⟩
  | given t =>
    rw [nullable, nullOr_eq_some_iff hd hnull]
    refine ⟨fun h => ?_, fun h => ?_⟩
    · cases h with
      | null => exact .null
      | given h => exact .given h
    · cases h with
      | null => exact .null
      | given h => exact .given h

end Decoder

end Wager.Json
