import Mathlib.Data.List.DropRight
import Wager.Text.Blank
import Wager.Text.Utf8

/-!
# Texts that are cut

What is left of a text that is trimmed, and of one that is cut to a number of bytes.

A text may be cut between its characters only, and these take up to four bytes each. So the place to
cut is searched for from the number of bytes downwards. There are places enough: the beginning is
one, and from any number of bytes it is three at most down to the next (`lt_byteIdx_add_four`). What
stands in front of the place found is a whole number of characters, and no longer piece of the text
fits (`isFront_sliceTo`).

Both results are told without the way they are found (`IsTrimmed`, `IsFront`), and each text has
just one of either kind.

## Main definitions

* `Text.IsTrimmed`: A text without the blanks around it.
* `Text.IsFront`: The longest piece in front of a text that fits a number of bytes.

## Theorems

* `Text.isTrimmed_iff`: Trimming leaves the text without the blanks around it.
* `Text.lastPlace?_eq_some`: The search for a place to cut ends at the last one there is.
* `Text.lt_byteIdx_add_four`: It has not far to go.
* `Text.isFront_sliceTo`: What is in front of that place is the longest piece that fits.
* `Text.IsFront.unique`: There is only one.
-/

namespace Wager.Text

/-! ### Trimming -/

/-- A text without the blanks around it: only blanks are missing, and it has none at its ends. -/
structure IsTrimmed (s t : String) : Prop where
  around : ∃ before after, s.toList = before ++ t.toList ++ after ∧
    (∀ c ∈ before, isBlank c = true) ∧ ∀ c ∈ after, isBlank c = true
  first : ∀ c ∈ t.toList.head?, isBlank c = false
  last : ∀ c ∈ t.toList.getLast?, isBlank c = false

theorem trimEnd_eq_rdropWhile (cs : List Char) : trimEnd cs = cs.rdropWhile isBlank :=
  rfl

/-- Blanks in front do not matter to what is left. -/
theorem trimStart_append {before cs : List Char} (hbefore : ∀ c ∈ before, isBlank c = true)
    (hcs : ∀ c ∈ cs.head?, isBlank c = false) : trimStart (before ++ cs) = cs := by
  rw [trimStart, List.dropWhile_append_of_pos hbefore]
  cases cs with
  | nil => rfl
  | cons c cs => exact trimStart_eq_self (hcs c rfl)

/-- Nor do blanks behind. -/
theorem trimEnd_append {after cs : List Char} (hafter : ∀ c ∈ after, isBlank c = true)
    (hcs : ∀ c ∈ cs.getLast?, isBlank c = false) : trimEnd (cs ++ after) = cs := by
  have hstart : trimStart (after.reverse ++ cs.reverse) = cs.reverse := by
    refine trimStart_append (fun c hc => hafter c (List.mem_reverse.mp hc)) ?_
    rwa [List.head?_reverse]
  rw [trimStart] at hstart
  rw [trimEnd, List.reverse_append, hstart, List.reverse_reverse]

theorem head?_trimStart {cs : List Char} : ∀ c ∈ (trimStart cs).head?, isBlank c = false := by
  intro c hc
  have hhead := List.head?_dropWhile_not isBlank cs
  rw [← trimStart, Option.mem_def.mp hc] at hhead
  exact hhead

theorem getLast?_trimEnd {cs : List Char} : ∀ c ∈ (trimEnd cs).getLast?, isBlank c = false := by
  intro c hc
  rw [trimEnd, List.getLast?_reverse] at hc
  exact head?_trimStart c hc

theorem isTrimmed_trimmed (s : String) : IsTrimmed s (trimmed s) := by
  have hstart := List.takeWhile_append_dropWhile (p := isBlank) (l := s.toList)
  have hend := List.rdropWhile_append_rtakeWhile (p := isBlank) (l := trimStart s.toList)
  rw [← trimEnd_eq_rdropWhile] at hend
  constructor
  case around =>
    refine ⟨s.toList.takeWhile isBlank, (trimStart s.toList).rtakeWhile isBlank, ?_,
      fun c hc => List.mem_takeWhile_imp hc,
      fun c hc => List.mem_rtakeWhile_imp (p := isBlank) hc⟩
    rw [trimmed, String.toList_ofList, trim, List.append_assoc, hend, trimStart, hstart]
  case first =>
    -- The first character that is left is the first one that is no blank.
    intro c hc
    rw [trimmed, String.toList_ofList, trim] at hc
    have hhead : c ∈ (trimStart s.toList).head? := by
      rw [← hend, List.head?_append, Option.mem_def.mp hc]
      rfl
    exact head?_trimStart c hhead
  case last =>
    rw [trimmed, String.toList_ofList]
    exact getLast?_trimEnd

/-- Trimming leaves the text without the blanks around it, and there is only one such text. -/
theorem isTrimmed_iff (s t : String) : IsTrimmed s t ↔ t = trimmed s := by
  refine ⟨fun h => ?_, fun h => h ▸ isTrimmed_trimmed s⟩
  obtain ⟨before, after, hs, hbefore, hafter⟩ := h.around
  rw [← String.toList_inj, trimmed, String.toList_ofList, trim, hs]
  cases ht : t.toList with
  | nil =>
    -- Nothing but blanks is in the text, and all of them are dropped in front.
    rw [List.append_nil, trimStart, List.dropWhile_append_of_pos hbefore,
      List.dropWhile_eq_nil_iff.mpr hafter]
    rfl
  | cons c cs =>
    have hfirst : isBlank c = false := h.first c (by rw [ht]; rfl)
    have hlast : ∀ d ∈ (c :: cs).getLast?, isBlank d = false := ht ▸ h.last
    rw [List.append_assoc, trimStart_append hbefore (by rintro d ⟨⟩; exact hfirst),
      trimEnd_append hafter hlast]

/-- Nothing is left exactly if there is nothing but blanks. -/
theorem trimmed_eq_empty_iff {s : String} :
    trimmed s = "" ↔ ∀ c ∈ s.toList, isBlank c = true := by
  rw [eq_comm, ← isTrimmed_iff]
  constructor
  · intro h c hc
    obtain ⟨before, after, hs, hbefore, hafter⟩ := h.around
    rw [hs, String.toList_empty, List.append_nil] at hc
    exact (List.mem_append.mp hc).elim (hbefore c) (hafter c)
  · intro h
    exact ⟨⟨s.toList, [], by simp, h, by simp⟩, by simp, by simp⟩

/-! ### Cutting -/

/-- The longest piece in front of a text that takes at most so many bytes. -/
structure IsFront (room : Nat) (s front : String) : Prop where
  rest : ∃ rest, s = front ++ rest
  fits : front.utf8ByteSize ≤ room
  longest : ∀ front' rest', s = front' ++ rest' → front'.utf8ByteSize ≤ room →
    front'.utf8ByteSize ≤ front.utf8ByteSize

theorem placeAt?_eq_some_iff {s : String} {n : Nat} {p : s.Pos} :
    placeAt? s n = some p ↔ p.offset.byteIdx = n := by
  unfold placeAt?
  split
  case isTrue h =>
    rw [Option.some.injEq]
    refine ⟨fun hp => hp ▸ rfl, ?_⟩
    rintro rfl
    rfl
  case isFalse h =>
    refine ⟨fun hp => (Option.some_ne_none p hp.symm).elim, ?_⟩
    rintro rfl
    exact absurd p.isValid h

theorem placeAt?_eq_none_iff {s : String} {n : Nat} :
    placeAt? s n = none ↔ ∀ p : s.Pos, p.offset.byteIdx ≠ n := by
  simp only [Option.eq_none_iff_forall_ne_some, ne_eq, placeAt?_eq_some_iff]

/-- The search for a place finds the last one with at most so many bytes in front of it. -/
theorem lastPlace?_eq_some (s : String) (n : Nat) : ∃ p, lastPlace? s n = some p ∧
    p.offset.byteIdx ≤ n ∧ ∀ q : s.Pos, q.offset.byteIdx ≤ n → q ≤ p := by
  induction n with
  | zero =>
    refine ⟨s.startPos, placeAt?_eq_some_iff.mpr rfl, Nat.le_refl 0, fun q hq => ?_⟩
    exact String.Pos.le_iff.mpr hq
  | succ n ih =>
    rw [lastPlace?]
    cases h : placeAt? s (n + 1) with
    | some p =>
      have hp := placeAt?_eq_some_iff.mp h
      exact ⟨p, rfl, hp.le, fun q hq => String.Pos.le_iff.mpr (hq.trans_eq hp.symm)⟩
    | none =>
      obtain ⟨p, hp, hle, hlast⟩ := ih
      refine ⟨p, hp, Nat.le_succ_of_le hle, fun q hq => hlast q ?_⟩
      exact Nat.le_of_lt_succ (hq.lt_of_ne (placeAt?_eq_none_iff.mp h q))

/-- And it has not far to go: in a text that is long enough, a place is three bytes down at most. -/
theorem lt_byteIdx_add_four {s : String} {n : Nat} {p : s.Pos} (hn : n ≤ s.utf8ByteSize)
    (hlast : ∀ q : s.Pos, q.offset.byteIdx ≤ n → q ≤ p) : n < p.offset.byteIdx + 4 := by
  by_cases hend : p = s.endPos
  · have hp : p.offset.byteIdx = s.utf8ByteSize := by rw [hend]; rfl
    omega
  · have hnext := String.Pos.byteIdx_offset_next p hend
    have hwidth := (p.get hend).utf8Size_le_four
    have hroom : n < (p.next hend).offset.byteIdx := by
      by_contra hle
      have hback : (p.next hend).offset.byteIdx ≤ p.offset.byteIdx :=
        String.Pos.le_iff.mp (hlast _ (Nat.le_of_not_lt hle))
      have hpos := (p.get hend).utf8Size_pos
      omega
    omega

/-- A piece in front of the text ends at a place of it. -/
theorem exists_splits {s front rest : String} (h : s = front ++ rest) :
    ∃ p : s.Pos, p.offset.byteIdx = front.utf8ByteSize ∧ p.Splits front rest :=
  ⟨⟨front.rawEndPos, String.Pos.Raw.isValid_iff_exists_append.mpr ⟨front, rest, h, rfl⟩⟩, rfl, h, rfl⟩

/-- What is in front of the last place that fits is the longest piece that does. -/
theorem isFront_sliceTo {s : String} {n : Nat} {p : s.Pos} (hfits : p.offset.byteIdx ≤ n)
    (hlast : ∀ q : s.Pos, q.offset.byteIdx ≤ n → q ≤ p) : IsFront n s (s.sliceTo p).copy := by
  have hsplits := p.splits
  have hsize : (s.sliceTo p).copy.utf8ByteSize = p.offset.byteIdx := by
    rw [hsplits.offset_eq_rawEndPos]
    rfl
  refine ⟨⟨_, hsplits.eq_append⟩, hsize ▸ hfits, fun front' rest' hs hroom => ?_⟩
  -- Where another piece ends is a place of the text too.
  obtain ⟨q, hq, -⟩ := exists_splits hs
  rw [hsize, ← hq]
  exact String.Pos.le_iff.mp (hlast q (hq ▸ hroom))

/-- There is only one longest piece. -/
theorem IsFront.unique {room : Nat} {s front front' : String} (h : IsFront room s front)
    (h' : IsFront room s front') : front = front' := by
  obtain ⟨rest, hs⟩ := h.rest
  obtain ⟨rest', hs'⟩ := h'.rest
  obtain ⟨p, hp, hsplits⟩ := exists_splits hs
  obtain ⟨p', hp', hsplits'⟩ := exists_splits hs'
  -- Both end at one place.
  have hle := h.longest front' rest' hs' h'.fits
  have hle' := h'.longest front rest hs h.fits
  obtain rfl : p = p' := String.Pos.ext (String.Pos.Raw.ext (by omega))
  exact hsplits.eq_left hsplits'

end Wager.Text
