import Wager.Config
import Wager.Proofs.Files

/-!
# Texts of paths

A text that names something in a directory names the path of the directory with one step more.

Texts are cut at the separators, and a step is dropped if it is empty or a dot. So what stands behind
the last separator is the last step, whatever is in front of it, as long as it is a name itself
(`Path.IsName`). A text that is too long names nothing, so the name may add only so much to it.

## Main definitions

* `Path.IsName`: A text that is a step by itself.

## Theorems

* `Path.ofText_separated`: The path of a text with a name behind its last separator.
* `Path.utf8ByteSize_le_of_follow`: A text that is too long leads nowhere.
* `Environment.path_inDirectory`: The path of something in a directory.
-/

namespace Wager

namespace Path

/-- A text that is a step by itself. -/
structure IsName (name : String) : Prop where
  separator : '/' ∉ name.toList
  ne_empty : name ≠ ""
  ne_dot : name ≠ "."

/-- The steps that a text names, before any are dropped. -/
def pieces (s : String) : List String := (s.toList.splitOn '/').map String.ofList

theorem pieces_separated (s : String) {name : String} (h : IsName name) :
    pieces (s ++ "/" ++ name) = pieces s ++ [name] := by
  have hchars : (s ++ "/" ++ name).toList = s.toList ++ '/' :: name.toList := by
    rw [String.toList_append, String.toList_append, List.append_assoc]
    rfl
  rw [pieces, hchars, List.splitOn_append_cons_self, List.map_append,
    List.splitOn_eq_singleton h.separator, List.map_singleton, String.ofList_toList, pieces]

theorem startsWith_append {s : String} (h : s ≠ "") (t : String) :
    (s ++ t).startsWith "/" = s.startsWith "/" := by
  rw [Bool.eq_iff_iff, String.startsWith_string_iff, String.startsWith_string_iff,
    String.toList_append]
  cases hs : s.toList with
  | nil => exact absurd (String.toList_eq_nil_iff.mp hs) h
  | cons c cs => simp

/-- Whether a piece of a text is a step. -/
def isStep (piece : String) : Bool := !(piece = "" || piece = ".")

theorem IsName.isStep {name : String} (h : IsName name) : isStep name = true := by
  simp [Path.isStep, h.ne_empty, h.ne_dot]

/-- A text names the steps in it, and nothing more if it ends with one. -/
theorem ofText_eq (here : Path) {s last : String} {before : List String}
    (hsize : s.utf8ByteSize ≤ maxText) (hpieces : pieces s = before ++ [last]) (hlast : IsName last) :
    ofText here s = (if s.startsWith "/" then [] else here) ++ (pieces s).filter isStep := by
  have hend : (pieces s).getLast?.any (fun step => step = "" || step = ".") = false := by
    rw [hpieces, List.getLast?_concat]
    simp [hlast.ne_empty, hlast.ne_dot]
  rw [ofText, if_neg (Nat.not_lt.mpr hsize)]
  change _ ++ (pieces s).filter isStep ++
    (if (pieces s).getLast?.any (fun step => step = "" || step = ".") then [directory] else []) = _
  rw [hend, if_neg Bool.false_ne_true, List.append_nil]

/-- What a text names, with a name behind a separator, is the path of the text in front of it with that
name as a step. -/
theorem ofText_separated (here : Path) {s front last name : String} (hs : s = front ++ "/" ++ last)
    (hlast : IsName last) (hname : IsName name) (hsize : (s ++ "/" ++ name).utf8ByteSize ≤ maxText) :
    ofText here (s ++ "/" ++ name) = ofText here s ++ [name] := by
  have hsmall : s.utf8ByteSize ≤ maxText := by
    simp only [String.utf8ByteSize_append] at hsize
    omega
  have hne : s ≠ "" := by
    rintro rfl
    have hlength := congrArg String.toList hs
    simp [String.toList_append] at hlength
  have hpieces : pieces s = pieces front ++ [last] := by rw [hs, pieces_separated front hlast]
  rw [ofText_eq here hsize (pieces_separated s hname) hname, ofText_eq here hsmall hpieces hlast,
    pieces_separated s hname, String.append_assoc, startsWith_append hne, List.filter_append,
    List.filter_cons_of_pos hname.isStep, List.filter_nil, List.append_assoc]

/-- A text that is too long leads nowhere. -/
theorem utf8ByteSize_le_of_follow {fs : Files} {here place : Path} {s : String}
    (h : fs.follow (ofText here s) = .ok place) : s.utf8ByteSize ≤ maxText := by
  refine Nat.le_of_not_lt fun hlong => ?_
  have hroot : fs.barrier? [] = none := (Files.barrier?_eq_none_iff fs []).mpr rfl
  have hback : s ≠ back := by
    rintro rfl
    exact absurd hlong (by decide)
  have hstay : s ≠ directory := by
    rintro rfl
    exact absurd hlong (by decide)
  have hname : maxName < s.utf8ByteSize := Nat.lt_trans (by decide) hlong
  rw [ofText, if_pos hlong, Files.follow, Files.followFrom, hroot] at h
  simp only [if_neg hback, if_neg hstay, if_pos hname, reduceCtorEq] at h

end Path

namespace Environment

variable (env : Environment)

theorem endsWith_iff {s t : String} : s.endsWith t = true ↔ t.toList <:+ s.toList := by
  rw [String.endsWith_eq_endsWith_toSlice, String.Slice.endsWith_string_iff, String.copy_toSlice]

/-- A name that is put behind a directory stands behind a separator. -/
theorem exists_inDirectory_eq (outer name : String) :
    ∃ front, inDirectory outer name = front ++ "/" ++ name := by
  unfold inDirectory
  split
  case isTrue hslash =>
    obtain ⟨front, hfront⟩ := endsWith_iff.mp hslash
    refine ⟨String.ofList front, ?_⟩
    rw [← String.toList_inj, String.toList_append, String.toList_append, String.toList_append,
      String.toList_ofList, hfront]
  case isFalse => exact ⟨outer, rfl⟩

theorem not_endsWith {front last : String} (h : Path.IsName last) :
    (front ++ "/" ++ last).endsWith "/" = false := by
  rw [Bool.eq_false_iff, ne_eq, endsWith_iff]
  rintro ⟨before, hbefore⟩
  -- The separator would be the last character of the name.
  have hname : last.toList ≠ [] := fun hnil => h.ne_empty (String.toList_eq_nil_iff.mp hnil)
  have hends := congrArg List.getLast? hbefore
  rw [String.toList_append, List.getLast?_append, List.getLast?_append,
    List.getLast?_eq_some_getLast hname, Option.some_or] at hends
  have hslash : '/' = last.toList.getLast hname := Option.some.inj hends
  exact h.separator (hslash ▸ List.getLast_mem hname)

/-- What is in a directory is one step from it, if the directory is itself in another one. -/
theorem path_inDirectory {outer last name : String} (hlast : Path.IsName last)
    (hname : Path.IsName name)
    (hsize : (inDirectory (inDirectory outer last) name).utf8ByteSize ≤ Path.maxText) :
    env.path (inDirectory (inDirectory outer last) name) =
      env.path (inDirectory outer last) ++ [name] := by
  obtain ⟨front, hfront⟩ := exists_inDirectory_eq outer last
  have hopen : (inDirectory outer last).endsWith "/" = false := by rw [hfront, not_endsWith hlast]
  rw [inDirectory, hopen, if_neg Bool.false_ne_true] at hsize ⊢
  exact Path.ofText_separated env.directory hfront hlast hname hsize

end Environment

end Wager
