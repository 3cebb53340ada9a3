import Wager.Json.Text
import Wager.Json.Token

/-!
# Texts that are read back

A text in quotes is read back.

A written character is one character or an escape of up to six, and the scanner is in the middle of
the text again after each of them. So a whole text leaves the scanner where it was before it, with
one more token (`foldlM_quoted`), and from there on its characters do not matter any more.

## Theorems

* `Json.foldlM_escaped`: A written character is read as the character.
* `Json.foldlM_quoted`: A text in quotes is read as one token.
-/

namespace Wager.Json

/-! ### Characters -/

theorem value?_digit (n : Nat) : Hex.value? (Hex.digit n) = some (n % 16) := by
  have hdigits : ∀ d < 16, Hex.value? (Nat.digitChar d) = some d := by decide
  exact hdigits (n % 16) (Nat.mod_lt n (by omega))

/-- No control character is one half of another character. -/
theorem pieceOf_of_lt {c : Char} (h : c.toNat < 0x20) : pieceOf c.toNat = .char c := by
  have hhigh : isHighHalf c.toNat = false := by
    simp only [isHighHalf, Bool.and_eq_false_iff, decide_eq_false_iff_not]
    omega
  have hlow : isLowHalf c.toNat = false := by
    simp only [isLowHalf, Bool.and_eq_false_iff, decide_eq_false_iff_not]
    omega
  simp only [pieceOf, hhigh, hlow, Bool.or_self, Bool.false_eq_true, if_false, Char.ofNat_toNat]

/-- A control character is read back from its four digits. -/
theorem foldlM_hex {c : Char} (h : c.toNat < 0x20) (tokens : List Token) (seen : List Piece) :
    ['u', '0', '0', Hex.digit (c.toNat / 16), Hex.digit c.toNat].foldlM Scan.step
        ⟨tokens, .escape seen⟩
      = some ⟨tokens, .text (.char c :: seen)⟩ := by
  have hzero : Hex.value? '0' = some 0 := by decide
  have hvalue : c.toNat / 16 % 16 * 16 + c.toNat % 16 = c.toNat := by omega
  simp [Scan.step, hzero, value?_digit, hvalue, pieceOf_of_lt h]

/-- A written character is read as the character. -/
theorem foldlM_escaped (c : Char) (tokens : List Token) (seen : List Piece) :
    (escaped c).foldlM Scan.step ⟨tokens, .text seen⟩ = some ⟨tokens, .text (.char c :: seen)⟩ := by
  unfold escaped
  -- The characters with short names come first.
  iterate 7
    split
    · rename_i hc
      subst hc
      rfl
  rename_i hquote hslash _ _ _ _ _
  split
  · rename_i hcontrol
    exact foldlM_hex hcontrol tokens seen
  · rename_i hplain
    simp only [List.foldlM_cons, List.foldlM_nil, Scan.step, if_neg hquote, if_neg hslash,
      if_neg hplain]
    rfl

/-! ### Texts -/

theorem foldlM_flatMap_escaped (cs : List Char) (tokens : List Token) (seen : List Piece) :
    (cs.flatMap escaped).foldlM Scan.step ⟨tokens, .text seen⟩
      = some ⟨tokens, .text ((cs.map Piece.char).reverse ++ seen)⟩ := by
  induction cs generalizing seen with
  | nil => rfl
  | cons c cs ih =>
    rw [List.flatMap_cons, List.foldlM_append, foldlM_escaped]
    simp only [Option.bind_eq_bind, Option.bind_some]
    rw [ih, List.map_cons, List.reverse_cons, List.append_assoc]
    rfl

theorem joinPieces_map_char (cs : List Char) : joinPieces (cs.map Piece.char) = some cs := by
  induction cs with
  | nil => rfl
  | cons c cs ih => rw [List.map_cons, joinPieces, ih, Option.map_some]

/-- A text in quotes is read as one token, whatever comes after it. -/
theorem foldlM_quoted (s : String) (tokens : List Token) (rest : List Char) :
    (quoted s ++ rest).foldlM Scan.step ⟨tokens, .between⟩
      = rest.foldlM Scan.step ⟨.text (some s) :: tokens, .between⟩ := by
  have hopen : Scan.step ⟨tokens, .between⟩ '"' = some ⟨tokens, .text []⟩ := rfl
  have hclose : Scan.step ⟨tokens, .text (s.toList.map Piece.char).reverse⟩ '"'
      = some ⟨.text (some s) :: tokens, .between⟩ := by
    simp only [Scan.step, if_true, List.reverse_reverse, joinPieces_map_char, Option.map_some,
      String.ofList_toList]
    rfl
  simp only [quoted, List.cons_append, List.append_assoc, List.foldlM_cons, List.foldlM_append,
    List.nil_append, hopen, foldlM_flatMap_escaped, List.append_nil, hclose, Option.bind_eq_bind,
    Option.bind_some]

end Wager.Json
