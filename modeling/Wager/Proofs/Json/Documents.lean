import Wager.Json.Tree
import Wager.Proofs.Json.Quoted
import Wager.Proofs.Time.Rfc3339

/-!
# Documents that are read back

A value is read back from what it is written as, on one line or spread over lines.

The two ways to write a value differ in blanks only, so they are two layouts (`Json.Layout`) of one
way. What a value is written as spells its tokens (`Json.Value.tokens`). A text ends with its quotes,
but a number or a word ends where something else begins, so this can only be said of the value with
what follows it (`Json.Scan.finish_chars`). Of the tokens the assembly makes the tree of the value,
in whatever containers it stands (`Json.Assembly.foldlM_tokens`).

Nothing is asked of the value but that the text of each of its numbers is that of a number, and
names the number it was written for (`Json.Number.IsLegible`). Whole numbers are like that.

## Main definitions

* `Json.Number.IsLegible`, `Json.Value.IsLegible`: Numbers that their texts name.
* `Json.Layout`: Where blanks are put.
* `Json.Value.tokens`: What a value is written as.

## Theorems

* `Json.Number.isLegible_whole`: Whole numbers in range are legible.
* `Json.Scan.finish_chars`: A written value is its tokens.
* `Json.Assembly.foldlM_tokens`: The tokens of a value are assembled to its tree.
* `Json.parse?_compact`, `Json.parse?_pretty`: A value is read back as its tree.
-/

namespace Wager.Json

/-! ### Numbers -/

/-- The text of a number is a number, and it names the number. -/
structure Number.IsLegible (n : Number) : Prop where
  text : ∃ c cs, n.text = c :: cs ∧ (c = '-' ∨ c.isDigit = true) ∧
    ∀ d ∈ cs, Scan.isNumberChar d = true
  numeral : ∃ m, numeral? n.text = some m ∧ Number.ofNumeral? m = some n

/-- The digits of a number other than zero do not begin with a zero. -/
theorem toDigits_ne_zero_cons {n : Nat} (h : 0 < n) (cs : List Char) :
    Nat.toDigits 10 n ≠ '0' :: cs := by
  induction n using Nat.strongRecOn generalizing cs with
  | ind n ih =>
    by_cases hsmall : n < 10
    · have hdigits : ∀ d < 10, 0 < d → Nat.digitChar d ≠ '0' := by decide
      rw [Nat.toDigits_of_lt_base hsmall]
      intro heq
      exact hdigits n hsmall h (List.cons.inj heq).1
    · -- The first digit is that of a tenth of the number.
      rw [Nat.toDigits_of_base_le (by omega) (by omega)]
      cases hfront : Nat.toDigits 10 (n / 10) with
      | nil => exact absurd hfront Nat.toDigits_ne_nil
      | cons d ds =>
        intro heq
        rw [List.cons_append, List.cons.injEq] at heq
        rw [heq.1] at hfront
        exact ih (n / 10) (by omega) (by omega) ds hfront

/-- Digits without zeros in front are a numeral, with a sign or without one. -/
theorem numeral?_of_digits {d : Char} {ds : List Char} (hdigit : ∀ c ∈ d :: ds, c.isDigit = true)
    (hzero : ∀ e es, d :: ds ≠ '0' :: e :: es) :
    numeral? (d :: ds) = some ⟨false, d :: ds, none, none⟩ ∧
      numeral? ('-' :: d :: ds) = some ⟨true, d :: ds, none, none⟩ := by
  have hnone : Timestamp.NoDigit [] := by
    intro c rest heq
    exact nomatch heq
  have hspan := Timestamp.spanDigits_append hdigit hnone
  rw [List.append_nil] at hspan
  have hminus : d ≠ '-' := by
    rintro rfl
    exact nomatch hdigit '-' List.mem_cons_self
  constructor
  · simp [numeral?, hspan, Numeral.readExponent, hminus]
  · simp [numeral?, hspan, Numeral.readExponent]

/-- What a numeral of digits alone stands for, with a sign or without one. -/
theorem ofNumeral?_toDigits {n : Int} (h : Number.inRange n = true) :
    Number.ofNumeral? ⟨decide (n < 0), Nat.toDigits 10 n.natAbs, none, none⟩ = some (.whole n) := by
  have hvalue : Numeral.digitsValue (Nat.toDigits 10 n.natAbs) = n.natAbs := by
    rw [Timestamp.digitsValue_eq_ofDigitChars, Nat.ofDigitChars_ten_toDigits]
  have hsigned : (if n < 0 then -(n.natAbs : Int) else (n.natAbs : Int)) = n := by
    split <;> omega
  -- Zero has no sign.
  have hzero : (decide (n < 0) && n.natAbs == 0) = false := by
    simp only [Bool.and_eq_false_iff, decide_eq_false_iff_not, beq_eq_false_iff_ne]
    omega
  simp only [Number.ofNumeral?, hvalue, Option.isNone_none, decide_eq_true_eq, hsigned, h, hzero,
    Bool.not_false, Bool.and_self, ↓reduceIte]

/-- Whole numbers in range are legible. -/
theorem Number.isLegible_whole {n : Int} (h : Number.inRange n = true) :
    (Number.whole n).IsLegible := by
  have hnumeral := ofNumeral?_toDigits h
  cases hdigits : Nat.toDigits 10 n.natAbs with
  | nil => exact absurd hdigits Nat.toDigits_ne_nil
  | cons d ds =>
    have hall : ∀ c ∈ d :: ds, c.isDigit = true := by
      rw [← hdigits]
      exact fun c hc => Nat.isDigit_of_mem_toDigits (by omega) (by omega) hc
    have hchars : ∀ c ∈ d :: ds, Scan.isNumberChar c = true := by
      intro c hc
      simp only [Scan.isNumberChar, hall c hc, Bool.true_or]
    have hzero : ∀ e es, d :: ds ≠ '0' :: e :: es := by
      intro e es heq
      rw [← hdigits] at heq
      -- Nought is one digit, and no other number begins with it.
      rcases Nat.eq_zero_or_pos n.natAbs with hnone | hpos
      · rw [hnone] at heq
        exact nomatch heq
      · exact toDigits_ne_zero_cons hpos _ heq
    have hread := numeral?_of_digits hall hzero
    rw [hdigits] at hnumeral
    cases n with
    | ofNat m =>
      have htext : (Number.whole (.ofNat m)).text = d :: ds := by
        rw [← hdigits]
        exact Nat.toList_repr
      refine ⟨⟨d, ds, htext, Or.inr (hall d List.mem_cons_self), ?_⟩, _, ?_, hnumeral⟩
      · exact fun c hc => hchars c (List.mem_cons_of_mem d hc)
      · rw [htext]
        exact hread.1
    | negSucc m =>
      have htext : (Number.whole (.negSucc m)).text = '-' :: d :: ds := by
        rw [← hdigits]
        simp [Number.text, Int.repr]
      refine ⟨⟨'-', d :: ds, htext, Or.inl rfl, hchars⟩, _, ?_, hnumeral⟩
      rw [htext, decide_eq_true (Int.negSucc_lt_zero m)]
      exact hread.2

/-! ### Layouts -/

/-- How a document is set: what blanks stand before an item at a level, and after a colon. -/
structure Layout where
  line : Nat → List Char
  gap : List Char
  isBlank_line : ∀ level, ∀ c ∈ line level, Scan.isBlank c = true
  isBlank_gap : ∀ c ∈ gap, Scan.isBlank c = true

namespace Layout

/-- All on one line. -/
def compact : Layout := ⟨fun _ => [], [], fun _ => List.forall_mem_nil _, List.forall_mem_nil _⟩

/-- Every item and member on a line of its own. -/
def pretty : Layout where
  line := Value.lineAt
  gap := [' ']
  isBlank_line := by
    intro level c hc
    rcases List.mem_cons.mp hc with rfl | hc
    · rfl
    · rw [List.eq_of_mem_replicate hc]
      rfl
  isBlank_gap := by
    intro c hc
    rw [List.eq_of_mem_singleton hc]
    rfl

variable (l : Layout)

mutual

/-- A value in a layout, itself at a level. -/
def chars (level : Nat) : Value → List Char
  | .array (v :: rest) =>
    '[' :: (itemChars (level + 1) (v :: rest) ++ l.line level ++ [']'])
  | .object (m :: rest) =>
    '\x7b' :: (memberChars (level + 1) (m :: rest) ++ l.line level ++ ['\x7d'])
  | .array [] => ['[', ']']
  | .object [] => ['\x7b', '\x7d']
  | .null => "null".toList
  | .bool b => (if b then "true" else "false").toList
  | .number n => n.text
  | .text s => quoted s

/-- Items in a layout. -/
def itemChars (level : Nat) : List Value → List Char
  | [] => []
  | [v] => l.line level ++ chars level v
  | v :: rest => l.line level ++ chars level v ++ ',' :: itemChars level rest

/-- Members in a layout. -/
def memberChars (level : Nat) : List (String × Value) → List Char
  | [] => []
  | [(k, v)] => l.line level ++ quoted k ++ ':' :: (l.gap ++ chars level v)
  | (k, v) :: rest =>
    l.line level ++ quoted k ++ ':' :: (l.gap ++ chars level v ++ ',' :: memberChars level rest)

end

mutual

theorem chars_pretty (level : Nat) (v : Value) : pretty.chars level v = v.prettyChars level := by
  match v with
  | .array (v :: rest) => rw [chars, Value.prettyChars, itemChars_pretty, pretty]
  | .object (m :: rest) => rw [chars, Value.prettyChars, memberChars_pretty, pretty]
  | .array [] => rfl
  | .object [] => rfl
  | .null => rfl
  | .bool b => rfl
  | .number n => rfl
  | .text s => rfl

theorem itemChars_pretty (level : Nat) (items : List Value) :
    pretty.itemChars level items = Value.prettyItems level items := by
  match items with
  | [] => rfl
  | [v] => rw [itemChars, Value.prettyItems, chars_pretty, pretty]
  | v :: w :: rest =>
    rw [itemChars, Value.prettyItems, chars_pretty, itemChars_pretty level (w :: rest), pretty]
    · simp only [reduceCtorEq, imp_self]
    · simp only [reduceCtorEq, imp_self]

theorem memberChars_pretty (level : Nat) (members : List (String × Value)) :
    pretty.memberChars level members = Value.prettyMembers level members := by
  match members with
  | [] => rfl
  | [(k, v)] =>
    rw [memberChars, Value.prettyMembers, chars_pretty, pretty]
    rfl
  | (k, v) :: m :: rest =>
    rw [memberChars, Value.prettyMembers, chars_pretty, memberChars_pretty level (m :: rest), pretty]
    · simp
    · simp only [reduceCtorEq, imp_self]
    · simp only [reduceCtorEq, imp_self]

end

mutual

theorem chars_compact (level : Nat) (v : Value) : compact.chars level v = v.compactChars := by
  match v with
  | .array (v :: rest) =>
    rw [chars, Value.compactChars, itemChars_compact, compact, List.append_nil]
  | .object (m :: rest) =>
    rw [chars, Value.compactChars, memberChars_compact, compact, List.append_nil]
  | .array [] => rfl
  | .object [] => rfl
  | .null => rfl
  | .bool b => rfl
  | .number n => rfl
  | .text s => rfl

theorem itemChars_compact (level : Nat) (items : List Value) :
    compact.itemChars level items = Value.compactItems items := by
  match items with
  | [] => rfl
  | [v] => rw [itemChars, Value.compactItems, chars_compact, compact, List.nil_append]
  | v :: w :: rest =>
    rw [itemChars, Value.compactItems, chars_compact, itemChars_compact level (w :: rest), compact,
      List.nil_append]
    · simp only [reduceCtorEq, imp_self]
    · simp only [reduceCtorEq, imp_self]

theorem memberChars_compact (level : Nat) (members : List (String × Value)) :
    compact.memberChars level members = Value.compactMembers members := by
  match members with
  | [] => rfl
  | [(k, v)] =>
    rw [memberChars, Value.compactMembers, chars_compact, compact, List.nil_append, List.nil_append]
  | (k, v) :: m :: rest =>
    rw [memberChars, Value.compactMembers, chars_compact, memberChars_compact level (m :: rest),
      compact, List.nil_append, List.nil_append]
    · simp only [reduceCtorEq, imp_self]
    · simp only [reduceCtorEq, imp_self]

end

end Layout

/-! ### Tokens -/

mutual

/-- What a value is written as. -/
def Value.tokens : Value → List Token
  | .null => [.null]
  | .bool b => [.bool b]
  | .number n => (numeral? n.text).toList.map .numeral
  | .text s => [.text (some s)]
  | .array items => .beginArray :: (itemTokens items ++ [.endArray])
  | .object members => .beginObject :: (memberTokens members ++ [.endObject])

/-- What items are written as. -/
def itemTokens : List Value → List Token
  | [] => []
  | [v] => v.tokens
  | v :: rest => v.tokens ++ .comma :: itemTokens rest

/-- What members are written as. -/
def memberTokens : List (String × Value) → List Token
  | [] => []
  | [(k, v)] => .text (some k) :: .colon :: v.tokens
  | (k, v) :: rest => .text (some k) :: .colon :: (v.tokens ++ .comma :: memberTokens rest)

end

mutual

/-- All numbers in the value are legible. -/
def Value.IsLegible : Value → Prop
  | .number n => n.IsLegible
  | .array items => itemsAreLegible items
  | .object members => membersAreLegible members
  | _ => True

/-- All numbers in the items are legible. -/
def itemsAreLegible : List Value → Prop
  | [] => True
  | v :: rest => v.IsLegible ∧ itemsAreLegible rest

/-- All numbers in the members are legible. -/
def membersAreLegible : List (String × Value) → Prop
  | [] => True
  | (_, v) :: rest => v.IsLegible ∧ membersAreLegible rest

end

theorem Value.isLegible_ofOption {α : Type} {f : α → Value} (h : ∀ a, (f a).IsLegible)
    (o : Option α) : (Value.ofOption f o).IsLegible := by
  cases o with
  | none => trivial
  | some a => exact h a

/-- The character that a token is written as, if it is a sign. -/
def Token.sign? : Token → Option Char
  | .beginArray => some '['
  | .endArray => some ']'
  | .beginObject => some '\x7b'
  | .endObject => some '\x7d'
  | .comma => some ','
  | .colon => some ':'
  | _ => none

namespace Scan

/-- The machine after the characters and the end. -/
def finish (s : Scan) (cs : List Char) : Option Scan := (cs.foldlM step s).bind close

/-- What follows a number or word ends it. -/
def Ends (rest : List Char) : Prop :=
  ∀ c cs, rest = c :: cs → isNumberChar c = false ∧ c.isAlpha = false

theorem ends_nil : Ends [] := fun _ _ heq => nomatch heq

theorem ends_cons {c : Char} (h : isNumberChar c = false ∧ c.isAlpha = false) (cs : List Char) :
    Ends (c :: cs) := by
  intro c' cs' heq
  rwa [← (List.cons.inj heq).1]

/-- Blanks and the signs behind a value end it. -/
theorem ends_blanks_append {bs : List Char} (hbs : ∀ c ∈ bs, isBlank c = true) {rest : List Char}
    (h : Ends rest) : Ends (bs ++ rest) := by
  cases bs with
  | nil => exact h
  | cons b bs =>
    refine ends_cons ?_ _
    have hb := hbs b List.mem_cons_self
    simp only [isBlank, Bool.or_eq_true, decide_eq_true_eq] at hb
    rcases hb with ((rfl | rfl) | rfl) | rfl <;> decide

theorem finish_append {s s' : Scan} {cs : List Char} (h : cs.foldlM step s = some s')
    (rest : List Char) : s.finish (cs ++ rest) = s'.finish rest := by
  rw [finish, List.foldlM_append, h, finish, Option.bind_eq_bind, Option.bind_some]

theorem finish_cons {s s' : Scan} {c : Char} (h : s.step c = some s') (rest : List Char) :
    s.finish (c :: rest) = s'.finish rest := by
  rw [finish, List.foldlM_cons, h, finish, Option.bind_eq_bind, Option.bind_some]

/-- Blanks between tokens do not count. -/
theorem finish_blanks_append {bs : List Char} (hbs : ∀ c ∈ bs, isBlank c = true)
    (tokens : List Token) (rest : List Char) :
    finish ⟨tokens, .between⟩ (bs ++ rest) = finish ⟨tokens, .between⟩ rest := by
  induction bs with
  | nil => rfl
  | cons b bs ih =>
    rw [List.forall_mem_cons] at hbs
    have hstep : step ⟨tokens, .between⟩ b = some ⟨tokens, .between⟩ := by
      simp only [step, start, hbs.1, ↓reduceIte]
    rw [List.cons_append, finish_cons hstep, ih hbs.2]

theorem finish_quoted_append (s : String) (tokens : List Token) (rest : List Char) :
    finish ⟨tokens, .between⟩ (quoted s ++ rest) =
      finish ⟨.text (some s) :: tokens, .between⟩ rest := by
  rw [finish, foldlM_quoted, finish]

/-- A number that something ends is a token, and that something goes on from there. -/
theorem finish_number {seen : List Char} {m : Numeral} (h : numeral? seen.reverse = some m)
    (tokens : List Token) {rest : List Char} (hrest : Ends rest) :
    finish ⟨tokens, .number seen⟩ rest = finish ⟨.numeral m :: tokens, .between⟩ rest := by
  have hclose : close ⟨tokens, .number seen⟩ = some ⟨.numeral m :: tokens, .between⟩ := by
    simp only [close, h, Option.map_some, push]
  cases rest with
  | nil => exact hclose
  | cons c cs =>
    have hstep : step ⟨tokens, .number seen⟩ c = step ⟨.numeral m :: tokens, .between⟩ c := by
      simp only [step, (hrest c cs rfl).1, Bool.false_eq_true, ↓reduceIte, hclose, Option.bind_some]
    rw [finish, List.foldlM_cons, hstep, ← List.foldlM_cons, finish]

/-- The same of a word. -/
theorem finish_word {seen : List Char} {t : Token} (h : word? seen.reverse = some t)
    (tokens : List Token) {rest : List Char} (hrest : Ends rest) :
    finish ⟨tokens, .word seen⟩ rest = finish ⟨t :: tokens, .between⟩ rest := by
  have hclose : close ⟨tokens, .word seen⟩ = some ⟨t :: tokens, .between⟩ := by
    simp only [close, h, Option.map_some, push]
  cases rest with
  | nil => exact hclose
  | cons c cs =>
    have hstep : step ⟨tokens, .word seen⟩ c = step ⟨t :: tokens, .between⟩ c := by
      simp only [step, (hrest c cs rfl).2, Bool.false_eq_true, ↓reduceIte, hclose, Option.bind_some]
    rw [finish, List.foldlM_cons, hstep, ← List.foldlM_cons, finish]

/-- The characters of a number are collected. -/
theorem foldlM_numberChars {cs : List Char} (h : ∀ d ∈ cs, isNumberChar d = true)
    (tokens : List Token) (seen : List Char) :
    cs.foldlM step ⟨tokens, .number seen⟩ = some ⟨tokens, .number (cs.reverse ++ seen)⟩ := by
  induction cs generalizing seen with
  | nil => rfl
  | cons c cs ih =>
    rw [List.forall_mem_cons] at h
    have hstep : step ⟨tokens, .number seen⟩ c = some ⟨tokens, .number (c :: seen)⟩ := by
      simp only [step, h.1, ↓reduceIte]
    rw [List.foldlM_cons, hstep, Option.bind_eq_bind, Option.bind_some, ih h.2, List.reverse_cons,
      List.append_assoc, List.singleton_append]

/-- A number begins with its sign or a digit. -/
theorem step_numberStart {c : Char} (h : c = '-' ∨ c.isDigit = true) (tokens : List Token) :
    step ⟨tokens, .between⟩ c = some ⟨tokens, .number [c]⟩ := by
  have hblank : isBlank c = false := by
    rw [← Bool.not_eq_true]
    intro hblank
    simp only [isBlank, Bool.or_eq_true, decide_eq_true_eq] at hblank
    rcases hblank with ((rfl | rfl) | rfl) | rfl <;> exact absurd h (by decide)
  simp only [step, start, hblank, Bool.false_eq_true, ↓reduceIte]
  -- None of the signs of a document begins a number.
  split
  all_goals first
    | exact absurd h (by decide)
    | rw [if_pos (by simpa using h)]

/-- A legible number is a token. -/
theorem finish_number_append {n : Number} (h : n.IsLegible) (tokens : List Token)
    {rest : List Char} (hrest : Ends rest) :
    finish ⟨tokens, .between⟩ (n.text ++ rest) =
      finish ⟨(Value.number n).tokens.reverse ++ tokens, .between⟩ rest := by
  obtain ⟨c, cs, htext, hfirst, hcs⟩ := h.text
  obtain ⟨m, hm, -⟩ := h.numeral
  have hopen : step ⟨tokens, .between⟩ c = some ⟨tokens, .number [c]⟩ :=
    step_numberStart hfirst tokens
  have hread : numeral? (cs.reverse ++ [c]).reverse = some m := by
    rw [List.reverse_append, List.reverse_reverse, List.reverse_singleton, List.singleton_append,
      ← htext, hm]
  rw [Value.tokens, hm, htext, List.cons_append, finish_cons hopen,
    finish_append (foldlM_numberChars hcs tokens [c]), finish_number hread tokens hrest]
  rfl

/-- A sign is a token by itself. -/
theorem finish_sign {t : Token} {c : Char} (h : t.sign? = some c) (tokens : List Token)
    (rest : List Char) :
    finish ⟨tokens, .between⟩ (c :: rest) = finish ⟨t :: tokens, .between⟩ rest := by
  cases t <;> simp only [Token.sign?, Option.some.injEq, reduceCtorEq] at h
  all_goals
    subst h
    rfl

theorem finish_null_append (tokens : List Token) {rest : List Char} (hrest : Ends rest) :
    finish ⟨tokens, .between⟩ ("null".toList ++ rest) = finish ⟨.null :: tokens, .between⟩ rest := by
  have hfold : "null".toList.foldlM step ⟨tokens, .between⟩ =
      some ⟨tokens, .word ['l', 'l', 'u', 'n']⟩ := rfl
  rw [finish_append hfold, finish_word rfl tokens hrest]

theorem finish_bool_append (b : Bool) (tokens : List Token) {rest : List Char} (hrest : Ends rest) :
    finish ⟨tokens, .between⟩ ((if b then "true" else "false").toList ++ rest) =
      finish ⟨.bool b :: tokens, .between⟩ rest := by
  cases b with
  | true =>
    have hfold : "true".toList.foldlM step ⟨tokens, .between⟩ =
        some ⟨tokens, .word ['e', 'u', 'r', 't']⟩ := rfl
    exact (finish_append hfold rest).trans (finish_word rfl tokens hrest)
  | false =>
    have hfold : "false".toList.foldlM step ⟨tokens, .between⟩ =
        some ⟨tokens, .word ['e', 's', 'l', 'a', 'f']⟩ := rfl
    exact (finish_append hfold rest).trans (finish_word rfl tokens hrest)

variable (l : Layout)

mutual

/-- A written value is its tokens, with whatever follows it that ends it. -/
theorem finish_chars (v : Value) (h : v.IsLegible) (level : Nat) (tokens : List Token)
    (rest : List Char) (hrest : Ends rest) :
    finish ⟨tokens, .between⟩ (l.chars level v ++ rest) =
      finish ⟨v.tokens.reverse ++ tokens, .between⟩ rest := by
  match v with
  | .null => exact finish_null_append tokens hrest
  | .bool b => exact finish_bool_append b tokens hrest
  | .number n => exact finish_number_append h tokens hrest
  | .text s => exact finish_quoted_append s tokens rest
  | .array [] => rfl
  | .object [] => rfl
  | .array (v :: vs) =>
    -- The last item is ended by the blanks before the bracket, or by the bracket itself.
    have hclose : Ends (l.line level ++ ']' :: rest) :=
      ends_blanks_append (l.isBlank_line level) (ends_cons (by decide) rest)
    simp only [Layout.chars, List.cons_append, List.append_assoc, List.nil_append]
    rw [finish_sign (t := .beginArray) rfl,
      finish_itemChars (v :: vs) h (level + 1) _ _ hclose,
      finish_blanks_append (l.isBlank_line level), finish_sign (t := .endArray) rfl]
    simp only [Value.tokens, List.reverse_cons, List.reverse_append, List.reverse_nil,
      List.nil_append, List.append_assoc, List.cons_append]
  | .object (m :: ms) =>
    have hclose : Ends (l.line level ++ '\x7d' :: rest) :=
      ends_blanks_append (l.isBlank_line level) (ends_cons (by decide) rest)
    simp only [Layout.chars, List.cons_append, List.append_assoc, List.nil_append]
    rw [finish_sign (t := .beginObject) rfl,
      finish_memberChars (m :: ms) h (level + 1) _ _ hclose,
      finish_blanks_append (l.isBlank_line level), finish_sign (t := .endObject) rfl]
    simp only [Value.tokens, List.reverse_cons, List.reverse_append, List.reverse_nil,
      List.nil_append, List.append_assoc, List.cons_append]

theorem finish_itemChars (items : List Value) (h : itemsAreLegible items) (level : Nat)
    (tokens : List Token) (rest : List Char) (hrest : Ends rest) :
    finish ⟨tokens, .between⟩ (l.itemChars level items ++ rest) =
      finish ⟨(itemTokens items).reverse ++ tokens, .between⟩ rest := by
  match items with
  | [] => rfl
  | [v] =>
    rw [Layout.itemChars, List.append_assoc, finish_blanks_append (l.isBlank_line level),
      finish_chars v h.1 level tokens rest hrest, itemTokens]
  | v :: w :: vs =>
    rw [Layout.itemChars, itemTokens]
    · simp only [List.append_assoc, List.cons_append]
      rw [finish_blanks_append (l.isBlank_line level),
        finish_chars v h.1 level tokens _ (ends_cons (by decide) _),
        finish_sign (t := .comma) rfl, finish_itemChars (w :: vs) h.2 level _ rest hrest]
      simp only [List.reverse_cons, List.reverse_append, List.append_assoc, List.cons_append,
        List.nil_append]
    · simp only [reduceCtorEq, imp_self]
    · simp only [reduceCtorEq, imp_self]

theorem finish_memberChars (members : List (String × Value)) (h : membersAreLegible members)
    (level : Nat) (tokens : List Token) (rest : List Char) (hrest : Ends rest) :
    finish ⟨tokens, .between⟩ (l.memberChars level members ++ rest) =
      finish ⟨(memberTokens members).reverse ++ tokens, .between⟩ rest := by
  match members with
  | [] => rfl
  | [(k, v)] =>
    simp only [Layout.memberChars, List.append_assoc, List.cons_append]
    rw [finish_blanks_append (l.isBlank_line level), finish_quoted_append,
      finish_sign (t := .colon) rfl, finish_blanks_append l.isBlank_gap,
      finish_chars v h.1 level _ rest hrest]
    simp only [memberTokens, List.reverse_cons, List.append_assoc, List.cons_append,
      List.nil_append]
  | (k, v) :: m :: ms =>
    rw [Layout.memberChars, memberTokens]
    · simp only [List.append_assoc, List.cons_append]
      rw [finish_blanks_append (l.isBlank_line level), finish_quoted_append,
        finish_sign (t := .colon) rfl, finish_blanks_append l.isBlank_gap,
        finish_chars v h.1 level _ _ (ends_cons (by decide) _),
        finish_sign (t := .comma) rfl, finish_memberChars (m :: ms) h.2 level _ rest hrest]
      simp only [List.reverse_cons, List.reverse_append, List.append_assoc, List.cons_append,
        List.nil_append]
    · simp only [reduceCtorEq, imp_self]
    · simp only [reduceCtorEq, imp_self]

end

end Scan

/-! ### Assembly -/

namespace Assembly

/-- A value begins with a token that is welcome as the first item of an array. -/
theorem exists_tokens_eq_cons (v : Value) (h : v.IsLegible) : ∃ t ts, v.tokens = t :: ts ∧
    ∀ stack, step (.firstItem stack) t = step (.value (.array [] :: stack)) t := by
  cases v with
  | null => exact ⟨_, _, rfl, fun _ => rfl⟩
  | bool b => exact ⟨_, _, rfl, fun _ => rfl⟩
  | text s => exact ⟨_, _, rfl, fun _ => rfl⟩
  | array items => exact ⟨_, _, rfl, fun _ => rfl⟩
  | object members => exact ⟨_, _, rfl, fun _ => rfl⟩
  | number n =>
    obtain ⟨m, hm, -⟩ := h.numeral
    rw [Value.tokens, hm]
    exact ⟨_, _, rfl, fun _ => rfl⟩

theorem foldlM_firstItem (v : Value) (vs : List Value) (h : v.IsLegible) (stack : List Frame) :
    (itemTokens (v :: vs)).foldlM step (.firstItem stack) =
      (itemTokens (v :: vs)).foldlM step (.value (.array [] :: stack)) := by
  obtain ⟨t, ts, hv, hfirst⟩ := exists_tokens_eq_cons v h
  have hshape : ∃ more, itemTokens (v :: vs) = t :: more := by
    cases vs with
    | nil => exact ⟨ts, hv⟩
    | cons w vs =>
      refine ⟨ts ++ .comma :: itemTokens (w :: vs), ?_⟩
      rw [itemTokens, hv, List.cons_append]
      simp only [reduceCtorEq, imp_self]
  obtain ⟨more, hmore⟩ := hshape
  rw [hmore, List.foldlM_cons, List.foldlM_cons, hfirst]

theorem foldlM_firstKey (k : String) (v : Value) (ms : List (String × Value)) (stack : List Frame) :
    (memberTokens ((k, v) :: ms)).foldlM step (.firstKey stack) =
      (memberTokens ((k, v) :: ms)).foldlM step (.key [] stack) := by
  cases ms <;> rfl

mutual

/-- The tokens of a value are assembled to its tree, in whatever containers it stands. -/
theorem foldlM_tokens (v : Value) (h : v.IsLegible) (stack : List Frame) :
    v.tokens.foldlM step (.value stack) = some (complete v.toTree stack) := by
  match v with
  | .null => rfl
  | .bool b => rfl
  | .text s => rfl
  | .number n =>
    obtain ⟨m, hm, hn⟩ := h.numeral
    rw [Value.tokens, hm]
    simp only [Option.toList_some, List.map_cons, List.map_nil, List.foldlM_cons, List.foldlM_nil,
      step, startValue, hn, Option.bind_eq_bind, Option.bind_some, Option.pure_def, Value.toTree]
  | .array [] => rfl
  | .object [] => rfl
  | .array (v :: vs) =>
    -- The machine knows that an array begins before it knows that there is an item.
    have hopen : step (.value stack) .beginArray = some (.firstItem stack) := rfl
    rw [Value.tokens, List.foldlM_cons, hopen, Option.bind_eq_bind, Option.bind_some,
      List.foldlM_append, foldlM_firstItem v vs h.1,
      foldlM_itemTokens (v :: vs) h (List.cons_ne_nil v vs), Option.bind_eq_bind,
      Option.bind_some, List.append_nil, Value.toTree]
    simp only [List.foldlM_cons, List.foldlM_nil, step, List.reverse_reverse, Option.bind_eq_bind,
      Option.bind_some, Option.pure_def]
  | .object ((k, v) :: ms) =>
    have hopen : step (.value stack) .beginObject = some (.firstKey stack) := rfl
    rw [Value.tokens, List.foldlM_cons, hopen, Option.bind_eq_bind, Option.bind_some,
      List.foldlM_append, foldlM_firstKey k v ms,
      foldlM_memberTokens ((k, v) :: ms) h (List.cons_ne_nil _ ms), Option.bind_eq_bind,
      Option.bind_some, List.append_nil, Value.toTree]
    simp only [List.foldlM_cons, List.foldlM_nil, step, List.reverse_reverse, Option.bind_eq_bind,
      Option.bind_some, Option.pure_def]

/-- Items are put into their array one by one. -/
theorem foldlM_itemTokens (items : List Value) (h : itemsAreLegible items) (hne : items ≠ [])
    (before : List Tree) (stack : List Frame) :
    (itemTokens items).foldlM step (.value (.array before :: stack)) =
      some (.afterItem ((itemTrees items).reverse ++ before) stack) := by
  match items with
  | [v] =>
    rw [itemTokens, foldlM_tokens v h.1]
    rfl
  | v :: w :: vs =>
    have hcomma : step (complete v.toTree (.array before :: stack)) .comma =
        some (.value (.array (v.toTree :: before) :: stack)) := rfl
    have htrees : itemTrees (v :: w :: vs) = v.toTree :: itemTrees (w :: vs) := rfl
    rw [itemTokens]
    · rw [List.foldlM_append, foldlM_tokens v h.1, Option.bind_eq_bind, Option.bind_some,
        List.foldlM_cons, hcomma, Option.bind_eq_bind, Option.bind_some,
        foldlM_itemTokens (w :: vs) h.2 (List.cons_ne_nil w vs), htrees, List.reverse_cons, List.append_assoc,
        List.singleton_append]
    · simp only [reduceCtorEq, imp_self]

/-- Members are put into their object one by one. -/
theorem foldlM_memberTokens (members : List (String × Value)) (h : membersAreLegible members)
    (hne : members ≠ []) (before : Members) (stack : List Frame) :
    (memberTokens members).foldlM step (.key before stack) =
      some (.afterMember ((memberTrees members).reverse ++ before) stack) := by
  have hkey : ∀ k : String, [Token.text (some k), .colon].foldlM step (.key before stack) =
      some (.value (.object before (some k) :: stack)) := fun _ => rfl
  match members with
  | [(k, v)] =>
    have hshape : memberTokens [(k, v)] = [.text (some k), .colon] ++ v.tokens := rfl
    rw [hshape, List.foldlM_append, hkey, Option.bind_eq_bind, Option.bind_some,
      foldlM_tokens v h.1]
    rfl
  | (k, v) :: (k', w) :: ms =>
    have hcomma : step (complete v.toTree (.object before (some k) :: stack)) .comma =
        some (.key ((some k, v.toTree) :: before) stack) := rfl
    have htrees : memberTrees ((k, v) :: (k', w) :: ms) =
        (some k, v.toTree) :: memberTrees ((k', w) :: ms) := rfl
    have hshape : memberTokens ((k, v) :: (k', w) :: ms) =
        [.text (some k), .colon] ++ (v.tokens ++ .comma :: memberTokens ((k', w) :: ms)) := rfl
    rw [hshape, List.foldlM_append, hkey, Option.bind_eq_bind, Option.bind_some,
      List.foldlM_append, foldlM_tokens v h.1, Option.bind_eq_bind, Option.bind_some,
      List.foldlM_cons, hcomma, Option.bind_eq_bind, Option.bind_some,
      foldlM_memberTokens ((k', w) :: ms) h.2 (List.cons_ne_nil _ ms), htrees, List.reverse_cons, List.append_assoc,
      List.singleton_append]

end

end Assembly

/-! ### Documents -/

/-- A written value is read back as its tree. -/
theorem parse?_chars (l : Layout) (v : Value) (h : v.IsLegible) (level : Nat) :
    Tree.parse? (String.ofList (l.chars level v)) = some v.toTree := by
  have hscan := Scan.finish_chars l v h level [] [] Scan.ends_nil
  have hend : Scan.finish ⟨v.tokens.reverse ++ [], .between⟩ [] =
      some ⟨v.tokens.reverse, .between⟩ := by
    rw [List.append_nil]
    rfl
  rw [List.append_nil, hend, Scan.finish, Option.bind_eq_some_iff] at hscan
  obtain ⟨s, hfold, hclose⟩ := hscan
  have htokens : tokens? (l.chars level v) = some v.tokens := by
    rw [tokens?, hfold]
    simp only [Option.bind_eq_bind, Option.bind_some, hclose, Option.pure_def, List.reverse_reverse]
  rw [Tree.parse?, String.toList_ofList, htokens, Option.bind_some, Tree.ofTokens?,
    Assembly.foldlM_tokens v h]
  rfl

/-- A value on one line is read back as its tree. -/
theorem parse?_compact (v : Value) (h : v.IsLegible) : Tree.parse? v.compact = some v.toTree := by
  rw [Value.compact, ← Layout.chars_compact 0, parse?_chars Layout.compact v h]

/-- A value spread over lines is read back as its tree. -/
theorem parse?_pretty (v : Value) (h : v.IsLegible) : Tree.parse? v.pretty = some v.toTree := by
  rw [Value.pretty, ← Layout.chars_pretty, parse?_chars Layout.pretty v h]

end Wager.Json
