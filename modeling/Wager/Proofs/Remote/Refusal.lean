import Wager.Proofs.Json.Records
import Wager.Proofs.Remote.Renewing
import Wager.Proofs.Text.Cutting

/-!
# The message of a refusal

What is passed on of a reply that refuses a request, whatever its body is.

A refusal is passed on with its status and at most one message. Where the body is the document that
explains a refusal, it is the document's message, and none if the document has none or an empty one.
Any other body is the message itself, without the blanks around it. A long one is cut, and a note
tells how long it was. Nobody is ever told an empty message: a blank body is none.

The server's status for want of a credential takes a way of its own, on which nothing differs.

## Main definitions

* `Explains`: A text is a document that explains a refusal, and what it says.
* `Conveys`: What is passed on of a body.

## Theorems

* `decode?_messageDecoder_eq_some_iff`: Reading tells what a document says.
* `conveys_iff`: The message that is taken from a body is the one to be passed on.
* `Failure.passed_on`: A refusal is passed on with its status and the message of its body.
-/

namespace Wager.Remote

/-! ### What a document says -/

/-- A text is a document that explains a refusal, with a message or with none. It is a record whose
one field is for the message, which may be null, or missing from an object. -/
def Explains (s : String) (message : Option String) : Prop :=
  ∃ t slot, Json.Tree.parse? s = some t ∧ t.IsRecord ["message"] [slot] ∧
    slot.Offers (fun t message => t = .text (some message)) message

theorem decode?_messageDecoder_eq_some_iff (s : String) (message : Option String) :
    Json.decode? messageDecoder s = some message ↔ Explains s message := by
  have hnullable (slot : Json.Slot) : Json.Decoder.nullable .text 126 slot = some message ↔ _ :=
    Json.Decoder.nullable_eq_some_iff (fun _ _ => Json.Decoder.text_eq_some_iff) nofun
  simp only [Json.decode?, Option.bind_eq_some_iff, messageDecoder, Json.maxDepth,
    Json.Decoder.record_eq_some_iff, Json.exists_slot_iff, hnullable, ← exists_and_left]
  rfl

/-! ### What is passed on -/

/-- What is passed on of the body of a refusal: the message of a document that explains it, unless
that is missing or empty, and else the body itself, as far as it fits. -/
inductive Conveys (body : String) : Option String → Prop
  | blank (h : ∀ c ∈ body.toList, Text.isBlank c = true) : Conveys body none
  | silent {s : String} (hs : Text.IsTrimmed body s) (h : Explains s none ∨ Explains s (some "")) :
      Conveys body none
  | told {s message : String} (hs : Text.IsTrimmed body s) (h : Explains s (some message))
      (hne : message ≠ "") : Conveys body (some message)
  | whole {s : String} (hs : Text.IsTrimmed body s) (hne : s ≠ "")
      (h : ∀ message, ¬ Explains s message) (hfits : s.utf8ByteSize ≤ 500) : Conveys body (some s)
  | cut {s front : String} (hs : Text.IsTrimmed body s) (h : ∀ message, ¬ Explains s message)
      (hlong : 500 < s.utf8ByteSize) (hfront : Text.IsFront 500 s front) :
      Conveys body (some (front ++ s!"... (truncated, {s.utf8ByteSize} total bytes)"))

theorem isFront_front (s : String) : Text.IsFront 500 s (front s) := by
  obtain ⟨p, hp, hfits, hlast⟩ := Text.lastPlace?_eq_some s maxBodyBytes
  rw [front, hp]
  exact Text.isFront_sliceTo hfits hlast

section

variable {body : String}

theorem messageOf_of_blank (h : ∀ c ∈ body.toList, Text.isBlank c = true) :
    messageOf body = none := by
  simp only [messageOf, Text.trimmed_eq_empty_iff.mpr h]
  exact if_pos rfl

/-- A text that is a document is not empty. -/
theorem Explains.ne_empty {s : String} {message : Option String} (h : Explains s message) :
    s ≠ "" := by
  rintro rfl
  rw [← decode?_messageDecoder_eq_some_iff, Json.decode?_of_isBlankText _ rfl] at h
  cases h

theorem messageOf_of_explains {message : Option String} (h : Explains (Text.trimmed body) message) :
    messageOf body = message.filter (!·.isEmpty) := by
  have hempty : ¬ (Text.trimmed body).isEmpty = true :=
    fun hempty => h.ne_empty (String.isEmpty_iff.mp hempty)
  have hdecode := (decode?_messageDecoder_eq_some_iff _ message).mpr h
  simp only [messageOf, if_neg hempty, hdecode]

theorem messageOf_of_not_explains (hne : Text.trimmed body ≠ "")
    (h : ∀ message, ¬ Explains (Text.trimmed body) message) :
    messageOf body = some (truncated (Text.trimmed body)) := by
  have hempty : ¬ (Text.trimmed body).isEmpty = true :=
    fun hempty => hne (String.isEmpty_iff.mp hempty)
  have hdecode : Json.decode? messageDecoder (Text.trimmed body) = none :=
    Option.eq_none_iff_forall_ne_some.mpr fun message hmessage =>
      h message ((decode?_messageDecoder_eq_some_iff _ message).mp hmessage)
  simp only [messageOf, if_neg hempty, hdecode]

theorem truncated_of_le {s : String} (h : s.utf8ByteSize ≤ 500) : truncated s = s :=
  if_pos h

theorem truncated_of_lt {s : String} (h : 500 < s.utf8ByteSize) :
    truncated s = front s ++ s!"... (truncated, {s.utf8ByteSize} total bytes)" :=
  if_neg (Nat.not_le_of_lt h)

/-- The message that is taken from a body is conveyed by it. -/
theorem conveys_messageOf (body : String) : Conveys body (messageOf body) := by
  have htrimmed := Text.isTrimmed_trimmed body
  -- A document that explains itself goes before the text, even if it says nothing.
  by_cases hexplains : ∃ message, Explains (Text.trimmed body) message
  · obtain ⟨message, hexplains⟩ := hexplains
    rw [messageOf_of_explains hexplains]
    match message, hexplains with
    | none, hexplains => exact .silent htrimmed (Or.inl hexplains)
    | some message, hexplains =>
      by_cases hempty : message = ""
      · rw [hempty] at hexplains ⊢
        exact .silent htrimmed (Or.inr hexplains)
      · have hkept : (!message.isEmpty) = true := by simpa using hempty
        rw [Option.filter_some, if_pos hkept]
        exact .told htrimmed hexplains hempty
  · have hexplains : ∀ message, ¬ Explains (Text.trimmed body) message := not_exists.mp hexplains
    by_cases hempty : Text.trimmed body = ""
    · have hblank := Text.trimmed_eq_empty_iff.mp hempty
      rw [messageOf_of_blank hblank]
      exact .blank hblank
    · rw [messageOf_of_not_explains hempty hexplains]
      by_cases hfits : (Text.trimmed body).utf8ByteSize ≤ 500
      · rw [truncated_of_le hfits]
        exact .whole htrimmed hempty hexplains hfits
      · have hlong := Nat.lt_of_not_le hfits
        rw [truncated_of_lt hlong]
        exact .cut htrimmed hexplains hlong (isFront_front _)

/-- A body conveys nothing else. -/
theorem Conveys.eq {message : Option String} (h : Conveys body message) :
    message = messageOf body := by
  cases h with
  | blank h => rw [messageOf_of_blank h]
  | silent hs h =>
    rw [(Text.isTrimmed_iff _ _).mp hs] at h
    rcases h with h | h
    · rw [messageOf_of_explains h, Option.filter_none]
    · rw [messageOf_of_explains h]
      rfl
  | @told s message hs h hne =>
    rw [(Text.isTrimmed_iff _ _).mp hs] at h
    have hkept : (!message.isEmpty) = true := by simpa using hne
    rw [messageOf_of_explains h, Option.filter_some, if_pos hkept]
  | whole hs hne h hfits =>
    obtain rfl := (Text.isTrimmed_iff _ _).mp hs
    rw [messageOf_of_not_explains hne h, truncated_of_le hfits]
  | cut hs h hlong hfront =>
    obtain rfl := (Text.isTrimmed_iff _ _).mp hs
    have hne : Text.trimmed body ≠ "" := by
      intro hempty
      rw [hempty, String.utf8ByteSize_empty] at hlong
      exact absurd hlong (Nat.not_lt_zero 500)
    rw [messageOf_of_not_explains hne h, truncated_of_lt hlong, hfront.unique (isFront_front _)]

/-- What is conveyed is never an empty message. -/
theorem Conveys.ne_empty {message : Option String} (h : Conveys body message) :
    message ≠ some "" := by
  cases h with
  | blank | silent => exact nofun
  | told _ _ hne => exact fun h => hne (Option.some.inj h)
  | whole _ hne => exact fun h => hne (Option.some.inj h)
  | cut =>
    intro h
    have hsize := congrArg String.utf8ByteSize (Option.some.inj h)
    simp at hsize

end

/-- A refusal is passed on with its status and the message that its body conveys, which is never an
empty one. A body that is too long has a place where it may be cut, and not far from where it must
be. -/
theorem Failure.passed_on (status : Nat) (body : String) :
    (∃ message, (ofStatus status body).toError = .remoteRejected status message ∧
      message ≠ some "" ∧ ∀ other, Conveys body other ↔ other = message) ∧
    ∀ s ∈ [body, Text.trimmed body], 500 < s.utf8ByteSize →
      ∃ place, Text.lastPlace? s 500 = some place ∧
        497 ≤ place.offset.byteIdx ∧ place.offset.byteIdx ≤ 500 := by
  have hconveys := conveys_messageOf body
  refine ⟨⟨messageOf body, toError_ofStatus status body, hconveys.ne_empty, fun other => ?_⟩, ?_⟩
  · exact ⟨Conveys.eq, fun h => h ▸ hconveys⟩
  · intro s _ hlong
    obtain ⟨place, hplace, hfits, hlast⟩ := Text.lastPlace?_eq_some s 500
    have hnear := Text.lt_byteIdx_add_four hlong.le hlast
    exact ⟨place, hplace, by omega, hfits⟩

end Wager.Remote
