import Wager.Proofs.Remote.Asking
import Wager.Session.Access

/-!
# What a reply to a renewal comes to

Which outcome a renewal has, by what is received for its one request.

A reply goes through four hands before it is an outcome: the exchange, which knows of lost replies,
the endpoint, which tells success from refusal, the failures, which keep a refused credential apart
from other refusals, and the session, which takes three statuses for its own end. What comes out is
said in one place, `Judged`, which mentions none of them. There are four kinds of outcome, each with
its cause: a new access credential, a session that has expired, a refusal that is passed on, and a
failure of the network, which stands for replies without sense as well.

A blank body is read as null, which holds no pair. A blank text is no document either, so no
exception is made for such a body: it does not decode.

## Main definitions

* `Reply.Brings`, `Reply.Refuses`: A reply with a new pair, and one that refuses the credential.
* `Judged`: The outcome of a renewal, by what is received.
* `outcomeOf`: The outcome of a renewal, by the server's answer.
* `Answers`: The server's answer, by what is received.

## Theorems

* `Json.decode?_of_isBlankText`: A blank text is no document.
* `Failure.toError_ofStatus`: A refusal is passed on with its status and its message.
* `answers_settle`: What is received decides the answer, and the answer the outcome.
* `Endpoint.ask_renewal`: A server is asked once.
-/

namespace Wager

/-! ### Blank texts -/

/-- A blank character is neither a letter nor a digit. -/
theorem Text.isAlphanum_of_isBlank {c : Char} (h : isBlank c = true) : c.isAlphanum = false := by
  -- Both classes are ranges of code points, which do not meet.
  simp only [isBlank, Bool.or_eq_true, Bool.and_eq_true, decide_eq_true_eq, beq_iff_eq, Char.toNat]
    at h
  delta Char.isAlphanum Char.isAlpha Char.isUpper Char.isLower Char.isDigit
  simp only [ge_iff_le, UInt32.le_iff_toNat_le, Char.reduceVal, UInt32.reduceToNat,
    Bool.or_eq_false_iff, Bool.and_eq_false_iff, decide_eq_false_iff_not]
  omega

namespace Json

/-- Between tokens a blank character is passed over, or no token starts with it. -/
theorem Scan.step_of_isBlank {c : Char} (h : Text.isBlank c = true) (tokens : List Token) :
    Scan.step ⟨tokens, .between⟩ c = some ⟨tokens, .between⟩ ∨
      Scan.step ⟨tokens, .between⟩ c = none := by
  by_cases hblank : Scan.isBlank c = true
  · left
    simp only [Scan.step, Scan.start, hblank, if_true]
  · right
    simp only [Scan.step, Scan.start, hblank, Bool.false_eq_true, if_false]
    -- It is none of the signs of a document either.
    split
    all_goals try exact absurd h (by decide)
    have halphanum := Text.isAlphanum_of_isBlank h
    rw [Char.isAlphanum, Bool.or_eq_false_iff] at halphanum
    have hminus : c ≠ '-' := by
      rintro rfl
      exact absurd h (by decide)
    simp only [hminus, halphanum, decide_false, Bool.or_false, Bool.false_eq_true, if_false]

theorem foldlM_step_of_isBlank {cs : List Char} (h : cs.all Text.isBlank = true)
    (tokens : List Token) :
    cs.foldlM Scan.step ⟨tokens, .between⟩ = some ⟨tokens, .between⟩ ∨
      cs.foldlM Scan.step ⟨tokens, .between⟩ = none := by
  induction cs with
  | nil => exact Or.inl rfl
  | cons c cs ih =>
    rw [List.all_cons, Bool.and_eq_true] at h
    rw [List.foldlM_cons]
    rcases Scan.step_of_isBlank h.1 tokens with hstep | hstep
    · rw [hstep]
      exact ih h.2
    · rw [hstep]
      exact Or.inr rfl

/-- A blank text is no document. -/
theorem decode?_of_isBlankText {α : Type} (d : Decoder α) {s : String}
    (h : Text.isBlankText s = true) : decode? d s = none := by
  rw [decode?, Tree.parse?, tokens?]
  -- Either there are no tokens, which make no tree, or the characters are not all read.
  rcases foldlM_step_of_isBlank h [] with hfold | hfold
  · rw [hfold]
    rfl
  · rw [hfold]
    rfl

end Json

namespace Remote

/-! ### Outcomes -/

/-- A reply brings a pair: it means success, it is complete, and its body is a document that holds
the pair. -/
structure Reply.Brings (r : Reply) (pair : Credentials) : Prop where
  success : r.isSuccess = true
  whole : r.isWhole = true
  decodes : Json.decode? Credentials.replyDecoder r.text = some pair

/-- A reply refuses the credential that it is the reply to. -/
def Reply.Refuses (r : Reply) : Prop := r.status = 400 ∨ r.status = 401 ∨ r.status = 403

/-- The outcome of a renewal, by what is received for its request. Where no request can be made
nothing is received. -/
structure Judged (received : Option (Except Failure Reply)) (result : Result String) : Prop where
  /-- A new access credential is the one of a pair that was brought. -/
  ok_iff : ∀ access, result = .ok access ↔
    ∃ r pair, received = some (.ok r) ∧ r.Brings pair ∧ access = pair.access
  /-- The session has expired when the server says so or cannot be asked. -/
  expired_iff : result = .error .authExpired ↔
    received = none ∨ ∃ r, received = some (.ok r) ∧ r.Refuses
  /-- Any other refusal is passed on with its status and its message. -/
  rejected_iff : ∀ status message, result = .error (.remoteRejected status message) ↔
    ∃ r, received = some (.ok r) ∧ r.isSuccess = false ∧ ¬ r.Refuses ∧
      r.status = status ∧ messageOf r.text = message
  /-- No reply is a failure of the network, and so is one that brings nothing. -/
  failed_iff : (∃ detail, result = .error (.networkFailure detail)) ↔
    (∃ failure, received = some (.error failure)) ∨
      ∃ r, received = some (.ok r) ∧ r.isSuccess = true ∧ ∀ pair, ¬ r.Brings pair

/-- A reply that refuses means no success. -/
theorem Reply.Refuses.isSuccess {r : Reply} (h : r.Refuses) : r.isSuccess = false := by
  rcases h with h | h | h <;> simp [Reply.isSuccess, h]

theorem Reply.refuses_iff (r : Reply) : r.Refuses ↔ r.status ∈ Session.refusals := by
  simp only [Reply.Refuses, Session.refusals, List.mem_cons, List.not_mem_nil, or_false]

theorem Reply.Brings.not_refuses {r : Reply} {pair : Credentials} (h : r.Brings pair) :
    ¬ r.Refuses :=
  fun hrefuses => nomatch h.success.symm.trans hrefuses.isSuccess

/-- A reply brings one pair. -/
theorem Reply.Brings.unique {r : Reply} {pair pair' : Credentials} (h : r.Brings pair)
    (h' : r.Brings pair') : pair = pair' := by
  have heq := h.decodes
  rw [h'.decodes, Option.some.injEq] at heq
  exact heq.symm

namespace Judged

/-- Without a credential to send the session has expired. -/
theorem withheld : Judged none (.error .authExpired) := by
  constructor <;> simp

theorem lost (failure : Failure) (detail : String) :
    Judged (some (.error failure)) (.error (.networkFailure detail)) := by
  constructor <;> simp

variable {r : Reply}

theorem brought {pair : Credentials} (h : r.Brings pair) :
    Judged (some (.ok r)) (.ok pair.access) := by
  constructor
  · intro access
    constructor
    · rintro ⟨⟩
      exact ⟨r, pair, rfl, h, rfl⟩
    -- No other access credential, since a reply brings one pair.
    · rintro ⟨_, pair', ⟨⟩, h', rfl⟩
      rw [h.unique h']
  · simp [h.not_refuses]
  · simp [h.success]
  · have hsome : ∃ pair, r.Brings pair := ⟨pair, h⟩
    simp [h.success, hsome]

/-- Success without a pair makes no sense. -/
theorem unreadable (hsuccess : r.isSuccess = true) (hbrings : ∀ pair, ¬ r.Brings pair)
    (detail : String) : Judged (some (.ok r)) (.error (.networkFailure detail)) := by
  have hrefuses : ¬ r.Refuses := fun hrefuses => nomatch hsuccess.symm.trans hrefuses.isSuccess
  constructor <;> simp [hsuccess, hbrings, hrefuses]

theorem refused (h : r.Refuses) : Judged (some (.ok r)) (.error .authExpired) := by
  have hbrings : ∀ pair, ¬ r.Brings pair := fun _ hbrings => hbrings.not_refuses h
  constructor <;> simp [h, h.isSuccess, hbrings]

theorem rejected (hsuccess : r.isSuccess = false) (hrefuses : ¬ r.Refuses) :
    Judged (some (.ok r)) (.error (.remoteRejected r.status (messageOf r.text))) := by
  have hbrings : ∀ pair, ¬ r.Brings pair :=
    fun _ hbrings => nomatch hbrings.success.symm.trans hsuccess
  constructor <;> simp [hsuccess, hrefuses, hbrings]

end Judged

/-! ### From the reply to the outcome -/

/-- A refusal is passed on with its status and its message. One for want of a credential takes
another way to the same. -/
theorem Failure.toError_ofStatus (status : Nat) (body : String) :
    (ofStatus status body).toError = .remoteRejected status (messageOf body) := by
  unfold ofStatus
  split
  · rename_i hstatus
    rw [hstatus, toError]
  · rfl

/-- A body that holds a pair is not blank, and is read as it is. -/
theorem Endpoint.read_renewal_of_some {body : String} {pair : Credentials}
    (h : Json.decode? Credentials.replyDecoder body = some pair) :
    Endpoint.renewal.read body = .ok pair := by
  have hblank : ¬ Text.isBlankText body = true := fun hblank => by
    rw [Json.decode?_of_isBlankText _ hblank] at h
    exact nomatch h
  have hdecode : Json.decode? Endpoint.renewal.decoder body = some pair := h
  simp only [read, if_neg hblank, hdecode]

/-- A body that holds no pair makes no sense. One that is blank is read as null, which holds none
either. -/
theorem Endpoint.read_renewal_of_none {body : String}
    (h : Json.decode? Credentials.replyDecoder body = none) :
    ∃ detail, Endpoint.renewal.read body = .error (.networkFailure detail) := by
  have hdecode : Json.decode? Endpoint.renewal.decoder
      (if Text.isBlankText body then "null" else body) = none := by
    split
    · decide +kernel
    · exact h
  simp only [read, hdecode]
  exact ⟨_, rfl⟩

theorem Endpoint.conclude_of_brings {r : Reply} {pair : Credentials} (h : r.Brings pair) :
    Endpoint.renewal.conclude r = .ok pair := by
  rw [conclude, if_pos h.success, if_pos h.whole, read_renewal_of_some h.decodes]

/-- The outcome of a renewal by the server's answer, if the session was not ended meanwhile. -/
def outcomeOf : Result Credentials → Result String
  | .ok pair => .ok pair.access
  | .error error => .error (Session.renewalError error)

/-- The server's answer to a renewal, by what is received: a pair is the one that was brought, and
the outcome is decided. -/
structure Answers (received : Option (Except Failure Reply)) (answer : Result Credentials) :
    Prop where
  ok : ∀ r pair, received = some (.ok r) → r.Brings pair → answer = .ok pair
  judged : Judged received (outcomeOf answer)

namespace Answers

variable {received : Option (Except Failure Reply)}

/-- An answer with a pair was brought by a reply. -/
theorem brought {pair : Credentials} (h : Answers received (.ok pair)) :
    ∃ reply, received = some (.ok reply) ∧ reply.Brings pair := by
  obtain ⟨reply, pair', hreceived, hbrings, -⟩ := (h.judged.ok_iff pair.access).mp rfl
  have hpair : pair = pair' := Except.ok.inj (h.ok reply pair' hreceived hbrings)
  exact ⟨reply, hreceived, hpair ▸ hbrings⟩

/-- Without one no reply has brought a pair. -/
theorem not_brings {error : Error} (h : Answers received (.error error)) (reply : Reply)
    (pair : Credentials) (hreceived : received = some (.ok reply)) : ¬ reply.Brings pair :=
  fun hbrings => nomatch h.ok reply pair hreceived hbrings

end Answers

/-- A reply decides the outcome of a renewal. -/
theorem judged_conclude (r : Reply) :
    Judged (some (.ok r)) (outcomeOf (Endpoint.renewal.conclude r)) := by
  by_cases hsuccess : r.isSuccess = true
  · by_cases hwhole : r.isWhole = true
    · cases hdecode : Json.decode? Credentials.replyDecoder r.text with
      | some pair =>
        have hbrings : r.Brings pair := ⟨hsuccess, hwhole, hdecode⟩
        rw [Endpoint.conclude_of_brings hbrings]
        exact .brought hbrings
      | none =>
        obtain ⟨detail, hread⟩ := Endpoint.read_renewal_of_none hdecode
        rw [Endpoint.conclude, if_pos hsuccess, if_pos hwhole, hread]
        refine .unreadable hsuccess (fun pair hbrings => ?_) _
        rw [hbrings.decodes] at hdecode
        exact nomatch hdecode
    · rw [Endpoint.conclude, if_pos hsuccess, if_neg hwhole]
      exact .unreadable hsuccess (fun pair hbrings => hwhole hbrings.whole) _
  · rw [Endpoint.conclude, if_neg hsuccess, Failure.toError_ofStatus, outcomeOf,
      Session.renewalError]
    by_cases hrefuses : r.Refuses
    · rw [if_pos (r.refuses_iff.mp hrefuses)]
      exact .refused hrefuses
    · rw [if_neg fun hmem => hrefuses (r.refuses_iff.mpr hmem)]
      exact .rejected (Bool.eq_false_iff.mpr hsuccess) hrefuses

/-- What is received decides the server's answer. -/
theorem answers_settle (r : Request) (delivery : Delivery) :
    Answers (some (r.received delivery)) (Endpoint.renewal.settle (r.received delivery)) := by
  cases hreceived : r.received delivery with
  | ok reply =>
    refine ⟨fun r pair heq hbrings => ?_, judged_conclude reply⟩
    rw [Option.some.injEq, Except.ok.injEq] at heq
    rw [heq]
    exact Endpoint.conclude_of_brings hbrings
  | error failure =>
    obtain ⟨detail, rfl⟩ := r.exists_eq_transport hreceived
    refine ⟨fun _ _ heq => ?_, .lost _ detail⟩
    cases heq

/-- A server that can be asked for a renewal is asked once, if the credential may be sent. -/
theorem Endpoint.ask_renewal (peer : Peer) {server root : String} (hroot : IsAt server root)
    {url : Url} (hurl : Url.askable? (root ++ "/auth/refresh") = some url) {refresh : String}
    (hsendable : IsHeaderText refresh) (sent : List Request) :
    let r := renewalRequest url refresh
    ∃ answer, renewal.ask peer server (some refresh) sent = (answer, sent ++ [r]) ∧
      Answers (some (r.received (peer sent r))) answer := by
  intro r
  obtain ⟨hanswer, hsent⟩ := (makes_renewal.asks peer hroot hurl sent).asked
    (fun _ heq => Option.some.inj heq ▸ hsendable)
  exact ⟨_, Prod.ext hanswer hsent, answers_settle r _⟩

end Remote

end Wager
