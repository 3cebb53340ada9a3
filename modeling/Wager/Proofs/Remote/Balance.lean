import Mathlib.Algebra.Ring.Int.Defs
import Wager.Proofs.Json.Records
import Wager.Proofs.Number.Whole
import Wager.Proofs.Remote.Asking
import Wager.Remote.Ledger

/-!
# What a ledger tells of a balance

Which replies tell a balance, and which one.

A ledger tells a balance in one of two ways: by a result that holds the amount, or by the error that
there is no such account, which holds nothing then. All other replies tell none, and there are many:
a status that means no success whatever the body says, a body that is no document or cut off, one
with neither a result nor an error, an amount that is no number or too large, or any other error,
even one that speaks of a missing account under another code. To take one of these for a balance
would show an amount that nobody has read. So what tells a balance is said on the documents
themselves (`Reply.Tells`), and every other reply is a failure (`Ledger.Judges`).

## Main definitions

* `Ledger.Fault.In`, `Ledger.Holding.In`, `Ledger.Answer.In`: What is in a document.
* `Reply.Tells`: A reply tells a balance.
* `Ledger.request?`, `Ledger.received?`: The request for a balance, and what is received for it.
* `Ledger.Judges`: What becomes of what is received.

## Theorems

* `Ledger.occursIn_iff`: A text is found exactly where it occurs.
* `Ledger.decodeBytes?_decoder_eq_some_iff`: Reading finds what is in a document.
* `Ledger.balance_eq`: A balance is asked for once, and by what is received the balance is told.
-/

namespace Wager.Remote

open Json (Tree Slot)

/-! ### What is in a document -/

namespace Ledger

/-- A document is an error with a code of 64 bits and a message. -/
inductive Fault.In : Tree → Fault → Prop
  | mk {t : Tree} {code : Int} {message : String}
      (h : t.IsRecord ["code", "message"]
        [.given (.number (some (.whole code))), .given (.text (some message))])
      (hcode : -2 ^ 63 ≤ code ∧ code < 2 ^ 63) : In t ⟨code, message⟩

/-- A document is a balance with its circumstances: an amount in writing, and decimals. -/
inductive Holding.In : Tree → Holding → Prop
  | mk {t value : Tree} {amount : String} {decimals : UInt8} (h : t.IsRecord ["value"] [.given value])
      (hvalue : value.IsRecord ["amount", "decimals"]
        [.given (.text (some amount)), .given (.number (some (.whole decimals.toNat)))]) :
      In t ⟨amount, decimals⟩

/-- A document is a reply, with or without a result and with or without an error. -/
def Answer.In (t : Tree) (a : Answer Holding) : Prop :=
  ∃ result error, t.IsRecord ["result", "error"] [result, error] ∧
    result.Offers Holding.In a.result ∧ error.Offers Fault.In a.error

section

variable {budget : Nat}

theorem Fault.decoder_eq_some_iff (t : Tree) (f : Fault) :
    decoder (budget + 1) t = some f ↔ Fault.In t f := by
  rw [decoder, Json.Decoder.record_eq_some_iff, Json.exists_slots_iff]
  simp only [Option.bind_eq_bind, Option.pure_def, Option.bind_eq_some_iff,
    Json.Decoder.required_eq_some_iff, Json.Decoder.whole_eq_some_iff,
    Json.Decoder.text_eq_some_iff, Option.some.injEq]
  constructor
  · rintro ⟨_, _, ht, code, ⟨_, rfl, rfl, hcode⟩, message, ⟨_, rfl, rfl⟩, rfl⟩
    exact .mk ht (by omega)
  · rintro ⟨ht, hcode⟩
    exact ⟨_, _, ht, _, ⟨_, rfl, rfl, by omega⟩, _, ⟨_, rfl, rfl⟩, rfl⟩

theorem Holding.decoder_eq_some_iff (t : Tree) (h : Holding) :
    decoder (budget + 1) t = some h ↔ t.IsRecord ["amount", "decimals"]
      [.given (.text (some h.amount)), .given (.number (some (.whole h.decimals.toNat)))] := by
  rw [decoder, Json.Decoder.record_eq_some_iff, Json.exists_slots_iff]
  simp only [Option.bind_eq_bind, Option.pure_def, Option.bind_eq_some_iff,
    Json.Decoder.required_eq_some_iff, Json.Decoder.byte_eq_some_iff,
    Json.Decoder.text_eq_some_iff, Option.some.injEq]
  constructor
  · rintro ⟨_, _, ht, amount, ⟨_, rfl, rfl⟩, decimals, ⟨_, rfl, rfl⟩, rfl⟩
    exact ht
  · intro ht
    exact ⟨_, _, ht, _, ⟨_, rfl, rfl⟩, _, ⟨_, rfl, rfl⟩, rfl⟩

theorem Holding.replyDecoder_eq_some_iff (t : Tree) (h : Holding) :
    replyDecoder (budget + 2) t = some h ↔ Holding.In t h := by
  rw [replyDecoder, Json.Decoder.record_eq_some_iff, Json.exists_slot_iff]
  simp only [Json.Decoder.required_eq_some_iff, decoder_eq_some_iff]
  constructor
  · rintro ⟨_, ht, value, rfl, hvalue⟩
    exact .mk ht hvalue
  · rintro ⟨ht, hvalue⟩
    exact ⟨_, ht, _, rfl, hvalue⟩

theorem Answer.decoder_eq_some_iff (t : Tree) (a : Answer Holding) :
    decoder Holding.replyDecoder (budget + 3) t = some a ↔ Answer.In t a := by
  have hresult (slot : Slot) (h : Option Holding) :
      Json.Decoder.nullable Holding.replyDecoder (budget + 2) slot = some h ↔ _ :=
    Json.Decoder.nullable_eq_some_iff Holding.replyDecoder_eq_some_iff nofun
  have herror (slot : Slot) (f : Option Fault) :
      Json.Decoder.nullable Fault.decoder (budget + 2) slot = some f ↔ _ :=
    Json.Decoder.nullable_eq_some_iff Fault.decoder_eq_some_iff nofun
  rw [decoder, Json.Decoder.record_eq_some_iff, Json.exists_slots_iff]
  simp only [Option.bind_eq_bind, Option.pure_def, Option.bind_eq_some_iff, hresult, herror,
    Option.some.injEq]
  constructor
  · rintro ⟨result, error, ht, _, hresult, _, herror, rfl⟩
    exact ⟨result, error, ht, hresult, herror⟩
  · rintro ⟨result, error, ht, hresult, herror⟩
    exact ⟨result, error, ht, _, hresult, _, herror, rfl⟩

/-- The bytes of a body are read to what is in its document. -/
theorem decodeBytes?_decoder_eq_some_iff (bs : List UInt8) (a : Answer Holding) :
    Json.decodeBytes? (Answer.decoder Holding.replyDecoder) bs = some a ↔
      ∃ t, Tree.parseBytes? bs = some t ∧ Answer.In t a := by
  simp only [Json.decodeBytes?, Option.bind_eq_some_iff, Json.maxDepth, Answer.decoder_eq_some_iff]

end

end Ledger

/-! ### What tells a balance -/

/-- What a ledger tells of a balance, by the result and the error in a reply: the amount of the
result, if it is a number of 64 bits, or with no result that there is no such account. -/
inductive Ledger.Answer.Tells (a : Ledger.Answer Ledger.Holding) : Option TokenAmount → Prop
  | held {holding : Ledger.Holding} {amount : UInt64} (hresult : a.result = some holding)
      (hamount : Whole.Writes holding.amount amount.toNat) :
      Tells a (some ⟨amount, holding.decimals⟩)
  | missing {fault : Ledger.Fault} (hresult : a.result = none) (herror : a.error = some fault)
      (hcode : fault.code = -32602)
      (hmessage : "could not find account".toList <:+: fault.message.toList) : Tells a none

/-- A reply tells a balance: it means success, it is complete, and its body is a document that tells
one. -/
structure Reply.Tells (r : Reply) (found : Option TokenAmount) : Prop where
  success : 200 ≤ r.status ∧ r.status < 300
  whole : r.isWhole = true
  document : ∃ t answer, Tree.parseBytes? r.body = some t ∧ Ledger.Answer.In t answer ∧
    answer.Tells found

/-! ### Results -/

/-- The result is a value exactly as `P` says, and otherwise a failure of the network. -/
structure Decides {α : Type} (result : Result α) (P : α → Prop) : Prop where
  ok_iff : ∀ a, result = .ok a ↔ P a
  failed : ∀ error, result = .error error → ∃ detail, error = .networkFailure detail

namespace Decides

variable {α β : Type} {P : α → Prop} {Q : β → Prop}

theorem failure (detail : String) (h : ∀ a, ¬ P a) :
    Decides (.error (.networkFailure detail)) P := by
  refine ⟨fun a => ⟨nofun, fun hP => absurd hP (h a)⟩, ?_⟩
  rintro _ ⟨⟩
  exact ⟨detail, rfl⟩

theorem value {a : α} (h : ∀ b, P b ↔ b = a) : Decides (.ok a) P := by
  refine ⟨fun b => ?_, nofun⟩
  rw [h, Except.ok.injEq, eq_comm]

theorem congr {P' : α → Prop} {result : Result α} (h : Decides result P)
    (hP : ∀ a, P a ↔ P' a) : Decides result P' :=
  ⟨fun a => (h.ok_iff a).trans (hP a), h.failed⟩

theorem map {result : Result α} {f : α → β} (h : Decides result P)
    (hQ : ∀ b, Q b ↔ ∃ a, P a ∧ f a = b) : Decides (result.map f) Q := by
  cases result with
  | ok a =>
    have hP := (h.ok_iff a).mp rfl
    refine .value fun b => (hQ b).trans ⟨?_, fun hb => ⟨a, hP, hb.symm⟩⟩
    rintro ⟨a', ha', rfl⟩
    rw [Except.ok.inj ((h.ok_iff a').mpr ha')]
  | error error =>
    obtain ⟨detail, rfl⟩ := h.failed error rfl
    refine .failure detail fun b hb => ?_
    obtain ⟨a, ha, -⟩ := (hQ b).mp hb
    exact nomatch (h.ok_iff a).mpr ha

theorem bind {result : Result α} {f : α → Result β} (h : Decides result P)
    (hf : ∀ a, P a → Decides (f a) Q) (hQ : ∀ b, Q b → ∃ a, P a) : Decides (result.bind f) Q := by
  cases result with
  | ok a => exact hf a ((h.ok_iff a).mp rfl)
  | error error =>
    obtain ⟨detail, rfl⟩ := h.failed error rfl
    refine .failure detail fun b hb => ?_
    obtain ⟨a, ha⟩ := hQ b hb
    exact nomatch (h.ok_iff a).mpr ha

end Decides

namespace Ledger

theorem occursIn_iff (part cs : List Char) : occursIn part cs = true ↔ part <:+: cs := by
  induction cs with
  | nil => rw [occursIn, List.isEmpty_iff, List.infix_nil]
  | cons c cs ih =>
    rw [occursIn, Bool.or_eq_true, List.isPrefixOf_iff_prefix, ih, List.infix_cons_iff]

theorem Fault.isMissingAccount_iff (f : Fault) : f.isMissingAccount = true ↔
    f.code = -32602 ∧ "could not find account".toList <:+: f.message.toList := by
  rw [isMissingAccount, Bool.and_eq_true, decide_eq_true_eq, occursIn_iff]
  rfl

/-- An amount in writing is told if it is a number of 64 bits. -/
theorem Holding.decides_toAmount (h : Holding) : Decides h.toAmount fun a =>
    Whole.Writes h.amount a.amount.toNat ∧ a.decimals = h.decimals := by
  rw [toAmount]
  simp only [← Whole.isUnsigned_word.exists_read_iff]
  cases Whole.read 0xFFFFFFFFFFFFFFFF h.amount with
  | ok n =>
    refine .value fun a => ?_
    obtain ⟨amount, decimals⟩ := a
    simp [eq_comm]
  | error fault =>
    refine .failure _ fun a ha => ?_
    obtain ⟨⟨n, hn, -⟩, -⟩ := ha
    cases hn

theorem decides_balanceOf (a : Answer Holding) : Decides (balanceOf a) a.Tells := by
  obtain ⟨result, error⟩ := a
  -- An answer with a result is judged by that, whatever error comes along.
  cases result with
  | some holding =>
    refine holding.decides_toAmount.map fun o => ⟨fun ho => ?_, ?_⟩
    · cases ho with
      | @held holding amount hresult hamount =>
        cases hresult
        exact ⟨⟨amount, holding.decimals⟩, ⟨hamount, rfl⟩, rfl⟩
      | missing hresult => cases hresult
    · rintro ⟨⟨amount, decimals⟩, ⟨hamount, hdecimals⟩, rfl⟩
      obtain rfl : decimals = holding.decimals := hdecimals
      exact .held rfl hamount
  | none =>
    cases error with
    | none =>
      refine .failure _ fun o ho => ?_
      cases ho with
      | held hresult => cases hresult
      | missing hresult herror => cases herror
    | some fault =>
      simp only [balanceOf]
      split
      case isTrue h =>
        obtain ⟨hcode, hmessage⟩ := fault.isMissingAccount_iff.mp h
        refine .value fun o => ⟨fun ho => ?_, fun ho => ho ▸ .missing rfl rfl hcode hmessage⟩
        cases ho with
        | held hresult => cases hresult
        | missing => rfl
      case isFalse h =>
        refine .failure _ fun o ho => ?_
        cases ho with
        | held hresult => cases hresult
        | missing hresult herror hcode hmessage =>
          cases herror
          exact h (fault.isMissingAccount_iff.mpr ⟨hcode, hmessage⟩)

theorem decides_conclude (procedure : String) (r : Reply) :
    Decides (conclude procedure Holding.replyDecoder r) fun answer =>
      r.isSuccess = true ∧ r.isWhole = true ∧
        Json.decodeBytes? (Answer.decoder Holding.replyDecoder) r.body = some answer := by
  rw [conclude]
  split
  case isTrue hsuccess =>
    split
    case h_1 answer hanswer =>
      obtain ⟨hwhole, hdecode⟩ := Option.ite_none_right_eq_some.mp hanswer
      refine .value fun a => ?_
      rw [hdecode, Option.some.injEq, and_iff_right hsuccess, and_iff_right hwhole, eq_comm]
    case h_2 hanswer =>
      refine .failure _ fun a ha => ?_
      exact nomatch hanswer.symm.trans (Option.ite_none_right_eq_some.mpr ha.2)
  case isFalse hsuccess => exact .failure _ fun a ha => hsuccess ha.1

end Ledger

theorem Reply.isSuccess_iff (r : Reply) :
    r.isSuccess = true ↔ 200 ≤ r.status ∧ r.status < 300 := by
  rw [Reply.isSuccess, Bool.and_eq_true, decide_eq_true_eq, decide_eq_true_eq]

theorem Reply.tells_iff (r : Reply) (found : Option TokenAmount) : r.Tells found ↔
    ∃ answer, (r.isSuccess = true ∧ r.isWhole = true ∧
      Json.decodeBytes? (Ledger.Answer.decoder Ledger.Holding.replyDecoder) r.body = some answer) ∧
        answer.Tells found := by
  simp only [Ledger.decodeBytes?_decoder_eq_some_iff, isSuccess_iff]
  constructor
  · rintro ⟨hsuccess, hwhole, t, answer, ht, hanswer, htells⟩
    exact ⟨answer, ⟨hsuccess, hwhole, t, ht, hanswer⟩, htells⟩
  · rintro ⟨answer, ⟨hsuccess, hwhole, t, ht, hanswer⟩, htells⟩
    exact ⟨hsuccess, hwhole, t, answer, ht, hanswer, htells⟩

namespace Ledger

/-- A reply is taken for what it tells, and every reply that tells nothing is a failure. -/
theorem decides_settle (procedure : String) (r : Reply) :
    Decides ((conclude procedure Holding.replyDecoder r).bind balanceOf) r.Tells := by
  refine (decides_conclude procedure r).bind (fun answer hanswer => ?_) fun found hfound => ?_
  · refine (decides_balanceOf answer).congr fun found => ?_
    rw [r.tells_iff]
    refine ⟨fun h => ⟨answer, hanswer, h⟩, ?_⟩
    rintro ⟨answer', hanswer', h⟩
    obtain rfl : answer = answer' := Option.some.inj (hanswer.2.2.symm.trans hanswer'.2.2)
    exact h
  · obtain ⟨answer, hanswer, -⟩ := (r.tells_iff found).mp hfound
    exact ⟨answer, hanswer⟩

/-! ### Asking -/

/-- The document that asks for the balance of an account. -/
def question (number : Nat) (account : Address) : Json.Value :=
  body number "getTokenAccountBalance" [.text account.text, .object [("commitment", commitment)]]

/-- The request for the balance of an account; nothing if the ledger's address cannot be asked for
anything. -/
def request? (ledger : Ledger) (number : Nat) (account : Address) : Option Request :=
  (Url.askable? ledger.address).map fun url =>
    { method := .post, url, body := some (question number account) }

/-- What is received for that request, if it is sent after some earlier ones. -/
def received? (ledger : Ledger) (number : Nat) (account : Address) (earlier : List Request) :
    Option (Except Failure Reply) :=
  (ledger.request? number account).map fun r => r.received (ledger.peer earlier r)

/-- What a ledger makes of what is received for a balance. -/
def settle : Except Failure Reply → Result (Option TokenAmount)
  | .ok r => (conclude "getTokenAccountBalance" Holding.replyDecoder r).bind balanceOf
  | .error failure => .error failure.toError

/-- What comes of asking for a balance after some requests: the result and all requests that were
sent then. -/
inductive Asks (ledger : Ledger) (number : Nat) (account : Address) (earlier : List Request) :
    Result (Option TokenAmount) → List Request → Prop
  | asked (r : Request) (hrequest : ledger.request? number account = some r) :
    Asks ledger number account earlier (settle (r.received (ledger.peer earlier r)))
      (earlier ++ [r])
  | unaddressed (detail : String) (hrequest : ledger.request? number account = none) :
    Asks ledger number account earlier (.error (.networkFailure detail)) earlier

/-- A ledger is asked once, or not at all. -/
theorem asks (ledger : Ledger) (number : Nat) (account : Address) (earlier : List Request) :
    Asks ledger number account earlier (ledger.balance number account earlier).1
      (ledger.balance number account earlier).2 := by
  have hbalance : ledger.balance number account earlier =
      (settle (ledger.peer.ask .post ledger.address none (question number account) earlier).1,
        (ledger.peer.ask .post ledger.address none (question number account) earlier).2) := by
    simp only [balance, call, question, Bind.bind, StateT.bind]
    generalize ledger.peer.ask .post ledger.address none (some _) earlier = answer
    rcases answer with ⟨_ | _, _⟩ <;> rfl
  rw [hbalance]
  cases hurl : Url.askable? ledger.address with
  | none =>
    obtain ⟨detail, hask⟩ :=
      ledger.peer.ask_of_unaskable .post none (some (question number account)) earlier hurl
    rw [hask]
    refine .unaddressed detail ?_
    rw [request?, hurl, Option.map_none]
  | some url =>
    rw [ledger.peer.ask_of_askable .post none (some (question number account)) earlier hurl]
    refine .asked { method := .post, url, body := some (question number account) } ?_
    rw [request?, hurl, Option.map_some]

/-- What comes of asking for a balance: at most one request is sent, the balance is the one that is
told in reply, and there is a failure if none is. -/
theorem decides_balance (ledger : Ledger) (number : Nat) (account : Address)
    (earlier : List Request) :
    (ledger.balance number account earlier).2
        = earlier ++ (ledger.request? number account).toList ∧
      Decides (ledger.balance number account earlier).1 fun found =>
        ∃ r, ledger.received? number account earlier = some (.ok r) ∧ r.Tells found := by
  have hasks := ledger.asks number account earlier
  rw [received?]
  generalize (ledger.balance number account earlier).1 = result at hasks ⊢
  generalize (ledger.balance number account earlier).2 = sent at hasks ⊢
  cases hasks with
  | asked r hrequest =>
    rw [hrequest]
    refine ⟨rfl, ?_⟩
    cases hreceived : r.received (ledger.peer earlier r) with
    | ok reply =>
      refine (decides_settle _ reply).congr fun found => ?_
      simp [hreceived]
    | error failure =>
      obtain ⟨detail, rfl⟩ := r.exists_eq_transport hreceived
      refine .failure detail fun found => ?_
      simp [hreceived]
  | unaddressed detail hrequest =>
    rw [hrequest]
    exact ⟨(List.append_nil earlier).symm, .failure detail fun found => by simp⟩

end Ledger

end Wager.Remote
