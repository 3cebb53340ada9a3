import Wager.Proofs.Client.Loading
import Wager.Proofs.Wallet.Moves

/-!
# What is said to the person between the waits

The operations of a wallet and signing out, taken apart at their waits for what they do to the
notices.

Only connecting for a signature shows a prompt. It does so before anything else, and takes the prompt
back when the attempt has come to its end, whichever end that is. All ways to the end lead there, but
two waits lie before it, and what is left of the operation when it is dropped at one of them is not
done by anybody else.

The prompt is known by the identifier that it got. So what is listed for the operation is listed for
an identifier (`Client.Prompting`), and it keeps to that for the one that the client had at hand when
the operation was called.

## Main definitions

* `Client.Quiet`, `Client.Prompting`, `Client.Clearing`: What may happen to the notices in a segment
  of an operation.
* `Client.LeavesNotices`: An operation has nothing to do with the notices, wherever it is a part.

## Theorems

* `Client.leavesNotices_tryConnect`, `Client.leavesNotices_connect`, `Client.leavesNotices_submit`:
  What can go wrong with a wallet says nothing to the person by itself.
* `Client.prompting_connect`: Connecting for a signature keeps to what is listed.
* `Client.clearing_signOut`: So does signing out.
-/

namespace Wager.Client

/-! ### Segments -/

section

variable {α β : Type}

/-- Nothing happens to the notices. -/
def Quiet : Segment α := fun _ c _ c' => c'.notices = c.notices

/-- What may happen to the notices while connecting for a signature, with a prompt that has the
identifier `id`. -/
inductive Prompting (id : Nat) : Segment α
  | shown (c c' : Client) (w : Wait) (now : Timestamp)
    (hnotices : c'.notices = (c.notices.loading now prompt).2) :
    Prompting id .called c (.waits w) c'
  | failed (c c' : Client) (a : α) (now : Timestamp)
    (hnotices : c'.notices = (c.notices.loading now prompt).2.remove id) :
    Prompting id .called c (.ends a) c'
  | waiting (c c' : Client) (w w' : Wait) (answer : w.Answer) (hnotices : c'.notices = c.notices) :
    Prompting id (.answered w answer) c (.waits w') c'
  | retracted (c c' : Client) (w : Wait) (answer : w.Answer) (a : α)
    (hnotices : c'.notices = c.notices.remove id) : Prompting id (.answered w answer) c (.ends a) c'

/-- What may happen to the notices while somebody signs out. -/
inductive Clearing : Segment α
  | called (c c' : Client) (x : Stop α) (hnotices : c'.notices = c.notices.clear) :
    Clearing .called c x c'
  | told (c c' : Client) (w : Wait) (answer : w.Answer) (x : Stop α)
    (hnotices : c'.notices = c.notices) : Clearing (.answered w answer) c x c'

theorem Prompting.map {id : Nat} {cause : Cause} {c c' : Client} {x : Stop α}
    (h : Prompting id cause c x c') (f : α → β) : Prompting id cause c (x.map f) c' := by
  cases h with
  | shown c c' w now hnotices => exact .shown c c' w now hnotices
  | failed c c' a now hnotices => exact .failed c c' (f a) now hnotices
  | waiting c c' w w' answer hnotices => exact .waiting c c' w w' answer hnotices
  | retracted c c' w answer a hnotices => exact .retracted c c' w answer (f a) hnotices

theorem Clearing.map {cause : Cause} {c c' : Client} {x : Stop α} (h : Clearing cause c x c')
    (f : α → β) : Clearing cause c (x.map f) c' := by
  cases h with
  | called c c' x hnotices => exact .called c c' _ hnotices
  | told c c' w answer x hnotices => exact .told c c' w answer _ hnotices

/-! ### Leaving the notices as they are -/

/-- An operation has nothing to do with the notices. What is known of them in the segment in which it
begins, and is true of unchanged notices in each later one, is known wherever it stops. -/
def LeavesNotices (r : Operation α) : Prop :=
  ∀ (N : Cause → Client → Notices → Prop) (cause : Cause) (c₀ c : Client),
    (∀ w answer c, N (.answered w answer) c c.notices) → N cause c₀ c.notices →
      Along (fun cause c₀ _ c => N cause c₀ c.notices) cause c₀ c r
        fun _ cause c₀ c => N cause c₀ c.notices

theorem LeavesNotices.quiet {r : Operation α} (h : LeavesNotices r) : Keeps Quiet r := fun c =>
  h (fun _ c₀ ns => ns = c₀.notices) .called c c (fun _ _ _ => rfl) rfl

end

variable (setting : Setting)

theorem leavesNotices_tryConnect (sign : Bool) : LeavesNotices (tryConnect setting sign).run := by
  intro N cause c₀ c hN h
  refine .attempt (.openLedger fun outcome c₁ hledger => ?_)
  have h₁ : N cause c₀ c₁.notices := notices_openLedger hledger ▸ h
  cases outcome with
  | error e => exact h₁
  | ok ledger =>
    refine .attempt (.openWallet fun outcome c₂ hwallet => ?_)
    have h₂ : N cause c₀ c₂.notices := notices_openWallet hwallet ▸ h₁
    cases outcome with
    | error e => exact h₂
    | ok handle =>
      -- From the first answer on the notices are those that the segment has found.
      refine .lift (.changeWallet (.attempt (.map (.ask h₂ fun answer c₃ => ?_))))
      cases inTime setting "connect" answer with
      | error e => exact hN _ _ c₃
      | ok address =>
        refine .lift (.changeWallet ?_)
        cases sign with
        | false => exact hN _ _ c₃
        | true =>
          refine .lift (.changeWallet (.attempt (.map (.ask (hN _ _ c₃) fun answer' c₄ => ?_))))
          cases inTime setting "challenge signing" answer' with
          | error e => exact hN _ _ c₄
          | ok bytes => exact .lift (.changeWallet (hN _ _ c₄))

theorem leavesNotices_connect : LeavesNotices (connect setting false) := by
  intro N cause c₀ c hN h
  refine .bind (.look ?_)
  cases c.wallet.address with
  | some address => exact h
  | none =>
    refine .bind (.pure (.bind ((leavesNotices_tryConnect setting false N cause c₀ c hN h).imp
      (fun _ _ _ _ h => h) ?_)))
    intro outcome cause c₀ c' hends
    refine .bind (.pure ?_)
    cases outcome with
    | ok connection => exact hends
    | error e => exact .bind (.changeWallet hends)

theorem leavesNotices_submit (payload : String) : LeavesNotices (submit setting payload) := by
  intro N cause c₀ c hN h
  refine .attempt ((leavesNotices_connect setting N cause c₀ c hN h).imp (fun _ _ _ _ h => h) ?_)
  intro outcome cause c₀ c₁ h₁
  cases outcome with
  | error e => exact h₁
  | ok connection =>
    refine .attempt (.pure ?_)
    cases Transaction.ofBase64 payload with
    | error e => exact h₁
    | ok tx =>
      refine .lift (.look ?_)
      cases c₁.wallet.provider with
      | none => exact h₁
      | some handle =>
        refine .attempt (.openLedger fun outcome c₂ hledger => ?_)
        have h₂ : N cause c₀ c₂.notices := notices_openLedger hledger ▸ h₁
        cases outcome with
        | error e => exact h₂
        | ok ledger =>
          refine .lift (.changeWallet (.lift (.ask h₂ fun answer c₃ => ?_)))
          exact .lift (.changeWallet (hN _ _ c₃))

theorem quiet_balance (known : Option Address) : Keeps Quiet (balance setting known) := by
  intro c
  have hquiet : ∀ cause c x c', ReadingBalance setting known cause c x c' →
      c'.notices = c.notices := by
    intro cause c x c' h
    cases h with
    | noOwner c howner => rfl
    | noLedger c c₁ owner e howner hledger => exact notices_openLedger hledger
    | asked c c₁ owner ledger howner hledger => exact notices_openLedger hledger
    | unread c ledger account e => rfl
    | read c ledger account found => rfl
  refine (keeps_balance setting known c).imp ?_ ?_
  · exact fun cause c w c' hwaits => hquiet cause c (.waits w) c' hwaits
  · exact fun a cause c c' hends => hquiet cause c (.ends a) c' hends

theorem quiet_disconnect : Keeps Quiet disconnect := by
  intro c
  exact .disconnect (fun _ => rfl) rfl fun _ _ _ => rfl

/-! ### Operations with the notices -/

/-- What there is of the notices once the prompt has been shown: in the segment of the call those
with the prompt, and then those that are found. -/
def WithPrompt (now : Timestamp) : Cause → Client → Notices → Prop
  | .called, c₀, ns => ns = (c₀.notices.loading now prompt).2
  | .answered .., c₀, ns => ns = c₀.notices

theorem prompting_connect (c : Client) :
    KeepsAfter (Prompting c.notices.nextId) .called c (connect setting true) := by
  -- The prompt is shown before the attempt.
  refine .bind (.look (.bind (.map (.notify fun now => ?_))))
  refine .bind ((leavesNotices_tryConnect setting true (WithPrompt now) .called c
    { c with notices := (c.notices.loading now prompt).2 } (fun _ _ _ => rfl) rfl).imp ?_ ?_)
  · intro cause c₀ w c' hsofar
    cases cause with
    | called => exact .shown c₀ c' w now hsofar
    | answered w' answer => exact .waiting c₀ c' w' w answer hsofar
  · -- Whatever the outcome, it is taken back.
    intro outcome cause c₀ c' hsofar
    have hends : ∀ (a : Result Wallet.Connection) (c'' : Client),
        c''.notices = c'.notices.remove c.notices.nextId →
          Prompting c.notices.nextId cause c₀ (.ends a) c'' := by
      intro a c'' hnotices
      cases cause with
      | called => exact .failed c₀ c'' a now (hnotices.trans (congrArg (Notices.remove · _) hsofar))
      | answered w answer =>
        exact .retracted c₀ c'' w answer a (hnotices.trans (congrArg (Notices.remove · _) hsofar))
    refine .bind (.notify fun _ => ?_)
    cases outcome with
    | ok connection => exact hends _ _ rfl
    | error e => exact .bind (.changeWallet (hends _ _ rfl))

theorem clearing_signOut : Keeps Clearing signOut := by
  intro c
  refine .bind (.clear (.bind fun _ => .bind (.notify fun _ => .disconnect ?_ ?_ ?_)))
  · exact fun _ => .called c _ _ rfl
  · exact .called c _ _ rfl
  · exact fun _ _ c' => .told c' c' _ _ _ rfl

end Wager.Client
