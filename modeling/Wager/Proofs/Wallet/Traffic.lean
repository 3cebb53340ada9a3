import Wager.Proofs.Client.Callers
import Wager.Proofs.Wallet.Moves

/-!
# Traffic on a wallet

Callers of one client's wallet, interleaved where they wait, and what holds at every moment.

Two things can happen next: somebody comes with a request, or a caller gets the answer that it has
waited for and goes on. Either may happen at any time, in any order and any number of times, and an
answer may be anything, a late one included; the clock may show anything.

Each event is one move of one caller (`Traffic.Steps`), and what a caller may still do is known by
where it has stopped.

## Main definitions

* `Wallet.Request`, `Wallet.Request.Moves`: What a wallet may be used for, and what may happen then.
* `Wallet.Caller`, `Wallet.Traffic`: A caller, and a client with its callers.
* `Wallet.usage`: How callers use a wallet.
* `Wallet.Event`, `Traffic.step`, `Traffic.run`: What happens, once and many times.
* `Traffic.Waits`: What a caller waits for.
* `Traffic.Steps`: What an event may do.

## Theorems

* `Traffic.Sound.steps`: What an event does.
* `Traffic.Steps.moves`: An event is a move, or nothing happens.
* `Traffic.run_induction`: What every step preserves holds after a run.
-/

namespace Wager.Wallet

open Client (Cause Stop)

/-! ### Requests -/

/-- What a wallet may be used for. -/
inductive Request
  | connect (sign : Bool)
  | balance (known : Option Address)
  | submit (payload : String)
  | disconnect
  deriving DecidableEq

/-- What a request comes to. -/
inductive Reply
  | connected (outcome : Result Connection)
  | balance (outcome : Result TokenAmount)
  | submitted (outcome : Result String)
  | disconnected

/-- The operation of a request. -/
def Request.operation (setting : Setting) : Request → Operation Reply
  | .connect sign => .connected <$> Client.connect setting sign
  | .balance known => .balance <$> Client.balance setting known
  | .submit payload => .submitted <$> Client.submit setting payload
  | .disconnect => (fun _ => .disconnected) <$> Client.disconnect

/-- What may happen in a segment of a request. -/
def Request.Moves (setting : Setting) : Request → Client.Segment Reply
  | .connect sign => (Client.Connecting setting sign).map .connected
  | .balance known => (Client.ReadingBalance setting known).map .balance
  | .submit payload => (Client.Submitting setting payload).map .submitted
  | .disconnect => Client.Disconnecting.map fun _ => .disconnected

theorem Request.keeps (setting : Setting) (q : Request) :
    Client.Keeps (q.Moves setting) (q.operation setting) := by
  cases q with
  | connect sign => exact (Client.keeps_connect setting sign).map _
  | balance known => exact (Client.keeps_balance setting known).map _
  | submit payload => exact (Client.keeps_submit setting payload).map _
  | disconnect => exact Client.keeps_disconnect.map _

/-! ### Events -/

/-- A caller: what it came for, and what is left to do. -/
abbrev Caller := Wager.Caller Request (Operation Reply)

/-- A client and the callers of its wallet, in the order in which they came. -/
abbrev Traffic := Shared Client Caller

/-- What may happen next. Whatever a caller waits for, an answer is at hand. -/
abbrev Event := Happening Request ((w : Wait) → w.Answer) Empty

/-- Caller `n` is answered. -/
@[match_pattern]
abbrev Event.answer (n : Nat) (answers : (w : Wait) → w.Answer) : Event := .goOn n answers

/-- How callers use a wallet. -/
def usage (setting : Setting) : Usage Client Caller Request ((w : Wait) → w.Answer) Empty :=
  Routine.usage (Request.operation setting) (fun _ answers w => some (answers w)) fun _ => nofun

namespace Traffic

/-- A client whose wallet nobody has used yet. -/
def start (c : Client) : Traffic where
  state := { c with wallet := {} }

variable (setting : Setting)

/-- The traffic after an event at some time. -/
def step (t : Traffic) (e : Timestamp × Event) : Traffic := (usage setting).step t e

/-- The traffic after some events. -/
def run (t : Traffic) (events : List (Timestamp × Event)) : Traffic := (usage setting).run t events

/-- Caller `n` waits for `w`. -/
def Waits (t : Traffic) (n : Nat) (w : Wait) : Prop :=
  ∃ caller, t.callers[n]? = some caller ∧ Client.StopsAt caller.rest (.waits w)

/-- Every caller has stopped where a move has brought it, and will only make moves. -/
abbrev Sound (t : Traffic) : Prop :=
  t.Holds (fun _ => True) fun _ => Client.Stopped (Request.Moves setting)

/-- What an event does: a caller comes or is answered and makes a move, or nothing happens. -/
inductive Steps (t : Traffic) : Timestamp × Event → Traffic → Prop
  | called (now : Timestamp) (caller : Caller) (x : Stop Reply) (client : Client)
    (hstops : Client.StopsAt caller.rest x)
    (hmoves : caller.request.Moves setting .called t.state x client) :
    Steps t (now, .call caller.request) { state := client, callers := t.callers ++ [caller] }
  | answered (now : Timestamp) (n : Nat) (answers : (w : Wait) → w.Answer) (w : Wait)
    (before after : Caller) (x : Stop Reply) (client : Client)
    (hbefore : t.callers[n]? = some before) (hwaits : Client.StopsAt before.rest (.waits w))
    (hrequest : after.request = before.request) (hstops : Client.StopsAt after.rest x)
    (hmoves : before.request.Moves setting (.answered w (answers w)) t.state x client) :
    Steps t (now, .answer n answers) { state := client, callers := t.callers.set n after }
  | idle (now : Timestamp) (n : Nat) (answers : (w : Wait) → w.Answer)
    (hidle : ∀ w, ¬ t.Waits n w) : Steps t (now, .answer n answers) t

variable {setting}

theorem preserves :
    (usage setting).Preserves (fun _ => True) fun _ => Client.Stopped (Request.Moves setting) :=
  Client.preserves_stopped (Request.keeps setting)

/-- Sound traffic only takes these steps, and stays sound. -/
theorem Sound.steps {t : Traffic} (h : t.Sound setting) (e : Timestamp × Event) :
    t.Steps setting e (t.step setting e) ∧ (t.step setting e).Sound setting := by
  refine ⟨?_, preserves.step h e⟩
  have hsteps : (usage setting).Steps t e (t.step setting e) := (usage setting).steps t e
  generalize t.step setting e = t' at hsteps
  cases hsteps with
  | called now q =>
    obtain ⟨-, x, hstops, hmoves⟩ := Client.stopped_proceed (q.keeps setting) now t.state
    exact .called now ⟨q, _⟩ x _ hstops hmoves
  | wentOn now n answers before after client hbefore hgoes =>
    obtain ⟨-, hrequest, w, answer, x, hwaits, hanswer, hstops, hmoves⟩ :=
      (h.callers n before hbefore).goOn? hgoes
    cases hanswer
    exact .answered now n answers w before after x client hbefore hwaits hrequest hstops hmoves
  | stayed now n answers hstays =>
    refine .idle now n answers ?_
    rintro w ⟨caller, hcaller, hwaits⟩
    exact nomatch Client.answer?_eq_none_of_goOn? (hstays caller hcaller) hwaits
  | changed now x => exact x.elim

theorem sound_start (c : Client) : (start c).Sound setting :=
  Shared.holds_start trivial

/-- What every step of a run preserves holds at its end. -/
theorem run_induction {P : Traffic → Prop} {events : List (Timestamp × Event)}
    (hstep : ∀ t t' e, e ∈ events → t.Sound setting → t.Steps setting e t' → P t → P t')
    {t : Traffic} (h : t.Sound setting) (hP : P t) : P (t.run setting events) :=
  preserves.run_induction (fun t _ he ht => hstep t _ _ he ht (Sound.steps ht _).1) h hP

theorem sound_run {t : Traffic} (h : t.Sound setting) (events : List (Timestamp × Event)) :
    (t.run setting events).Sound setting :=
  preserves.run h events

/-! ### What callers wait for -/

/-- An event is a move, or nothing happens. Whoever waited still does unless it is the caller that
moves, and this caller comes to wait where its move stops. -/
theorem Steps.moves {t t' : Traffic} {e : Timestamp × Event} (h : t.Steps setting e t') :
    t' = t ∨ ∃ q cause x, Request.Moves setting q cause t.state x t'.state ∧
      (∀ n w, t.Waits n w → t'.Waits n w ∨ cause.wait? = some w) ∧
        ∀ w, x.wait? = some w → ∃ n, t'.Waits n w := by
  cases h with
  | called now caller x client hstops hmoves =>
    refine Or.inr ⟨caller.request, .called, x, hmoves, ?_, ?_⟩
    · rintro n w ⟨before, hbefore, hwaits⟩
      refine Or.inl ⟨before, ?_, hwaits⟩
      rw [List.getElem?_append_left (List.getElem?_eq_some_iff.mp hbefore).1]
      exact hbefore
    · intro w hw
      rw [Stop.wait?_eq_some_iff] at hw
      exact ⟨t.callers.length, caller, List.getElem?_concat_length, hw ▸ hstops⟩
  | answered now n answers w before after x client hbefore hwaits hrequest hstops hmoves =>
    have hlt := (List.getElem?_eq_some_iff.mp hbefore).1
    refine Or.inr ⟨before.request, .answered w (answers w), x, hmoves, ?_, ?_⟩
    · rintro m w' ⟨other, hother, hwaits'⟩
      by_cases hnm : n = m
      · subst hnm
        rw [hbefore, Option.some.injEq] at hother
        subst hother
        exact Or.inr (congrArg some (Stop.waits.inj (hwaits.unique hwaits')))
      · left
        refine ⟨other, ?_, hwaits'⟩
        rw [List.getElem?_set_ne hnm]
        exact hother
    · intro w' hw'
      rw [Stop.wait?_eq_some_iff] at hw'
      exact ⟨n, after, List.getElem?_set_self hlt, hw' ▸ hstops⟩
  | idle now n answers hidle => exact Or.inl rfl

end Traffic

end Wager.Wallet
