import Mathlib.Logic.Relation
import Wager.Proofs.Wallet.Traffic

/-!
# The handles that a client holds

What the operations of a wallet do with handles.

Handles are opened when they are needed, by whoever needs one first, and given up when somebody
disconnects. Of the many moves that callers make only these two matter to handles, and every move is
taken for one of them (`Holdings.Handling`): either some attempts are made to open handles of which
none is held, one after the other, or all are given up at once, and the wallet is told if its handle
was among them.

## Main definitions

* `Wallet.Holdings`: The handles that are held and the attempts that were made.
* `Holdings.Attempts`, `Holdings.Tries`: An attempt to open a handle with what comes of it, and some.
* `Holdings.ledger?`, `Holdings.isTelling`: What calls have to do with handles.
* `Holdings.Handling`: What a move does with handles.

## Theorems

* `Holdings.Tries.held`: Attempts change no handle that is held.
* `Holdings.tries_openLedger`, `Holdings.tries_openWallet`: To obtain a handle is to make attempts.
* `Request.Moves.handling`: Every move is one of the two.
-/

namespace Wager

/-- How an attempt to open a handle ends, by the number of such attempts before it. -/
def Setting.opening (setting : Setting) : Attempt → Nat → Result Unit
  | .wallet => setting.openWallet
  | .ledger => setting.openLedger

namespace Wallet

/-- The handles that a client holds, and the attempts to open some, in order. -/
structure Holdings where
  wallet : Option Nat
  ledger : Option Nat
  attempts : List Attempt

/-- The handles of a client. -/
abbrev holdings (c : Client) : Holdings := ⟨c.wallet.provider, c.wallet.ledger, c.attempts⟩

namespace Holdings

/-- The handle of a kind that is held. -/
def held (h : Holdings) : Attempt → Option Nat
  | .wallet => h.wallet
  | .ledger => h.ledger

/-- How many attempts to open a kind of handle there were. -/
def attemptsAt (h : Holdings) (a : Attempt) : Nat := h.attempts.count a

/-- After another attempt. -/
def tried (h : Holdings) (a : Attempt) : Holdings := { h with attempts := h.attempts ++ [a] }

/-- With a handle of some kind. -/
def put (h : Holdings) (handle : Nat) : Attempt → Holdings
  | .wallet => { h with wallet := some handle }
  | .ledger => { h with ledger := some handle }

/-- Without handles. -/
def forgotten (h : Holdings) : Holdings := { h with wallet := none, ledger := none }

/-! ### Attempts -/

/-- One attempt to open a handle of a kind of which none is held. If it fails nothing else changes;
else the handle is held, and the other kind is as it was. -/
inductive Attempts (setting : Setting) (h : Holdings) : Holdings → Prop
  | opened (a : Attempt) (hnone : h.held a = none)
    (hopened : setting.opening a (h.attemptsAt a) = .ok ()) :
    Attempts setting h ((h.tried a).put (h.attemptsAt a) a)
  | failed (a : Attempt) (e : Error) (hnone : h.held a = none)
    (hfailed : setting.opening a (h.attemptsAt a) = .error e) : Attempts setting h (h.tried a)

/-- Some attempts, one after the other. -/
abbrev Tries (setting : Setting) : Holdings → Holdings → Prop :=
  Relation.ReflTransGen (Attempts setting)

variable {setting : Setting} {h h' : Holdings}

/-- What is held is not opened again. -/
theorem Attempts.held (hattempts : Attempts setting h h') {a : Attempt} {handle : Nat}
    (hheld : h.held a = some handle) : h'.held a = some handle := by
  cases hattempts with
  | opened b hnone hopened =>
    cases a with
    | wallet =>
      cases b with
      | wallet => exact nomatch hnone.symm.trans hheld
      | ledger => exact hheld
    | ledger =>
      cases b with
      | wallet => exact hheld
      | ledger => exact nomatch hnone.symm.trans hheld
  | failed b e hnone hfailed =>
    cases a with
    | wallet => exact hheld
    | ledger => exact hheld

theorem Tries.held (htries : Tries setting h h') {a : Attempt} {handle : Nat}
    (hheld : h.held a = some handle) : h'.held a = some handle := by
  induction htries with
  | refl => exact hheld
  | tail _ hattempts ih => exact hattempts.held ih

theorem tries_openLedger {c c' : Client} {outcome : Result Nat}
    (h : c.openLedger setting = (outcome, c')) : Tries setting (holdings c) (holdings c') ∧
      ∀ ledger, outcome = .ok ledger → (holdings c').held .ledger = some ledger := by
  have hobtains := h ▸ Client.obtains_ledger setting c
  cases hobtains with
  | held handle hheld =>
    refine ⟨.refl, fun ledger ho => ?_⟩
    rw [← Except.ok.inj ho]
    exact hheld
  | opened hnone hopened =>
    exact ⟨.single (.opened .ledger hnone hopened), fun ledger ho => congrArg some (Except.ok.inj ho)⟩
  | failed e hnone hfailed => exact ⟨.single (.failed .ledger e hnone hfailed), nofun⟩

theorem tries_openWallet {c c' : Client} {outcome : Result Nat}
    (h : c.openWallet setting = (outcome, c')) : Tries setting (holdings c) (holdings c') := by
  have hobtains := h ▸ Client.obtains_wallet setting c
  cases hobtains with
  | held handle hheld => exact .refl
  | opened hnone hopened => exact .single (.opened .wallet hnone hopened)
  | failed e hnone hfailed => exact .single (.failed .wallet e hnone hfailed)

/-! ### Moves -/

/-- The ledger that a call is made with. -/
def ledger? : Wait → Option Nat
  | .call (.readBalance ledger _) => some ledger
  | .call (.sendTransaction _ ledger _) => some ledger
  | _ => none

/-- Whether a handle on the wallet is told to disconnect. -/
def isTelling (handle : Nat) : Wait → Bool
  | .call (.disconnectWallet told) => told == handle
  | _ => false

/-- What is done with handles when somebody begins to disconnect, and when not; `x` is what is waited
for then. -/
inductive Handling (setting : Setting) (isLeaving : Prop) (h : Holdings) :
    Option Wait → Holdings → Prop
  | tries (x : Option Wait) (h' : Holdings) (hstays : ¬ isLeaving) (htries : Tries setting h h')
    (htold : ∀ w handle, x = some w → isTelling handle w = false)
    (hledger : ∀ w ledger, x = some w → ledger? w = some ledger → h'.ledger = some ledger) :
    Handling setting isLeaving h x h'
  | forgets (x : Option Wait) (hleaves : isLeaving)
    (htold : x = h.wallet.map fun handle => .call (.disconnectWallet handle)) :
    Handling setting isLeaving h x h.forgotten

/-- It is the same to begin to disconnect in other words. -/
theorem Handling.congr {isLeaving isLeaving' : Prop} {x : Option Wait}
    (hhandling : Handling setting isLeaving h x h') (hiff : isLeaving ↔ isLeaving') :
    Handling setting isLeaving' h x h' :=
  propext hiff ▸ hhandling

/-- Unless somebody begins to disconnect, some attempts are made, and a call that is made with a
ledger is made with the one that is held. -/
theorem Handling.stays {isLeaving : Prop} {x : Option Wait}
    (hhandling : Handling setting isLeaving h x h') (hstays : ¬ isLeaving) :
    Tries setting h h' ∧
      ∀ w ledger, x = some w → ledger? w = some ledger → h'.ledger = some ledger := by
  cases hhandling with
  | tries _ hstays htries htold hledger => exact ⟨htries, hledger⟩
  | forgets hleaves htold => exact absurd hleaves hstays

end Holdings

open Client (Cause Stop)
open Holdings (Handling)

variable {setting : Setting}

theorem holdings_finishSigning (c : Client) (notices : Notices) :
    holdings { c with wallet := c.wallet.finishSigning, notices } = holdings c := by
  rcases c.wallet.finishSigning_cases with ⟨-, heq⟩ | ⟨-, heq⟩
  · rw [holdings, heq]
  · rw [holdings, heq]

/-- Where nothing is asked that has to do with handles, only the attempts matter. -/
theorem Holdings.Tries.handling {h h' : Holdings} (htries : Holdings.Tries setting h h')
    {isLeaving : Prop} (hstays : ¬ isLeaving) {x : Option Wait}
    (htold : ∀ w handle, x = some w → Holdings.isTelling handle w = false)
    (hledger : ∀ w, x = some w → Holdings.ledger? w = none) : Handling setting isLeaving h x h' :=
  .tries x h' hstays htries htold fun w _ hw hsome => nomatch (hledger w hw).symm.trans hsome

theorem handling_connecting {sign : Bool} {cause : Cause} {c c' : Client}
    {x : Stop (Result Connection)} (h : Client.Connecting setting sign cause c x c')
    {isLeaving : Prop} (hstays : ¬ isLeaving) :
    Handling setting isLeaving (holdings c) x.wait? (holdings c') := by
  -- Most segments leave the handles as they were.
  have hkept : ∀ {c c' : Client}, holdings c' = holdings c →
      Handling setting isLeaving (holdings c) none (holdings c') := by
    intro c c' heq
    rw [heq]
    exact Holdings.Tries.handling .refl hstays nofun nofun
  cases h with
  | reused c address hsign haddress => exact hkept rfl
  | noLedger c c₁ e notices notices' haddress hledger =>
    exact (Holdings.tries_openLedger hledger).1.handling hstays nofun nofun
  | noWallet c c₁ c₂ ledger e notices notices' haddress hledger hwallet =>
    exact Holdings.Tries.handling ((Holdings.tries_openLedger hledger).1.trans
      (Holdings.tries_openWallet hwallet)) hstays nofun nofun
  | asked c c₁ c₂ ledger handle notices haddress hledger hwallet =>
    refine Holdings.Tries.handling ((Holdings.tries_openLedger hledger).1.trans
      (Holdings.tries_openWallet hwallet)) hstays ?_ ?_
    · rintro w told ⟨⟩
      rfl
    · rintro w ⟨⟩
      rfl
  | rejected c handle answer e notices hanswer => exact hkept rfl
  | connected c handle answer address notices hsign hanswer => exact hkept rfl
  | challenged c handle answer address hsign hanswer =>
    refine Holdings.Tries.handling .refl hstays ?_ ?_
    · rintro w told ⟨⟩
      rfl
    · rintro w ⟨⟩
      rfl
  | unsigned c handle message answer e notices hsign hanswer => exact hkept rfl
  | signed c handle address answer bytes notices hsign hanswer =>
    exact hkept (holdings_finishSigning c notices)

theorem handling_balance {known : Option Address} {cause : Cause} {c c' : Client}
    {x : Stop (Result TokenAmount)} (h : Client.ReadingBalance setting known cause c x c')
    {isLeaving : Prop} (hstays : ¬ isLeaving) :
    Handling setting isLeaving (holdings c) x.wait? (holdings c') := by
  cases h with
  | noOwner c howner => exact Holdings.Tries.handling .refl hstays nofun nofun
  | noLedger c c₁ owner e howner hledger =>
    exact (Holdings.tries_openLedger hledger).1.handling hstays nofun nofun
  | asked c c₁ owner ledger howner hledger =>
    -- The ledger that is asked is the one that is held now.
    obtain ⟨htries, hheld⟩ := Holdings.tries_openLedger hledger
    refine .tries _ _ hstays htries ?_ ?_
    · rintro w told ⟨⟩
      rfl
    · rintro w ledger' ⟨⟩ hsome
      rw [← Option.some.inj hsome]
      exact hheld ledger rfl
  | unread c ledger account e => exact Holdings.Tries.handling .refl hstays nofun nofun
  | read c ledger account found => exact Holdings.Tries.handling .refl hstays nofun nofun

theorem handling_submitting {payload : String} {cause : Cause} {c c' : Client}
    {x : Stop (Result String)} (h : Client.Submitting setting payload cause c x c')
    {isLeaving : Prop} (hstays : ¬ isLeaving) :
    Handling setting isLeaving (holdings c) x.wait? (holdings c') := by
  cases h with
  | connecting cause c c' w hconnects => exact handling_connecting hconnects hstays
  | unconnected cause c c' e hconnects => exact handling_connecting hconnects hstays
  | sending cause c c₁ c' connection x hconnects hsends =>
    -- To find the wallet connected, or to write down that it is, changes no handle.
    have hsame : holdings c₁ = holdings c := by
      rcases hconnects.of_ok with ⟨-, rfl, -⟩ | ⟨handle, answer, notices, -, -, rfl⟩
      · rfl
      · rfl
    rw [← hsame]
    cases hsends with
    | undecodable e hdecode => exact Holdings.Tries.handling .refl hstays nofun nofun
    | noHandle tx hdecode hprovider => exact Holdings.Tries.handling .refl hstays nofun nofun
    | noLedger tx handle e c₂ hdecode hprovider hledger =>
      exact (Holdings.tries_openLedger hledger).1.handling hstays nofun nofun
    | asked tx handle ledger c₂ hdecode hprovider hledger =>
      obtain ⟨htries, hheld⟩ := Holdings.tries_openLedger hledger
      refine .tries _ _ hstays htries ?_ ?_
      · rintro w told ⟨⟩
        rfl
      · rintro w ledger' ⟨⟩ hsome
        rw [← Option.some.inj hsome]
        exact hheld ledger rfl
  | sent c handle ledger tx answer =>
    rw [show holdings { c with wallet := c.wallet.finishSigning } = holdings c from
      holdings_finishSigning c c.notices]
    exact Holdings.Tries.handling .refl hstays nofun nofun

theorem handling_disconnecting {cause : Cause} {c c' : Client} {x : Stop Unit}
    (h : Client.Disconnecting cause c x c') :
    Handling setting (cause = .called) (holdings c) x.wait? (holdings c') := by
  cases h with
  | silently c hprovider =>
    have hnone : (holdings c).wallet = none := hprovider
    refine .forgets _ rfl ?_
    rw [hnone]
    rfl
  | asked c handle hprovider =>
    have hheld : (holdings c).wallet = some handle := hprovider
    refine .forgets _ rfl ?_
    rw [hheld]
    rfl
  | told c handle answer => exact Holdings.Tries.handling .refl nofun nofun nofun

/-- Every move makes some attempts to open handles, unless it begins to disconnect. -/
theorem Request.Moves.handling {q : Request} {cause : Cause} {c c' : Client} {x : Stop Reply}
    (h : q.Moves setting cause c x c') :
    Handling setting (q = .disconnect ∧ cause = .called) (holdings c) x.wait? (holdings c') := by
  cases q with
  | connect sign =>
    rcases h with ⟨y, hmoves, rfl⟩
    rw [Stop.wait?_map]
    exact handling_connecting hmoves nofun
  | balance known =>
    rcases h with ⟨y, hmoves, rfl⟩
    rw [Stop.wait?_map]
    exact handling_balance hmoves nofun
  | submit payload =>
    rcases h with ⟨y, hmoves, rfl⟩
    rw [Stop.wait?_map]
    exact handling_submitting hmoves nofun
  | disconnect =>
    rcases h with ⟨y, hmoves, rfl⟩
    rw [Stop.wait?_map]
    simpa only [true_and] using handling_disconnecting hmoves

end Wallet

end Wager
