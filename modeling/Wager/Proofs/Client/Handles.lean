import Wager.Client.Basic

/-!
# Handles

How a client comes by its handles.

A handle that is held is used again; if none is held, one attempt is made to open one. Handles on
the wallet and on the ledger are obtained alike and kept in different places. So what can come of it
is said once, in `Obtains`, for the place where handles of a kind are kept and for the outcome of
the attempt, and what else is known of opening handles follows from that.

## Main definitions

* `Client.Obtains`: What can come of it.

## Theorems

* `Client.obtains_ledger`, `Client.obtains_wallet`: Both kinds are obtained in this way.
* `Client.openLedger_eq`, `Client.openWallet_eq`: What opening a handle changes.
* `Client.notices_openLedger`, `Client.notices_openWallet`: It says nothing to the person.
-/

namespace Wager.Client

/-- What can come of obtaining a handle that is got and put in some place, if the attempt to open
one ends with `opened`. -/
inductive Obtains (a : Attempt) (get : Wallet → Option Nat) (put : Option Nat → Wallet → Wallet)
    (opened : Result Unit) (c : Client) : Result Nat × Client → Prop
  | held (handle : Nat) (hheld : get c.wallet = some handle) :
    Obtains a get put opened c (.ok handle, c)
  | opened (hnone : get c.wallet = none) (hopened : opened = .ok ()) :
    Obtains a get put opened c (.ok (c.attemptsAt a),
      { c.tried a with wallet := put (some (c.attemptsAt a)) c.wallet })
  | failed (e : Error) (hnone : get c.wallet = none) (hopened : opened = .error e) :
    Obtains a get put opened c (.error e, c.tried a)

theorem openLedger_of_held (setting : Setting) {c : Client} {handle : Nat}
    (hledger : c.wallet.ledger = some handle) : c.openLedger setting = (.ok handle, c) := by
  simp only [openLedger, hledger]

theorem obtains_ledger (setting : Setting) (c : Client) :
    Obtains .ledger Wallet.ledger (fun ledger w => { w with ledger })
      (setting.openLedger (c.attemptsAt .ledger)) c (c.openLedger setting) := by
  cases hledger : c.wallet.ledger with
  | some handle =>
    rw [openLedger_of_held setting hledger]
    exact .held handle hledger
  | none =>
    cases hopened : setting.openLedger (c.attemptsAt .ledger) with
    | ok _ =>
      simp only [openLedger, hledger, hopened]
      exact .opened hledger rfl
    | error e =>
      simp only [openLedger, hledger, hopened]
      exact .failed e hledger rfl

theorem obtains_wallet (setting : Setting) (c : Client) :
    Obtains .wallet Wallet.provider (fun provider w => { w with provider })
      (setting.openWallet (c.attemptsAt .wallet)) c (c.openWallet setting) := by
  cases hprovider : c.wallet.provider with
  | some handle =>
    simp only [openWallet, hprovider]
    exact .held handle hprovider
  | none =>
    cases hopened : setting.openWallet (c.attemptsAt .wallet) with
    | ok _ =>
      simp only [openWallet, hprovider, hopened]
      exact .opened hprovider rfl
    | error e =>
      simp only [openWallet, hprovider, hopened]
      exact .failed e hprovider rfl

/-- Obtaining a handle changes nothing but the place where it is kept, and a handle that is there is
kept. -/
theorem Obtains.eq {a : Attempt} {get : Wallet → Option Nat} {put : Option Nat → Wallet → Wallet}
    {opened : Result Unit} {c c' : Client} {outcome : Result Nat}
    (h : Obtains a get put opened c (outcome, c')) (hput : ∀ w, put (get w) w = w) :
    ∃ kept attempts, c' = { c with wallet := put kept c.wallet, attempts } ∧
      (∀ handle, outcome = .ok handle → kept = some handle) ∧
        (get c.wallet ≠ none → kept = get c.wallet) := by
  cases h with
  | held handle hheld =>
    refine ⟨get c.wallet, c.attempts, by rw [hput], ?_, fun _ => rfl⟩
    intro handle' ho
    rw [hheld, Except.ok.inj ho]
  | opened hnone hopened =>
    exact ⟨_, _, rfl, fun _ ho => congrArg some (Except.ok.inj ho), fun hne => absurd hnone hne⟩
  | failed e hnone hopened =>
    exact ⟨get c.wallet, (c.tried a).attempts, by rw [hput]; rfl, nofun, fun _ => rfl⟩

theorem openLedger_eq {setting : Setting} {c c' : Client} {outcome : Result Nat}
    (h : c.openLedger setting = (outcome, c')) : ∃ ledger attempts,
      c' = { c with wallet := { c.wallet with ledger }, attempts } ∧
        (∀ handle, outcome = .ok handle → ledger = some handle) ∧
          (c.wallet.ledger ≠ none → ledger = c.wallet.ledger) :=
  (h ▸ obtains_ledger setting c).eq fun _ => rfl

theorem openWallet_eq {setting : Setting} {c c' : Client} {outcome : Result Nat}
    (h : c.openWallet setting = (outcome, c')) : ∃ provider attempts,
      c' = { c with wallet := { c.wallet with provider }, attempts } ∧
        (∀ handle, outcome = .ok handle → provider = some handle) ∧
          (c.wallet.provider ≠ none → provider = c.wallet.provider) :=
  (h ▸ obtains_wallet setting c).eq fun _ => rfl

theorem notices_openLedger {setting : Setting} {c c' : Client} {outcome : Result Nat}
    (h : c.openLedger setting = (outcome, c')) : c'.notices = c.notices := by
  obtain ⟨ledger, attempts, rfl, -, -⟩ := openLedger_eq h
  rfl

theorem notices_openWallet {setting : Setting} {c c' : Client} {outcome : Result Nat}
    (h : c.openWallet setting = (outcome, c')) : c'.notices = c.notices := by
  obtain ⟨provider, attempts, rfl, -, -⟩ := openWallet_eq h
  rfl

end Wager.Client
