import Wager.Proofs.Wallet.Traffic

/-!
# The phases of a wallet

The phase of a wallet tells what is going on, at every moment and with any number of callers.

There is one phase for all callers, and each writes to it what suits its own request, so what is
written by one may be overwritten by another at any time. Still the phase never tells of a call that
nobody waits for. It is enough to look at a move's effect on the phase and on the address, and there
are few of those (`Turns`): a caller that comes to wait for the wallet says so, and one that has
waited for it takes that back, by whatever it says instead. What is not taken back is then due to
another caller, which is still waiting.

`Phased` is the invariant. It is about the wallet and the calls that are under way, and not about
callers, so a move preserves it whoever makes it.

## Main definitions

* `Wallet.isConnecting`, `Wallet.isSigning`: What a wallet may be asked for.
* `Wallet.Turns`: What a move does to the phase and the address.
* `Wallet.Phased`: The invariant.
* `Traffic.InPhase`: How the phase, the address and the callers fit together.

## Theorems

* `Request.Moves.turns`: Every move is one of these.
* `Turns.phased`: Every move preserves the invariant.
* `Traffic.phased_run`: The invariant holds at every moment.
* `Traffic.inPhase`: What follows from it.
-/

namespace Wager.Wallet

open Client (Cause Stop)

/-- Whether a wallet is asked to connect. -/
def isConnecting : Wait → Bool
  | .call (.connectWallet _) => true
  | _ => false

/-- Whether a wallet is asked to sign, a text or a transaction. -/
def isSigning : Wait → Bool
  | .call (.signMessage ..) => true
  | .call (.sendTransaction ..) => true
  | _ => false

/-- What a move does to the phase and the address. -/
inductive Turns (cause : Cause) (w : Wallet) : Option Wait → Wallet → Prop
  | kept (x : Option Wait) (w' : Wallet)
    (hcause : ∀ v, cause.wait? = some v → isConnecting v = false ∧ isSigning v = false)
    (hphase : w'.phase = w.phase) (haddress : w'.address = w.address) : Turns cause w x w'
  | disconnected (x : Option Wait) (w' : Wallet) (hphase : w'.phase = .disconnected)
    (haddress : w'.address = none) : Turns cause w x w'
  | connecting (v : Wait) (w' : Wallet) (hv : isConnecting v = true)
    (hphase : w'.phase = .connecting) : Turns cause w (some v) w'
  | connected (x : Option Wait) (w' : Wallet) (hphase : w'.phase = .connected)
    (haddress : w'.address ≠ none) : Turns cause w x w'
  | signing (v : Wait) (w' : Wallet) (hv : isSigning v = true)
    (hphase : w'.phase = .signingChallenge ∨ w'.phase = .signingTransaction)
    (haddress : w'.address ≠ none) : Turns cause w (some v) w'
  | signed (v : Wait) (x : Option Wait) (hcause : cause.wait? = some v)
    (hv : isConnecting v = false) : Turns cause w x w.finishSigning

theorem turns_connecting {setting : Setting} {sign : Bool} {cause : Cause} {c c' : Client}
    {x : Stop (Result Connection)} (h : Client.Connecting setting sign cause c x c') :
    Turns cause c.wallet x.wait? c'.wallet := by
  cases h with
  | reused c address hsign haddress => exact .kept _ _ nofun rfl rfl
  | noLedger c c₁ e notices notices' haddress hledger => exact .disconnected _ _ rfl rfl
  | noWallet c c₁ c₂ ledger e notices notices' haddress hledger hwallet =>
    exact .disconnected _ _ rfl rfl
  | asked c c₁ c₂ ledger handle notices haddress hledger hwallet => exact .connecting _ _ rfl rfl
  | rejected c handle answer e notices hanswer => exact .disconnected _ _ rfl rfl
  | connected c handle answer address notices hsign hanswer =>
    exact .connected _ _ rfl (Option.some_ne_none address)
  | challenged c handle answer address hsign hanswer =>
    exact .signing _ _ rfl (Or.inl rfl) (Option.some_ne_none address)
  | unsigned c handle message answer e notices hsign hanswer => exact .disconnected _ _ rfl rfl
  | signed c handle address answer bytes notices hsign hanswer => exact .signed _ _ rfl rfl

theorem turns_balance {setting : Setting} {known : Option Address} {cause : Cause} {c c' : Client}
    {x : Stop (Result TokenAmount)} (h : Client.ReadingBalance setting known cause c x c') :
    Turns cause c.wallet x.wait? c'.wallet := by
  cases h with
  | noOwner c howner => exact .kept _ _ nofun rfl rfl
  | noLedger c c₁ owner e howner hledger =>
    rcases Client.openLedger_eq hledger with ⟨ledger, attempts, rfl, -, -⟩
    exact .kept _ _ nofun rfl rfl
  | asked c c₁ owner ledger howner hledger =>
    rcases Client.openLedger_eq hledger with ⟨ledger, attempts, rfl, -, -⟩
    exact .kept _ _ nofun rfl rfl
  | unread c ledger account e =>
    refine .kept _ _ ?_ rfl rfl
    rintro v ⟨⟩
    exact ⟨rfl, rfl⟩
  | read c ledger account found =>
    refine .kept _ _ ?_ rfl rfl
    rintro v ⟨⟩
    exact ⟨rfl, rfl⟩

theorem turns_submitting {setting : Setting} {payload : String} {cause : Cause} {c c' : Client}
    {x : Stop (Result String)} (h : Client.Submitting setting payload cause c x c') :
    Turns cause c.wallet x.wait? c'.wallet := by
  cases h with
  | connecting cause c c' w hconnects => exact turns_connecting hconnects
  | unconnected cause c c' e hconnects => exact turns_connecting hconnects
  | sending cause c c₁ c' connection x hconnects hsends =>
    -- The wallet was connected before or has just been, and then nothing comes of it or it signs.
    have haddress : c₁.wallet.address ≠ none := by
      rcases hconnects.of_ok with ⟨-, rfl, haddress⟩ | ⟨handle, answer, notices, -, -, rfl⟩
      · rw [haddress]
        exact Option.some_ne_none _
      · exact Option.some_ne_none _
    have hended : ∀ w' : Wallet, w'.phase = c₁.wallet.phase → w'.address = c₁.wallet.address →
        Turns cause c.wallet none w' := by
      intro w' hphase hsame
      rcases hconnects.of_ok with ⟨rfl, rfl, -⟩ | ⟨handle, answer, notices, -, -, rfl⟩
      · exact .kept _ _ nofun hphase hsame
      · exact .connected _ _ hphase (hsame ▸ haddress)
    cases hsends with
    | undecodable e hdecode => exact hended _ rfl rfl
    | noHandle tx hdecode hprovider => exact hended _ rfl rfl
    | noLedger tx handle e c₂ hdecode hprovider hledger =>
      rcases Client.openLedger_eq hledger with ⟨ledger, attempts, rfl, -, -⟩
      exact hended _ rfl rfl
    | asked tx handle ledger c₂ hdecode hprovider hledger =>
      rcases Client.openLedger_eq hledger with ⟨ledger, attempts, rfl, -, -⟩
      exact .signing _ _ rfl (Or.inr rfl) haddress
  | sent c handle ledger tx answer => exact .signed _ _ rfl rfl

theorem turns_disconnecting {cause : Cause} {c c' : Client} {x : Stop Unit}
    (h : Client.Disconnecting cause c x c') : Turns cause c.wallet x.wait? c'.wallet := by
  cases h with
  | silently c hprovider => exact .disconnected _ _ rfl rfl
  | asked c handle hprovider => exact .disconnected _ _ rfl rfl
  | told c handle answer =>
    refine .kept _ _ ?_ rfl rfl
    rintro v ⟨⟩
    exact ⟨rfl, rfl⟩

/-- Every move is one of these. -/
theorem Request.Moves.turns {setting : Setting} {q : Request} {cause : Cause} {c c' : Client}
    {x : Stop Reply} (h : q.Moves setting cause c x c') :
    Turns cause c.wallet x.wait? c'.wallet := by
  cases q with
  | connect sign =>
    rcases h with ⟨y, hmoves, rfl⟩
    rw [Stop.wait?_map]
    exact turns_connecting hmoves
  | balance known =>
    rcases h with ⟨y, hmoves, rfl⟩
    rw [Stop.wait?_map]
    exact turns_balance hmoves
  | submit payload =>
    rcases h with ⟨y, hmoves, rfl⟩
    rw [Stop.wait?_map]
    exact turns_submitting hmoves
  | disconnect =>
    rcases h with ⟨y, hmoves, rfl⟩
    rw [Stop.wait?_map]
    exact turns_disconnecting hmoves

/-- Whether a request may have the wallet connect or sign. -/
def Request.needsWallet : Request → Bool
  | .connect _ | .submit _ => true
  | .balance _ | .disconnect => false

/-- Only such a request waits for that. -/
theorem Request.Moves.needsWallet {setting : Setting} {q : Request} {cause : Cause} {c c' : Client}
    {x : Stop Reply} (h : q.Moves setting cause c x c') {v : Wait} (hx : x.wait? = some v)
    (hv : isConnecting v = true ∨ isSigning v = true) : q.needsWallet = true := by
  cases q with
  | connect sign => rfl
  | submit payload => rfl
  | balance known =>
    rcases h with ⟨y, hmoves, rfl⟩
    rw [Stop.wait?_map] at hx
    cases hmoves with
    | asked c c₁ owner ledger howner hledger =>
      rw [← Option.some.inj hx] at hv
      rcases hv with hv | hv <;> exact nomatch hv
    | _ => exact nomatch hx
  | disconnect =>
    rcases h with ⟨y, hmoves, rfl⟩
    rw [Stop.wait?_map] at hx
    cases hmoves with
    | asked c handle hprovider =>
      rw [← Option.some.inj hx] at hv
      rcases hv with hv | hv <;> exact nomatch hv
    | _ => exact nomatch hx

/-! ### Every moment -/

/-- The phase of a wallet, its address and the calls under way fit together. -/
structure Phased (w : Wallet) (underWay : Wait → Prop) : Prop where
  disconnected : w.phase = .disconnected → w.address = none
  connected : w.phase = .connected → w.address ≠ none
  connecting : w.phase = .connecting → ∃ v, underWay v ∧ isConnecting v = true
  signing : w.phase = .signingChallenge ∨ w.phase = .signingTransaction →
    w.address ≠ none ∧ ∃ v, underWay v ∧ isSigning v = true

/-- Every move preserves this, if no call but the one that has made it begin is forgotten. -/
theorem Turns.phased {cause : Cause} {w w' : Wallet} {x : Option Wait} (hturns : Turns cause w x w')
    {underWay underWay' : Wait → Prop}
    (hold : ∀ v, underWay v → underWay' v ∨ cause.wait? = some v)
    (hnew : ∀ v, x = some v → underWay' v) (h : Phased w underWay) : Phased w' underWay' := by
  cases hturns with
  | kept x w' hcause hphase haddress =>
    -- The call that is no longer under way was of neither kind.
    refine ⟨?_, ?_, ?_, ?_⟩
    · rw [hphase, haddress]
      exact h.disconnected
    · rw [hphase, haddress]
      exact h.connected
    · rw [hphase]
      intro hp
      rcases h.connecting hp with ⟨v, hv, hconnecting⟩
      rcases hold v hv with hv' | hv'
      · exact ⟨v, hv', hconnecting⟩
      · exact nomatch (hcause v hv').1.symm.trans hconnecting
    · rw [hphase, haddress]
      intro hp
      rcases h.signing hp with ⟨hsome, v, hv, hsigning⟩
      rcases hold v hv with hv' | hv'
      · exact ⟨hsome, v, hv', hsigning⟩
      · exact nomatch (hcause v hv').2.symm.trans hsigning
  | disconnected x w' hphase haddress =>
    refine ⟨fun _ => haddress, ?_, ?_, ?_⟩ <;>
      simp only [hphase, reduceCtorEq, false_implies, or_self]
  | connecting v w' hv hphase =>
    -- The caller itself waits for the wallet now.
    refine ⟨?_, ?_, fun _ => ⟨v, hnew v rfl, hv⟩, ?_⟩ <;>
      simp only [hphase, reduceCtorEq, false_implies, or_self]
  | connected x w' hphase haddress =>
    refine ⟨?_, fun _ => haddress, ?_, ?_⟩ <;>
      simp only [hphase, reduceCtorEq, false_implies, or_self]
  | signing v w' hv hphase haddress =>
    refine ⟨?_, fun _ => haddress, ?_, fun _ => ⟨haddress, v, hnew v rfl, hv⟩⟩ <;>
      rcases hphase with hphase | hphase <;> simp only [hphase, reduceCtorEq, false_implies]
  | signed v x hcause hv =>
    rcases w.finishSigning_cases with ⟨hphase, heq⟩ | ⟨hphase, heq⟩
    · -- Whatever was signed is done with, and the address is still there.
      rw [heq]
      exact ⟨nofun, fun _ => (h.signing hphase).1, nofun, by rintro (hp | hp) <;> exact nomatch hp⟩
    · -- Something else has happened meanwhile, and that is not undone.
      rw [heq]
      refine ⟨h.disconnected, h.connected, ?_, fun hp => absurd hp hphase⟩
      intro hp
      rcases h.connecting hp with ⟨v', hv', hconnecting⟩
      rcases hold v' hv' with hv'' | hv''
      · exact ⟨v', hv'', hconnecting⟩
      · rw [hcause, Option.some.injEq] at hv''
        subst hv''
        exact nomatch hv.symm.trans hconnecting

namespace Traffic

/-- A call is under way if a caller waits for the answer. -/
def UnderWay (t : Traffic) (w : Wait) : Prop := ∃ n, t.Waits n w

/-- How the phase of the wallet, its address and the callers fit together. -/
structure InPhase (t : Traffic) : Prop where
  /-- A wallet that is disconnected has no address. -/
  disconnected : t.state.wallet.phase = .disconnected → t.state.wallet.address = none
  /-- A wallet that is connected or signs has one. -/
  connected : t.state.wallet.phase = .connected ∨ t.state.wallet.phase = .signingChallenge ∨
    t.state.wallet.phase = .signingTransaction → ∃ address, t.state.wallet.address = some address
  /-- It is connecting only while it is asked to connect. -/
  connecting : t.state.wallet.phase = .connecting → ∃ w, t.UnderWay w ∧ isConnecting w = true
  /-- It is signing only while it is asked to sign. -/
  signing : t.state.wallet.phase = .signingChallenge ∨
    t.state.wallet.phase = .signingTransaction → ∃ w, t.UnderWay w ∧ isSigning w = true
  /-- When everybody who needs the wallet has returned, it is disconnected without an address or
  connected with one. -/
  settled : (∀ caller ∈ t.callers, caller.request.needsWallet = true → caller.HasReturned) →
    t.state.wallet.phase = .disconnected ∧ t.state.wallet.address = none ∨
      t.state.wallet.phase = .connected ∧ ∃ address, t.state.wallet.address = some address

theorem phased_run (setting : Setting) (c : Client) (events : List (Timestamp × Event)) :
    Phased ((start c).run setting events).state.wallet
      ((start c).run setting events).UnderWay := by
  refine run_induction (P := fun t => Phased t.state.wallet t.UnderWay) ?_ (sound_start c) ?_
  · intro t t' e _ _ hsteps h
    rcases hsteps.moves with rfl | ⟨q, cause, x, hmoves, hold, hnew⟩
    · exact h
    · refine hmoves.turns.phased ?_ hnew h
      rintro v ⟨n, hwaits⟩
      exact (hold n v hwaits).imp_left fun hwaits' => ⟨n, hwaits'⟩
  · exact ⟨fun _ => rfl, nofun, nofun, by rintro (hp | hp) <;> exact nomatch hp⟩

/-- Whoever the wallet is asked for needs it and has not returned. -/
theorem Sound.of_underWay {setting : Setting} {t : Traffic} (h : t.Sound setting) {w : Wait}
    (hw : t.UnderWay w) (hkind : isConnecting w = true ∨ isSigning w = true) :
    ∃ caller ∈ t.callers, caller.request.needsWallet = true ∧ ¬ caller.HasReturned := by
  rcases hw with ⟨n, caller, hcaller, hwaits⟩
  refine ⟨caller, List.mem_of_getElem? hcaller, ?_, ?_⟩
  · rcases h.callers n caller hcaller with ⟨-, cause, c, x, c', hstops, hmoves⟩
    rw [hstops.unique hwaits] at hmoves
    exact hmoves.needsWallet rfl hkind
  · rintro ⟨reply, hdone⟩
    rw [hdone] at hwaits
    exact nomatch hwaits

/-- At every moment the phase of the wallet, its address and the callers fit together, whoever comes
for what, whatever is answered and in whatever order. -/
theorem inPhase (setting : Setting) (c : Client) (events : List (Timestamp × Event)) :
    ((start c).run setting events).InPhase := by
  have hsound : ((start c).run setting events).Sound setting := sound_run (sound_start c) events
  have h := phased_run setting c events
  generalize (start c).run setting events = t at hsound h
  have haddress : t.state.wallet.address ≠ none →
      ∃ address, t.state.wallet.address = some address := Option.ne_none_iff_exists'.mp
  refine ⟨h.disconnected, ?_, h.connecting, fun hp => (h.signing hp).2, ?_⟩
  · rintro (hp | hp)
    · exact haddress (h.connected hp)
    · exact haddress (h.signing hp).1
  · intro hreturned
    -- Nobody is waiting for the wallet, so it neither connects nor signs.
    have hnobody : ∀ w, t.UnderWay w → ¬ (isConnecting w = true ∨ isSigning w = true) := by
      intro w hw hkind
      rcases hsound.of_underWay hw hkind with ⟨caller, hmem, hneeds, hnot⟩
      exact hnot (hreturned caller hmem hneeds)
    have hsigning : ¬ (t.state.wallet.phase = .signingChallenge ∨
        t.state.wallet.phase = .signingTransaction) := by
      intro hp
      rcases (h.signing hp).2 with ⟨w, hw, hkind⟩
      exact hnobody w hw (Or.inr hkind)
    cases hp : t.state.wallet.phase with
    | disconnected => exact Or.inl ⟨rfl, h.disconnected hp⟩
    | connecting =>
      rcases h.connecting hp with ⟨w, hw, hkind⟩
      exact absurd (Or.inl hkind) (hnobody w hw)
    | connected => exact Or.inr ⟨rfl, haddress (h.connected hp)⟩
    | signingChallenge => exact absurd (Or.inl hp) hsigning
    | signingTransaction => exact absurd (Or.inr hp) hsigning

end Traffic

end Wager.Wallet
