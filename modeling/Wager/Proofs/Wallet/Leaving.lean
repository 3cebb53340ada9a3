import Wager.Proofs.Wallet.Traffic

/-!
# Leaving a wallet

What disconnecting a wallet is good for, with any number of callers.

Who disconnects the wallet forgets everything about it at once. But others may be waiting then, and
they go on afterwards as if nothing had happened. Some of them do no harm: what fails, what was
signed and what is too late changes nothing that was forgotten. Two kinds of answers do harm. A
wallet that has been connected is written down with its address, and a balance that has been read is
kept, though the wallet is gone. `late_answers` has the runs.

So a run is called orderly if no answer of these two kinds reaches a caller after which somebody has
come to disconnect the wallet. In an orderly run all stays forgotten until somebody comes again, and
an address is never without a handle. The second part needs the first: a caller that waits for the
wallet to connect has opened the handles, and only who disconnects the wallet could have taken them
away.

## Main definitions

* `Wallet.Brings`: An answer that is written down.
* `Wallet.Holds`: What a move keeps.
* `Traffic.Overtaken`, `Traffic.Orderly`: Who was overtaken, and what may not happen then.
* `Traffic.Tidy`: The invariant of orderly runs.

## Theorems

* `Request.Moves.holds`, `Request.Moves.forgets`: What a move keeps, and who forgets.
* `Traffic.tidy_disconnect`, `Traffic.Tidy.called`, `Traffic.Tidy.answered`: What an event makes of
  the invariant.
* `Traffic.Steps.tidy`, `Traffic.tidy_run`: The invariant holds at every moment of an orderly run.
* `Traffic.submit_reaches`: What is to be submitted reaches a wallet that is held.
* `Traffic.disconnected_for_good`: What disconnecting is good for.
* `Traffic.late_answers`: What goes wrong in other runs.
-/

namespace Wager.Wallet

open Client (Cause Stop)

/-! ### What moves keep -/

/-- An answer that the caller writes down when it goes on: an address or a balance. -/
def Brings (setting : Setting) : Cause → Prop
  | .answered (.call (.connectWallet _)) answer =>
    ∃ address, Client.inTime setting "connect" answer = .ok address
  | .answered (.call (.readBalance ..)) answer => ∃ found, answer = .ok found
  | _ => False

/-- Both handles are held. -/
def HasHandles (w : Wallet) : Prop := w.provider ≠ none ∧ w.ledger ≠ none

/-- Handles that are held are still held. -/
structure KeepsHandles (w w' : Wallet) : Prop where
  provider : w.provider ≠ none → w'.provider ≠ none
  ledger : w.ledger ≠ none → w'.ledger ≠ none

namespace KeepsHandles

variable {w w' w'' : Wallet} {setting : Setting} {c c' : Client} {outcome : Result Nat}

theorem refl (w : Wallet) : KeepsHandles w w :=
  ⟨id, id⟩

theorem trans (h : KeepsHandles w w') (h' : KeepsHandles w' w'') : KeepsHandles w w'' :=
  ⟨h'.provider ∘ h.provider, h'.ledger ∘ h.ledger⟩

theorem hasHandles (h : KeepsHandles w w') (hw : w.HasHandles) : w'.HasHandles :=
  ⟨h.provider hw.1, h.ledger hw.2⟩

theorem finishSigning (w : Wallet) : KeepsHandles w w.finishSigning := by
  unfold Wallet.finishSigning
  split <;> exact ⟨id, id⟩

theorem openLedger (h : c.openLedger setting = (outcome, c')) :
    KeepsHandles c.wallet c'.wallet := by
  rcases Client.openLedger_eq h with ⟨ledger, attempts, rfl, -, hkept⟩
  refine ⟨id, fun hne hnone => hne ?_⟩
  rw [← hkept hne]
  exact hnone

theorem openWallet (h : c.openWallet setting = (outcome, c')) :
    KeepsHandles c.wallet c'.wallet := by
  rcases Client.openWallet_eq h with ⟨provider, attempts, rfl, -, hkept⟩
  refine ⟨fun hne hnone => hne ?_, id⟩
  rw [← hkept hne]
  exact hnone

end KeepsHandles

/-- What a move keeps of what is known of the wallet, unless it is one that forgets everything:
handles, and an address only with the answer that brings it. From a wallet that is forgotten it
makes nothing, unless the answer brings something. -/
structure Holds (setting : Setting) (cause : Cause) (w : Wallet) (x : Option Wait) (w' : Wallet) :
    Prop where
  handles : KeepsHandles w w'
  address : w'.address ≠ none → w.address ≠ none ∨
    Brings setting cause ∧ ∃ handle, cause.wait? = some (.call (.connectWallet handle))
  asked : ∀ handle, x = some (.call (.connectWallet handle)) → w'.HasHandles
  blank : cause ≠ .called → ¬ Brings setting cause → w = {} → w' = {}

section

variable {setting : Setting} {cause : Cause} {c c' : Client}

theorem holds_connecting {sign : Bool} {x : Stop (Result Connection)}
    (h : Client.Connecting setting sign cause c x c') :
    Holds setting cause c.wallet x.wait? c'.wallet := by
  cases h with
  | reused c address hsign haddress => exact ⟨.refl _, Or.inl, nofun, fun _ _ h => h⟩
  | noLedger c c₁ e notices notices' haddress hledger =>
    have hopened := KeepsHandles.openLedger hledger
    exact ⟨⟨hopened.provider, hopened.ledger⟩, fun h => absurd rfl h, nofun, fun h => absurd rfl h⟩
  | noWallet c c₁ c₂ ledger e notices notices' haddress hledger hwallet =>
    have hopened := (KeepsHandles.openLedger hledger).trans (.openWallet hwallet)
    exact ⟨⟨hopened.provider, hopened.ledger⟩, fun h => absurd rfl h, nofun, fun h => absurd rfl h⟩
  | asked c c₁ c₂ ledger handle notices haddress hledger hwallet =>
    have hopened := (KeepsHandles.openLedger hledger).trans (.openWallet hwallet)
    -- The wallet is only asked when both handles are held.
    rcases Client.openLedger_eq hledger with ⟨held, attempts, rfl, hheld, -⟩
    rcases Client.openWallet_eq hwallet with ⟨provider, attempts', rfl, hprovider, -⟩
    refine ⟨⟨hopened.provider, hopened.ledger⟩, Or.inl, fun _ _ => ⟨?_, ?_⟩, fun h => absurd rfl h⟩
    · rw [hprovider handle rfl]
      exact Option.some_ne_none _
    · rw [hheld ledger rfl]
      exact Option.some_ne_none _
  | rejected c handle answer e notices hanswer =>
    exact ⟨⟨id, id⟩, fun h => absurd rfl h, nofun, fun _ _ h => congrArg Wallet.fail h⟩
  | connected c handle answer address notices hsign hanswer =>
    exact ⟨⟨id, id⟩, fun _ => Or.inr ⟨⟨address, hanswer⟩, handle, rfl⟩, nofun,
      fun _ hnot => absurd ⟨address, hanswer⟩ hnot⟩
  | challenged c handle answer address hsign hanswer =>
    exact ⟨⟨id, id⟩, fun _ => Or.inr ⟨⟨address, hanswer⟩, handle, rfl⟩, nofun,
      fun _ hnot => absurd ⟨address, hanswer⟩ hnot⟩
  | unsigned c handle message answer e notices hsign hanswer =>
    exact ⟨⟨id, id⟩, fun h => absurd rfl h, nofun, fun _ _ h => congrArg Wallet.fail h⟩
  | signed c handle address answer bytes notices hsign hanswer =>
    refine ⟨.finishSigning _, ?_, nofun, fun _ _ h => congrArg Wallet.finishSigning h⟩
    rw [address_finishSigning]
    exact Or.inl

theorem holds_balance {known : Option Address} {x : Stop (Result TokenAmount)}
    (h : Client.ReadingBalance setting known cause c x c') :
    Holds setting cause c.wallet x.wait? c'.wallet := by
  cases h with
  | noOwner c howner => exact ⟨.refl _, Or.inl, nofun, fun _ _ h => h⟩
  | noLedger c c₁ owner e howner hledger =>
    refine ⟨.openLedger hledger, ?_, nofun, fun h => absurd rfl h⟩
    rcases Client.openLedger_eq hledger with ⟨held, attempts, rfl, -, -⟩
    exact Or.inl
  | asked c c₁ owner ledger howner hledger =>
    refine ⟨.openLedger hledger, ?_, nofun, fun h => absurd rfl h⟩
    rcases Client.openLedger_eq hledger with ⟨held, attempts, rfl, -, -⟩
    exact Or.inl
  | unread c ledger account e => exact ⟨.refl _, Or.inl, nofun, fun _ _ h => h⟩
  | read c ledger account found =>
    exact ⟨⟨id, id⟩, Or.inl, nofun, fun _ hnot => absurd ⟨found, rfl⟩ hnot⟩

theorem holds_submitting {payload : String} {x : Stop (Result String)}
    (h : Client.Submitting setting payload cause c x c') :
    Holds setting cause c.wallet x.wait? c'.wallet := by
  cases h with
  | connecting cause c c' w hconnects => exact holds_connecting hconnects
  | unconnected cause c c' e hconnects => exact holds_connecting hconnects
  | sending cause c c₁ c' connection x hconnects hsends =>
    have hfirst := holds_connecting hconnects
    -- Sending keeps the handles and the address, and does not follow on a wallet that is forgotten.
    have hblank : cause ≠ .called → ¬ Brings setting cause → c.wallet = {} → c'.wallet = {} := by
      intro hcause hnot
      rcases hconnects.of_ok with ⟨hcalled, -, -⟩ | ⟨handle, answer, notices, rfl, hanswer, -⟩
      · exact absurd hcalled hcause
      · exact absurd ⟨_, hanswer⟩ hnot
    cases hsends with
    | undecodable e hdecode => exact ⟨hfirst.handles, hfirst.address, nofun, hblank⟩
    | noHandle tx hdecode hprovider => exact ⟨hfirst.handles, hfirst.address, nofun, hblank⟩
    | noLedger tx handle e c₂ hdecode hprovider hledger =>
      refine ⟨hfirst.handles.trans (.openLedger hledger), ?_, nofun, hblank⟩
      rcases Client.openLedger_eq hledger with ⟨held, attempts, rfl, -, -⟩
      exact hfirst.address
    | asked tx handle ledger c₂ hdecode hprovider hledger =>
      have hkept := hfirst.handles.trans (.openLedger hledger)
      refine ⟨⟨hkept.provider, hkept.ledger⟩, ?_, nofun, hblank⟩
      rcases Client.openLedger_eq hledger with ⟨held, attempts, rfl, -, -⟩
      exact hfirst.address
  | sent c handle ledger tx answer =>
    refine ⟨.finishSigning _, ?_, nofun, fun _ _ h => congrArg Wallet.finishSigning h⟩
    rw [address_finishSigning]
    exact Or.inl

/-- A move keeps what is known of the wallet, unless its caller has come to disconnect it. -/
theorem Request.Moves.holds {q : Request} {x : Stop Reply} (h : q.Moves setting cause c x c')
    (hne : q = .disconnect → cause ≠ .called) :
    Holds setting cause c.wallet x.wait? c'.wallet := by
  cases q with
  | connect sign =>
    rcases h with ⟨y, hmoves, rfl⟩
    rw [Stop.wait?_map]
    exact holds_connecting hmoves
  | balance known =>
    rcases h with ⟨y, hmoves, rfl⟩
    rw [Stop.wait?_map]
    exact holds_balance hmoves
  | submit payload =>
    rcases h with ⟨y, hmoves, rfl⟩
    rw [Stop.wait?_map]
    exact holds_submitting hmoves
  | disconnect =>
    rcases h with ⟨y, hmoves, rfl⟩
    rw [Stop.wait?_map]
    cases hmoves with
    | silently c hprovider => exact absurd rfl (hne rfl)
    | asked c handle hprovider => exact absurd rfl (hne rfl)
    | told c handle answer => exact ⟨.refl _, Or.inl, nofun, fun _ _ h => h⟩

/-- Who comes to disconnect the wallet forgets everything, and asks nothing but the wallet that was
held. -/
theorem Request.Moves.forgets {x : Stop Reply}
    (h : Request.Moves setting .disconnect .called c x c') :
    c'.wallet = {} ∧ ∀ handle, x.wait? ≠ some (.call (.connectWallet handle)) := by
  rcases h with ⟨y, hmoves, rfl⟩
  rw [Stop.wait?_map]
  cases hmoves with
  | silently c hprovider => exact ⟨rfl, nofun⟩
  | asked c handle hprovider => exact ⟨rfl, nofun⟩

/-- Who disconnects the wallet is not answered with anything to write down. -/
theorem Request.Moves.not_brings {x : Stop Reply}
    (h : Request.Moves setting .disconnect cause c x c') : ¬ Brings setting cause := by
  rcases h with ⟨y, hmoves, rfl⟩
  cases hmoves with
  | silently c hprovider => exact id
  | asked c handle hprovider => exact id
  | told c handle answer => exact id

end

/-! ### Runs -/

namespace Traffic

/-- What the callers have come for, in this order. -/
def requests (t : Traffic) : List Request := t.callers.map (·.request)

/-- Somebody has come to disconnect the wallet after caller `n`. -/
def Overtaken (t : Traffic) (n : Nat) : Prop := ∃ m, n < m ∧ t.requests[m]? = some .disconnect

/-- An event brings something into the wallet's state on behalf of a caller that was overtaken. -/
def BringsLate (setting : Setting) (t : Traffic) : Event → Prop
  | .call _ => False
  | .answer n answers =>
    t.Overtaken n ∧ ∃ w, t.Waits n w ∧ Brings setting (.answered w (answers w))

/-- None of some events does so. -/
def Orderly (setting : Setting) (t : Traffic) : List (Timestamp × Event) → Prop
  | [] => True
  | e :: events => ¬ t.BringsLate setting e.2 ∧ Orderly setting (t.step setting e) events

/-- What is held and what is forgotten, at a moment of an orderly run: there is an address only with
both handles, there are both handles while somebody waits for the wallet to connect who was not
overtaken, and all is forgotten if the last that has come was to disconnect the wallet. -/
structure Tidy (t : Traffic) : Prop where
  held : t.state.wallet.address ≠ none → t.state.wallet.HasHandles
  asked : ∀ n handle, t.Waits n (.call (.connectWallet handle)) → ¬ t.Overtaken n →
    t.state.wallet.HasHandles
  forgotten : t.requests.getLast? = some .disconnect → t.state.wallet = {}

theorem tidy_start (c : Client) : (start c).Tidy where
  held h := absurd rfl h
  asked n handle h := by
    rcases h with ⟨caller, hcaller, -⟩
    exact nomatch hcaller
  forgotten h := nomatch h

variable {setting : Setting}

/-! ### Events and callers -/

section

variable {t : Traffic} {client : Client} {n : Nat} {w : Wait}

theorem requests_concat (t : Traffic) (client : Client) (caller : Caller) :
    requests { state := client, callers := t.callers ++ [caller] } = t.requests ++ [caller.request] :=
  List.map_append

theorem getElem?_requests {caller : Caller} (h : t.callers[n]? = some caller) :
    t.requests[n]? = some caller.request := by
  rw [requests, List.getElem?_map, h, Option.map_some]

/-- A caller that is answered is there for what it came for. -/
theorem requests_set {before after : Caller} (hbefore : t.callers[n]? = some before)
    (hrequest : after.request = before.request) (client : Client) :
    requests { state := client, callers := t.callers.set n after } = t.requests := by
  rcases List.getElem?_eq_some_iff.mp (getElem?_requests hbefore) with ⟨hlt, heq⟩
  rw [requests, List.map_set, hrequest, ← heq]
  exact List.set_getElem_self hlt

theorem Waits.lt_length (h : t.Waits n w) : n < t.requests.length := by
  rcases h with ⟨caller, hcaller, -⟩
  exact (List.getElem?_eq_some_iff.mp (getElem?_requests hcaller)).1

/-- Whoever waits when somebody has come did so before or has just come. -/
theorem Waits.of_concat {caller : Caller} {x : Stop Reply}
    (h : Waits { state := client, callers := t.callers ++ [caller] } n w)
    (hstops : Client.StopsAt caller.rest x) : t.Waits n w ∨ x.wait? = some w := by
  rcases h with ⟨other, hother, hw⟩
  rcases getElem?_concat_eq_some hother with hold | ⟨-, rfl⟩
  · exact Or.inl ⟨other, hold, hw⟩
  · exact Or.inr (congrArg Stop.wait? (hstops.unique hw))

/-- Whoever waits when a caller was answered did so before or is this caller. -/
theorem Waits.of_set {after : Caller} {x : Stop Reply} {m : Nat}
    (h : Waits { state := client, callers := t.callers.set n after } m w)
    (hstops : Client.StopsAt after.rest x) : t.Waits m w ∨ x.wait? = some w := by
  rcases h with ⟨other, hother, hw⟩
  rcases getElem?_set_eq_some hother with ⟨-, rfl⟩ | ⟨-, hold⟩
  · exact Or.inr (congrArg Stop.wait? (hstops.unique hw))
  · exact Or.inl ⟨other, hold, hw⟩

/-- Who was overtaken stays so. -/
theorem Overtaken.concat (h : t.Overtaken n) (client : Client) (caller : Caller) :
    Overtaken { state := client, callers := t.callers ++ [caller] } n := by
  rcases h with ⟨m, hlt, hm⟩
  refine ⟨m, hlt, ?_⟩
  rw [requests_concat, List.getElem?_append_left (List.getElem?_eq_some_iff.mp hm).1]
  exact hm

/-- Who comes to disconnect the wallet overtakes everybody. -/
theorem Waits.overtaken (h : t.Waits n w) (client : Client) {caller : Caller}
    (hq : caller.request = .disconnect) :
    Overtaken { state := client, callers := t.callers ++ [caller] } n := by
  refine ⟨t.requests.length, h.lt_length, ?_⟩
  rw [requests_concat, List.getElem?_concat_length, hq]

end

/-! ### Orderly runs -/

section

variable {t : Traffic} {client : Client} {x : Stop Reply}

/-- Who comes to disconnect the wallet tidies up. -/
theorem tidy_disconnect {caller : Caller} (hstops : Client.StopsAt caller.rest x)
    (hmoves : Request.Moves setting .disconnect .called t.state x client)
    (hq : caller.request = .disconnect) :
    Tidy { state := client, callers := t.callers ++ [caller] } := by
  rcases hmoves.forgets with ⟨hblank, hnot⟩
  refine ⟨fun haddress => absurd (congrArg Wallet.address hblank) haddress, ?_, fun _ => hblank⟩
  intro n handle hw hnotOvertaken
  rcases hw.of_concat hstops with hold | hnew
  · exact absurd (hold.overtaken client hq) hnotOvertaken
  · exact absurd hnew (hnot handle)

/-- Who comes for something else brings nothing and keeps the handles. -/
theorem Tidy.called (h : t.Tidy) {caller : Caller} (hstops : Client.StopsAt caller.rest x)
    (hmoves : caller.request.Moves setting .called t.state x client)
    (hq : caller.request ≠ .disconnect) : Tidy { state := client, callers := t.callers ++ [caller] } := by
  have hholds := hmoves.holds fun heq => absurd heq hq
  refine ⟨?_, ?_, ?_⟩
  · intro haddress
    rcases hholds.address haddress with hbefore | ⟨hbrings, -⟩
    · exact hholds.handles.hasHandles (h.held hbefore)
    · exact hbrings.elim
  · intro n handle hw hnot
    rcases hw.of_concat hstops with hold | hnew
    · refine hholds.handles.hasHandles (h.asked n handle hold ?_)
      exact fun hovertaken => hnot (hovertaken.concat client caller)
    · exact hholds.asked handle hnew
  · rw [requests_concat, List.getLast?_concat, Option.some.injEq]
    exact fun heq => absurd heq hq

/-- Who is answered keeps the handles, and brings nothing if it was overtaken. -/
theorem Tidy.answered (h : t.Tidy) {n : Nat} {w : Wait} {answer : w.Answer} {before after : Caller}
    (hbefore : t.callers[n]? = some before) (hwaits : Client.StopsAt before.rest (.waits w))
    (hrequest : after.request = before.request) (hstops : Client.StopsAt after.rest x)
    (hmoves : before.request.Moves setting (.answered w answer) t.state x client)
    (hlate : t.Overtaken n → ¬ Brings setting (.answered w answer)) :
    Tidy { state := client, callers := t.callers.set n after } := by
  have hholds := hmoves.holds fun _ => nofun
  have hrequests := requests_set hbefore hrequest client
  refine ⟨?_, ?_, ?_⟩
  · -- An address was there before, or the answer has brought it.
    intro haddress
    rcases hholds.address haddress with hsome | ⟨hbrings, handle, hw⟩
    · exact hholds.handles.hasHandles (h.held hsome)
    · have hasked : t.Waits n (.call (.connectWallet handle)) :=
        ⟨before, hbefore, Option.some.inj hw ▸ hwaits⟩
      exact hholds.handles.hasHandles (h.asked n handle hasked fun ho => hlate ho hbrings)
  · intro m handle hw hnot
    rw [Overtaken, hrequests] at hnot
    rcases hw.of_set hstops with hold | hnew
    · exact hholds.handles.hasHandles (h.asked m handle hold hnot)
    · exact hholds.asked handle hnew
  · rw [hrequests]
    intro hlast
    refine hholds.blank nofun ?_ (h.forgotten hlast)
    -- The last one that has come has nothing to write down, and all others are overtaken by it.
    have hn := getElem?_requests hbefore
    have hlt := (List.getElem?_eq_some_iff.mp hn).1
    rw [List.getLast?_eq_getElem?] at hlast
    by_cases hnm : n = t.requests.length - 1
    · rw [← hnm, hn, Option.some.injEq] at hlast
      rw [hlast] at hmoves
      exact hmoves.not_brings
    · exact hlate ⟨_, by omega, hlast⟩

end

/-- An event that brings nothing late preserves this. -/
theorem Steps.tidy {t t' : Traffic} {e : Timestamp × Event} (hsteps : t.Steps setting e t')
    (horderly : ¬ t.BringsLate setting e.2) (h : t.Tidy) : t'.Tidy := by
  cases hsteps with
  | called now caller x client hstops hmoves =>
    by_cases hq : caller.request = .disconnect
    · exact tidy_disconnect hstops (hq ▸ hmoves) hq
    · exact h.called hstops hmoves hq
  | answered now n answers w before after x client hbefore hwaits hrequest hstops hmoves =>
    refine h.answered hbefore hwaits hrequest hstops hmoves ?_
    exact fun ho hbrings => horderly ⟨ho, w, ⟨before, hbefore, hwaits⟩, hbrings⟩
  | idle now n answers hidle => exact h

theorem tidy_run {t : Traffic} (hsound : t.Sound setting) {events : List (Timestamp × Event)}
    (horderly : Orderly setting t events) (h : t.Tidy) : (t.run setting events).Tidy := by
  -- On the events, each of which comes to a traffic that is orderly from then on.
  induction events generalizing t with
  | nil => exact h
  | cons e events ih =>
    rcases hsound.steps e with ⟨hsteps, hsound'⟩
    exact ih hsound' horderly.2 (hsteps.tidy horderly.1 h)

/-- Where there is an address and both handles are held, what is to be submitted reaches the
wallet. -/
theorem submit_reaches (t : Traffic) {handle ledger : Nat}
    (haddress : t.state.wallet.address ≠ none) (hprovider : t.state.wallet.provider = some handle)
    (hledger : t.state.wallet.ledger = some ledger) {payload : String} {tx : Transaction}
    (hdecode : Transaction.ofBase64 payload = .ok tx) (now : Timestamp) :
    (t.step setting (now, .call (.submit payload))).Waits t.callers.length
      (.call (.sendTransaction handle ledger tx)) := by
  rcases ((Request.submit payload).keeps setting t.state).proceed now with
    ⟨-, x, hstops, y, hmoves, rfl⟩
  rw [hmoves.eq_of_held haddress hprovider hledger hdecode] at hstops
  exact ⟨_, List.getElem?_concat_length, hstops⟩

/-- What disconnecting is good for, in an orderly run: when the last that has come was to disconnect
the wallet, all is forgotten, whoever of the others has still to return. And where there is an
address there is a handle as well, and what is to be submitted reaches the wallet. -/
theorem disconnected_for_good (setting : Setting) (c : Client) (events : List (Timestamp × Event))
    (horderly : Orderly setting (start c) events) :
    let t := (start c).run setting events
    (t.requests.getLast? = some .disconnect → t.state.wallet = {}) ∧
      (t.state.wallet.address ≠ none → ∃ handle ledger,
        t.state.wallet.provider = some handle ∧ ∀ now payload tx,
          Transaction.ofBase64 payload = .ok tx →
            (t.step setting (now, .call (.submit payload))).Waits t.callers.length
              (.call (.sendTransaction handle ledger tx))) := by
  intro t
  have htidy : t.Tidy := tidy_run (sound_start c) horderly (tidy_start c)
  refine ⟨htidy.forgotten, ?_⟩
  intro haddress
  -- With both handles held nothing is opened, so nothing can fail on the way to the wallet.
  rcases htidy.held haddress with ⟨hprovider, hledger⟩
  rcases Option.ne_none_iff_exists'.mp hprovider with ⟨handle, hhandle⟩
  rcases Option.ne_none_iff_exists'.mp hledger with ⟨ledger, hheld⟩
  refine ⟨handle, ledger, hhandle, ?_⟩
  intro now payload tx hdecode
  exact submit_reaches t haddress hhandle hheld hdecode now

/-- Where everything can be opened. -/
def openSetting : Setting where
  mint := { address := ⟨.zero 32⟩, decimals := 6, program := ⟨.zero 32⟩ }
  patience := 30000
  openWallet _ := .ok ()
  openLedger _ := .ok ()

/-- Everybody agrees, the wallet with an address, and the ledger knows of no balance. -/
def agreed (address : Address) : (w : Wait) → w.Answer
  | .call (.connectWallet _) => .answered (.ok address)
  | .call (.signMessage ..) => .answered (.ok [])
  | .call (.sendTransaction ..) => .answered (.ok "")
  | .call (.disconnectWallet _) => .answered (.ok ())
  | .call (.readBalance ..) => .ok none
  | .renewal _ | .call (.renew _) | .call (.signIn ..) | .call .getProfile | .call .listDuels
  | .call (.requestTransaction _) | .call (.finalize ..) | .call (.resolve _) => .error .authExpired

/-- Nobody answers in time. -/
def unanswered : (w : Wait) → w.Answer
  | .call (.connectWallet _) | .call (.signMessage ..) | .call (.sendTransaction ..)
  | .call (.disconnectWallet _) => .late
  | .renewal _ | .call (.renew _) | .call (.signIn ..) | .call .getProfile | .call .listDuels
  | .call (.requestTransaction _) | .call (.finalize ..) | .call (.resolve _)
  | .call (.readBalance ..) => .error (.networkFailure "")

theorem not_brings_unanswered (setting : Setting) (w : Wait) :
    ¬ Brings setting (.answered w (unanswered w)) := by
  rcases w with renewal | call
  · exact id
  · cases call with
    | connectWallet handle =>
      rintro ⟨address, h⟩
      exact nomatch h
    | readBalance ledger account =>
      rintro ⟨found, h⟩
      exact nomatch h
    | _ => exact id

theorem not_overtaken {t : Traffic} {n : Nat} (h : t.requests.length ≤ n + 1) :
    ¬ t.Overtaken n := by
  rintro ⟨m, hlt, hm⟩
  have hlength := (List.getElem?_eq_some_iff.mp hm).1
  omega

/-- Somebody connects the wallet, and comes again for a signature. Then the wallet is disconnected,
and only after that the second time runs out. -/
theorem disconnected_for_good_sample :
    let now : Timestamp := { seconds := 0, nanos := 0 }
    let address : Address := ⟨.zero 32⟩
    let before := [(now, .call (.connect false)), (now, .answer 0 (agreed address))]
    let since := [(now, .call (.connect true)), (now, .call .disconnect),
      (now, .answer 1 unanswered), (now, .answer 2 (agreed address))]
    Orderly openSetting (start {}) before ∧ Orderly openSetting (start {}) (before ++ since) ∧
      ((start {}).run openSetting before).state.wallet.address = some address ∧
      (∃ handle ledger,
        ((start {}).run openSetting before).state.wallet.provider = some handle ∧
          ∀ now payload tx, Transaction.ofBase64 payload = .ok tx →
            (((start {}).run openSetting before).step openSetting
              (now, .call (.submit payload))).Waits 1 (.call (.sendTransaction handle ledger tx))) ∧
      ((start {}).run openSetting (before ++ since)).state.wallet = {} := by
  intro now address before since
  have hbefore : Orderly openSetting (start {}) before :=
    ⟨id, fun h => not_overtaken (by decide) h.1, trivial⟩
  have hsince : Orderly openSetting (start {}) (before ++ since) := by
    refine ⟨id, ?_, id, id, ?_, ?_, trivial⟩
    · rintro ⟨hovertaken, -⟩
      exact not_overtaken (by decide) hovertaken
    · rintro ⟨-, w, -, hbrings⟩
      exact not_brings_unanswered openSetting w hbrings
    · rintro ⟨hovertaken, -⟩
      exact not_overtaken (by decide) hovertaken
  refine ⟨hbefore, hsince, rfl, ?_, ?_⟩
  · exact (disconnected_for_good openSetting {} before hbefore).2 nofun
  · exact (disconnected_for_good openSetting {} (before ++ since) hsince).1 (by decide +kernel)

/-- What is not so in every run. A wallet that was asked to connect answers when it was disconnected
already, and the client takes it for connected, without a handle. And a balance that is read late
is kept. -/
theorem late_answers :
    let now : Timestamp := { seconds := 0, nanos := 0 }
    let address : Address := ⟨.zero 32⟩
    let connected := (start {}).run openSetting [(now, .call (.connect false)),
      (now, .call .disconnect), (now, .answer 0 (agreed address)), (now, .answer 1 (agreed address))]
    let balanced := (start {}).run openSetting [(now, .call (.balance (some address))),
      (now, .call .disconnect), (now, .answer 0 (agreed address))]
    (connected.callers.map (·.rest) = [.done (.connected (.ok { address })), .done .disconnected] ∧
      connected.requests.getLast? = some .disconnect ∧
      connected.state.wallet = { phase := .connected, address := some address }) ∧
    (balanced.callers.map (·.rest) = [.done (.balance (.ok (.zero 6))), .done .disconnected] ∧
      balanced.requests.getLast? = some .disconnect ∧
      balanced.state.wallet = { balance := some (.zero 6) }) := by
  refine ⟨⟨rfl, rfl, rfl⟩, rfl, rfl, rfl⟩

end Traffic

end Wager.Wallet
