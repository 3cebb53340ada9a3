import Wager.Client.Connection
import Wager.Proofs.Client.Handles
import Wager.Proofs.Client.Segments

/-!
# What the operations of a wallet do between their waits

The operations of a client's wallet, taken apart at their waits.

For each operation it is listed what may happen in a segment: by what it begins, how it is decided
where it goes, where it stops, and what it leaves. The lists are complete, since the operations keep
to them, and they are all that is needed to reason about several operations on one wallet.

While a wallet is waited for nothing is known of the client, so no segment relies on what an earlier
one has left. Whether one should is another matter: a wallet that has been connected is written down
whatever has happened meanwhile (`Connecting.connected`), but a signature that has been given only
ends the signing that is still going on (`Wallet.finishSigning`).

## Main definitions

* `Client.Connecting`, `Client.ReadingBalance`, `Client.Submitting`, `Client.Disconnecting`: What
  may happen in a segment of an operation.
* `Client.Sending`: How submitting goes on when the wallet is connected.

## Theorems

* `Client.Connecting.of_ok`: How a wallet comes to be connected.
* `Client.Submitting.eq_of_held`: When a transaction reaches the wallet.
* `Client.keeps_connect`, `Client.keeps_balance`, `Client.keeps_submit`, `Client.keeps_disconnect`:
  The operations keep to what is listed.
-/

namespace Wager.Client

/-! ### Moves -/

/-- What may happen while connecting. Nothing is said of the notices. -/
inductive Connecting (setting : Setting) (sign : Bool) : Segment (Result Wallet.Connection)
  | reused (c : Client) (address : Address) (hsign : sign = false)
    (haddress : c.wallet.address = some address) :
    Connecting setting sign .called c (.ends (.ok { address })) c
  | noLedger (c c₁ : Client) (e : Error) (notices notices' : Notices)
    (haddress : sign = false → c.wallet.address = none)
    (hledger : { c with notices }.openLedger setting = (.error e, c₁)) :
    Connecting setting sign .called c (.ends (.error (.connectFailed e)))
      { c₁ with wallet := c₁.wallet.fail, notices := notices' }
  | noWallet (c c₁ c₂ : Client) (ledger : Nat) (e : Error) (notices notices' : Notices)
    (haddress : sign = false → c.wallet.address = none)
    (hledger : { c with notices }.openLedger setting = (.ok ledger, c₁))
    (hwallet : c₁.openWallet setting = (.error e, c₂)) :
    Connecting setting sign .called c (.ends (.error (.connectFailed e)))
      { c₂ with wallet := c₂.wallet.fail, notices := notices' }
  | asked (c c₁ c₂ : Client) (ledger handle : Nat) (notices : Notices)
    (haddress : sign = false → c.wallet.address = none)
    (hledger : { c with notices }.openLedger setting = (.ok ledger, c₁))
    (hwallet : c₁.openWallet setting = (.ok handle, c₂)) :
    Connecting setting sign .called c (.waits (.call (.connectWallet handle)))
      { c₂ with wallet := { c₂.wallet with phase := .connecting } }
  | rejected (c : Client) (handle : Nat) (answer : Timely Address) (e : Error) (notices : Notices)
    (hanswer : inTime setting "connect" answer = .error e) :
    Connecting setting sign (.answered (.call (.connectWallet handle)) answer) c
      (.ends (.error (.connectFailed e))) { c with wallet := c.wallet.fail, notices }
  | connected (c : Client) (handle : Nat) (answer : Timely Address) (address : Address)
    (notices : Notices) (hsign : sign = false)
    (hanswer : inTime setting "connect" answer = .ok address) :
    Connecting setting sign (.answered (.call (.connectWallet handle)) answer) c
      (.ends (.ok { address })) { c with wallet := c.wallet.connect address, notices }
  | challenged (c : Client) (handle : Nat) (answer : Timely Address) (address : Address)
    (hsign : sign = true) (hanswer : inTime setting "connect" answer = .ok address) :
    Connecting setting sign (.answered (.call (.connectWallet handle)) answer) c
      (.waits (.call (.signMessage handle address.text)))
      { c with wallet := { c.wallet.connect address with phase := .signingChallenge } }
  | unsigned (c : Client) (handle : Nat) (message : String) (answer : Timely (List UInt8))
    (e : Error) (notices : Notices) (hsign : sign = true)
    (hanswer : inTime setting "challenge signing" answer = .error e) :
    Connecting setting sign (.answered (.call (.signMessage handle message)) answer) c
      (.ends (.error (.connectFailed e))) { c with wallet := c.wallet.fail, notices }
  | signed (c : Client) (handle : Nat) (address : Address) (answer : Timely (List UInt8))
    (bytes : List UInt8) (notices : Notices) (hsign : sign = true)
    (hanswer : inTime setting "challenge signing" answer = .ok bytes) :
    Connecting setting sign (.answered (.call (.signMessage handle address.text)) answer) c
      (.ends (.ok { address, signature := some (Base64.encode bytes) }))
      { c with wallet := c.wallet.finishSigning, notices }

/-- What may happen while a balance is read. -/
inductive ReadingBalance (setting : Setting) (known : Option Address) : Segment (Result TokenAmount)
  | noOwner (c : Client) (howner : c.wallet.owner? known = none) :
    ReadingBalance setting known .called c (.ends (.error .walletUnavailable)) c
  | noLedger (c c₁ : Client) (owner : Address) (e : Error)
    (howner : c.wallet.owner? known = some owner)
    (hledger : c.openLedger setting = (.error e, c₁)) :
    ReadingBalance setting known .called c (.ends (.error e)) c₁
  | asked (c c₁ : Client) (owner : Address) (ledger : Nat)
    (howner : c.wallet.owner? known = some owner)
    (hledger : c.openLedger setting = (.ok ledger, c₁)) :
    ReadingBalance setting known .called c
      (.waits (.call (.readBalance ledger (setting.mint.accountOf owner)))) c₁
  | unread (c : Client) (ledger : Nat) (account : Address) (e : Error) :
    ReadingBalance setting known (.answered (.call (.readBalance ledger account)) (.error e)) c
      (.ends (.error e)) c
  | read (c : Client) (ledger : Nat) (account : Address) (found : Option TokenAmount) :
    ReadingBalance setting known (.answered (.call (.readBalance ledger account)) (.ok found)) c
      (.ends (.ok (found.getD (.zero setting.mint.decimals))))
      { c with wallet := { c.wallet with
        balance := some (found.getD (.zero setting.mint.decimals)) } }

/-- How submitting goes on when the wallet is connected. -/
inductive Sending (setting : Setting) (payload : String) (c : Client) :
    Stop (Result String) → Client → Prop
  | undecodable (e : Error) (hdecode : Transaction.ofBase64 payload = .error e) :
    Sending setting payload c (.ends (.error e)) c
  | noHandle (tx : Transaction) (hdecode : Transaction.ofBase64 payload = .ok tx)
    (hprovider : c.wallet.provider = none) :
    Sending setting payload c (.ends (.error .walletUnavailable)) c
  | noLedger (tx : Transaction) (handle : Nat) (e : Error) (c₁ : Client)
    (hdecode : Transaction.ofBase64 payload = .ok tx)
    (hprovider : c.wallet.provider = some handle)
    (hledger : c.openLedger setting = (.error e, c₁)) :
    Sending setting payload c (.ends (.error e)) c₁
  | asked (tx : Transaction) (handle ledger : Nat) (c₁ : Client)
    (hdecode : Transaction.ofBase64 payload = .ok tx)
    (hprovider : c.wallet.provider = some handle)
    (hledger : c.openLedger setting = (.ok ledger, c₁)) :
    Sending setting payload c (.waits (.call (.sendTransaction handle ledger tx)))
      { c₁ with wallet := { c₁.wallet with phase := .signingTransaction } }

/-- What may happen while a transaction is submitted: connecting, and in the segment in which the
wallet turns out to be connected, sending. -/
inductive Submitting (setting : Setting) (payload : String) : Segment (Result String)
  | connecting (cause : Cause) (c c' : Client) (w : Wait)
    (hconnects : Connecting setting false cause c (.waits w) c') :
    Submitting setting payload cause c (.waits w) c'
  | unconnected (cause : Cause) (c c' : Client) (e : Error)
    (hconnects : Connecting setting false cause c (.ends (.error e)) c') :
    Submitting setting payload cause c (.ends (.error e)) c'
  | sending (cause : Cause) (c c₁ c' : Client) (connection : Wallet.Connection)
    (x : Stop (Result String))
    (hconnects : Connecting setting false cause c (.ends (.ok connection)) c₁)
    (hsends : Sending setting payload c₁ x c') : Submitting setting payload cause c x c'
  | sent (c : Client) (handle ledger : Nat) (tx : Transaction) (answer : Timely String) :
    Submitting setting payload (.answered (.call (.sendTransaction handle ledger tx)) answer) c
      (.ends (inTime setting "transaction signing" answer))
      { c with wallet := c.wallet.finishSigning }

/-- What may happen while a wallet is disconnected. -/
inductive Disconnecting : Segment Unit
  | silently (c : Client) (hprovider : c.wallet.provider = none) :
    Disconnecting .called c (.ends ()) { c with wallet := {} }
  | asked (c : Client) (handle : Nat) (hprovider : c.wallet.provider = some handle) :
    Disconnecting .called c (.waits (.call (.disconnectWallet handle))) { c with wallet := {} }
  | told (c : Client) (handle : Nat) (answer : Timely Unit) :
    Disconnecting (.answered (.call (.disconnectWallet handle)) answer) c (.ends ()) c

/-- A wallet that is connected without a signature was connected before, or has just been. -/
theorem Connecting.of_ok {setting : Setting} {cause : Cause} {c c' : Client}
    {connection : Wallet.Connection}
    (h : Connecting setting false cause c (.ends (.ok connection)) c') :
    cause = .called ∧ c' = c ∧ c.wallet.address = some connection.address ∨
      ∃ (handle : Nat) (answer : Timely Address) (notices : Notices),
        cause = .answered (.call (.connectWallet handle)) answer ∧
          inTime setting "connect" answer = .ok connection.address ∧
            c' = { c with wallet := c.wallet.connect connection.address, notices } := by
  cases h with
  | reused c address hsign haddress => exact Or.inl ⟨rfl, rfl, haddress⟩
  | connected c handle answer address notices hsign hanswer =>
    exact Or.inr ⟨handle, answer, notices, rfl, hanswer, rfl⟩
  | signed c handle address answer bytes notices hsign hanswer => exact nomatch hsign

/-- A transaction that can be read reaches the wallet at once if there is an address and both handles
are held. -/
theorem Submitting.eq_of_held {setting : Setting} {payload : String} {c c' : Client}
    {x : Stop (Result String)} (h : Submitting setting payload .called c x c')
    (haddress : c.wallet.address ≠ none) {handle ledger : Nat}
    (hprovider : c.wallet.provider = some handle) (hledger : c.wallet.ledger = some ledger)
    {tx : Transaction} (hdecode : Transaction.ofBase64 payload = .ok tx) :
    x = .waits (.call (.sendTransaction handle ledger tx)) := by
  have hopen := openLedger_of_held setting hledger
  cases h with
  | connecting cause c c' w hconnects =>
    cases hconnects with
    | asked c c₁ c₂ ledger handle notices hnone hledger hwallet => exact absurd (hnone rfl) haddress
  | unconnected cause c c' e hconnects =>
    cases hconnects with
    | noLedger c c₁ e notices notices' hnone hledger => exact absurd (hnone rfl) haddress
    | noWallet c c₁ c₂ ledger e notices notices' hnone hledger hwallet =>
      exact absurd (hnone rfl) haddress
  | sending cause c c₁ c' connection x hconnects hsends =>
    rcases hconnects.of_ok with ⟨-, rfl, -⟩ | ⟨handle, answer, notices, hcause, -, -⟩
    · cases hsends with
      | undecodable e hfault => exact nomatch hdecode.symm.trans hfault
      | noHandle tx' hdecode' hnone => exact nomatch hprovider.symm.trans hnone
      | noLedger tx' handle' e c₂ hdecode' hprovider' hfault =>
        exact nomatch hopen.symm.trans hfault
      | asked tx' handle' ledger' c₂ hdecode' hprovider' hledger' =>
        rw [hdecode, Except.ok.injEq] at hdecode'
        rw [hprovider, Option.some.injEq] at hprovider'
        rw [hopen, Prod.mk.injEq, Except.ok.injEq] at hledger'
        rw [hdecode', hprovider', hledger'.1]
    · -- Nobody has answered yet.
      exact nomatch hcause

/-! ### Operations -/

variable (setting : Setting)

/-- What is left when an attempt to connect has come to its end. -/
def afterTrying (outcome : Result Wallet.Connection) (c : Client) : Client :=
  match outcome with
  | .ok _ => c
  | .error _ => { c with wallet := c.wallet.fail }

theorem along_tryConnect (sign : Bool) (c : Client) (notices : Notices)
    (haddress : sign = false → c.wallet.address = none) :
    Along (fun cause c₀ w => Connecting setting sign cause c₀ (.waits w)) .called c
      { c with notices } (tryConnect setting sign).run fun outcome cause c₀ c => ∀ notices,
        Connecting setting sign cause c₀ (.ends (outcome.mapError .connectFailed))
          { afterTrying outcome c with notices } := by
  refine .attempt (.openLedger fun outcome c₁ hledger => ?_)
  cases outcome with
  | error e => exact fun _ => .noLedger c c₁ e notices _ haddress hledger
  | ok ledger =>
    refine .attempt (.openWallet fun outcome c₂ hwallet => ?_)
    cases outcome with
    | error e => exact fun _ => .noWallet c c₁ c₂ ledger e notices _ haddress hledger hwallet
    | ok handle =>
      -- Here the first segment ends, and nothing is known of the client that the next one finds.
      refine .lift (.changeWallet (.attempt (.map (.ask ?_ fun answer c₃ => ?_))))
      · exact .asked c c₁ c₂ ledger handle notices haddress hledger hwallet
      cases hanswer : inTime setting "connect" answer with
      | error e => exact fun _ => .rejected c₃ handle answer e _ hanswer
      | ok address =>
        refine .lift (.changeWallet ?_)
        cases sign with
        | false => exact fun _ => .connected c₃ handle answer address _ rfl hanswer
        | true =>
          refine .lift (.changeWallet (.attempt (.map (.ask ?_ fun answer' c₄ => ?_))))
          · exact .challenged c₃ handle answer address rfl hanswer
          cases hanswer' : inTime setting "challenge signing" answer' with
          | error e => exact fun _ => .unsigned c₄ handle address.text answer' e _ rfl hanswer'
          | ok bytes =>
            refine .lift (.changeWallet ?_)
            exact fun _ => .signed c₄ handle address answer' bytes _ rfl hanswer'

theorem keeps_connect (sign : Bool) : Keeps (Connecting setting sign) (connect setting sign) := by
  intro c
  refine .bind (.look ?_)
  cases sign with
  | false =>
    cases haddress : c.wallet.address with
    | some address => exact .reused c address rfl haddress
    | none =>
      refine .bind (.pure ?_)
      refine .bind ((along_tryConnect setting false c c.notices fun _ => haddress).imp
        (fun _ _ _ _ h => h) ?_)
      intro outcome cause c₀ c' hends
      refine .bind (.pure ?_)
      cases outcome with
      | ok connection => exact hends c'.notices
      | error e => exact .bind (.changeWallet (hends c'.notices))
  | true =>
    -- The prompt is shown at once and taken away at the end, whatever the outcome.
    refine .bind (.map (.inNotices fun id notices => ?_))
    refine .bind ((along_tryConnect setting true c notices nofun).imp (fun _ _ _ _ h => h) ?_)
    intro outcome cause c₀ c' hends
    refine .bind (.inNotices fun _ notices => ?_)
    cases outcome with
    | ok connection => exact hends notices
    | error e => exact .bind (.changeWallet (hends notices))

theorem keeps_balance (known : Option Address) :
    Keeps (ReadingBalance setting known) (balance setting known) := by
  intro c
  refine .lift (.look ?_)
  cases howner : c.wallet.owner? known with
  | none => exact .noOwner c howner
  | some owner =>
    refine .attempt (.openLedger fun outcome c₁ hledger => ?_)
    cases outcome with
    | error e => exact .noLedger c c₁ owner e howner hledger
    | ok ledger =>
      refine .attempt (.ask (.asked c c₁ owner ledger howner hledger) fun answer c₂ => ?_)
      cases answer with
      | error e => exact .unread c₂ ledger _ e
      | ok found => exact .lift (.changeWallet (.read c₂ ledger _ found))

theorem keeps_submit (payload : String) :
    Keeps (Submitting setting payload) (submit setting payload) := by
  intro c
  refine .attempt ((keeps_connect setting false c).imp (fun _ _ _ _ h => .connecting _ _ _ _ h) ?_)
  intro outcome cause c₀ c₁ hconnects
  -- Sending goes on in the segment in which the wallet turns out to be connected.
  cases outcome with
  | error e => exact .unconnected cause c₀ c₁ e hconnects
  | ok connection =>
    generalize hdecode : Transaction.ofBase64 payload = decoded
    refine .attempt (.pure ?_)
    cases decoded with
    | error e => exact .sending cause c₀ c₁ c₁ connection _ hconnects (.undecodable e hdecode)
    | ok tx =>
      refine .lift (.look ?_)
      cases hprovider : c₁.wallet.provider with
      | none =>
        exact .sending cause c₀ c₁ c₁ connection _ hconnects (.noHandle tx hdecode hprovider)
      | some handle =>
        refine .attempt (.openLedger fun outcome c₂ hledger => ?_)
        cases outcome with
        | error e =>
          exact .sending cause c₀ c₁ c₂ connection _ hconnects
            (.noLedger tx handle e c₂ hdecode hprovider hledger)
        | ok ledger =>
          refine .lift (.changeWallet ?_)
          refine .lift (.ask ?_ fun answer c₃ => ?_)
          · exact .sending cause c₀ c₁ _ connection _ hconnects
              (.asked tx handle ledger c₂ hdecode hprovider hledger)
          refine .lift (.changeWallet ?_)
          exact .sent c₃ handle ledger tx answer

theorem keeps_disconnect : Keeps Disconnecting disconnect := by
  intro c
  refine .bind (.atomically fun _ => ?_)
  cases hprovider : c.wallet.provider with
  | none => exact .silently c hprovider
  | some handle =>
    refine .bind (.ask (.asked c handle hprovider) fun answer c' => ?_)
    exact .told c' handle answer

end Wager.Client
