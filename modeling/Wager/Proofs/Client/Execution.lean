import Wager.Client.Execution
import Wager.Proofs.Client.Accounts
import Wager.Proofs.Notices.Fading

/-!
# Executed actions

What executing an action does, from the request to the notice, whatever the others do.

The server, the wallet and the ledger may fail at every step, or answer too late, and while the
action waits the client may change in any way. `Execution` is what can be relied on all the same.
The first failure ends it: what follows a failed deed is nothing but the notice, and the outcome is
the error of that deed. An outcome that is an error without a failed deed comes from a transaction
that cannot be decoded or from a wallet that was disconnected meanwhile.

The proof follows the parts of the operation. How each part goes is listed, case by case, and for
each of these lists its deeds are shown to account for its outcome.

## Main definitions

* `Client.Tries`, `Client.Connects`, `Client.Submits`, `Client.Performs`: How the parts go.
* `Client.Execution`: What holds of an executed action.

## Theorems

* `Client.does_tryConnect`, `Client.does_connect`, `Client.does_submit`, `Client.does_perform`: The
  parts go as listed.
* `Client.Performs.accounts`: The deeds account for the outcome.
* `Client.execute_end_to_end`: What holds of every executed action.
-/

namespace Wager.Client

/-! ### Connecting -/

/-- How an attempt to connect without a signature goes. -/
inductive Tries (setting : Setting) : List Deed → Result Wallet.Connection → Prop
  | noLedger (e : Error) : Tries setting [.tried .ledger (.error e)] (.error e)
  | noWallet (opens : List Deed) (ledger : Nat) (e : Error)
    (hledger : Opens .ledger opens (.ok ledger)) :
    Tries setting (opens ++ [.tried .wallet (.error e)]) (.error e)
  | asked (opens opens' : List Deed) (ledger wallet : Nat) (answer : Timely Address)
    (hledger : Opens .ledger opens (.ok ledger)) (hwallet : Opens .wallet opens' (.ok wallet)) :
    Tries setting (opens ++ (opens' ++ [.asked (.call (.connectWallet wallet)) answer]))
      ((inTime setting "connect" answer).map fun address => { address })

/-- How connecting without a signature goes. -/
inductive Connects (setting : Setting) (found : Client) :
    List Deed → Result Wallet.Connection → Prop
  | reused (address : Address) (haddress : found.wallet.address = some address) :
    Connects setting found [] (.ok { address })
  | anew (ds : List Deed) (outcome : Result Wallet.Connection)
    (haddress : found.wallet.address = none) (htries : Tries setting ds outcome) :
    Connects setting found ds (outcome.mapError .connectFailed)

section

variable {τ : Type} (e : Surroundings τ) (s : Client × τ)

theorem does_tryConnect : e.Does s (tryConnect e.setting false).run
    fun ds outcome _ => Tries e.setting ds outcome := by
  -- A handle that was held cannot fail to be opened, so a failure has its attempt.
  refine .attempt (.openLedger fun opens outcome c hledger => ?_)
  cases outcome with
  | error err =>
    cases hledger
    exact .noLedger err
  | ok ledger =>
    refine .attempt (.openWallet fun opens' outcome c' hwallet => ?_)
    cases outcome with
    | error err =>
      cases hwallet
      exact .noWallet opens ledger err hledger
    | ok wallet =>
      refine .lift (.changeWallet ?_)
      -- Whether it succeeds or not, the same has been done.
      refine .attempt (.map (.ask fun answer s' _ => ?_))
      have hasked : Tries e.setting _ _ := .asked opens opens' ledger wallet answer hledger hwallet
      cases hanswer : inTime e.setting "connect" answer with
      | error err =>
        rw [hanswer] at hasked
        exact hasked
      | ok address =>
        rw [hanswer] at hasked
        exact .lift (.changeWallet hasked)

theorem does_connect : e.Does s (connect e.setting false)
    fun ds outcome _ => Connects e.setting s.1 ds outcome := by
  refine .bind (.look ?_)
  cases haddress : s.1.wallet.address with
  | some address => exact .reused address haddress
  | none =>
    -- Without a signature there is no prompt to show or to take away.
    refine .bind (.pure _ (.bind ((does_tryConnect e s).imp ?_)))
    intro ds outcome s' htries
    have hanew := Connects.anew ds outcome haddress htries
    refine .bind (.pure _ ?_)
    cases outcome with
    | ok connection =>
      refine .pure _ ?_
      simp only [List.nil_append, List.append_nil]
      exact hanew
    | error err =>
      refine .bind (.changeWallet (.pure _ ?_))
      simp only [List.nil_append, List.append_nil]
      exact hanew

end

theorem Tries.accounts {setting : Setting} {ds : List Deed} {outcome : Result Wallet.Connection}
    (h : Tries setting ds outcome) :
    Accounts setting (decide (.connectWallet ∉ ds.filterMap Deed.role?)) [.connectWallet] ds
      (outcome.mapError .connectFailed) := by
  cases h with
  | noLedger e =>
    -- Nobody has been asked, so the cause is wrapped.
    exact (Accounts.single (.tried .ledger (.error e)) rfl
      fun _ h => Option.some.inj h ▸ rfl).sublist (List.nil_sublist _)
  | noWallet opens ledger e hledger =>
    refine ((hledger.accounts setting _).append
      (.single (.tried .wallet (.error e)) rfl ?_)).sublist (List.nil_sublist _)
    exact fun _ h => Option.some.inj h ▸ rfl
  | asked opens opens' ledger wallet answer hledger hwallet =>
    refine (hledger.accounts setting _).append ((hwallet.accounts setting _).append
      (.single (.asked (.call (.connectWallet wallet)) answer) rfl ?_))
    intro err h
    simp only [Deed.failure?, ← errorOf_inTime] at h
    cases hanswer : inTime setting "connect" answer with
    | ok address =>
      rw [hanswer] at h
      exact nomatch h
    | error e =>
      rw [hanswer] at h
      exact Option.some.inj h ▸ rfl

/-- A wallet that has been connected was asked. -/
theorem Tries.asks {setting : Setting} {ds : List Deed} {outcome : Result Wallet.Connection}
    (h : Tries setting ds outcome) :
    (∃ e, outcome = .error e) ∨ .connectWallet ∈ ds.filterMap Deed.role? := by
  cases h with
  | noLedger e => exact Or.inl ⟨e, rfl⟩
  | noWallet opens ledger e hledger => exact Or.inl ⟨e, rfl⟩
  | asked opens opens' ledger wallet answer hledger hwallet =>
    right
    simp only [List.filterMap_append, List.mem_append]
    exact Or.inr (Or.inr (List.mem_singleton_self _))

theorem Tries.fails {setting : Setting} {ds : List Deed} {outcome : Result Wallet.Connection}
    (h : Tries setting ds outcome) (e : Error) (he : outcome = .error e) :
    ∃ d ∈ ds, (d.failure? setting (decide (.connectWallet ∉ ds.filterMap Deed.role?))).isSome := by
  cases h with
  | noLedger e => exact ⟨_, List.mem_singleton_self _, rfl⟩
  | noWallet opens ledger e hledger =>
    exact ⟨_, List.mem_append_right _ (List.mem_singleton_self _), rfl⟩
  | asked opens opens' ledger wallet answer hledger hwallet =>
    refine ⟨_, List.mem_append_right _ (List.mem_append_right _ (List.mem_singleton_self _)), ?_⟩
    cases hanswer : inTime setting "connect" answer with
    | ok address =>
      rw [hanswer] at he
      exact nomatch he
    | error e =>
      simp only [Deed.failure?, ← errorOf_inTime, hanswer]
      rfl

namespace Connects

variable {setting : Setting} {found : Client} {ds : List Deed} {outcome : Result Wallet.Connection}

theorem accounts (h : Connects setting found ds outcome) :
    Accounts setting (isConnecting found ds) [.connectWallet] ds outcome := by
  cases h with
  | reused address haddress => exact Accounts.nil.sublist (List.nil_sublist _)
  | anew ds outcome haddress htries =>
    simp only [isConnecting, haddress, Option.isNone_none, Bool.true_and]
    exact htries.accounts

/-- Once the wallet is connected the action is no longer connecting it. -/
theorem isConnecting_eq_false (h : Connects setting found ds outcome)
    {connection : Wallet.Connection} (ho : outcome = .ok connection) :
    isConnecting found ds = false := by
  cases h with
  | reused address haddress =>
    simp only [isConnecting, haddress, Option.isNone_some, Bool.false_and]
  | anew ds outcome haddress htries =>
    -- It has an address because it was asked for one.
    rcases htries.asks with ⟨e, rfl⟩ | hasks
    · cases ho
    · simp only [isConnecting, hasks, not_true_eq_false, decide_false, Bool.and_false]

theorem fails (h : Connects setting found ds outcome) (e : Error) (he : outcome = .error e) :
    ∃ d ∈ ds, (d.failure? setting (isConnecting found ds)).isSome := by
  cases h with
  | reused address haddress => exact nomatch he
  | anew ds outcome haddress htries =>
    simp only [isConnecting, haddress, Option.isNone_none, Bool.true_and]
    cases outcome with
    | ok connection => cases he
    | error e' => exact htries.fails e' rfl

end Connects

/-! ### Submitting -/

/-- How submitting goes, from the client that it found to the one that it left. -/
inductive Submits (setting : Setting) (payload : String) (found : Client) :
    List Deed → Result String → Client → Prop
  | unconnected (ds : List Deed) (e : Error) (left : Client)
    (hconnects : Connects setting found ds (.error e)) :
    Submits setting payload found ds (.error e) left
  | undecodable (ds : List Deed) (connection : Wallet.Connection) (e : Error) (left : Client)
    (hconnects : Connects setting found ds (.ok connection))
    (hdecode : Transaction.ofBase64 payload = .error e) :
    Submits setting payload found ds (.error e) left
  | noHandle (ds : List Deed) (connection : Wallet.Connection) (tx : Transaction) (left : Client)
    (hconnects : Connects setting found ds (.ok connection))
    (hdecode : Transaction.ofBase64 payload = .ok tx) (hprovider : left.wallet.provider = none) :
    Submits setting payload found ds (.error .walletUnavailable) left
  | noLedger (ds : List Deed) (connection : Wallet.Connection) (tx : Transaction) (e : Error)
    (left : Client) (hconnects : Connects setting found ds (.ok connection))
    (hdecode : Transaction.ofBase64 payload = .ok tx) :
    Submits setting payload found (ds ++ [.tried .ledger (.error e)]) (.error e) left
  | sent (ds opens : List Deed) (connection : Wallet.Connection) (tx : Transaction)
    (handle ledger : Nat) (answer : Timely String) (left : Client)
    (hconnects : Connects setting found ds (.ok connection))
    (hdecode : Transaction.ofBase64 payload = .ok tx) (hledger : Opens .ledger opens (.ok ledger)) :
    Submits setting payload found
      (ds ++ (opens ++ [.asked (.call (.sendTransaction handle ledger tx)) answer]))
      (inTime setting "transaction signing" answer) left

/-- How the three steps of an action go; `found` is the client after the first of them. -/
inductive Performs (setting : Setting) (a : Duel.Action) (found : Client) :
    List Deed → Result Json.Value → Client → Prop
  | refused (e : Error) (left : Client) :
    Performs setting a found [.asked (.call (.requestTransaction a)) (.error e)] (.error e) left
  | unsent (payload : String) (ds : List Deed) (e : Error) (left : Client)
    (hsubmits : Submits setting payload found ds (.error e) left) :
    Performs setting a found (.asked (.call (.requestTransaction a)) (.ok payload) :: ds)
      (.error e) left
  | finalized (payload : String) (ds : List Deed) (hash : String) (answer : Result Json.Value)
    (mid left : Client) (hsubmits : Submits setting payload found ds (.ok hash) mid) :
    Performs setting a found (.asked (.call (.requestTransaction a)) (.ok payload) ::
      (ds ++ [.asked (.call (.finalize a hash)) answer])) answer left

section

variable {τ : Type} (e : Surroundings τ) (s : Client × τ)

theorem does_submit (payload : String) : e.Does s (submit e.setting payload)
    fun ds outcome s' => Submits e.setting payload s.1 ds outcome s'.1 := by
  refine .attempt ((does_connect e s).imp ?_)
  intro ds outcome s' hconnects
  cases outcome with
  | error err => exact .unconnected ds err s'.1 hconnects
  | ok connection =>
    generalize hdecode : Transaction.ofBase64 payload = decoded
    refine .attempt (.pure _ ?_)
    cases decoded with
    | error err =>
      simp only [List.append_nil]
      exact .undecodable ds connection err s'.1 hconnects hdecode
    | ok tx =>
      refine .lift (.look ?_)
      cases hprovider : s'.1.wallet.provider with
      | none =>
        refine Surroundings.Does.pure _ ?_
        simp only [List.append_nil]
        exact .noHandle ds connection tx s'.1 hconnects hdecode hprovider
      | some handle =>
        refine .attempt (.openLedger fun opens outcome c hledger => ?_)
        cases outcome with
        | error err =>
          cases hledger
          exact .noLedger ds connection tx err c hconnects hdecode
        | ok ledger =>
          refine .lift (.changeWallet (.lift (.ask fun answer s'' _ => .lift (.changeWallet ?_))))
          refine Surroundings.Does.pure _ ?_
          simp only [List.nil_append, List.append_nil]
          exact .sent ds opens connection tx handle ledger answer _ hconnects hdecode hledger

theorem does_perform (a : Duel.Action) : e.Does s (perform e.setting a) fun ds outcome s' =>
    Performs e.setting a (e.answer (.call (.requestTransaction a)) s).2.1 ds outcome s'.1 := by
  refine .attempt (.ask fun answer s' hanswer => ?_)
  rw [hanswer]
  cases answer with
  | error err => exact .refused err s'.1
  | ok payload =>
    refine .attempt ((does_submit e s' payload).imp ?_)
    intro ds outcome s'' hsubmits
    cases outcome with
    | error err => exact .unsent payload ds err s''.1 hsubmits
    | ok hash =>
      refine .ask fun answer t _ => ?_
      exact .finalized payload ds hash answer s''.1 t.1 hsubmits

end

namespace Submits

variable {setting : Setting} {payload : String} {found left : Client} {ds : List Deed}
  {outcome : Result String}

theorem accounts (h : Submits setting payload found ds outcome left) :
    Accounts setting (isConnecting found ds) [.connectWallet, .sendTransaction] ds outcome := by
  cases h with
  | unconnected ds e left hconnects =>
    exact hconnects.accounts.of_error.sublist (.cons_cons _ (List.nil_sublist _))
  | undecodable ds connection e left hconnects hdecode =>
    exact hconnects.accounts.of_ok.sublist (.cons_cons _ (List.nil_sublist _))
  | noHandle ds connection tx left hconnects hdecode hprovider =>
    exact hconnects.accounts.of_ok.sublist (.cons_cons _ (List.nil_sublist _))
  | noLedger ds connection tx e left hconnects hdecode =>
    rw [isConnecting_append _ _ _ List.not_mem_nil]
    refine (hconnects.accounts.append (.single (.tried .ledger (.error e)) rfl ?_)).sublist
      (.cons_cons _ (List.nil_sublist _))
    -- The wallet is connected, so the cause is not wrapped.
    rw [hconnects.isConnecting_eq_false rfl]
    exact fun _ h => Option.some.inj h ▸ rfl
  | sent ds opens connection tx handle ledger answer left hconnects hdecode hledger =>
    have htail : Accounts setting (isConnecting found ds) [.sendTransaction]
        (opens ++ [.asked (.call (.sendTransaction handle ledger tx)) answer])
        (inTime setting "transaction signing" answer) := by
      refine (hledger.accounts setting _).append
        (.single (.asked (.call (.sendTransaction handle ledger tx)) answer) rfl ?_)
      intro e h
      simp only [Deed.failure?, ← errorOf_inTime] at h
      exact eq_error_of_errorOf h
    rw [isConnecting_append _ _ _ (htail.role_not_mem (by decide))]
    exact hconnects.accounts.append htail

/-- What the wallet is to send is what was decoded. -/
theorem decoded (h : Submits setting payload found ds outcome left) {handle ledger : Nat}
    {tx : Transaction} {answer : Timely String}
    (hd : .asked (.call (.sendTransaction handle ledger tx)) answer ∈ ds) :
    Transaction.ofBase64 payload = .ok tx := by
  -- Connecting sends nothing.
  have hnot : ∀ {ds : List Deed} {outcome : Result Wallet.Connection},
      Connects setting found ds outcome →
        .asked (.call (.sendTransaction handle ledger tx)) answer ∉ ds := by
    intro ds outcome hconnects
    exact hconnects.accounts.not_mem (by rw [Call.role]; decide)
  cases h with
  | unconnected ds e left hconnects => exact absurd hd (hnot hconnects)
  | undecodable ds connection e left hconnects hdecode => exact absurd hd (hnot hconnects)
  | noHandle ds connection tx left hconnects hdecode hprovider => exact absurd hd (hnot hconnects)
  | noLedger ds connection tx e left hconnects hdecode =>
    rcases List.mem_append.mp hd with hd | hd
    · exact absurd hd (hnot hconnects)
    · simp only [List.mem_singleton, reduceCtorEq] at hd
  | sent ds opens connection tx handle ledger answer left hconnects hdecode hledger =>
    rcases List.mem_append.mp hd with hd | hd
    · exact absurd hd (hnot hconnects)
    rcases List.mem_append.mp hd with hd | hd
    · exact absurd hd ((hledger.accounts setting false).not_mem List.not_mem_nil)
    · simp only [List.mem_singleton, Deed.asked.injEq, Wait.call.injEq, Call.sendTransaction.injEq]
        at hd
      rw [hd.1.2.2]
      exact hdecode

/-- What submitting gives is the signature that the wallet has answered in time. -/
theorem hash (h : Submits setting payload found ds outcome left) :
    ds.filterMap Deed.hash? = outcome.toOption.toList := by
  cases h with
  | unconnected ds e left hconnects =>
    exact hconnects.accounts.filterMap_hash? (by decide)
  | undecodable ds connection e left hconnects hdecode =>
    exact hconnects.accounts.filterMap_hash? (by decide)
  | noHandle ds connection tx left hconnects hdecode hprovider =>
    exact hconnects.accounts.filterMap_hash? (by decide)
  | noLedger ds connection tx e left hconnects hdecode =>
    rw [List.filterMap_append, hconnects.accounts.filterMap_hash? (by decide)]
    rfl
  | sent ds opens connection tx handle ledger answer left hconnects hdecode hledger =>
    rw [List.filterMap_append, List.filterMap_append,
      hconnects.accounts.filterMap_hash? (by decide),
      (hledger.accounts setting false).filterMap_hash? List.not_mem_nil]
    simp only [List.nil_append, List.filterMap_cons, List.filterMap_nil, Deed.hash?,
      ← toOption_inTime setting "transaction signing"]
    cases inTime setting "transaction signing" answer <;> rfl

/-- An error comes from a failed deed, from what cannot be decoded, or from a missing handle. -/
theorem explained (h : Submits setting payload found ds outcome left) (e : Error)
    (he : outcome = .error e) :
    (∃ d ∈ ds, (d.failure? setting (isConnecting found ds)).isSome) ∨
      Transaction.ofBase64 payload = .error e ∨
        (∃ tx, Transaction.ofBase64 payload = .ok tx) ∧ left.wallet.provider = none ∧
          e = .walletUnavailable := by
  cases h with
  | unconnected ds e' left hconnects => exact Or.inl (hconnects.fails e' rfl)
  | undecodable ds connection e' left hconnects hdecode =>
    right; left
    rw [hdecode, Except.error.inj he]
  | noHandle ds connection tx left hconnects hdecode hprovider =>
    exact Or.inr (Or.inr ⟨⟨tx, hdecode⟩, hprovider, (Except.error.inj he).symm⟩)
  | noLedger ds connection tx e left hconnects hdecode =>
    refine Or.inl ⟨_, List.mem_append_right _ (List.mem_singleton_self _), rfl⟩
  | sent ds opens connection tx handle ledger answer left hconnects hdecode hledger =>
    refine Or.inl ⟨_, List.mem_append_right _ (List.mem_append_right _
      (List.mem_singleton_self _)), ?_⟩
    simp only [Deed.failure?, ← errorOf_inTime, he]
    rfl

end Submits

namespace Performs

variable {setting : Setting} {a : Duel.Action} {found left : Client} {ds : List Deed}
  {outcome : Result Json.Value}

theorem accounts (h : Performs setting a found ds outcome left) :
    Accounts setting (isConnecting found ds)
      [.requestTransaction, .connectWallet, .sendTransaction, .finalize] ds outcome := by
  -- What follows an answered request may account for the outcome.
  have hrequested : ∀ (payload : String) (ds : List Deed) (outcome : Result Json.Value),
      Accounts setting (isConnecting found ds) [.connectWallet, .sendTransaction, .finalize] ds
        outcome →
      Accounts setting
        (isConnecting found (.asked (.call (.requestTransaction a)) (.ok payload) :: ds))
        [.requestTransaction, .connectWallet, .sendTransaction, .finalize]
        (.asked (.call (.requestTransaction a)) (.ok payload) :: ds) outcome := by
    intro payload ds outcome h
    rw [isConnecting_cons found _ ds (by simp only [Deed.role?, Call.role]; decide)]
    exact .append (b := payload) (.single (.asked (.call (.requestTransaction a)) (.ok payload)) rfl
      fun _ h => nomatch h) h
  cases h with
  | refused e left =>
    exact (Accounts.single (.asked (.call (.requestTransaction a)) (.error e)) rfl
      fun _ h => Option.some.inj h ▸ rfl).sublist (.cons_cons _ (List.nil_sublist _))
  | unsent payload ds e left hsubmits =>
    exact hrequested payload ds (.error e) (hsubmits.accounts.of_error.sublist (by decide))
  | finalized payload ds hash answer mid left hsubmits =>
    refine hrequested payload _ outcome ?_
    have hlast : Accounts setting (isConnecting found ds) [.finalize]
        [.asked (.call (.finalize a hash)) outcome] outcome :=
      .single (.asked (.call (.finalize a hash)) outcome) rfl fun _ h => eq_error_of_errorOf h
    rw [isConnecting_append _ _ _ (hlast.role_not_mem (by decide))]
    exact hsubmits.accounts.append hlast

/-- The server is told of each transaction that was sent in time, and of nothing else. -/
theorem finalized_eq (h : Performs setting a found ds outcome left) :
    ds.filterMap Deed.finalized?
      = (ds.filterMap Deed.hash?).map fun hash => (a, hash) := by
  cases h with
  | refused e left => rfl
  | unsent payload ds e left hsubmits =>
    simp only [List.filterMap_cons, Deed.finalized?, Deed.hash?, hsubmits.hash,
      hsubmits.accounts.filterMap_finalized? (by decide : Role.finalize ∉ _)]
    rfl
  | finalized payload ds hash answer mid left hsubmits =>
    simp only [List.filterMap_cons, List.filterMap_append, Deed.finalized?, Deed.hash?,
      hsubmits.hash, hsubmits.accounts.filterMap_finalized? (by decide : Role.finalize ∉ _)]
    rfl

/-- The outcome is a success if the server has said so when it was told. -/
theorem eq_ok_iff (h : Performs setting a found ds outcome left) (v : Json.Value) :
    outcome = .ok v ↔ ∃ hash, .asked (.call (.finalize a hash)) (.ok v) ∈ ds := by
  cases h with
  | refused e left =>
    simp only [reduceCtorEq, false_iff, not_exists]
    intro hash hd
    exact absurd (Deed.mem_of_mem_asked_cons hd nofun) List.not_mem_nil
  | unsent payload ds e left hsubmits =>
    simp only [reduceCtorEq, false_iff, not_exists]
    intro hash hd
    have hd := Deed.mem_of_mem_asked_cons hd nofun
    exact absurd hd (hsubmits.accounts.not_mem (by rw [Call.role]; decide))
  | finalized payload ds hash answer mid left hsubmits =>
    constructor
    · intro ho
      subst ho
      exact ⟨hash, List.mem_cons_of_mem _ (List.mem_append_right _ (List.mem_singleton_self _))⟩
    · rintro ⟨hash', hd⟩
      have hd := Deed.mem_of_mem_asked_cons hd nofun
      rcases List.mem_append.mp hd with hd | hd
      · exact absurd hd (hsubmits.accounts.not_mem (by rw [Call.role]; decide))
      · simp only [List.mem_singleton, Deed.asked.injEq, Wait.call.injEq, Call.finalize.injEq] at hd
        exact (eq_of_heq hd.2).symm

/-- What the wallet is to send is what the server has built. -/
theorem decoded (h : Performs setting a found ds outcome left) {handle ledger : Nat}
    {tx : Transaction} {answer : Timely String}
    (hd : .asked (.call (.sendTransaction handle ledger tx)) answer ∈ ds) :
    ∃ payload, .asked (.call (.requestTransaction a)) (.ok payload) ∈ ds ∧
      Transaction.ofBase64 payload = .ok tx := by
  cases h with
  | refused e left =>
    exact absurd (Deed.mem_of_mem_asked_cons hd nofun) List.not_mem_nil
  | unsent payload ds e left hsubmits =>
    refine ⟨payload, List.mem_cons_self, ?_⟩
    exact hsubmits.decoded (Deed.mem_of_mem_asked_cons hd nofun)
  | finalized payload ds hash answer mid left hsubmits =>
    refine ⟨payload, List.mem_cons_self, ?_⟩
    have hd := Deed.mem_of_mem_asked_cons hd nofun
    rcases List.mem_append.mp hd with hd | hd
    · exact hsubmits.decoded hd
    · exact absurd (Deed.mem_of_mem_asked_cons hd nofun) List.not_mem_nil

/-- The server is asked first, and if it refuses nothing else is done. -/
theorem requested (h : Performs setting a found ds outcome left) :
    ∃ answer rest, ds = .asked (.call (.requestTransaction a)) answer :: rest ∧
      ∀ e, answer = .error e → rest = [] := by
  cases h with
  | refused e left => exact ⟨.error e, [], rfl, fun _ _ => rfl⟩
  | unsent payload ds e left hsubmits => exact ⟨.ok payload, ds, rfl, fun _ h => nomatch h⟩
  | finalized payload ds hash answer mid left hsubmits =>
    exact ⟨.ok payload, _, rfl, fun _ h => nomatch h⟩

/-- An error comes from a failed deed, from what cannot be decoded, or from a missing handle. -/
theorem explained (h : Performs setting a found ds outcome left) (e : Error)
    (he : outcome = .error e) :
    (∃ d ∈ ds, d.failure? setting (isConnecting found ds) = some e) ∨
      ∃ payload, .asked (.call (.requestTransaction a)) (.ok payload) ∈ ds ∧
        (Transaction.ofBase64 payload = .error e ∨
          (∃ tx, Transaction.ofBase64 payload = .ok tx) ∧ left.wallet.provider = none ∧
            e = .walletUnavailable) := by
  -- Some deed has failed, and no other error than the outcome's can come from it.
  have hfailed : (∃ d ∈ ds, (d.failure? setting (isConnecting found ds)).isSome) →
      ∃ d ∈ ds, d.failure? setting (isConnecting found ds) = some e := by
    rintro ⟨d, hd, hsome⟩
    rcases Option.isSome_iff_exists.mp hsome with ⟨e', hfailure⟩
    have heq := h.accounts.failed d hd e' hfailure
    rw [he, Except.error.injEq] at heq
    exact ⟨d, hd, heq ▸ hfailure⟩
  cases h with
  | refused e left => exact Or.inl (hfailed ⟨_, List.mem_singleton_self _, rfl⟩)
  | unsent payload ds e left hsubmits =>
    rcases hsubmits.explained e rfl with ⟨d, hd, hsome⟩ | hrest
    · left
      refine hfailed ⟨d, List.mem_cons_of_mem _ hd, ?_⟩
      rw [isConnecting_cons found _ ds (by simp only [Deed.role?, Call.role]; decide)]
      exact hsome
    · rw [Except.error.injEq] at he
      subst he
      exact Or.inr ⟨payload, List.mem_cons_self, hrest⟩
  | finalized payload ds hash answer mid left hsubmits =>
    left
    refine hfailed ⟨_, List.mem_cons_of_mem _ (List.mem_append_right _
      (List.mem_singleton_self _)), ?_⟩
    subst he
    rfl

end Performs

/-! ### Executing -/

/-- What holds of an action that was executed: of its deeds, its outcome and the client that it
left. `found` is the client when the server had answered the first request. -/
structure Execution (setting : Setting) (a : Duel.Action) (found : Client) (ds : List Deed)
    (outcome : Result Json.Value) (left : Client) : Prop where
  /-- The server is asked first, and if it refuses nothing is done but the notice. -/
  requested : ∃ answer rest, ds = .asked (.call (.requestTransaction a)) answer :: rest ∧
    ∀ e, answer = .error e → ∀ d ∈ rest, d.isNotice = true
  /-- Nobody else is asked, the wallet before the server is told, and nobody twice. -/
  order : (ds.filterMap Deed.role?).Sublist
    [.requestTransaction, .connectWallet, .sendTransaction, .finalize]
  /-- The wallet is to send what the server has built. -/
  decoded : ∀ handle ledger tx answer,
    .asked (.call (.sendTransaction handle ledger tx)) answer ∈ ds →
      ∃ payload, .asked (.call (.requestTransaction a)) (.ok payload) ∈ ds ∧
        Transaction.ofBase64 payload = .ok tx
  /-- The server is told of each transaction that was sent in time, and of nothing else. -/
  finalized : ds.filterMap Deed.finalized?
    = (ds.filterMap Deed.hash?).map fun hash => (a, hash)
  /-- The outcome is a success if the server has said so when it was told. -/
  succeeded : ∀ v, outcome = .ok v ↔ ∃ hash, .asked (.call (.finalize a hash)) (.ok v) ∈ ds
  /-- The outcome is the error of a deed that failed. -/
  failed : ∀ d ∈ ds, ∀ e, d.failure? setting (isConnecting found ds) = some e → outcome = .error e
  /-- After a deed that failed nothing is done but the notice. -/
  stops : ds.Pairwise fun d d' =>
    d.failure? setting (isConnecting found ds) = none ∨ d'.isNotice = true
  /-- An error that no deed has caused comes from what the server has built, or from a wallet whose
  handle was given up meanwhile. -/
  explained : ∀ e, outcome = .error e →
    (∃ d ∈ ds, d.failure? setting (isConnecting found ds) = some e) ∨
      ∃ payload, .asked (.call (.requestTransaction a)) (.ok payload) ∈ ds ∧
        (Transaction.ofBase64 payload = .error e ∨
          (∃ tx, Transaction.ofBase64 payload = .ok tx) ∧ left.wallet.provider = none ∧
            e = .walletUnavailable)
  /-- There is one notice, which comes last and tells the outcome. -/
  noticed : ∃ done before, ds = done ++ [.noticed before left.notices] ∧
    (∀ d ∈ done, d.isNotice = false) ∧
    (∀ v, outcome = .ok v → before.Gains .success "Transaction confirmed" left.notices) ∧
    ∀ e, outcome = .error e → before.Gains .error e.userMessage left.notices

theorem Performs.execution {setting : Setting} {a : Duel.Action} {found left : Client}
    {ds : List Deed} {outcome : Result Json.Value} (h : Performs setting a found ds outcome left)
    (after : Notices)
    (hok : ∀ v, outcome = .ok v → left.notices.Gains .success "Transaction confirmed" after)
    (herror : ∀ e, outcome = .error e → left.notices.Gains .error e.userMessage after) :
    Execution setting a found (ds ++ [.noticed left.notices after]) outcome
      { left with notices := after } := by
  -- The notice asks nobody and does not fail.
  have hconnecting : isConnecting found (ds ++ [.noticed left.notices after])
      = isConnecting found ds := isConnecting_append found ds _ List.not_mem_nil
  have hmem : ∀ d ∈ ds ++ [.noticed left.notices after],
      d ∈ ds ∨ d = .noticed left.notices after := by
    intro d hd
    rwa [List.mem_append, List.mem_singleton] at hd
  refine ⟨?_, ?_, ?_, ?_, ?_, ?_, ?_, ?_, ?_⟩
  · rcases h.requested with ⟨answer, rest, rfl, hrest⟩
    refine ⟨answer, rest ++ [.noticed left.notices after], rfl, ?_⟩
    intro e he d hd
    rw [hrest e he, List.nil_append, List.mem_singleton] at hd
    rw [hd]
    rfl
  · rw [List.filterMap_append]
    exact (List.append_nil _).symm ▸ h.accounts.order
  · intro handle ledger tx answer hd
    rcases hmem _ hd with hd | heq
    · rcases h.decoded hd with ⟨payload, hrequest, hdecode⟩
      exact ⟨payload, List.mem_append_left _ hrequest, hdecode⟩
    · exact nomatch heq
  · rw [List.filterMap_append, List.filterMap_append, List.map_append, h.finalized_eq]
    rfl
  · intro v
    rw [h.eq_ok_iff v]
    constructor
    · rintro ⟨hash, hd⟩
      exact ⟨hash, List.mem_append_left _ hd⟩
    · rintro ⟨hash, hd⟩
      rcases hmem _ hd with hd | heq
      · exact ⟨hash, hd⟩
      · exact nomatch heq
  · rw [hconnecting]
    intro d hd e hfailure
    rcases hmem d hd with hd | rfl
    · exact h.accounts.failed d hd e hfailure
    · exact nomatch hfailure
  · rw [hconnecting]
    refine List.pairwise_append.mpr ⟨h.accounts.stops.imp Or.inl, List.pairwise_singleton .., ?_⟩
    intro d _ d' hd'
    rw [List.mem_singleton.mp hd']
    exact Or.inr rfl
  · rw [hconnecting]
    intro e he
    rcases h.explained e he with ⟨d, hd, hfailure⟩ | ⟨payload, hrequest, hrest⟩
    · exact Or.inl ⟨d, List.mem_append_left _ hd, hfailure⟩
    · exact Or.inr ⟨payload, List.mem_append_left _ hrequest, hrest⟩
  · exact ⟨ds, left.notices, rfl, h.accounts.quiet, hok, herror⟩

theorem notices_add_ne (ns : Notices) (now : Timestamp) (kind : Notice.Kind) (text : String)
    (lifetime : Option Nat) : (ns.add now kind text lifetime).2 ≠ ns := by
  intro heq
  have hid := congrArg Notices.nextId heq
  simp only [Notices.add, Notices.announce] at hid
  omega

/-- What holds of every action that is executed, whatever the others do. -/
theorem execute_end_to_end {τ : Type} (e : Surroundings τ) (a : Duel.Action) (s : Client × τ) :
    Execution e.setting a (e.answer (.call (.requestTransaction a)) s).2.1
      (e.deeds (execute e.setting a) s) (e.run (execute e.setting a) s).1
      (e.run (execute e.setting a) s).2.1 := by
  suffices h : e.Does s (execute e.setting a) fun ds outcome s' =>
      Execution e.setting a (e.answer (.call (.requestTransaction a)) s).2.1 ds outcome s'.1 from h
  refine .bind ((does_perform e s a).imp ?_)
  intro ds outcome s' hperforms
  -- Either outcome adds a notice, and the deeds before it are those of the action.
  cases outcome with
  | ok v =>
    refine .bind (.bind (.inNotices (notices_add_ne _ _ _ _ _) (.pure _ ?_)))
    refine Surroundings.Does.pure _ ?_
    exact hperforms.execution _ (fun _ _ => Notices.gains_add ..) (fun _ h => nomatch h)
  | error err =>
    refine .bind (.bind (.inNotices (notices_add_ne _ _ _ _ _) (.pure _ ?_)))
    refine Surroundings.Does.pure _ ?_
    refine hperforms.execution _ (fun _ h => nomatch h) ?_
    intro e' he'
    rw [← Except.error.inj he']
    exact Notices.gains_add ..

/-- A server that has built a transaction and believes what it is told, and a wallet that sends the
transaction in time. -/
def willing : Surroundings Unit where
  setting :=
    { mint := { address := ⟨.zero 32⟩, decimals := 6 }, patience := 60000
      openWallet := fun _ => .ok (), openLedger := fun _ => .ok () }
  clock _ := ⟨0, 0⟩
  answer
    | .call (.requestTransaction _) =>
      pure (.ok "AAAAAAADAwMDAwMDAwMDAwMDAwMDAwMDAwMDAwMDAwMDAwMDAwA=")
    | .call (.connectWallet _) => pure (.answered (.ok ⟨.zero 32⟩))
    | .call (.sendTransaction ..) => pure (.answered (.ok "5sig"))
    | .call (.finalize _ hash) => pure (.ok (.text hash))
    | .call (.signMessage ..) | .call (.disconnectWallet _) => pure .late
    | .renewal _ | .call (.renew _) | .call (.signIn ..) | .call .getProfile | .call .listDuels
    | .call (.resolve _) | .call (.readBalance ..) => pure (.error .authExpired)

/-- An action that is paid for: everybody is asked once, and the server is told what the wallet has
sent. -/
theorem execute_end_to_end_sample :
    let a : Duel.Action := .join { duelId := "1", answer := 0 }
    let ds := willing.deeds (execute willing.setting a) ({}, ())
    let outcome := (willing.run (execute willing.setting a) ({}, ())).1
    let left := (willing.run (execute willing.setting a) ({}, ())).2.1
    Execution willing.setting a {} ds outcome left ∧
      ds.filterMap Deed.role? = [.requestTransaction, .connectWallet, .sendTransaction, .finalize] ∧
      ds.filterMap Deed.hash? = ["5sig"] ∧ ds.filterMap Deed.finalized? = [(a, "5sig")] ∧
      outcome.toOption.map Json.Value.compact = some "\"5sig\"" ∧
      left.notices.items.map (·.text) = ["Transaction confirmed"] := by
  intro a ds outcome left
  have hexecution : Execution willing.setting a {} ds outcome left :=
    execute_end_to_end willing a ({}, ())
  have hhash : ds.filterMap Deed.hash? = ["5sig"] := by decide +kernel
  refine ⟨hexecution, by decide +kernel, hhash, ?_, by decide +kernel, by decide +kernel⟩
  rw [hexecution.finalized, hhash]
  rfl

end Wager.Client
