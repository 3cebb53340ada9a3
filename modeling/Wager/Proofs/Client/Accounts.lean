import Wager.Client.Connection
import Wager.Proofs.Client.Deeds

/-!
# Deeds that account for an outcome

What the deeds of a part of an executed action have to do with what the part comes to.

A part that fails has one deed that failed, the last one, and its error is what the part comes to.
So where a part succeeds no deed has failed, and the deeds of what follows may be added:
`Accounts.append` is all that is needed to put an account of the whole together from those of its
parts.

Which error is made of a failed deed depends on where the action is. While it connects the wallet
the cause is wrapped, and a ledger that cannot be opened may be met both then and later.

What a wallet has given and why it has given nothing are told by its answer itself (`givenBy`,
`refusalOf`), so an account says what the answer of a wallet has to lead to.

## Main definitions

* `Client.givenBy`, `Client.refusalOf`: What the answer of a wallet amounts to.
* `Client.Deed.role?`, `Client.Deed.failure?`: Whom a deed asks, and the error that is made of one
  that fails.
* `Client.isConnecting`: Where an action is.
* `Client.Accounts`: Deeds account for an outcome.

## Theorems

* `Client.Accounts.append`: After a success more may be done.
* `Client.Accounts.of_error`, `Client.Accounts.of_ok`: What is passed on, and what comes to anything
  without a deed.
-/

namespace Wager.Client

/-! ### Kinds of deeds -/

/-- Why something failed, if it did. -/
def errorOf {α : Type} : Result α → Option Error
  | .ok _ => none
  | .error e => some e

theorem eq_error_of_errorOf {α : Type} {r : Result α} {e : Error} (h : errorOf r = some e) :
    r = .error e := by
  cases r with
  | ok a => exact nomatch h
  | error e' => rw [Option.some.inj h]

/-- What a wallet has given, if it has answered in time and has not refused. -/
def givenBy {α : Type} : Timely α → Option α
  | .answered (.ok a) => some a
  | _ => none

/-- Why a wallet has given nothing, if so: its own error, or that no answer came in time. -/
def refusalOf {α : Type} (setting : Setting) (operation : String) : Timely α → Option Error
  | .answered (.ok _) => none
  | .answered (.error e) => some e
  | .late => some (.networkFailure s!"wallet {operation} timed out after {setting.patience / 1000}s")

theorem toOption_inTime {α : Type} (setting : Setting) (operation : String) (answer : Timely α) :
    (inTime setting operation answer).toOption = givenBy answer := by
  rcases answer with (e | a) | _ <;> rfl

theorem errorOf_inTime {α : Type} (setting : Setting) (operation : String) (answer : Timely α) :
    errorOf (inTime setting operation answer) = refusalOf setting operation answer := by
  rcases answer with (e | a) | _ <;> rfl

namespace Deed

/-- The role that is asked, if any. -/
def role? : Deed → Option Role
  | .asked (.call c) _ => some c.role
  | .asked (.renewal _) _ => some .renew
  | _ => none

/-- Whether the deed is a change of the notices. -/
def isNotice : Deed → Bool
  | .noticed .. => true
  | _ => false

/-- What the server is told when a transaction has been sent: the action and the signature. -/
def finalized? : Deed → Option (Duel.Action × String)
  | .asked (.call (.finalize a hash)) _ => some (a, hash)
  | _ => none

/-- The signature of the transaction that the wallet has sent, if it has answered so in time. -/
def hash? : Deed → Option String
  | .asked (.call (.sendTransaction ..)) answer => givenBy answer
  | _ => none

/-- The error that an executed action makes of a deed that fails. Connecting wraps the cause. -/
def failure? (setting : Setting) (connecting : Bool) : Deed → Option Error
  | .tried .ledger outcome => (errorOf outcome).map (if connecting then .connectFailed else id)
  | .tried .wallet outcome => (errorOf outcome).map .connectFailed
  | .asked (.call (.connectWallet _)) answer =>
    (refusalOf setting "connect" answer).map .connectFailed
  | .asked (.call (.sendTransaction ..)) answer => refusalOf setting "transaction signing" answer
  | .asked (.call (.requestTransaction _)) answer => errorOf answer
  | .asked (.call (.finalize ..)) answer => errorOf answer
  | _ => none

/-- Calls of different roles are different deeds. -/
theorem mem_of_mem_asked_cons {c c' : Call} {answer : c.Reply} {answer' : c'.Reply} {ds : List Deed}
    (hd : asked (.call c) answer ∈ asked (.call c') answer' :: ds) (h : c.role ≠ c'.role) :
    asked (.call c) answer ∈ ds := by
  have hne : asked (.call c) answer ≠ asked (.call c') answer' :=
    fun heq => h (Option.some.inj (congrArg role? heq))
  exact List.mem_of_ne_of_mem hne hd

theorem role?_of_hash? {d : Deed} {hash : String} (h : d.hash? = some hash) :
    d.role? = some .sendTransaction := by
  unfold hash? at h
  split at h
  · rfl
  · simp only [reduceCtorEq] at h

theorem role?_of_finalized? {d : Deed} {told : Duel.Action × String}
    (h : d.finalized? = some told) : d.role? = some .finalize := by
  unfold finalized? at h
  split at h
  · rfl
  · simp only [reduceCtorEq] at h

end Deed

/-- Whether an action that found a client, and has done some deeds since, is still connecting the
wallet: it has to, and the wallet has not been asked. -/
def isConnecting (found : Client) (ds : List Deed) : Bool :=
  found.wallet.address.isNone && decide (.connectWallet ∉ ds.filterMap Deed.role?)

/-- Only asking the wallet to connect ends this. -/
theorem isConnecting_append (found : Client) (ds ds' : List Deed)
    (h : .connectWallet ∉ ds'.filterMap Deed.role?) :
    isConnecting found (ds ++ ds') = isConnecting found ds := by
  simp only [isConnecting, List.filterMap_append, List.mem_append, h, or_false]

theorem isConnecting_cons (found : Client) (d : Deed) (ds : List Deed)
    (h : d.role? ≠ some .connectWallet) :
    isConnecting found (d :: ds) = isConnecting found ds := by
  have hmem : .connectWallet ∈ (d :: ds).filterMap Deed.role?
      ↔ .connectWallet ∈ ds.filterMap Deed.role? := by
    cases hr : d.role? with
    | none => rw [List.filterMap_cons_none hr]
    | some r =>
      have hne : .connectWallet ≠ r := fun heq => h (by rw [hr, heq])
      rw [List.filterMap_cons_some hr, List.mem_cons, or_iff_right hne]
  simp only [isConnecting, hmem]

/-! ### Deeds that account for an outcome -/

/-- Deeds that account for an outcome: the given roles are asked in this order and none of them
twice, the notices are left alone, and a deed that fails is the last one and its error the
outcome. -/
structure Accounts {α : Type} (setting : Setting) (connecting : Bool) (roles : List Role)
    (ds : List Deed) (outcome : Result α) : Prop where
  order : (ds.filterMap Deed.role?).Sublist roles
  quiet : ∀ d ∈ ds, d.isNotice = false
  failed : ∀ d ∈ ds, ∀ e, d.failure? setting connecting = some e → outcome = .error e
  stops : ds.Pairwise fun d _ => d.failure? setting connecting = none

namespace Accounts

variable {α β : Type} {setting : Setting} {connecting : Bool} {roles roles' : List Role}
  {ds ds' : List Deed} {outcome : Result α}

theorem nil : Accounts setting connecting [] [] outcome where
  order := .refl _
  quiet _ h := absurd h List.not_mem_nil
  failed _ h := absurd h List.not_mem_nil
  stops := .nil

theorem single (d : Deed) (hquiet : d.isNotice = false)
    (hfailed : ∀ e, d.failure? setting connecting = some e → outcome = .error e) :
    Accounts setting connecting d.role?.toList [d] outcome := by
  refine ⟨?_, ?_, ?_, List.pairwise_singleton ..⟩
  · simp only [List.filterMap_cons, List.filterMap_nil]
    cases d.role? <;> exact .refl _
  · intro d' h
    rw [List.mem_singleton.mp h]
    exact hquiet
  · intro d' h
    rw [List.mem_singleton.mp h]
    exact hfailed

theorem failure?_eq_none {b : β} (h : Accounts setting connecting roles ds (.ok b : Result β))
    {d : Deed} (hd : d ∈ ds) : d.failure? setting connecting = none := by
  cases hfailure : d.failure? setting connecting with
  | none => rfl
  | some e => exact nomatch h.failed d hd e hfailure

/-- After a success there was no failure, so more may be done. -/
theorem append {b : β} (h : Accounts setting connecting roles ds (.ok b : Result β))
    (h' : Accounts setting connecting roles' ds' outcome) :
    Accounts setting connecting (roles ++ roles') (ds ++ ds') outcome := by
  refine ⟨?_, ?_, ?_, ?_⟩
  · -- Each role is asked by one part only, so none is asked twice.
    rw [List.filterMap_append]
    exact h.order.append h'.order
  · intro d hd
    rcases List.mem_append.mp hd with hd | hd
    · exact h.quiet d hd
    · exact h'.quiet d hd
  · intro d hd e hfailure
    rcases List.mem_append.mp hd with hd | hd
    · rw [h.failure?_eq_none hd] at hfailure
      simp only [reduceCtorEq] at hfailure
    · exact h'.failed d hd e hfailure
  · exact List.pairwise_append.mpr ⟨h.stops, h'.stops, fun d hd _ _ => h.failure?_eq_none hd⟩

/-- An error is passed on as it is. -/
theorem of_error {e : Error} (h : Accounts setting connecting roles ds (.error e : Result β)) :
    Accounts setting connecting roles ds (.error e : Result α) := by
  refine ⟨h.order, h.quiet, ?_, h.stops⟩
  intro d hd e' hfailure
  rw [Except.error.inj (h.failed d hd e' hfailure)]

/-- After a success the rest may come to anything without a deed. -/
theorem of_ok {b : β} (h : Accounts setting connecting roles ds (.ok b : Result β)) :
    Accounts setting connecting roles ds outcome :=
  { h with failed := fun d hd e hfailure => nomatch h.failed d hd e hfailure }

theorem sublist (h : Accounts setting connecting roles ds outcome) (hroles : roles.Sublist roles') :
    Accounts setting connecting roles' ds outcome :=
  { h with order := h.order.trans hroles }

/-- Only the given roles are asked. -/
theorem mem_roles (h : Accounts setting connecting roles ds outcome) {d : Deed} (hd : d ∈ ds)
    {r : Role} (hr : d.role? = some r) : r ∈ roles :=
  h.order.subset (List.mem_filterMap.mpr ⟨d, hd, hr⟩)

theorem not_mem (h : Accounts setting connecting roles ds outcome) {c : Call} {answer : c.Reply}
    (hc : c.role ∉ roles) : .asked (.call c) answer ∉ ds :=
  fun hd => hc (h.mem_roles hd rfl)

theorem role_not_mem (h : Accounts setting connecting roles ds outcome) {r : Role}
    (hr : r ∉ roles) : r ∉ ds.filterMap Deed.role? :=
  fun hmem => hr (h.order.subset hmem)

theorem filterMap_hash? (h : Accounts setting connecting roles ds outcome)
    (hroles : .sendTransaction ∉ roles) : ds.filterMap Deed.hash? = [] := by
  rw [List.filterMap_eq_nil_iff]
  intro d hd
  cases hhash : d.hash? with
  | none => rfl
  | some hash => exact absurd (h.mem_roles hd (Deed.role?_of_hash? hhash)) hroles

theorem filterMap_finalized? (h : Accounts setting connecting roles ds outcome)
    (hroles : .finalize ∉ roles) : ds.filterMap Deed.finalized? = [] := by
  rw [List.filterMap_eq_nil_iff]
  intro d hd
  cases htold : d.finalized? with
  | none => rfl
  | some told => exact absurd (h.mem_roles hd (Deed.role?_of_finalized? htold)) hroles

end Accounts

theorem Opens.accounts {a : Attempt} {ds : List Deed} {handle : Nat} (h : Opens a ds (.ok handle))
    (setting : Setting) (connecting : Bool) :
    Accounts setting connecting [] ds (.ok handle : Result Nat) := by
  cases h with
  | held => exact .nil
  | opened =>
    refine .single (.tried a (.ok ())) rfl ?_
    cases a <;> exact fun e h => nomatch h

end Wager.Client
