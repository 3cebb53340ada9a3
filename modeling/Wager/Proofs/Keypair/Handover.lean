import Wager.Keypair
import Wager.Proofs.Transaction.Signing

/-!
# What reaches the ledger

A key pair spends money by handing signed transactions to a ledger, and nothing else that it does
can spend any. So it matters what is handed over, and when.

The ledger is anybody: it has a state of its own and may say anything to what it is handed. Around
it is put a record of what it was handed, so that a statement about the record is one about the
ledger's whole past. Whether a wallet is connected is read off the requests that it was given, not
off the wallet, because that is what its owner knows.

A transaction that is handed over is complete. All slots of the given one but the wallet's own are
kept, empty ones too; a wallet that cannot fill all empty slots, because others have to sign as well
or because it is named twice, keeps the transaction to itself.

## Main definitions

* `KeypairWallet.Watched`: A wallet with a record of what its ledger was handed.
* `KeypairWallet.LatestConnects`: The wallet was connected, as its requests tell.
* `KeypairWallet.Completes`, `KeypairWallet.LeavesGap`: The wallet's signature makes a transaction
  complete, or does not.
* `KeypairWallet.Handover`: What comes of one transaction that is to be sent.

## Theorems

* `KeypairWallet.prepare_eq_ok_iff`: When a transaction can be prepared.
* `KeypairWallet.Watched.connected_run`: The wallet is connected as the requests tell.
* `KeypairWallet.Watched.ledger_gets_complete`: What reaches the ledger, after any requests.
-/

namespace Wager.KeypairWallet

/-! ### Preparing -/

/-- The signature of a key pair, put in where it belongs, leaves no slot empty and changes nothing
else. -/
structure Completes (key : Keypair) (tx signed : Transaction) : Prop where
  message : signed.messageBytes = tx.messageBytes
  no_gap : ∀ s ∈ signed.signatures, s ≠ .empty
  fills : tx.Fills key.address (key.sign tx.messageBytes) signed

/-- A slot of the transaction would stay empty: one that is not for the key pair to fill, or its own
if its signature were empty. -/
def LeavesGap (key : Keypair) (tx : Transaction) : Prop :=
  (∃ j, ¬ tx.IsFirstSlot key.address j ∧ tx.signatures[j]? = some .empty) ∨
    key.sign tx.messageBytes = .empty

/-- The signature of a wallet that is required fills the last gap exactly if it leaves none. -/
theorem isFullySigned_setSlot_iff_not_leavesGap {key : Keypair} {tx : Transaction} {i : Nat}
    (hi : tx.IsFirstSlot key.address i) :
    (tx.setSlot i (key.sign tx.messageBytes)).isFullySigned = true ↔ ¬ LeavesGap key tx := by
  rw [Transaction.isFullySigned_setSlot_iff hi.lt, LeavesGap]
  -- `i` is the only first slot, so the other slots are those that are not for the key pair.
  constructor
  · rintro ⟨hs, hothers⟩ (⟨j, hj, hempty⟩ | hempty)
    · have hne : j ≠ i := fun heq => hj (heq ▸ hi)
      exact hothers j hne hempty
    · exact hs hempty
  · intro hgap
    refine ⟨fun hempty => hgap (Or.inr hempty), ?_⟩
    intro j hne hempty
    exact hgap (Or.inl ⟨j, fun hj => hne (hj.unique hi), hempty⟩)

/-- A transaction can be prepared by a connected wallet that is a required signer and leaves no
gap. -/
theorem prepare_eq_ok_iff (w : KeypairWallet) (tx signed : Transaction) :
    w.prepare tx = .ok signed ↔ w.connected = true ∧ ¬ LeavesGap w.key tx ∧
      ∃ i, tx.IsFirstSlot w.key.address i ∧ signed = tx.setSlot i (w.key.sign tx.messageBytes) := by
  simp only [prepare, sign, bind, Except.bind]
  cases hc : w.connected with
  | false => simp only [Bool.false_eq_true, if_false, reduceCtorEq, false_and]
  | true =>
    simp only [if_true, true_and]
    cases hadd : tx.addSignature w.key.address (w.key.sign tx.messageBytes) with
    | error e =>
      -- Nobody who has a slot is turned away.
      simp only [reduceCtorEq, false_iff, not_and, not_exists]
      intro _ i hi _
      have hok := (Transaction.addSignature_eq_ok_iff tx _ w.key.address
        (w.key.sign tx.messageBytes)).mpr ⟨i, hi, rfl⟩
      rw [hok] at hadd
      simp only [reduceCtorEq] at hadd
    | ok filled =>
      rcases (Transaction.addSignature_eq_ok_iff tx _ _ _).mp hadd with ⟨i, hi, rfl⟩
      have hfull := isFullySigned_setSlot_iff_not_leavesGap hi
      by_cases hgap : LeavesGap w.key tx
      · have hnot : ¬ (tx.setSlot i (w.key.sign tx.messageBytes)).isFullySigned = true :=
          fun h => hfull.mp h hgap
        simp only [hnot, hgap, Bool.false_eq_true, if_false, reduceCtorEq, not_true_eq_false,
          false_and]
      · simp only [hfull.mpr hgap, hgap, if_true, not_false_eq_true, true_and, pure, Except.pure,
          Except.ok.injEq]
        constructor
        · intro heq
          exact ⟨i, hi, heq.symm⟩
        · rintro ⟨j, hj, rfl⟩
          rw [hi.unique hj]

/-- What is prepared is complete. -/
theorem completes_of_prepare {w : KeypairWallet} {tx signed : Transaction}
    (h : w.prepare tx = .ok signed) : Completes w.key tx signed := by
  rcases (prepare_eq_ok_iff w tx signed).mp h with ⟨-, hgap, i, hi, rfl⟩
  refine ⟨rfl, ?_, Transaction.fills_setSlot hi _⟩
  rw [← Transaction.isFullySigned_iff]
  exact (isFullySigned_setSlot_iff_not_leavesGap hi).mpr hgap

/-! ### Watching the ledger -/

/-- A wallet in use: the wallet, all that its ledger was handed, and the state of the ledger. -/
structure Watched (τ : Type) where
  wallet : KeypairWallet
  handed : List Transaction := []
  ledger : τ

/-- What a request says about being connected, if anything. -/
def Request.connects? : Request → Option Bool
  | .connect => some true
  | .disconnect => some false
  | .sign _ => none
  | .send _ => none

/-- The latest request to connect or to disconnect was one to connect. -/
def LatestConnects (qs : List Request) : Prop :=
  (qs.filterMap Request.connects?).getLast? = some true

section

variable {τ : Type}

/-- A ledger with a record of what it is handed. -/
def recording (ledger : Transaction → StateM τ (Result String)) (tx : Transaction) :
    StateM (List Transaction × τ) (Result String) := fun (handed, t) =>
  let (word, t) := ledger tx t
  (word, handed ++ [tx], t)

/-- What comes of one transaction that is to be sent: the record of the ledger before and after it,
and the word that was given. `verdict` is what the ledger answers to what it is handed. -/
structure Handover (key : Keypair) (connected : Prop) (tx : Transaction)
    (before after : List Transaction) (verdict : Transaction → Result String)
    (word : Result String) : Prop where
  /-- The ledger is handed one transaction and its word is passed on, or it is handed none. -/
  at_most_once : after = before ∨ ∃ signed, after = before ++ [signed] ∧ word = verdict signed
  /-- It is handed something only while the wallet is connected. -/
  connected_of_handed : after ≠ before → connected
  /-- It is handed the given transaction with the wallet's signature, and with no gap. -/
  complete : ∀ signed, after = before ++ [signed] → Completes key tx signed
  /-- What cannot be completed is an error and is not handed over. -/
  refused : ¬ connected ∨ key.address ∉ tx.requiredSigners ∨ LeavesGap key tx →
    after = before ∧ ∃ e, word = .error e
  /-- What can be completed is handed over. -/
  accepted : connected → key.address ∈ tx.requiredSigners → ¬ LeavesGap key tx → after ≠ before

namespace Watched

/-- A wallet that nobody has asked anything. -/
def start (key : Keypair) (t : τ) : Watched τ where
  wallet := { key }
  ledger := t

/-- The reply to a request, and what is left behind. -/
def serve (ledger : Transaction → StateM τ (Result String)) (s : Watched τ) (q : Request) :
    Reply × Watched τ :=
  let ((reply, wallet), handed, t) := s.wallet.serve (recording ledger) q (s.handed, s.ledger)
  (reply, { wallet, handed, ledger := t })

/-- What is left behind by some requests. -/
def run (ledger : Transaction → StateM τ (Result String)) (s : Watched τ) (qs : List Request) :
    Watched τ :=
  qs.foldl (fun s q => (s.serve ledger q).2) s

variable (ledger : Transaction → StateM τ (Result String))

/-- What is to be sent and cannot be prepared stays with the wallet. -/
theorem serve_send_of_error (s : Watched τ) (tx : Transaction) (e : Error)
    (h : s.wallet.prepare tx = .error e) :
    s.serve ledger (.send tx) = (.sent (.error e), s) := by
  simp only [serve, KeypairWallet.serve, send, h]
  rfl

/-- What is to be sent and can be prepared is handed over, and the ledger's word is given. -/
theorem serve_send_of_ok (s : Watched τ) (tx signed : Transaction)
    (h : s.wallet.prepare tx = .ok signed) :
    s.serve ledger (.send tx) = (.sent (ledger signed s.ledger).1,
      { s with handed := s.handed ++ [signed], ledger := (ledger signed s.ledger).2 }) := by
  simp only [serve, KeypairWallet.serve, send, h]
  rfl

/-- Only what is to be sent reaches the ledger. -/
theorem handed_serve (s : Watched τ) (q : Request) (hq : ∀ tx, q ≠ .send tx) :
    (s.serve ledger q).2.handed = s.handed := by
  cases q with
  | connect => rfl
  | disconnect => rfl
  | sign message => rfl
  | send tx => exact absurd rfl (hq tx)

/-- A request leaves the key pair alone, and connects or disconnects the wallet if it says so. -/
theorem wallet_serve (s : Watched τ) (q : Request) :
    (s.serve ledger q).2.wallet.key = s.wallet.key ∧
      (s.serve ledger q).2.wallet.connected = q.connects?.getD s.wallet.connected := by
  cases q with
  | connect => exact ⟨rfl, rfl⟩
  | disconnect => exact ⟨rfl, rfl⟩
  | sign message => exact ⟨rfl, rfl⟩
  | send tx =>
    cases hprepare : s.wallet.prepare tx with
    | error e =>
      rw [serve_send_of_error ledger s tx e hprepare]
      exact ⟨rfl, rfl⟩
    | ok signed =>
      rw [serve_send_of_ok ledger s tx signed hprepare]
      exact ⟨rfl, rfl⟩

/-- After some requests the wallet is connected as they tell, else as it was before. -/
theorem connected_run (s : Watched τ) (qs : List Request) :
    (s.run ledger qs).wallet.key = s.wallet.key ∧
      (s.run ledger qs).wallet.connected
        = (qs.filterMap Request.connects?).getLast?.getD s.wallet.connected := by
  -- On the requests, from the first one on, so the wallet they begin with has to vary.
  induction qs generalizing s with
  | nil => exact ⟨rfl, rfl⟩
  | cons q qs ih =>
    rcases wallet_serve ledger s q with ⟨hkey, hconnected⟩
    rcases ih (s.serve ledger q).2 with ⟨hkey', hconnected'⟩
    refine ⟨hkey'.trans hkey, hconnected'.trans ?_⟩
    rw [hconnected]
    cases hq : q.connects? with
    | none => rw [List.filterMap_cons_none hq, Option.getD_none]
    | some b =>
      -- A later request about the connection counts more than `q`.
      rw [List.filterMap_cons_some hq, List.getLast?_cons, Option.getD_some, Option.getD_some]

/-- What comes of one transaction that a wallet is to send. -/
theorem handover (s : Watched τ) (tx : Transaction) :
    ∃ word, (s.serve ledger (.send tx)).1 = .sent word ∧
      Handover s.wallet.key (s.wallet.connected = true) tx s.handed
        (s.serve ledger (.send tx)).2.handed (fun signed => (ledger signed s.ledger).1) word := by
  -- A record that has become longer tells that something was handed over.
  have hne : ∀ signed, s.handed ++ [signed] ≠ s.handed := by
    intro signed heq
    have hlength := congrArg List.length heq
    simp only [List.length_append, List.length_singleton] at hlength
    omega
  cases hprepare : s.wallet.prepare tx with
  | error e =>
    refine ⟨.error e, ?_⟩
    rw [serve_send_of_error ledger s tx e hprepare]
    refine ⟨rfl, Or.inl rfl, fun h => absurd rfl h, fun signed h => absurd h.symm (hne signed),
      fun _ => ⟨rfl, e, rfl⟩, ?_⟩
    -- A wallet that can complete the transaction would have prepared it.
    intro hconnected hmem hgap
    rcases (Transaction.mem_requiredSigners_iff tx _).mp hmem with ⟨i, hi⟩
    rw [(prepare_eq_ok_iff s.wallet tx _).mpr ⟨hconnected, hgap, i, hi, rfl⟩] at hprepare
    simp only [reduceCtorEq] at hprepare
  | ok signed =>
    refine ⟨(ledger signed s.ledger).1, ?_⟩
    rw [serve_send_of_ok ledger s tx signed hprepare]
    rcases (prepare_eq_ok_iff s.wallet tx signed).mp hprepare with ⟨hconnected, hgap, i, hi, -⟩
    have hmem := (Transaction.mem_requiredSigners_iff tx _).mpr ⟨i, hi⟩
    refine ⟨rfl, Or.inr ⟨signed, rfl, rfl⟩, fun _ => hconnected, ?_, ?_, fun _ _ _ => hne signed⟩
    · intro other hother
      rw [List.append_cancel_left_eq, List.singleton_inj] at hother
      rw [← hother]
      exact completes_of_prepare hprepare
    · rintro (hdisconnected | hforeign | hgap')
      · exact absurd hconnected hdisconnected
      · exact absurd hmem hforeign
      · exact absurd hgap' hgap

/-- What reaches the ledger: after any requests, whatever the ledger has said to them, only a
request to send something reaches it, and what comes of that is as `Handover` says. -/
theorem ledger_gets_complete (key : Keypair) (t : τ) (before : List Request) :
    let s := (start key t).run ledger before
    (∀ q, (∀ tx, q ≠ .send tx) → (s.serve ledger q).2.handed = s.handed) ∧
      ∀ tx, ∃ word, (s.serve ledger (.send tx)).1 = .sent word ∧
        Handover key (LatestConnects before) tx s.handed (s.serve ledger (.send tx)).2.handed
          (fun signed => (ledger signed s.ledger).1) word := by
  intro s
  refine ⟨handed_serve ledger s, ?_⟩
  intro tx
  rcases connected_run ledger (start key t) before with ⟨hkey, hconnected⟩
  rcases handover ledger s tx with ⟨word, hreply, hhandover⟩
  -- Nobody was connected in the beginning.
  have hlatest : (s.wallet.connected = true) = LatestConnects before := by
    rw [LatestConnects, hconnected, start]
    cases (before.filterMap Request.connects?).getLast? with
    | none => simp only [Option.getD_none, Bool.false_eq_true, reduceCtorEq]
    | some b => simp only [Option.getD_some, Option.some.injEq]
  rw [hkey, hlatest] at hhandover
  exact ⟨word, hreply, hhandover⟩

end Watched

end

end Wager.KeypairWallet
