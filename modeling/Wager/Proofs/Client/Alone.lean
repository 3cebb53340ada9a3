import Wager.Proofs.Client.Accounts
import Wager.Proofs.Client.Loading
import Wager.Proofs.Notices.Fading

/-!
# Operations that run alone

What an operation does to a client on which no other one runs.

The rules for deeds let the surroundings change the client in any way while an operation waits. If
no other operation runs they hardly can: the notices fade, and all else is as the operation has left
it. That is `Surroundings.IsAlone`, and with it the client is known that an operation finds when it
is answered. The others may still answer anything, and take any time for it.

What somebody is asked is among the deeds of an operation, and the rest of them can be left out: no
section asks for anything, so the requests of an operation come from its waits.

## Main definitions

* `Client.requests`, `Client.requestsTo`: The deeds by which somebody is asked.
* `Client.AskOnly`: Nobody else is asked than some roles.
* `Client.Surroundings.IsAlone`: No other operation runs.
* `Client.Undisturbed`: What is left where only the wallet was changed.

## Theorems

* `Client.requests_append`, `Client.requests_sectionDeeds`: Where requests come from.
* `Client.requestsTo_eq`: A role is asked by requests.
* `Client.AskOnly.requestsTo_eq_nil`: Other roles are not asked.
* `Client.Surroundings.Does.askAlone`: The rule for asking.
* `Client.Surroundings.Does.obtain`, `Client.Surroundings.Does.useLedger`,
  `Client.Surroundings.Does.changeNotices`, `Client.Surroundings.Does.cacheProfile`,
  `Client.Surroundings.Does.ofSession`: The rules for sections, with what they leave behind.
-/

namespace Wager.Client

/-! ### Requests -/

/-- The deeds by which somebody is asked. -/
def requests (ds : List Deed) : List Deed := ds.filter (·.role?.isSome)

/-- The deeds by which a role is asked. -/
def requestsTo (r : Role) (ds : List Deed) : List Deed := ds.filter (·.role? = some r)

@[simp]
theorem requests_append (ds ds' : List Deed) : requests (ds ++ ds') = requests ds ++ requests ds' :=
  List.filter_append ..

@[simp]
theorem requestsTo_append (r : Role) (ds ds' : List Deed) :
    requestsTo r (ds ++ ds') = requestsTo r ds ++ requestsTo r ds' :=
  List.filter_append ..

/-- Whoever asks a role asks somebody. -/
theorem requestsTo_eq (r : Role) (ds : List Deed) :
    requestsTo r ds = requestsTo r (requests ds) := by
  rw [requestsTo, requestsTo, requests, List.filter_filter]
  refine List.filter_congr fun d _ => ?_
  cases d.role? <;> simp

theorem mem_of_mem_requestsTo {r : Role} {ds : List Deed} {d : Deed} (h : d ∈ requestsTo r ds) :
    d ∈ ds :=
  (List.mem_filter.mp h).1

theorem mem_requestsTo {c : Call} {answer : c.Reply} {ds : List Deed}
    (h : .asked (.call c) answer ∈ ds) : .asked (.call c) answer ∈ requestsTo c.role ds :=
  List.mem_filter.mpr ⟨h, decide_eq_true rfl⟩

/-- Nobody else is asked than some roles. -/
def AskOnly (roles : List Role) (ds : List Deed) : Prop := ∀ d ∈ ds, ∃ r ∈ roles, d.role? = some r

theorem askOnly_nil (roles : List Role) : AskOnly roles [] := fun _ h => absurd h List.not_mem_nil

namespace AskOnly

variable {roles : List Role} {ds ds' : List Deed}

theorem cons (h : AskOnly roles ds) {d : Deed} {r : Role} (hd : d.role? = some r)
    (hr : r ∈ roles) : AskOnly roles (d :: ds) := by
  intro d' hd'
  rcases List.mem_cons.mp hd' with rfl | hmem
  · exact ⟨r, hr, hd⟩
  · exact h d' hmem

theorem append (h : AskOnly roles ds) (h' : AskOnly roles ds') : AskOnly roles (ds ++ ds') := by
  intro d hd
  rcases List.mem_append.mp hd with hd | hd
  · exact h d hd
  · exact h' d hd

theorem mono (h : AskOnly roles ds) {roles' : List Role} (hroles : ∀ r ∈ roles, r ∈ roles') :
    AskOnly roles' ds := by
  intro d hd
  obtain ⟨r, hr, hrole⟩ := h d hd
  exact ⟨r, hroles r hr, hrole⟩

theorem requestsTo_eq_nil (h : AskOnly roles ds) {r : Role} (hr : r ∉ roles) :
    requestsTo r ds = [] := by
  refine List.filter_eq_nil_iff.mpr fun d hd hrole => ?_
  obtain ⟨r', hr', hrole'⟩ := h d hd
  rw [hrole', decide_eq_true_eq, Option.some.injEq] at hrole
  exact hr (hrole ▸ hr')

end AskOnly

/-- A section asks nobody. -/
theorem requests_sectionDeeds (setting : Setting) (c c' : Client) :
    requests (sectionDeeds setting c c') = [] := by
  refine List.filter_eq_nil_iff.mpr fun d hd => ?_
  rcases List.mem_append.mp hd with hd | hd
  · obtain ⟨a, -, rfl⟩ := List.mem_map.mp hd
    exact Bool.false_ne_true
  · split at hd
    · exact absurd hd List.not_mem_nil
    · rw [List.mem_singleton.mp hd]
      exact Bool.false_ne_true

theorem Opens.requests {a : Attempt} {ds : List Deed} {outcome : Result Nat}
    (h : Opens a ds outcome) : Client.requests ds = [] := by
  cases h with
  | held => rfl
  | opened => rfl
  | failed => rfl

/-! ### Surroundings -/

/-- Of the session, the cached profile and the notices nothing has changed but that notices have
gone. -/
structure Undisturbed (c c' : Client) : Prop extends Spares c c' where
  notices : c.notices.Fades c'.notices

theorem Spares.setNotices {c c' : Client} (h : c.Spares c') {notices : Notices} :
    c.Spares { c' with notices } :=
  ⟨h.session, h.cache, h.files⟩

namespace Surroundings

variable {τ α : Type}

/-- No other operation runs: while an operation waits, nothing but the notices changes, and these
fade. -/
def IsAlone (e : Surroundings τ) : Prop := ∀ w c t, ∃ notices,
  c.notices.Fades notices ∧ (e.answer w (c, t)).2.1 = { c with notices }

namespace Does

variable {e : Surroundings τ} {s : Client × τ} {P : List Deed → α → Client × τ → Prop}

/-- Whoever runs alone finds what it has left, but for notices that have gone. -/
theorem askAlone (halone : e.IsAlone) {c : Call} {P : List Deed → c.Reply → Client × τ → Prop}
    (h : ∀ answer notices t, s.1.notices.Fades notices →
      P [.asked (.call c) answer] answer ({ s.1 with notices }, t)) :
    e.Does s (Client.ask c) P := by
  refine .ask fun answer s' hanswer => ?_
  obtain ⟨notices, hfades, hleft⟩ := halone (.call c) s.1 s.2
  rw [hanswer] at hleft
  have hs' : s' = ({ s.1 with notices }, s'.2) := Prod.ext hleft rfl
  rw [hs']
  exact h answer notices s'.2 hfades

/-- Whatever comes of obtaining a handle, nothing is changed but the place where it is kept. -/
theorem obtain {a : Attempt} {get : Wallet → Option Nat} {put : Option Nat → Wallet → Wallet}
    {f : Client → Result Nat × Client} {P : List Deed → Result Nat → Client × τ → Prop}
    (hobtains : Obtains a get put (opening e.setting s.1 a) s.1 (f s.1))
    (hput : ∀ w, put (get w) w = w)
    (h : ∀ ds outcome kept attempts, Opens a ds outcome →
      (∀ handle, outcome = .ok handle → kept = some handle) →
        P ds outcome ({ s.1 with wallet := put kept s.1.wallet, attempts }, s.2)) :
    e.Does s (.atomically fun _ c => f c) P := by
  refine atomically ?_
  rcases hf : f s.1 with ⟨outcome, c⟩
  rw [hf] at hobtains
  obtain ⟨kept, attempts, rfl, hkept, -⟩ := hobtains.eq hput
  exact h _ outcome kept attempts hobtains.opens hkept

theorem obtainLedger {P : List Deed → Result Nat → Client × τ → Prop}
    (h : ∀ ds outcome ledger attempts, Opens .ledger ds outcome →
      (∀ handle, outcome = .ok handle → ledger = some handle) →
        P ds outcome ({ s.1 with wallet := { s.1.wallet with ledger }, attempts }, s.2)) :
    e.Does s (.atomically fun _ c => c.openLedger e.setting) P :=
  obtain (obtains_ledger e.setting s.1) (fun _ => rfl) h

theorem obtainWallet {P : List Deed → Result Nat → Client × τ → Prop}
    (h : ∀ ds outcome provider attempts, Opens .wallet ds outcome →
      (∀ handle, outcome = .ok handle → provider = some handle) →
        P ds outcome ({ s.1 with wallet := { s.1.wallet with provider }, attempts }, s.2)) :
    e.Does s (.atomically fun _ c => c.openWallet e.setting) P :=
  obtain (obtains_wallet e.setting s.1) (fun _ => rfl) h

/-- A handle that is held is used. -/
theorem useLedger {P : List Deed → Result Nat → Client × τ → Prop} {handle : Nat}
    (hledger : s.1.wallet.ledger = some handle) (h : P [] (.ok handle) s) :
    e.Does s (.atomically fun _ c => c.openLedger e.setting) P := by
  refine atomically ?_
  rw [openLedger_of_held e.setting hledger, sectionDeeds_eq_nil rfl rfl]
  exact h

/-- A section of the notices that may leave them as they are. -/
theorem changeNotices {f : Timestamp → Notices → α × Notices}
    (h : ∀ ds, requests ds = [] → P ds (f (e.clock s.2) s.1.notices).1
      ({ s.1 with notices := (f (e.clock s.2) s.1.notices).2 }, s.2)) :
    e.Does s (Client.inNotices f) P :=
  atomically (h _ (requests_sectionDeeds ..))

theorem cacheProfile {p : Profile} {P : List Deed → Unit → Client × τ → Prop}
    (h : P [] () (s.1.cacheProfile p (e.clock s.2), s.2)) :
    e.Does s (.atomically fun now c => ((), c.cacheProfile p now)) P := by
  have hnil : sectionDeeds e.setting s.1 (s.1.cacheProfile p (e.clock s.2)) = [] :=
    sectionDeeds_eq_nil rfl rfl
  rw [← hnil] at h
  exact atomically h

/-- An operation on the session that does not wait. -/
theorem ofSession {r : Session.Operation α} {a : α} {session : Session}
    (hproceed : r.proceed (e.clock s.2) s.1.session = (.done a, session))
    (h : P [] a ({ s.1 with session }, s.2)) : e.Does s (Client.ofSession r) P := by
  -- On the operation, each section of which is one of the client.
  induction r generalizing s with
  | done b =>
    obtain ⟨rfl, rfl⟩ : b = a ∧ s.1.session = session := by
      rw [Routine.proceed, Prod.mk.injEq, Routine.done.injEq] at hproceed
      exact hproceed
    exact h
  | act effect next ih =>
    have hrest := ih (e.clock s.2) s.1.session
      (s := ({ s.1 with session := effect (e.clock s.2) s.1.session }, s.2)) hproceed h
    have hnil : sectionDeeds e.setting s.1
        { s.1 with session := effect (e.clock s.2) s.1.session } = [] := sectionDeeds_eq_nil rfl rfl
    rw [Does] at hrest ⊢
    have hdeeds : e.deeds (Client.ofSession (.act effect next)) s
        = sectionDeeds e.setting s.1 { s.1 with session := effect (e.clock s.2) s.1.session } ++
          e.deeds (Client.ofSession (next (e.clock s.2) s.1.session))
            ({ s.1 with session := effect (e.clock s.2) s.1.session }, s.2) := rfl
    rw [hdeeds, hnil]
    exact hrest
  | wait id next ih =>
    -- It has not come to its end.
    simp only [Routine.proceed, Prod.mk.injEq, reduceCtorEq, false_and] at hproceed

end Does

end Surroundings

end Wager.Client
