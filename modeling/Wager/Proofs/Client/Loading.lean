import Wager.Client.SignIn
import Wager.Proofs.Client.Handles
import Wager.Proofs.Client.Segments
import Wager.Proofs.Session.SigningOut

/-!
# What loading a profile and signing out do between their waits

The two operations on a client that concern the session and the cached profile, taken apart at their
waits.

Loading a profile has three kinds of waits, and comes back from each of them to a client that others
have used. It may wait for a renewal, then for the profile, and at the end for a balance. What it
does with the session and the cached profile is decided by what it has waited for alone: the outcome
of a renewal makes it take that renewal out of the slot, and a profile is cached. It does not ask
whether the session for which it has fetched the profile is still there.

Signing out does all it does to them at once, before its only wait.

The wallet and the notices are left out here; a segment that has to do with those only is said to
spare the rest (`Client.Spares`).

## Main definitions

* `Session.Used`: What looking for a credential may do to a session before it waits.
* `Client.Spares`: The session and the cached profile are as they were.
* `Client.Loading`, `Client.SigningOut`: What may happen in a segment of an operation.
* `Client.fetchAfter`: What is left of fetching a profile when a credential was looked for.

## Theorems

* `Session.Used.consistent`, `Session.Used.isWorking`, `Session.Used.isClosed`: What it preserves.
* `Client.Along.access`, `Client.Along.clear`, `Client.Along.fetchAfter`,
  `Client.Along.refreshBalance`, `Client.Along.disconnect`: Parts of the operations.
* `Client.keeps_loadProfile`, `Client.keeps_signOut`: The operations keep to what is listed.
-/

namespace Wager

/-! ### Looking for a credential -/

namespace Session

/-- What may come of a session when somebody looks for a credential, up to the first wait: the store
is read, and a renewal is started if none is outstanding. -/
inductive Used (s : Session) : Session → Prop
  | read (store : Store) (hread : s.store.ReadTo store) : Used s { s with store }
  | started (refresh : String) (store : Store) (now : Timestamp) (hread : s.store.ReadTo store)
    (hout : s.outstanding? = none) (hrefresh : (store.get now refreshName).1 = some refresh) :
    Used s (({ s with store := (store.get now refreshName).2 }).publish refresh s.epoch).2

namespace Used

variable {s s' : Session}

theorem refl (s : Session) : s.Used s := .read s.store .refl

/-- What was read before counts as read. -/
theorem of_read {store : Store} (hread : s.store.ReadTo store)
    (h : ({ s with store } : Session).Used s') : s.Used s' := by
  cases h with
  | read store' hread' => exact .read store' (hread.trans hread')
  | started refresh store' now hread' hout hrefresh =>
    exact .started refresh store' now (hread.trans hread') hout hrefresh

theorem consistent (h : s.Used s') (hs : s.Consistent) : s'.Consistent := by
  cases h with
  | read store hread => exact hs.withStore store
  | started refresh store now hread hout hrefresh => exact (hs.withStore _).publish refresh hout

theorem isWorking (h : s.Used s') (hw : s.store.IsWorking) : s'.store.IsWorking := by
  cases h with
  | read store hread => exact hread.isWorking hw
  | started refresh store now hread hout hrefresh =>
    exact Store.isWorking_get store now refreshName (hread.isWorking hw)

theorem isClosed (h : s.Used s') (hclosed : s.IsClosed) : s'.IsClosed := by
  cases h with
  | read store hread =>
    exact hclosed.withStore store (hread.lacks accessName hclosed.access)
      (hread.lacks refreshName hclosed.refresh)
  | started refresh store now hread hout hrefresh =>
    -- There is no credential to start a renewal with.
    rw [Store.get_of_lacks store now refreshName (hread.lacks refreshName hclosed.refresh)]
      at hrefresh
    exact nomatch hrefresh

end Used

end Session

namespace Client

open Session (accessName refreshName)

/-- The operations of a session compose to those of a client. -/
theorem ofSession_bind {α β : Type} (r : Session.Operation α) (k : α → Session.Operation β) :
    ofSession (r >>= k) = ofSession r >>= fun a => ofSession (k a) := by
  induction r with
  | done a => rfl
  | act effect next ih =>
    exact congrArg (Routine.act _) (funext fun now => funext fun c => ih now c.session)
  | wait id next ih => exact congrArg (Routine.wait (Wait.renewal id)) (funext fun a => ih a)

namespace Along

variable {W : Cause → Client → Wait → Client → Prop} {cause : Cause} {c₀ c : Client}

theorem joinRenewal {P : Result Nat → Cause → Client → Client → Prop}
    (h : ∀ outcome session, c.session.Used session → P outcome cause c₀ { c with session }) :
    Along W cause c₀ c (ofSession Session.joinRenewal) P := by
  simp only [ofSession, Session.joinRenewal, Session.under, Session.credential, Routine.change,
    Routine.look, Routine.atomically, Bind.bind, Routine.bind, Pure.pure, Routine.embed, Along]
  intro _ _
  cases hout : c.session.outstanding? with
  | some id =>
    -- Who holds the lock sees the same slot.
    have hout' : (c.session.acquire .slot).outstanding? = some id := hout
    simp only [hout']
    exact fun _ => h (.ok id) _ (.read _ .refl)
  | none =>
    have hout' : (c.session.acquire .slot).outstanding? = none := hout
    simp only [hout']
    intro now
    cases hrefresh : (c.session.store.get now refreshName).1 with
    | none =>
      have hrefresh' : ((c.session.acquire .slot).read refreshName now).1 = none := hrefresh
      simp only [hrefresh']
      exact fun _ => h _ _ (.read _ (.get _ now refreshName .refl))
    | some refresh =>
      have hrefresh' : ((c.session.acquire .slot).read refreshName now).1 = some refresh := hrefresh
      simp only [hrefresh']
      exact fun _ _ _ _ _ => h _ _ (.started refresh c.session.store now .refl hout hrefresh)

theorem renew {P : Result String → Cause → Client → Client → Prop}
    (hwaits : ∀ id session, c.session.Used session → W cause c₀ (.renewal id) { c with session })
    (hfails : ∀ e session, c.session.Used session → P (.error e) cause c₀ { c with session })
    (hrenewed : ∀ id outcome c', P outcome (.answered (.renewal id) outcome) c'
      { c' with session := c'.session.leave id }) :
    Along W cause c₀ c (ofSession Session.renew) P := by
  rw [Session.renew, ofSession_bind]
  refine .bind (.joinRenewal fun outcome session hused => ?_)
  cases outcome with
  | error e => exact hfails e session hused
  | ok id =>
    refine ⟨hwaits id session hused, fun outcome c' _ _ _ => ?_⟩
    -- The lock is given back, and nothing else is known of it.
    have hleave : ((c'.session.acquire .slot).leave id).release .slot = c'.session.leave id := by
      unfold Session.leave
      by_cases hslot : c'.session.slot = some id
      · have hslot' : (c'.session.acquire .slot).slot = some id := hslot
        rw [if_pos hslot, if_pos hslot']
        rfl
      · have hslot' : (c'.session.acquire .slot).slot ≠ some id := hslot
        rw [if_neg hslot, if_neg hslot']
        rfl
    have hend := hrenewed id outcome c'
    rw [← hleave] at hend
    exact hend

/-- Looking for an access credential ends at once or waits for a renewal. -/
theorem access {P : Result (Option String) → Cause → Client → Client → Prop}
    (hwaits : ∀ id session, c.session.Used session → W cause c₀ (.renewal id) { c with session })
    (hends : ∀ outcome session, c.session.Used session → P outcome cause c₀ { c with session })
    (hrenewed : ∀ id outcome c', P (outcome.map some) (.answered (.renewal id) outcome) c'
      { c' with session := c'.session.leave id }) :
    Along W cause c₀ c (ofSession Session.access) P := by
  -- Whatever was read before, what there is to do besides is a renewal.
  have hrenew : ∀ store, c.session.store.ReadTo store →
      Along W cause c₀ { c with session := { c.session with store } }
        (ofSession (Session.renew >>= fun outcome => .done (outcome.map some))) P := by
    intro store hread
    rw [ofSession_bind]
    refine .bind (.renew ?_ ?_ hrenewed)
    · exact fun id session hused => hwaits id session (hused.of_read hread)
    · exact fun e session hused => hends (.error e) session (hused.of_read hread)
  simp only [Session.access, Session.under, Session.credential, Routine.change, Routine.look,
    Routine.atomically, Bind.bind, Routine.bind, Pure.pure]
  simp only [ofSession, Routine.embed, Along]
  intro now
  have hread : c.session.store.ReadTo (c.session.store.get now accessName).2 :=
    .get _ now accessName .refl
  cases haccess : (c.session.store.get now accessName).1 with
  | some token =>
    have haccess' : (c.session.read accessName now).1 = some token := haccess
    simp only [haccess']
    exact hends (.ok (some token)) _ (.read _ hread)
  | none =>
    have haccess' : (c.session.read accessName now).1 = none := haccess
    simp only [haccess']
    refine fun _ _ _ => ?_
    cases hout : c.session.outstanding? with
    | some id =>
      have hout' : ((c.session.read accessName now).2.acquire .slot).outstanding? = some id := hout
      simp only [hout']
      exact hrenew _ hread
    | none =>
      have hout' : ((c.session.read accessName now).2.acquire .slot).outstanding? = none := hout
      simp only [hout']
      intro now'
      have hread' := Store.ReadTo.get _ now' refreshName hread
      cases hrefresh : ((c.session.store.get now accessName).2.get now' refreshName).1 with
      | none =>
        have hrefresh' : ((Session.release .slot ((c.session.read accessName now).2.acquire
            .slot)).read refreshName now').1 = none := hrefresh
        simp only [hrefresh', Option.isNone_none, if_true]
        exact hends (.ok none) _ (.read _ hread')
      | some refresh =>
        have hrefresh' : ((Session.release .slot ((c.session.read accessName now).2.acquire
            .slot)).read refreshName now').1 = some refresh := hrefresh
        simp only [hrefresh', Option.isNone_some, Bool.false_eq_true, if_false]
        exact hrenew _ hread'

/-- Ending the session is one step. -/
theorem clear {P : Unit → Cause → Client → Client → Prop}
    (h : P () cause c₀ { c with session := c.session.cleared }) :
    Along W cause c₀ c (ofSession Session.clear) P :=
  fun _ _ _ _ _ _ _ _ => h

end Along

/-! ### The wallet -/

/-- The session and the cached profile are as they were. -/
structure Spares (c c' : Client) : Prop where
  session : c'.session = c.session
  cache : c'.cache = c.cache
  files : c'.files = c.files

theorem Spares.refl (c : Client) : c.Spares c := ⟨rfl, rfl, rfl⟩

theorem spares_openLedger {setting : Setting} {c c' : Client} {outcome : Result Nat}
    (h : c.openLedger setting = (outcome, c')) : c.Spares c' := by
  obtain ⟨ledger, attempts, rfl, -, -⟩ := openLedger_eq h
  exact ⟨rfl, rfl, rfl⟩

/-- Reading the balance has to do with the wallet only. -/
theorem Along.refreshBalance (setting : Setting) (p : Option Profile)
    {W : Cause → Client → Wait → Client → Prop} {cause : Cause} {c₀ c : Client}
    {P : Unit → Cause → Client → Client → Prop}
    (hwaits : ∀ ledger account c', c.Spares c' → W cause c₀ (.call (.readBalance ledger account)) c')
    (hends : ∀ c', c.Spares c' → P () cause c₀ c')
    (hread : ∀ ledger account answer c' c'', c'.Spares c'' →
      P () (.answered (.call (.readBalance ledger account)) answer) c' c'') :
    Along W cause c₀ c (refreshBalance setting p) P := by
  refine .bind (.lift (.look ?_))
  generalize c.wallet.owner? _ = owner
  cases owner with
  | none => exact hends c (.refl c)
  | some owner =>
    refine .attempt (.openLedger fun outcome c' hledger => ?_)
    cases outcome with
    | error e => exact hends c' (spares_openLedger hledger)
    | ok ledger =>
      refine .attempt (.ask (hwaits _ _ c' (spares_openLedger hledger)) fun answer c'' => ?_)
      cases answer with
      | error e => exact hread _ _ _ c'' c'' (.refl c'')
      | ok found => exact .lift (.changeWallet (hread _ _ _ c'' _ ⟨rfl, rfl, rfl⟩))

/-- Disconnecting has to do with the wallet only, too. -/
theorem Along.disconnect {W : Cause → Client → Wait → Client → Prop} {cause : Cause}
    {c₀ c : Client} {P : Unit → Cause → Client → Client → Prop}
    (hwaits : ∀ handle, W cause c₀ (.call (.disconnectWallet handle)) { c with wallet := {} })
    (hends : P () cause c₀ { c with wallet := {} })
    (htold : ∀ handle answer c', P () (.answered (.call (.disconnectWallet handle)) answer) c' c') :
    Along W cause c₀ c disconnect P := by
  refine .bind (.atomically fun _ => ?_)
  cases hprovider : c.wallet.provider with
  | none => exact hends
  | some handle => exact .bind (.ask (hwaits handle) fun answer c' => htold handle answer c')

/-! ### Operations -/

/-- What may happen while a profile is loaded. -/
inductive Loading : Segment (Option Profile)
  | called (c c' : Client) (x : Stop (Option Profile)) (hsession : c.session.Used c'.session)
    (hcache : c'.cache = c.cache) (hfiles : c'.files = c.files) : Loading .called c x c'
  | renewed (c c' : Client) (x : Stop (Option Profile)) (id : Nat) (outcome : Result String)
    (hsession : c'.session = c.session.leave id) (hcache : c'.cache = c.cache)
    (hfiles : c'.files = c.files) : Loading (.answered (.renewal id) outcome) c x c'
  | fetched (c c' : Client) (x : Stop (Option Profile)) (p : Profile) (now : Timestamp)
    (hsession : c'.session = c.session)
    (hcached : (c'.cache, c'.files) = c.cache.store c.files now p) :
    Loading (.answered (.call .getProfile) (.ok p)) c x c'
  | unfetched (c : Client) (x : Stop (Option Profile)) (e : Error) :
    Loading (.answered (.call .getProfile) (.error e)) c x c
  | balanced (c c' : Client) (x : Stop (Option Profile)) (ledger : Nat) (account : Address)
    (answer : Result (Option TokenAmount)) (hspares : c.Spares c') :
    Loading (.answered (.call (.readBalance ledger account)) answer) c x c'

/-- What may happen while somebody signs out. -/
inductive SigningOut : Segment Unit
  | called (c c' : Client) (x : Stop Unit) (hsession : c'.session = c.session.cleared)
    (hforgotten : (c'.cache, c'.files) = c.cache.clear c.files) : SigningOut .called c x c'
  | told (c : Client) (x : Stop Unit) (handle : Nat) (answer : Timely Unit) :
    SigningOut (.answered (.call (.disconnectWallet handle)) answer) c x c

/-- What is left of fetching a profile when a credential was looked for. -/
def fetchAfter : Result (Option String) → Operation (Option Profile)
  | .error _ | .ok none => return none
  | .ok (some _) => do
    match ← ask .getProfile with
    | .error _ => return none
    | .ok p =>
      .atomically fun now c => ((), c.cacheProfile p now)
      return some p

theorem fetchProfile_eq : fetchProfile = ofSession Session.access >>= fetchAfter := rfl

/-- The profile is asked for in the segment in which there is a credential. -/
theorem Along.fetchAfter {W : Cause → Client → Wait → Client → Prop} {cause : Cause}
    {c₀ c : Client} {P : Option Profile → Cause → Client → Client → Prop}
    (outcome : Result (Option String)) (hwaits : W cause c₀ (.call .getProfile) c)
    (hends : P none cause c₀ c)
    (hunfetched : ∀ e c', P none (.answered (.call .getProfile) (.error e)) c' c')
    (hfetched : ∀ p now c',
      P (some p) (.answered (.call .getProfile) (.ok p)) c' (c'.cacheProfile p now)) :
    Along W cause c₀ c (fetchAfter outcome) P := by
  rcases outcome with e | _ | token
  · exact hends
  · exact hends
  · refine .bind (.ask hwaits fun answer c' => ?_)
    cases answer with
    | error e => exact hunfetched e c'
    | ok p => exact .bind (.atomically fun now => hfetched p now c')

theorem keeps_loadProfile (setting : Setting) : Keeps Loading (loadProfile setting) := by
  intro c
  -- The balance is read in the segment in which the profile was found, and ends in one of its own.
  have hfound : ∀ (found : Option Profile) (cause : Cause) (c₀ c : Client),
      (∀ x c', c.Spares c' → Loading cause c₀ x c') →
        Along (fun cause c₀ w => Loading cause c₀ (.waits w)) cause c₀ c
          (if found.isSome then do refreshBalance setting found; return found else return found)
          fun found cause c₀ => Loading cause c₀ (.ends found) := by
    intro found cause c₀ c hsofar
    cases found with
    | none => exact hsofar _ c (.refl c)
    | some p =>
      refine .bind (.refreshBalance setting (some p) ?_ ?_ ?_)
      · exact fun ledger account c' hspares => hsofar _ c' hspares
      · exact fun c' hspares => hsofar _ c' hspares
      · exact fun ledger account answer c' c'' hspares => .balanced c' c'' _ ledger account answer hspares
  have hasked : ∀ (outcome : Result (Option String)) (cause : Cause) (c₀ c : Client),
      (∀ x c', c.Spares c' → Loading cause c₀ x c') →
        Along (fun cause c₀ w => Loading cause c₀ (.waits w)) cause c₀ c (fetchAfter outcome)
          fun found cause c₀ c => Along (fun cause c₀ w => Loading cause c₀ (.waits w)) cause c₀ c
            (if found.isSome then do refreshBalance setting found; return found else return found)
            fun found cause c₀ => Loading cause c₀ (.ends found) := by
    intro outcome cause c₀ c hsofar
    refine .fetchAfter outcome (hsofar _ c (.refl c)) (hfound none _ _ _ hsofar) ?_ ?_
    · exact fun e c' => .unfetched c' _ e
    · refine fun p now c' => hfound (some p) _ _ _ fun x c'' hspares => ?_
      have hcached : (c''.cache, c''.files) = c'.cache.store c'.files now p := by
        rw [hspares.cache, hspares.files]
        rfl
      exact .fetched c' c'' x p now hspares.session hcached
  refine .bind (.look ?_)
  cases hprofile : c.cache.profile? with
  | some p =>
    refine .bind (.pure (hfound (some p) _ _ _ fun x c' hspares => ?_))
    exact .called c c' x (hspares.session ▸ .refl _) hspares.cache hspares.files
  | none =>
    simp only [fetchProfile_eq]
    refine .bind (.bind (.access ?_ ?_ ?_))
    · exact fun id session hused => .called c _ _ hused rfl rfl
    · intro outcome session hused
      refine hasked outcome _ c _ fun x c' hspares => ?_
      exact .called c c' x (hspares.session ▸ hused) hspares.cache hspares.files
    · intro id outcome c'
      refine hasked _ _ c' _ fun x c'' hspares => ?_
      exact .renewed c' c'' x id outcome hspares.session hspares.cache hspares.files

theorem keeps_signOut : Keeps SigningOut signOut := by
  intro c
  refine .bind (.clear (.bind fun _ => .bind (.inNotices fun _ notices => .disconnect ?_ ?_ ?_)))
  · exact fun handle => .called c _ _ rfl rfl
  · exact .called c _ _ rfl rfl
  · exact fun handle answer c' => .told c' _ handle answer

end Client

end Wager
