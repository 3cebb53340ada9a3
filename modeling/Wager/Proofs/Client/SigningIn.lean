import Wager.Proofs.Client.Alone
import Wager.Proofs.Client.Execution
import Wager.Proofs.Session.Alone
import Wager.Proofs.Wallet.Leaving

/-!
# Signing in alone

What signing in comes to while no other operation runs, from the prompt to the balance.

Five parties take part: the wallet, the server, the ledger, the store and the person who reads the
notices. It fails in two cases: the wallet cannot be connected, for which the ledger has to be there
too, or the server refuses the exchange. Then all is as it was but for a notice of the error and for
a wallet that may have been connected. What is loaded after the exchange is loaded as far as it
goes. `SigningIn` says so for each of them.

The two parts after the exchange share what they rely on (`SignedIn`): the credentials are in the
store, and the wallet is connected and has a ledger. Loading the profile comes right after the pair
was kept, with no wait in between, so it finds a credential however long the server took to answer,
and nothing is renewed. Reading the balance finds the address, so it is always read.

## Main definitions

* `Client.Signs`, `Client.Exchanges`, `Client.Loads`: How the parts go.
* `Client.SignedIn`: A client in which somebody is signed in.
* `Client.SigningIn`: What holds of a sign-in that runs alone.

## Theorems

* `Client.does_connect_alone`, `Client.does_exchange_alone`, `Client.does_loadProfile_alone`: The
  parts go as listed.
* `Client.signIn_alone`: What holds of every sign-in that runs alone.
-/

namespace Wager.Client

open Session (Issue accessName refreshName)

/-! ### Connecting -/

/-- An answer that is a value has come in time. -/
theorem eq_answered_of_inTime {α : Type} {setting : Setting} {operation : String}
    {answer : Timely α} {a : α} (h : inTime setting operation answer = .ok a) :
    answer = .answered (.ok a) := by
  cases answer with
  | answered r => exact congrArg Timely.answered h
  | late => exact nomatch h

/-- What is asked for a connection with a signature. -/
def signing (wallet : Nat) (address : Address) (signature : List UInt8) : List Deed :=
  [.asked (.call (.connectWallet wallet)) (.answered (.ok address)),
    .asked (.call (.signMessage wallet address.text)) (.answered (.ok signature))]

/-- The deed of showing the prompt. -/
def prompting {τ : Type} (e : Surroundings τ) (s : Client × τ) : Deed :=
  .noticed s.1.notices (s.1.notices.loading (e.clock s.2) prompt).2

/-- How connecting with a signature goes, by what is asked and by the wallet that is left. -/
inductive Signs : List Deed → Result Wallet.Connection → Wallet → Prop
  | failed (asked : List Deed) (err : Error) (w : Wallet)
    (hroles : AskOnly [.connectWallet, .signMessage] asked) :
    Signs asked (.error err) w
  | signed (wallet ledger : Nat) (address : Address) (signature : List UInt8) (w : Wallet)
    (hphase : w.phase = .connected) (haddress : w.address = some address)
    (hledger : w.ledger = some ledger) :
    Signs (signing wallet address signature)
      (.ok { address, signature := some (Base64.encode signature) }) w

section

variable {τ : Type} {e : Surroundings τ} {s : Client × τ}

theorem does_tryConnect_alone (halone : e.IsAlone) : e.Does s (tryConnect e.setting true).run
    fun ds outcome s' => s.1.Undisturbed s'.1 ∧ Signs (requests ds) outcome s'.1.wallet := by
  -- Opening a handle asks nobody, so only the two calls of the wallet count.
  refine .attempt (.obtainLedger fun opens outcome ledger attempts hopens hkept => ?_)
  cases outcome with
  | error err =>
    refine ⟨⟨⟨rfl, rfl, rfl⟩, .refl _⟩, ?_⟩
    rw [hopens.requests]
    exact .failed [] err _ (askOnly_nil _)
  | ok handle =>
    have hledger := hkept handle rfl
    refine .attempt (.obtainWallet fun opens' outcome provider attempts' hopens' _ => ?_)
    cases outcome with
    | error err =>
      refine ⟨⟨⟨rfl, rfl, rfl⟩, .refl _⟩, ?_⟩
      rw [requests_append, hopens.requests, hopens'.requests]
      exact .failed [] err _ (askOnly_nil _)
    | ok wallet =>
      refine .lift (.changeWallet ?_)
      refine .attempt (.map (.askAlone halone fun answer notices t hfades => ?_))
      cases hanswer : inTime e.setting "connect" answer with
      | error err =>
        refine ⟨⟨⟨rfl, rfl, rfl⟩, hfades⟩, ?_⟩
        simp only [requests_append, hopens.requests, hopens'.requests, List.nil_append]
        exact .failed _ err _ ((askOnly_nil _).cons (r := .connectWallet) rfl (by decide))
      | ok address =>
        refine .lift (.changeWallet (.lift (.changeWallet ?_)))
        refine .attempt (.map (.askAlone halone fun answer' notices' t' hfades' => ?_))
        cases hanswer' : inTime e.setting "challenge signing" answer' with
        | error err =>
          refine ⟨⟨⟨rfl, rfl, rfl⟩, hfades.trans hfades'⟩, ?_⟩
          simp only [requests_append, hopens.requests, hopens'.requests, List.nil_append]
          have hsign := (askOnly_nil [.connectWallet, .signMessage]).cons (r := .signMessage)
            (d := .asked (.call (.signMessage wallet address.text)) answer') rfl (by decide)
          exact .failed _ err _ (hsign.cons (r := .connectWallet) rfl (by decide))
        | ok signature =>
          refine .lift (.changeWallet ?_)
          refine Surroundings.Does.pure _ ⟨⟨⟨rfl, rfl, rfl⟩, hfades.trans hfades'⟩, ?_⟩
          simp only [requests_append, hopens.requests, hopens'.requests, List.nil_append]
          -- Both answers have come in time, or there would be no address and no signature.
          rw [eq_answered_of_inTime hanswer, eq_answered_of_inTime hanswer']
          refine .signed wallet handle address signature _ rfl rfl hledger

/-- The prompt comes first, and it does not outlast the connection. -/
theorem does_connect_alone (halone : e.IsAlone) (hnumbered : s.1.notices.IsNumbered) :
    e.Does s (connect e.setting true) fun ds outcome s' =>
      ds.head? = some (prompting e s) ∧
        s.1.Undisturbed s'.1 ∧ Signs (requests ds) outcome s'.1.wallet := by
  refine .bind (.look (.bind (.map (.inNotices (notices_add_ne _ _ _ _ _) ?_))))
  refine .bind ((does_tryConnect_alone halone).imp ?_)
  rintro ds outcome s' ⟨hleft, hsigns⟩
  refine .bind (.changeNotices fun ds' hds' => ?_)
  have hgone : s.1.notices.Fades (s'.1.notices.remove s.1.notices.nextId) :=
    Notices.fades_retracted hnumbered hleft.notices
  have hretracted : ∀ wallet, s.1.Undisturbed
      { s'.1 with wallet, notices := s'.1.notices.remove s.1.notices.nextId } :=
    fun _ => ⟨⟨hleft.session, hleft.cache, hleft.files⟩, hgone⟩
  cases outcome with
  | error err =>
    refine .bind (.changeWallet (.pure _ ⟨rfl, hretracted _, ?_⟩))
    simp only [requests_append, hds', List.nil_append, List.append_nil]
    generalize hasked : requests ds = asked at hsigns
    cases hsigns with
    | failed asked err w hroles => exact .failed asked _ _ hroles
  | ok connection =>
    refine .pure _ ⟨rfl, hretracted _, ?_⟩
    simp only [requests_append, hds', List.nil_append, List.append_nil]
    exact hsigns

end

/-! ### Exchanging -/

/-- A client in which somebody is signed in: the credentials are in the store, and the wallet is
connected and has a ledger. -/
structure SignedIn (address : Address) (ledger : Nat) (i : Issue) (c : Client) : Prop where
  isWorking : c.session.store.IsWorking
  access : c.session.store.stored? accessName = some i.access
  refresh : c.session.store.stored? refreshName = some i.refresh
  phase : c.wallet.phase = .connected
  address : c.wallet.address = some address
  ledger : c.wallet.ledger = some ledger

namespace SignedIn

variable {address : Address} {ledger : Nat} {i : Issue} {c c' : Client}

theorem congr (h : SignedIn address ledger i c) (hsession : c'.session = c.session)
    (hwallet : c'.wallet = c.wallet) : SignedIn address ledger i c' := by
  refine ⟨?_, ?_, ?_, ?_, ?_, ?_⟩
  · exact hsession ▸ h.isWorking
  · exact hsession ▸ h.access
  · exact hsession ▸ h.refresh
  · exact hwallet ▸ h.phase
  · exact hwallet ▸ h.address
  · exact hwallet ▸ h.ledger

/-- Both credentials of a pair that is kept are in the store. -/
theorem kept (hworking : c.session.store.IsWorking) (hphase : c.wallet.phase = .connected)
    (haddress : c.wallet.address = some address) (hledger : c.wallet.ledger = some ledger)
    (pair : Credentials) {now : Timestamp} (hnow : Session.Datable now) :
    SignedIn address ledger ⟨pair, now⟩ { c with session := c.session.kept pair now } := by
  have hholds := Session.holds_kept [] pair c.session hworking hnow
  refine ⟨?_, hholds.1.stored?, hholds.2.stored?, hphase, haddress, hledger⟩
  exact Store.isWorking_set _ _ _ _ (Store.isWorking_set _ _ _ _ hworking)

/-- Until the access credential expires both can be read. -/
theorem get (h : SignedIn address ledger i c) {now : Timestamp}
    (hfresh : i.access.isExpired now = false) :
    (c.session.store.get now accessName).1 = some i.pair.access ∧
      (c.session.store.get now refreshName).1 = some i.pair.refresh := by
  have hlasts : i.refresh.isExpired now = false :=
    Bool.eq_false_iff.mpr fun hgone => Bool.eq_false_iff.mp hfresh (i.isExpired_access hgone)
  exact ⟨Store.get_of_lasting h.isWorking (Store.lasting?_of_fresh h.access hfresh),
    Store.get_of_lasting h.isWorking (Store.lasting?_of_fresh h.refresh hlasts)⟩

end SignedIn

/-- What is asked to exchange a signature, with the answer. -/
def exchanging (wallet : Nat) (address : Address) (signature : List UInt8)
    (answer : Result SignInReply) : List Deed :=
  signing wallet address signature ++
    [.asked (.call (.signIn address.text (Base64.encode signature))) answer]

/-- How the exchange goes, by what comes of connecting the wallet: what is asked, what it comes to
and what it leaves. -/
inductive Exchanges {τ : Type} (e : Surroundings τ) (found : Client) :
    Result Wallet.Connection → List Deed → Result Unit → Client × τ → Prop
  | unconnected (asked : List Deed) (err : Error) (s : Client × τ)
    (hroles : AskOnly [.connectWallet, .signMessage] asked)
    (hleft : found.Undisturbed s.1) :
    Exchanges e found (.error err) asked (.error err) s
  | refused (wallet : Nat) (address : Address) (signature : List UInt8) (err : Error)
    (s : Client × τ) (hleft : found.Undisturbed s.1) (hphase : s.1.wallet.phase = .connected)
    (haddress : s.1.wallet.address = some address) :
    Exchanges e found (.ok { address, signature := some (Base64.encode signature) })
      (exchanging wallet address signature (.error err)) (.error err) s
  | exchanged (wallet ledger : Nat) (address : Address) (signature : List UInt8)
    (reply : SignInReply) (s : Client × τ) (hnotices : found.notices.Fades s.1.notices)
    (hsigned : SignedIn address ledger ⟨reply.credentials, e.clock s.2⟩ s.1) :
    Exchanges e found (.ok { address, signature := some (Base64.encode signature) })
      (exchanging wallet address signature (.ok reply)) (.ok ()) s

section

variable {τ : Type} {e : Surroundings τ} {s : Client × τ}

theorem does_exchange_alone (halone : e.IsAlone) (hnumbered : s.1.notices.IsNumbered)
    (hworking : s.1.session.store.IsWorking) (hdatable : ∀ t, Session.Datable (e.clock t)) :
    e.Does s (exchange e.setting) fun ds outcome s' =>
      ds.head? = some (prompting e s) ∧
        Exchanges e s.1 (e.run (connect e.setting true) s).1 (requests ds) outcome s' := by
  have hconnect : e.Does s (connect e.setting true) fun ds connected s' =>
      connected = (e.run (connect e.setting true) s).1 ∧
        ds.head? = some (prompting e s) ∧
          s.1.Undisturbed s'.1 ∧ Signs (requests ds) connected s'.1.wallet :=
    ⟨rfl, does_connect_alone halone hnumbered⟩
  refine .attempt (hconnect.imp ?_)
  rintro ds connected s' ⟨hconnected, hds, hleft, hsigns⟩
  rw [← hconnected]
  generalize hasked : requests ds = asked at hsigns
  generalize hwallet : s'.1.wallet = w at hsigns
  cases hsigns with
  | failed asked err w hroles =>
    exact ⟨hds, .unconnected asked err s' hroles hleft⟩
  | signed wallet ledger address signature w hphase haddress hledger =>
    subst hwallet
    refine .attempt (.askAlone halone fun answer notices t hfades => ?_)
    have hprompted : ∀ ds', (ds ++ ds').head? = some (prompting e s) :=
      fun _ => List.mem_head?_append_of_mem_head? hds
    have hnotices := hleft.notices.trans hfades
    cases answer with
    | error err =>
      refine ⟨hprompted _, ?_⟩
      rw [requests_append, hasked]
      exact .refused wallet address signature err _
        ⟨⟨hleft.session, hleft.cache, hleft.files⟩, hnotices⟩ hphase haddress
    | ok reply =>
      refine .lift (r := ofSession (Session.establish reply.credentials))
        (.ofSession (Session.proceed_establish _ _ _) ?_)
      have hstore : s'.1.session.store.IsWorking := by
        rw [hleft.session]
        exact hworking
      have hsigned := SignedIn.kept (c := { s'.1 with notices }) hstore hphase haddress hledger
        reply.credentials (hdatable t)
      -- Caching the profile or not makes no difference here.
      cases reply.profile with
      | none =>
        refine Surroundings.Does.pure _ ⟨hprompted _, ?_⟩
        rw [requests_append, hasked]
        exact .exchanged wallet ledger address signature reply _ hnotices hsigned
      | some p =>
        rw [ExceptT.run_liftM]
        refine .map (.cacheProfile ⟨hprompted _, ?_⟩)
        rw [requests_append, hasked]
        exact .exchanged wallet ledger address signature reply _ hnotices (hsigned.congr rfl rfl)

end

/-! ### Loading -/

/-- The deed of reading the balance of an address, with the answer. -/
def reading (setting : Setting) (address : Address) (ledger : Nat)
    (answer : Result (Option TokenAmount)) : Deed :=
  .asked (.call (.readBalance ledger (setting.mint.accountOf address))) answer

/-- What is asked while a profile is loaded: the profile itself if it is not cached, and then the
balance if there is a profile. -/
inductive Loads (setting : Setting) (address : Address) (ledger : Nat) :
    List Deed → Option Profile → Prop
  | missing (fetched : List Deed) (hroles : AskOnly [.getProfile] fetched) :
    Loads setting address ledger fetched none
  | found (fetched : List Deed) (answer : Result (Option TokenAmount)) (p : Profile)
    (hroles : AskOnly [.getProfile] fetched) :
    Loads setting address ledger (fetched ++ [reading setting address ledger answer]) (some p)

section

variable {τ : Type} {e : Surroundings τ} {s : Client × τ} {address : Address} {ledger : Nat}
  {i : Issue}

/-- With an access credential the profile is asked for at once. -/
theorem does_fetchProfile_alone (halone : e.IsAlone) (hsigned : SignedIn address ledger i s.1)
    (hfresh : i.access.isExpired (e.clock s.2) = false) :
    e.Does s fetchProfile fun ds _ s' =>
      (∃ answer, requests ds = [.asked (.call .getProfile) answer]) ∧
        s.1.notices.Fades s'.1.notices ∧ SignedIn address ledger i s'.1 := by
  have hlasting := Store.lasting?_of_fresh hsigned.access hfresh
  have hget := Store.get_of_lasting hsigned.isWorking hlasting
  -- Looking for the credential leaves it in the store.
  have hread : SignedIn address ledger i
      { s.1 with session := (s.1.session.read accessName (e.clock s.2)).2 } := by
    have hsame := Store.stored?_get_of_lasting hsigned.isWorking hlasting
    exact ⟨Store.isWorking_get _ _ _ hsigned.isWorking, (hsame _).trans hsigned.access,
      (hsame _).trans hsigned.refresh, hsigned.phase, hsigned.address, hsigned.ledger⟩
  rw [fetchProfile_eq]
  refine .bind (.ofSession (Session.proceed_access_of_some _ _ _ hget) ?_)
  refine .bind (.askAlone halone fun answer notices t hfades => ?_)
  cases answer with
  | error err => exact .pure _ ⟨⟨_, rfl⟩, hfades, hread.congr rfl rfl⟩
  | ok p => exact .bind (.cacheProfile (.pure _ ⟨⟨_, rfl⟩, hfades, hread.congr rfl rfl⟩))

/-- With a connected wallet the balance is asked for, whatever is known of an owner. -/
theorem does_refreshBalance_alone (halone : e.IsAlone) (hsigned : SignedIn address ledger i s.1)
    (p : Option Profile) : e.Does s (refreshBalance e.setting p) fun ds _ s' =>
      (∃ answer, requests ds = [reading e.setting address ledger answer]) ∧
        s.1.notices.Fades s'.1.notices ∧ SignedIn address ledger i s'.1 := by
  refine .bind (.lift (.look ?_))
  have howner : ∀ known, s.1.wallet.owner? known = some address := by
    intro known
    rw [Wallet.owner?, hsigned.address]
    rfl
  rw [howner]
  refine .attempt (.useLedger hsigned.ledger ?_)
  refine .attempt (.askAlone halone fun answer notices t hfades => ?_)
  cases answer with
  | error err => exact .pure _ ⟨⟨_, rfl⟩, hfades, hsigned.congr rfl rfl⟩
  | ok found =>
    refine .lift (.changeWallet (.pure _ ⟨⟨_, rfl⟩, hfades, ?_⟩))
    exact { hsigned with }

theorem does_loadProfile_alone (halone : e.IsAlone) (hsigned : SignedIn address ledger i s.1)
    (hfresh : i.access.isExpired (e.clock s.2) = false) :
    e.Does s (loadProfile e.setting) fun ds found s' =>
      Loads e.setting address ledger (requests ds) found ∧ s.1.notices.Fades s'.1.notices ∧
        SignedIn address ledger i s'.1 := by
  -- The balance follows on a profile, whether it was cached or fetched.
  have hbalance : ∀ (ds : List Deed) (p : Profile) (s' : Client × τ),
      AskOnly [.getProfile] (requests ds) → s.1.notices.Fades s'.1.notices →
      SignedIn address ledger i s'.1 →
      e.Does s' (do refreshBalance e.setting (some p); return some p) fun ds' found s'' =>
        Loads e.setting address ledger (requests (ds ++ ds')) found ∧
          s.1.notices.Fades s''.1.notices ∧ SignedIn address ledger i s''.1 := by
    intro ds p s' hroles hfades hsigned'
    refine .bind ((does_refreshBalance_alone halone hsigned' (some p)).imp ?_)
    rintro ds' _ s'' ⟨⟨answer, hasked⟩, hfades', hsigned''⟩
    refine Surroundings.Does.pure _ ⟨?_, hfades.trans hfades', hsigned''⟩
    rw [List.append_nil, requests_append, hasked]
    exact .found (requests ds) answer p hroles
  refine .bind (.look ?_)
  cases s.1.cache.profile? with
  | some p =>
    refine .bind (.pure _ ?_)
    exact hbalance [] p s (askOnly_nil _) (.refl _) hsigned
  | none =>
    refine .bind ((does_fetchProfile_alone halone hsigned hfresh).imp ?_)
    rintro ds found s' ⟨⟨answer, hasked⟩, hfades, hsigned'⟩
    have hroles : AskOnly [.getProfile] (requests ds) := by
      rw [hasked]
      exact (askOnly_nil _).cons rfl (by decide)
    cases found with
    | none =>
      refine Surroundings.Does.pure _ ⟨?_, hfades, hsigned'⟩
      rw [List.append_nil]
      exact .missing _ hroles
    | some p => exact hbalance ds p s' hroles hfades hsigned'

end

/-! ### Signing in -/

/-- What holds of a sign-in that runs alone: of its deeds, its outcome and the client that it left.
`connected` is what comes of connecting the wallet. -/
structure SigningIn {τ : Type} (e : Surroundings τ) (s : Client × τ)
    (connected : Result Wallet.Connection) (ds : List Deed) (outcome : Result (Option Profile))
    (left : Client) : Prop where
  /-- The prompt is shown first. -/
  prompted : ds.head? = some (prompting e s)
  /-- It fails if the wallet cannot be connected or the server refuses, and for no other reason. -/
  fails : ∀ err, outcome = .error err ↔ connected = .error err ∨
    ∃ address signature, .asked (.call (.signIn address signature)) (.error err) ∈ ds
  /-- Without a connection the server is not asked. -/
  unasked : ∀ err, connected = .error err → requestsTo .signIn ds = []
  /-- With one it is asked once, with the address that the wallet has just given and with the
  wallet's signature of that very text. -/
  asked : ∀ connection, connected = .ok connection → ∃ wallet signature answer,
    requestsTo .connectWallet ds
        = [.asked (.call (.connectWallet wallet)) (.answered (.ok connection.address))] ∧
      requestsTo .signMessage ds
        = [.asked (.call (.signMessage wallet connection.address.text))
          (.answered (.ok signature))] ∧
      requestsTo .signIn ds
        = [.asked (.call (.signIn connection.address.text (Base64.encode signature))) answer]
  /-- A wallet that was connected stays connected, whatever comes of the exchange. -/
  stays : ∀ connection, connected = .ok connection →
    left.wallet.phase = .connected ∧ left.wallet.address = some connection.address
  /-- A failure leaves the session and the cached profile as they were, and it leaves one notice. -/
  failed : ∀ err, outcome = .error err → s.1.Spares left ∧ ∃ kept t, s.1.notices.Fades kept ∧
    left.notices = (kept.error (e.clock t) err.userMessage).2 ∧
    kept.Gains .error err.userMessage left.notices
  /-- After a success the pair that the server has given is in the store, and for an hour it can be
  read. -/
  stored : ∀ found, outcome = .ok found → ∃ address signature reply t,
    .asked (.call (.signIn address signature)) (.ok reply) ∈ ds ∧
      left.session.store.stored? accessName = some (Issue.access ⟨reply.credentials, e.clock t⟩) ∧
      left.session.store.stored? refreshName = some (Issue.refresh ⟨reply.credentials, e.clock t⟩) ∧
      ∀ now, ((e.clock t).addHours 1).le now = false →
        (left.session.store.get now accessName).1 = some reply.credentials.access ∧
          (left.session.store.get now refreshName).1 = some reply.credentials.refresh
  /-- A success leaves no notice. -/
  quiet : ∀ found, outcome = .ok found → s.1.notices.Fades left.notices
  /-- After a success the balance was asked for once, whatever was answered. -/
  balanced : ∀ found, outcome = .ok found → ∃ connection ledger answer, connected = .ok connection ∧
    requestsTo .readBalance ds
      = [.asked (.call (.readBalance ledger (e.setting.mint.accountOf connection.address))) answer]

/-- Whom an exchange asks, whatever is loaded afterwards. -/
theorem requestsTo_of_exchanging {wallet : Nat} {address : Address} {signature : List UInt8}
    {answer : Result SignInReply} {ds : List Deed} (later : List Deed)
    (h : requests ds = exchanging wallet address signature answer ++ later)
    (hlater : AskOnly [.getProfile, .readBalance] later) :
    requestsTo .connectWallet ds
        = [.asked (.call (.connectWallet wallet)) (.answered (.ok address))] ∧
      requestsTo .signMessage ds
        = [.asked (.call (.signMessage wallet address.text)) (.answered (.ok signature))] ∧
      requestsTo .signIn ds
        = [.asked (.call (.signIn address.text (Base64.encode signature))) answer] := by
  refine ⟨?_, ?_, ?_⟩
  · rw [requestsTo_eq, h, requestsTo_append, hlater.requestsTo_eq_nil (by decide)]
    rfl
  · rw [requestsTo_eq, h, requestsTo_append, hlater.requestsTo_eq_nil (by decide)]
    rfl
  · rw [requestsTo_eq, h, requestsTo_append, hlater.requestsTo_eq_nil (by decide)]
    rfl

/-- The server has refused if that is its one answer. -/
theorem refuses_iff {address signature : String} {answer : Result SignInReply} {ds : List Deed}
    (h : requestsTo .signIn ds = [.asked (.call (.signIn address signature)) answer])
    (err : Error) :
    (∃ address signature, .asked (.call (.signIn address signature)) (.error err) ∈ ds) ↔
      answer = .error err := by
  constructor
  · rintro ⟨address', signature', hmem⟩
    have hone : .asked (.call (.signIn address' signature')) (.error err) ∈ requestsTo .signIn ds :=
      mem_requestsTo hmem
    rw [h, List.mem_singleton] at hone
    cases hone
    rfl
  · rintro rfl
    refine ⟨address, signature, mem_of_mem_requestsTo (r := .signIn) ?_⟩
    rw [h]
    exact List.mem_singleton_self _

namespace SigningIn

variable {τ : Type} {e : Surroundings τ} {s : Client × τ} {ds : List Deed} {left : Client}
  {address : Address} {signature : List UInt8}

/-- Who is not connected has asked the wallet only. -/
theorem of_unconnected {err : Error} (hprompted : ds.head? = some (prompting e s))
    (hroles : AskOnly [.connectWallet, .signMessage] (requests ds))
    (hspares : s.1.Spares left)
    (hnotices : ∃ kept t, s.1.notices.Fades kept ∧
      left.notices = (kept.error (e.clock t) err.userMessage).2 ∧
      kept.Gains .error err.userMessage left.notices) :
    SigningIn e s (.error err) ds (.error err) left := by
  have hunasked : requestsTo .signIn ds = [] := by
    rw [requestsTo_eq]
    exact hroles.requestsTo_eq_nil (by decide)
  refine ⟨hprompted, ?_, fun _ _ => hunasked, nofun, nofun, ?_, nofun, nofun, nofun⟩
  · intro err'
    rw [Except.error.injEq, Except.error.injEq, or_iff_left]
    rintro ⟨address, signature, hmem⟩
    have hasked : _ ∈ requestsTo .signIn ds := mem_requestsTo hmem
    rw [hunasked] at hasked
    exact absurd hasked List.not_mem_nil
  · intro err' h
    rw [← Except.error.inj h]
    exact ⟨hspares, hnotices⟩

/-- Whoever is refused has asked the server, and stays connected. -/
theorem of_refused {err : Error} (wallet : Nat) (hprompted : ds.head? = some (prompting e s))
    (hasked : requests ds = exchanging wallet address signature (.error err))
    (hspares : s.1.Spares left) (hphase : left.wallet.phase = .connected)
    (haddress : left.wallet.address = some address)
    (hnotices : ∃ kept t, s.1.notices.Fades kept ∧
      left.notices = (kept.error (e.clock t) err.userMessage).2 ∧
      kept.Gains .error err.userMessage left.notices) :
    SigningIn e s (.ok { address, signature := some (Base64.encode signature) }) ds (.error err)
      left := by
  have hrequests := requestsTo_of_exchanging [] (by rw [hasked, List.append_nil]) (askOnly_nil _)
  refine ⟨hprompted, ?_, nofun, ?_, ?_, ?_, nofun, nofun, nofun⟩
  · intro err'
    rw [refuses_iff hrequests.2.2, or_iff_right nofun, Except.error.injEq, Except.error.injEq]
  · rintro connection h
    rw [← Except.ok.inj h]
    exact ⟨wallet, signature, _, hrequests⟩
  · rintro connection h
    rw [← Except.ok.inj h]
    exact ⟨hphase, haddress⟩
  · intro err' h
    rw [← Except.error.inj h]
    exact ⟨hspares, hnotices⟩

/-- Whoever has a session is signed in, whatever has been loaded. -/
theorem of_exchanged (wallet : Nat) (balance : Result (Option TokenAmount)) {ledger : Nat}
    {reply : SignInReply} {fetched : List Deed} {found : Option Profile} {t : τ}
    (hprompted : ds.head? = some (prompting e s))
    (hasked : requests ds = exchanging wallet address signature (.ok reply) ++
      (fetched ++ [reading e.setting address ledger balance]))
    (hroles : AskOnly [.getProfile] fetched)
    (hnotices : s.1.notices.Fades left.notices)
    (hsigned : SignedIn address ledger ⟨reply.credentials, e.clock t⟩ left) :
    SigningIn e s (.ok { address, signature := some (Base64.encode signature) }) ds (.ok found)
      left := by
  have hlater : AskOnly [.getProfile, .readBalance]
      (fetched ++ [reading e.setting address ledger balance]) :=
    (hroles.mono (by decide)).append ((askOnly_nil _).cons (r := .readBalance) rfl (by decide))
  have hrequests := requestsTo_of_exchanging _ hasked hlater
  -- There is no error, so what is said of errors holds of none.
  refine ⟨hprompted, ?_, nofun, ?_, ?_, nofun, ?_, fun _ _ => hnotices, ?_⟩
  · intro err
    rw [refuses_iff hrequests.2.2]
    simp only [reduceCtorEq, or_self]
  · rintro connection h
    rw [← Except.ok.inj h]
    exact ⟨wallet, signature, _, hrequests⟩
  · rintro connection h
    rw [← Except.ok.inj h]
    exact ⟨hsigned.phase, hsigned.address⟩
  · intro _ _
    refine ⟨address.text, Base64.encode signature, reply, t, ?_, hsigned.access, hsigned.refresh,
      fun now hfresh => hsigned.get hfresh⟩
    refine mem_of_mem_requestsTo (r := .signIn) ?_
    rw [hrequests.2.2]
    exact List.mem_singleton_self _
  · intro _ _
    refine ⟨_, ledger, balance, rfl, ?_⟩
    rw [requestsTo_eq, hasked, requestsTo_append, requestsTo_append,
      hroles.requestsTo_eq_nil (by decide)]
    rfl

end SigningIn

/-- What holds of every sign-in that runs alone over a working store, from whatever client, whatever
the wallet, the server and the ledger answer and however long that takes. -/
theorem signIn_alone {τ : Type} (e : Surroundings τ) (halone : e.IsAlone)
    (hdatable : ∀ t, Session.Datable (e.clock t)) (s : Client × τ)
    (hnumbered : s.1.notices.IsNumbered) (hworking : s.1.session.store.IsWorking) :
    SigningIn e s (e.run (connect e.setting true) s).1 (e.deeds (signIn e.setting) s)
      (e.run (signIn e.setting) s).1 (e.run (signIn e.setting) s).2.1 := by
  suffices h : e.Does s (signIn e.setting) fun ds outcome s' =>
      SigningIn e s (e.run (connect e.setting true) s).1 ds outcome s'.1 from h
  refine .bind ((does_exchange_alone halone hnumbered hworking hdatable).imp ?_)
  rintro ds outcome s' ⟨hds, hexchanges⟩
  have hprompted : ∀ ds', (ds ++ ds').head? = some (prompting e s) :=
    fun _ => List.mem_head?_append_of_mem_head? hds
  generalize (e.run (connect e.setting true) s).1 = connected at hexchanges ⊢
  generalize hasked : requests ds = asked at hexchanges
  cases hexchanges with
  | unconnected asked err s' hroles hleft =>
    refine .bind (.bind (.changeNotices fun ds' hds' => .pure _ (.pure _ ?_)))
    refine .of_unconnected (hprompted _) ?_ hleft.toSpares.setNotices
      ⟨_, s'.2, hleft.notices, rfl, Notices.gains_add ..⟩
    simp only [requests_append, hasked, hds', List.append_nil]
    exact hroles
  | refused wallet address signature err s' hleft hphase haddress =>
    refine .bind (.bind (.changeNotices fun ds' hds' => .pure _ (.pure _ ?_)))
    refine .of_refused wallet (hprompted _) ?_ hleft.toSpares.setNotices hphase haddress
      ⟨_, s'.2, hleft.notices, rfl, Notices.gains_add ..⟩
    simp only [requests_append, hasked, hds', List.append_nil]
  | exchanged wallet ledger address signature reply s' hnotices hsigned =>
    refine .bind ((does_loadProfile_alone halone hsigned (Issue.isExpired_access_time _)).imp ?_)
    rintro ds' found s'' ⟨hloads, hfades, hsigned'⟩
    generalize hasked' : requests ds' = asked' at hloads
    cases hloads with
    | found fetched answer p hroles =>
      refine .bind (.pure _ (.pure _ ?_))
      refine .of_exchanged wallet answer (hprompted _) ?_ hroles (hnotices.trans hfades) hsigned'
      simp only [requests_append, hasked, hasked', List.append_nil]
    | missing asked' hroles =>
      -- The balance that was not read with the profile is read now.
      refine .bind ((does_refreshBalance_alone halone hsigned' none).imp ?_)
      rintro ds'' _ s''' ⟨⟨answer, hasked''⟩, hfades', hsigned''⟩
      refine Surroundings.Does.pure _ ?_
      refine .of_exchanged wallet answer (hprompted _) ?_ hroles
        ((hnotices.trans hfades).trans hfades') hsigned''
      simp only [requests_append, hasked, hasked', hasked'', List.append_nil]

/-- A wallet that signs and a server that gives a session for that, but no profile; the ledger
cannot be read. -/
def exchanger : Surroundings Unit where
  setting :=
    { mint := { address := ⟨.zero 32⟩, decimals := 6 }, patience := 60000
      openWallet := fun _ => .ok (), openLedger := fun _ => .ok () }
  clock _ := ⟨0, 0⟩
  answer
    | .call (.connectWallet _) => pure (.answered (.ok ⟨.zero 32⟩))
    | .call (.signMessage ..) => pure (.answered (.ok [1, 2, 3]))
    | .call (.signIn ..) => pure (.ok { credentials := { access := "a", refresh := "r" } })
    | w => pure (Wallet.Traffic.unanswered w)

/-- A sign-in that succeeds although neither the profile nor the balance can be had. -/
theorem signIn_alone_sample :
    let s : Client × Unit := ({}, ())
    SigningIn exchanger s (.ok { address := ⟨.zero 32⟩, signature := some "AQID" })
      (exchanger.deeds (signIn exchanger.setting) s) (.ok none)
      (exchanger.run (signIn exchanger.setting) s).2.1 := by
  intro s
  have halone : exchanger.IsAlone := by
    intro w c t
    refine ⟨c.notices, .refl _, ?_⟩
    rcases w with id | call
    · rfl
    · cases call <;> rfl
  have hnow : Session.Datable ⟨0, 0⟩ :=
    ⟨⟨by decide +kernel, Or.inl (show 0 < 1000000000 by decide)⟩, by decide +kernel⟩
  have hsigning := signIn_alone exchanger halone (fun _ => hnow) s Notices.isNumbered_empty trivial
  have hconnected : (exchanger.run (connect exchanger.setting true) s).1
      = .ok { address := ⟨.zero 32⟩, signature := some "AQID" } := rfl
  have houtcome : (exchanger.run (signIn exchanger.setting) s).1 = .ok none := by
    decide +kernel
  rw [hconnected, houtcome] at hsigning
  exact hsigning

end Wager.Client
