import Wager.Proofs.Client.SigningIn
import Wager.Proofs.Wallet.Moves

/-!
# Who is signed in

Whose profile signing in shows, and keeps.

A server that exchanges a signature for a session may say whose session it is, and if it does not the
profile is fetched. Whatever was cached before the exchange is the profile of whoever was signed in
then, but signing in does not look at it until the end: it caches what the server has said, if it has
said anything, and then it takes what is cached for the person who has signed in. If the server has
said nothing that is the earlier person (`earlier_profile`), and nobody is asked. So it is proved
that the profile comes from this very sign-in if nothing was cached before, or if the server gives a
profile with the session.

Nothing is assumed of what others do while the sign-in waits but that they leave the cached profile
alone and the store working. What signing in does between its waits is known from the segments of its
parts, so only what is asked and what is cached has to be followed here.

## Main definitions

* `Client.Surroundings.LeavesProfile`: The others leave the cached profile alone.
* `Client.Keeping`: A client with a given cache.
* `Client.Exchanged`: A client right after an exchange.
* `Client.Introduces`: Where the profile comes from that a sign-in gives.

## Theorems

* `Client.Surroundings.Does.of_along`: What all segments preserve is there at the end.
* `Client.does_exchange_keeping`: What an exchange leaves.
* `Client.does_loadProfile_exchanged`: What is loaded after an exchange.
* `Client.signIn_introduces`: The profile comes from this sign-in.
* `Client.earlier_profile`: The profile of an earlier person is given and kept.
-/

namespace Wager.Client

open Session (Issue accessName refreshName)

/-! ### What segments preserve -/

namespace Surroundings

variable {τ α : Type} {e : Surroundings τ}

/-- Where every segment of an operation and every answer preserve something, it is there at the end,
and only those were asked who are asked in the segments. -/
theorem Does.of_along {K : Client → Prop} (roles : List Role)
    {W : Cause → Client → Wait → Client → Prop} {Q : α → Cause → Client → Client → Prop}
    (hanswers : ∀ w s, K s.1 → K (e.answer w s).2.1)
    (hwaits : ∀ cause c₀ w c, K c₀ → W cause c₀ w c → K c ∧
      ∀ answer, ∃ r ∈ roles, (Deed.asked w answer).role? = some r)
    {r : Operation α} {cause : Cause} {c₀ : Client} {s : Client × τ}
    (h : Along W cause c₀ s.1 r Q) (hK : K c₀) :
    e.Does s r fun ds a s' => AskOnly roles (requests ds) ∧
      ∃ cause c₀, K c₀ ∧ Q a cause c₀ s'.1 := by
  -- On the operation; a section belongs to the segment that it is in, and a wait begins a new one.
  induction r generalizing cause c₀ s with
  | done a => exact ⟨askOnly_nil roles, cause, c₀, hK, h⟩
  | act effect next ih =>
    obtain ⟨hroles, hend⟩ := ih (e.clock s.2) s.1 (s := (effect (e.clock s.2) s.1, s.2))
      (h (e.clock s.2)) hK
    refine ⟨?_, hend⟩
    rw [deeds, requests_append, requests_sectionDeeds, List.nil_append]
    exact hroles
  | wait w next ih =>
    obtain ⟨hkept, hasked⟩ := hwaits _ _ _ _ hK h.1
    obtain ⟨hroles, hend⟩ := ih (e.answer w s).1 (s := (e.answer w s).2) (h.2 _ _)
      (hanswers w s hkept)
    refine ⟨?_, hend⟩
    obtain ⟨r, hr, hrole⟩ := hasked (e.answer w s).1
    have hrequests : requests (e.deeds (.wait w next) s) =
        .asked w (e.answer w s).1 :: requests (e.deeds (next (e.answer w s).1) (e.answer w s).2) :=
      List.filter_cons_of_pos (by rw [hrole]; rfl)
    rw [hrequests]
    exact hroles.cons hrole hr

/-- While an operation waits, the others leave the cached profile alone and the store working. -/
structure LeavesProfile (e : Surroundings τ) : Prop where
  cache : ∀ w s, (e.answer w s).2.1.cache = s.1.cache
  isWorking : ∀ w s, s.1.session.store.IsWorking → (e.answer w s).2.1.session.store.IsWorking

end Surroundings

/-- A client with a given cache, whose store works. -/
structure Keeping (cache : ProfileCache) (c : Client) : Prop where
  cache : c.cache = cache
  isWorking : c.session.store.IsWorking

namespace Keeping

variable {cache : ProfileCache} {c c' : Client}

theorem spares (h : Keeping cache c) (hspares : c.Spares c') : Keeping cache c' :=
  ⟨hspares.cache.trans h.cache, hspares.session ▸ h.isWorking⟩

theorem answer {τ : Type} {e : Surroundings τ} (hleaves : e.LeavesProfile) (w : Wait)
    (s : Client × τ) (h : Keeping cache s.1) : Keeping cache (e.answer w s).2.1 :=
  ⟨(hleaves.cache w s).trans h.cache, hleaves.isWorking w s h.isWorking⟩

end Keeping

/-- Connecting has to do with the wallet and the notices only. -/
theorem Connecting.spares {setting : Setting} {sign : Bool} {cause : Cause} {c c' : Client}
    {x : Stop (Result Wallet.Connection)} (h : Connecting setting sign cause c x c') :
    c.Spares c' := by
  cases h with
  | reused c address hsign haddress => exact .refl c
  | noLedger c c₁ e notices notices' haddress hledger =>
    obtain ⟨hsession, hcache, hfiles⟩ := spares_openLedger hledger
    exact ⟨hsession, hcache, hfiles⟩
  | noWallet c c₁ c₂ ledger e notices notices' haddress hledger hwallet =>
    obtain ⟨hsession, hcache, hfiles⟩ := spares_openLedger hledger
    obtain ⟨provider, attempts, rfl, -, -⟩ := openWallet_eq hwallet
    exact ⟨hsession, hcache, hfiles⟩
  | asked c c₁ c₂ ledger handle notices haddress hledger hwallet =>
    obtain ⟨hsession, hcache, hfiles⟩ := spares_openLedger hledger
    obtain ⟨provider, attempts, rfl, -, -⟩ := openWallet_eq hwallet
    exact ⟨hsession, hcache, hfiles⟩
  | rejected c handle answer e notices hanswer => exact ⟨rfl, rfl, rfl⟩
  | connected c handle answer address notices hsign hanswer => exact ⟨rfl, rfl, rfl⟩
  | challenged c handle answer address hsign hanswer => exact ⟨rfl, rfl, rfl⟩
  | unsigned c handle message answer e notices hsign hanswer => exact ⟨rfl, rfl, rfl⟩
  | signed c handle address answer bytes notices hsign hanswer => exact ⟨rfl, rfl, rfl⟩

/-- Connecting asks the wallet, and nobody else. -/
theorem Connecting.role {setting : Setting} {sign : Bool} {cause : Cause} {c c' : Client}
    {w : Wait} (h : Connecting setting sign cause c (.waits w) c') (answer : w.Answer) :
    ∃ r ∈ [Role.connectWallet, Role.signMessage], (Deed.asked w answer).role? = some r := by
  cases h with
  | asked c c₁ c₂ ledger handle notices haddress hledger hwallet =>
    exact ⟨.connectWallet, by decide, rfl⟩
  | challenged c handle answer address hsign hanswer => exact ⟨.signMessage, by decide, rfl⟩

section

variable {τ : Type} {e : Surroundings τ} {s : Client × τ} {cache : ProfileCache}

theorem does_connect_keeping (hleaves : e.LeavesProfile) (hs : Keeping cache s.1) (sign : Bool) :
    e.Does s (connect e.setting sign) fun ds _ s' =>
      AskOnly [.connectWallet, .signMessage] (requests ds) ∧ Keeping cache s'.1 := by
  refine (Surroundings.Does.of_along [.connectWallet, .signMessage] (Keeping.answer hleaves) ?_
    (keeps_connect e.setting sign s.1) hs).imp ?_
  · exact fun cause c₀ w c hkeeping hconnects => ⟨hkeeping.spares hconnects.spares, hconnects.role⟩
  · rintro ds outcome s' ⟨hroles, cause, c₀, hkeeping, hconnects⟩
    exact ⟨hroles, hkeeping.spares hconnects.spares⟩

theorem does_refreshBalance_keeping (hleaves : e.LeavesProfile) (hs : Keeping cache s.1)
    (p : Option Profile) : e.Does s (refreshBalance e.setting p) fun ds _ s' =>
      AskOnly [.readBalance] (requests ds) ∧ Keeping cache s'.1 := by
  have halong : Along (fun _ c₀ w c => c₀.Spares c ∧
      ∃ ledger account, w = .call (.readBalance ledger account)) .called s.1 s.1
      (refreshBalance e.setting p) fun _ _ c₀ c => c₀.Spares c := by
    refine .refreshBalance e.setting p ?_ ?_ ?_
    · exact fun ledger account c' hspares => ⟨hspares, ledger, account, rfl⟩
    · exact fun c' hspares => hspares
    · exact fun ledger account answer c' c'' hspares => hspares
  refine (Surroundings.Does.of_along [.readBalance] (Keeping.answer hleaves) ?_ halong hs).imp ?_
  · rintro cause c₀ w c hkeeping ⟨hspares, ledger, account, rfl⟩
    exact ⟨hkeeping.spares hspares, fun answer => ⟨.readBalance, by decide, rfl⟩⟩
  · rintro ds _ s' ⟨hroles, cause, c₀, hkeeping, hspares⟩
    exact ⟨hroles, hkeeping.spares hspares⟩

/-! ### Exchanging -/

/-- A client right after an exchange: the access credential of the pair is in the store since just
now, and cached is the profile that came with it, or else the one that was cached before. -/
structure Exchanged (e : Surroundings τ) (before : Option Profile) (reply : SignInReply)
    (s : Client × τ) : Prop where
  isWorking : s.1.session.store.IsWorking
  access : s.1.session.store.stored? accessName =
    some (Issue.access ⟨reply.credentials, e.clock s.2⟩)
  profile : s.1.cache.profile? = reply.profile.or before

/-- What an exchange asks that succeeds, and what it leaves. -/
theorem does_exchange_keeping (hleaves : e.LeavesProfile)
    (hdatable : ∀ t, Session.Datable (e.clock t)) (hs : Keeping cache s.1) :
    e.Does s (exchange e.setting) fun ds outcome s' => outcome = .ok () →
      ∃ asked address signature reply,
        requests ds = asked ++ [.asked (.call (.signIn address signature)) (.ok reply)] ∧
          AskOnly [.connectWallet, .signMessage] asked ∧ Exchanged e cache.profile? reply s' := by
  refine .attempt ((does_connect_keeping hleaves hs true).imp ?_)
  rintro ds outcome s₁ ⟨hroles, hs₁⟩
  cases outcome with
  | error err => exact nofun
  | ok connection =>
    obtain ⟨address, signature⟩ := connection
    cases signature with
    | none =>
      -- Without a signature there is nothing to exchange.
      refine Surroundings.Does.pure (α := Result Unit) _ ?_
      exact nofun
    | some signature =>
      refine .attempt (.ask fun answer s₂ hanswer => ?_)
      have hs₂ : Keeping cache s₂.1 := by
        have hkept := Keeping.answer hleaves (.call (.signIn address.text signature)) s₁ hs₁
        rw [hanswer] at hkept
        exact hkept
      cases answer with
      | error err => exact nofun
      | ok reply =>
        refine .lift (r := ofSession (Session.establish reply.credentials))
          (.ofSession (Session.proceed_establish _ _ _) ?_)
        have hasked : ∀ ds', requests ds' = [] →
            requests (ds ++ ([.asked (.call (.signIn address.text signature)) (.ok reply)]
              ++ ([] ++ ds'))) = requests ds ++
                [.asked (.call (.signIn address.text signature)) (.ok reply)] := by
          intro ds' hds'
          rw [requests_append, requests_append, List.nil_append, hds', List.append_nil]
          rfl
        have hworking : (s₂.1.session.kept reply.credentials (e.clock s₂.2)).store.IsWorking :=
          Store.isWorking_set _ _ _ _ (Store.isWorking_set _ _ _ _ hs₂.isWorking)
        have hstored := (Session.holds_kept [] reply.credentials s₂.1.session hs₂.isWorking
          (hdatable s₂.2)).1.stored?
        cases hprofile : reply.profile with
        | none =>
          refine Surroundings.Does.pure _ fun _ => ?_
          refine ⟨requests ds, _, _, reply, hasked [] rfl, hroles, hworking, hstored, ?_⟩
          rw [hprofile, Option.none_or]
          exact congrArg ProfileCache.profile? hs₂.cache
        | some p =>
          rw [ExceptT.run_liftM]
          refine .map (.cacheProfile fun _ => ?_)
          refine ⟨requests ds, _, _, reply, hasked [] rfl, hroles, hworking, hstored, ?_⟩
          rw [hprofile]
          rfl

/-! ### Loading -/

/-- Where the profile comes from that a sign-in gives, by what is asked for it. Whoever is known is not
asked for. Otherwise the profile is asked for once, when whoever looks for a credential finds the
given one, and if that fails there is none. -/
inductive Introduces (e : Surroundings τ) (access : String) (known : Option Profile) :
    List Deed → Option Profile → Prop
  | known (p : Profile) (hknown : known = some p) : Introduces e access known [] (some p)
  | fetched (answer : Result Profile) (c : Client) (t : τ) (hunknown : known = none)
    (hanswer : (e.answer (.call .getProfile) (c, t)).1 = answer)
    (haccess : (c.session.store.get (e.clock t) accessName).1 = some access) :
    Introduces e access known [.asked (.call .getProfile) answer] answer.toOption

/-- Right after an exchange the profile is asked for with the new credential. -/
theorem does_fetchProfile_exchanged (hleaves : e.LeavesProfile) {reply : SignInReply}
    {before : Option Profile} (hs : Exchanged e before reply s)
    (hunknown : reply.profile.or before = none) :
    e.Does s fetchProfile fun ds found s' =>
      Introduces e reply.credentials.access (reply.profile.or before) (requests ds) found ∧
        s'.1.cache.profile? = found ∧ s'.1.session.store.IsWorking := by
  have hlasting := Store.lasting?_of_fresh hs.access (Issue.isExpired_access_time _)
  have hget := Store.get_of_lasting hs.isWorking hlasting
  -- Looking for the credential leaves it where it is.
  let read := (s.1.session.read accessName (e.clock s.2)).2
  have hworking : read.store.IsWorking := Store.isWorking_get _ _ _ hs.isWorking
  have hstill : (read.store.get (e.clock s.2) accessName).1 = some reply.credentials.access := by
    have hstored := (Store.stored?_get_of_lasting hs.isWorking hlasting accessName).trans hs.access
    exact Store.get_of_lasting hworking
      (Store.lasting?_of_fresh hstored (Issue.isExpired_access_time _))
  rw [fetchProfile_eq]
  refine .bind (.ofSession (Session.proceed_access_of_some _ _ _ hget) ?_)
  refine .bind (.ask fun answer s' hanswer => ?_)
  have hcache : s'.1.cache = s.1.cache := by
    have hleft := hleaves.cache (.call .getProfile) ({ s.1 with session := read }, s.2)
    rw [show e.answer (.call .getProfile) ({ s.1 with session := read }, s.2) = (answer, s') from
      hanswer] at hleft
    exact hleft
  have hworking' : s'.1.session.store.IsWorking := by
    have hleft := hleaves.isWorking (.call .getProfile) ({ s.1 with session := read }, s.2) hworking
    rw [show e.answer (.call .getProfile) ({ s.1 with session := read }, s.2) = (answer, s') from
      hanswer] at hleft
    exact hleft
  have hintroduces := Introduces.fetched (e := e) answer _ s.2 hunknown (congrArg Prod.fst hanswer)
    hstill
  cases answer with
  | error err =>
    refine .pure _ ⟨hintroduces, ?_, hworking'⟩
    rw [hcache, hs.profile, hunknown]
  | ok p => exact .bind (.cacheProfile (.pure _ ⟨hintroduces, rfl, hworking'⟩))

/-- What is loaded right after an exchange is cached then, and it is the profile that was cached
already or else the one that the server gives for the new credential. -/
theorem does_loadProfile_exchanged (hleaves : e.LeavesProfile) {reply : SignInReply}
    {before : Option Profile} (hs : Exchanged e before reply s) :
    e.Does s (loadProfile e.setting) fun ds found s' =>
      ∃ fetched later, requests ds = fetched ++ later ∧
        Introduces e reply.credentials.access (reply.profile.or before) fetched found ∧
          AskOnly [.readBalance] later ∧ s'.1.cache.profile? = found ∧
            s'.1.session.store.IsWorking := by
  -- Whatever was found, the balance is read and the profile stays cached.
  have hbalance : ∀ (ds : List Deed) (p : Profile) (s' : Client × τ),
      Introduces e reply.credentials.access (reply.profile.or before) (requests ds) (some p) →
      s'.1.cache.profile? = some p → s'.1.session.store.IsWorking →
      e.Does s' (do refreshBalance e.setting (some p); return some p) fun ds' found s'' =>
        ∃ fetched later, requests (ds ++ ds') = fetched ++ later ∧
          Introduces e reply.credentials.access (reply.profile.or before) fetched found ∧
            AskOnly [.readBalance] later ∧ s''.1.cache.profile? = found ∧
              s''.1.session.store.IsWorking := by
    intro ds p s' hintroduces hcached hworking
    refine .bind ((does_refreshBalance_keeping hleaves ⟨rfl, hworking⟩ (some p)).imp ?_)
    rintro ds' _ s'' ⟨hroles, hs''⟩
    refine .pure _ ⟨requests ds, requests ds', ?_, hintroduces, hroles, ?_, hs''.isWorking⟩
    · rw [List.append_nil, requests_append]
    · rw [hs''.cache, hcached]
  refine .bind (.look ?_)
  cases hcached : s.1.cache.profile? with
  | some p =>
    refine .bind (.pure _ ?_)
    exact hbalance [] p s (.known p (hs.profile.symm.trans hcached)) hcached hs.isWorking
  | none =>
    have hunknown := hs.profile.symm.trans hcached
    refine .bind ((does_fetchProfile_exchanged hleaves hs hunknown).imp ?_)
    rintro ds found s' ⟨hintroduces, hcached', hworking⟩
    cases found with
    | none =>
      refine Surroundings.Does.pure _ ⟨requests ds, [], ?_, hintroduces, askOnly_nil _, hcached',
        hworking⟩
      rw [List.append_nil, List.append_nil, List.nil_append]
    | some p => exact hbalance ds p s' hintroduces hcached' hworking

/-! ### Signing in -/

/-- What a sign-in asks that succeeds, and what it leaves. Who was cached before counts as known if the
server says nothing. -/
theorem does_signIn_keeping (hleaves : e.LeavesProfile)
    (hdatable : ∀ t, Session.Datable (e.clock t)) (hs : Keeping cache s.1) :
    e.Does s (signIn e.setting) fun ds outcome s' => ∀ found, outcome = .ok found →
      ∃ address signature reply,
        requestsTo .signIn ds = [.asked (.call (.signIn address signature)) (.ok reply)] ∧
          Introduces e reply.credentials.access (reply.profile.or cache.profile?)
            (requestsTo .getProfile ds) found ∧ s'.1.cache.profile? = found := by
  refine .bind ((does_exchange_keeping hleaves hdatable hs).imp ?_)
  rintro ds outcome s₁ hexchanges
  cases outcome with
  | error err => exact .bind (.bind (.changeNotices fun ds' _ => .pure _ (.pure _ nofun)))
  | ok _ =>
    obtain ⟨asked, address, signature, reply, hasked, hroles, hs₁⟩ := hexchanges rfl
    refine .bind ((does_loadProfile_exchanged hleaves hs₁).imp ?_)
    rintro ds₁ found s₂ ⟨fetched, later, hasked₁, hintroduces, hlater, hcached, hworking⟩
    -- Only these two are asked once all has been done, whatever balance was read.
    have hends : ∀ (ds₂ : List Deed), AskOnly [.readBalance] (requests ds₂) →
        requestsTo .signIn (ds ++ (ds₁ ++ ds₂)) =
            [.asked (.call (.signIn address signature)) (.ok reply)] ∧
          requestsTo .getProfile (ds ++ (ds₁ ++ ds₂)) = fetched := by
      intro ds₂ hroles₂
      have hfetched : requestsTo .signIn fetched = [] ∧ requestsTo .getProfile fetched = fetched := by
        cases hintroduces with
        | known p hknown => exact ⟨rfl, rfl⟩
        | fetched answer c t hunknown hanswer haccess => exact ⟨rfl, rfl⟩
      rw [requestsTo_eq, requestsTo_eq .getProfile, requests_append, requests_append, hasked,
        hasked₁]
      simp only [requestsTo_append, hfetched, hroles.requestsTo_eq_nil (r := .signIn) (by decide),
        hroles.requestsTo_eq_nil (r := .getProfile) (by decide),
        hlater.requestsTo_eq_nil (r := .signIn) (by decide),
        hlater.requestsTo_eq_nil (r := .getProfile) (by decide),
        hroles₂.requestsTo_eq_nil (r := .signIn) (by decide),
        hroles₂.requestsTo_eq_nil (r := .getProfile) (by decide), List.append_nil, List.nil_append]
      exact ⟨rfl, rfl⟩
    cases found with
    | none =>
      refine .bind ((does_refreshBalance_keeping hleaves ⟨rfl, hworking⟩ none).imp ?_)
      rintro ds₂ _ s₃ ⟨hroles₂, hs₃⟩
      refine Surroundings.Does.pure _ ?_
      rintro found ⟨⟩
      rw [List.append_nil]
      obtain ⟨hsignIn, hgetProfile⟩ := hends ds₂ hroles₂
      refine ⟨address, signature, reply, hsignIn, hgetProfile.symm ▸ hintroduces, ?_⟩
      rw [hs₃.cache, hcached]
    | some p =>
      refine .bind (.pure _ (.pure _ ?_))
      rintro found ⟨⟩
      obtain ⟨hsignIn, hgetProfile⟩ := hends [] (askOnly_nil _)
      exact ⟨address, signature, reply, hsignIn, hgetProfile.symm ▸ hintroduces, hcached⟩

/-- Who has signed in is who is shown. If nothing was cached before, or the server gives a profile with
the session, then the profile that a sign-in gives and that is cached after it is the one that the
server has given with the session, or else the one that it gives for the new credential, or none if it
gives none. -/
theorem signIn_introduces (e : Surroundings τ) (hleaves : e.LeavesProfile)
    (hdatable : ∀ t, Session.Datable (e.clock t)) (s : Client × τ)
    (hworking : s.1.session.store.IsWorking)
    (hfirst : s.1.cache.profile? = none ∨ ∀ address signature reply,
      .asked (.call (.signIn address signature)) (.ok reply) ∈ e.deeds (signIn e.setting) s →
        reply.profile ≠ none)
    (found : Option Profile) (hsucceeds : (e.run (signIn e.setting) s).1 = .ok found) :
    ∃ address signature reply,
      requestsTo .signIn (e.deeds (signIn e.setting) s) =
          [.asked (.call (.signIn address signature)) (.ok reply)] ∧
        Introduces e reply.credentials.access reply.profile
          (requestsTo .getProfile (e.deeds (signIn e.setting) s)) found ∧
        (e.run (signIn e.setting) s).2.1.cache.profile? = found := by
  obtain ⟨address, signature, reply, hasked, hintroduces, hcached⟩ :=
    does_signIn_keeping hleaves hdatable ⟨rfl, hworking⟩ found hsucceeds
  -- An earlier profile is not taken for this one: there is none, or it was replaced.
  have hknown : reply.profile.or s.1.cache.profile? = reply.profile := by
    rcases hfirst with hempty | hgiven
    · rw [hempty, Option.or_none]
    · have hmem : .asked (.call (.signIn address signature)) (.ok reply) ∈
          e.deeds (signIn e.setting) s := by
        refine mem_of_mem_requestsTo (r := .signIn) ?_
        rw [hasked]
        exact List.mem_singleton_self _
      obtain ⟨p, hp⟩ := Option.ne_none_iff_exists'.mp (hgiven address signature reply hmem)
      rw [hp]
      rfl
  rw [hknown] at hintroduces
  exact ⟨address, signature, reply, hasked, hintroduces, hcached⟩

end

/-- A wallet that signs and a server that gives a session for that, and for its credential the profile
of whoever has signed in. -/
def introducer : Surroundings Unit where
  setting := exchanger.setting
  clock := exchanger.clock
  answer
    | .call .getProfile => pure (.ok { id := "new" })
    | w => exchanger.answer w

theorem leavesProfile_introducer : introducer.LeavesProfile := by
  refine ⟨?_, ?_⟩
  · rintro (id | call) s
    · rfl
    · cases call <;> rfl
  · rintro (id | call) s hworking
    · exact hworking
    · cases call <;> exact hworking

/-- Somebody signs in for the first time. -/
theorem signIn_introduces_sample :
    let s : Client × Unit := ({}, ())
    let ds := introducer.deeds (signIn introducer.setting) s
    ∃ address signature reply,
      requestsTo .signIn ds = [.asked (.call (.signIn address signature)) (.ok reply)] ∧
        Introduces introducer reply.credentials.access reply.profile (requestsTo .getProfile ds)
          (some { id := "new" }) ∧
        (introducer.run (signIn introducer.setting) s).2.1.cache.profile? =
          some { id := "new" } := by
  have hnow : Session.Datable ⟨0, 0⟩ :=
    ⟨⟨by decide +kernel, Or.inl (show 0 < 1000000000 by decide)⟩, by decide +kernel⟩
  exact signIn_introduces introducer leavesProfile_introducer (fun _ => hnow) ({}, ()) trivial
    (.inl rfl) _ (by decide +kernel)

/-- What is not so in every sign-in. The profile of an earlier person is cached, and the server says
nothing of who has signed in. Then the earlier person is given and stays cached, and the server, which
would tell, is not asked. -/
theorem earlier_profile :
    let earlier : Profile := { id := "old" }
    let s : Client × Unit := ({ cache := { current := some ⟨earlier, ⟨0, 0⟩⟩ } }, ())
    let left := (introducer.run (signIn introducer.setting) s).2.1
    (introducer.run (signIn introducer.setting) s).1 = .ok (some earlier) ∧
      left.cache.profile? = some earlier ∧
      (left.session.store.get ⟨0, 0⟩ accessName).1 = some "a" ∧
      requestsTo .getProfile (introducer.deeds (signIn introducer.setting) s) = [] := by
  refine ⟨by decide +kernel, by decide +kernel, by decide +kernel, rfl⟩

end Wager.Client
