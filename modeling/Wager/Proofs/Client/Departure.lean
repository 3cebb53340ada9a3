import Wager.Proofs.Client.Callers
import Wager.Proofs.Client.Loading
import Wager.Proofs.Profile.Clearing
import Wager.Proofs.Wallet.Leaving

/-!
# Signing out while profiles are loaded

What is left of a person at a client who has signed out while others were loading the profile.

Any number of callers load the profile or sign out, interleaved where they wait. Three things can
happen next: somebody comes, the server answers a renewal, or a caller goes on with what it has
waited for. Nothing is assumed of what the server, the wallet and the ledger answer.

Two things have to go, and they go for different reasons. The credentials go for good: the session is
closed from the moment at which somebody signs out (`Session.IsClosed`), since none of these callers
begins one and renewals that are under way keep nothing. The cached profile is forgotten in the same
moment, in memory and in the file. But a caller that has asked the server for the profile before then
waits for nothing but the answer, and there is nobody who tells it that the session is over. If the
answer brings a profile it is cached, and is there when the next person comes (`late_profile`). So of
the profile it is proved that it stays forgotten as long as no caller is brought one.

## Main definitions

* `Client.Forgotten`: No profile is cached.
* `Client.Request`, `Client.Caller`, `Client.Traffic`: What callers come for, and a client with its
  callers.
* `Client.usage`: How callers use a client.
* `Client.Event`, `Traffic.step`, `Traffic.run`: What happens, once and many times.
* `Traffic.Steps`: What an event may do.
* `Traffic.BringsProfile`, `Traffic.BringsNoProfile`: A caller is brought a profile, or none ever is.

## Theorems

* `Traffic.Sound.steps`: What an event does.
* `Traffic.Steps.session`: What every way to use a session preserves.
* `Traffic.nothing_left`: What holds once somebody has signed out.
* `Traffic.late_profile`: A profile that comes late is cached.
-/

namespace Wager

namespace Client

/-- No profile is cached, neither in memory nor in the file. -/
structure Forgotten (c : Client) : Prop where
  memory : c.cache.current = none
  file : ∀ file, c.cache.file? = some file → c.files.LacksFile file

/-! ### Requests -/

/-- What callers come for. -/
inductive Request
  | load
  | signOut
  deriving DecidableEq

/-- What a request comes to. -/
inductive Reply
  | loaded (found : Option Profile)
  | signedOut

/-- The operation of a request. -/
def Request.operation (setting : Setting) : Request → Operation Reply
  | .load => .loaded <$> loadProfile setting
  | .signOut => (fun _ => .signedOut) <$> Client.signOut

/-- What may happen in a segment of a request. -/
def Request.Moves : Request → Segment Reply
  | .load => Loading.map .loaded
  | .signOut => SigningOut.map fun _ => .signedOut

theorem Request.keeps (setting : Setting) (q : Request) : Keeps q.Moves (q.operation setting) := by
  cases q with
  | load => exact (keeps_loadProfile setting).map _
  | signOut => exact keeps_signOut.map _

/-! ### Events -/

/-- A caller: what it came for, and what is left to do. -/
abbrev Caller := Wager.Caller Request (Operation Reply)

/-- A client and its callers, in the order in which they came. -/
abbrev Traffic := Shared Client Caller

/-- What may happen next. Whoever goes on has an answer to any call at hand. -/
abbrev Event := Happening Request ((q : Call) → q.Reply) (Nat × Result Credentials)

/-- The server answers a renewal. -/
@[match_pattern]
abbrev Event.settle (id : Nat) (reply : Result Credentials) : Event := .change (id, reply)

/-- What there is for somebody who waits: the outcome of a renewal once it has finished, and an
answer to any call. -/
def atHand (c : Client) (answers : (q : Call) → q.Reply) : (w : Wait) → Option w.Answer
  | .renewal id => c.session.outcome? id
  | .call q => some (answers q)

/-- How callers use a client. -/
def usage (setting : Setting) :
    Usage Client Caller Request ((q : Call) → q.Reply) (Nat × Result Credentials) :=
  Routine.usage (Request.operation setting) atHand fun now (id, reply) c =>
    { c with session := c.session.finish id reply now }

namespace Traffic

/-- A client whose session nobody has used yet. -/
def start (c : Client) : Traffic where
  state := { c with session := { store := c.session.store } }

variable (setting : Setting)

/-- The traffic after an event at some time. -/
def step (t : Traffic) (e : Timestamp × Event) : Traffic := (usage setting).step t e

/-- The traffic after some events. -/
def run (t : Traffic) (events : List (Timestamp × Event)) : Traffic := (usage setting).run t events

/-- Caller `n` waits for `w`. -/
def Waits (t : Traffic) (n : Nat) (w : Wait) : Prop :=
  ∃ caller, t.callers[n]? = some caller ∧ StopsAt caller.rest (.waits w)

/-- Every caller has stopped, and will only make moves. -/
abbrev Sound (t : Traffic) : Prop := t.Holds (fun _ => True) fun _ => Stopped Request.Moves

/-- What an event does: a caller comes or goes on and makes a move, a renewal is settled, or nothing
happens. -/
inductive Steps (t : Traffic) : Timestamp × Event → Traffic → Prop
  | called (now : Timestamp) (q : Request) (x : Stop Reply) (t' : Traffic)
    (hmoves : q.Moves .called t.state x t'.state) : Steps t (now, .call q) t'
  | settled (now : Timestamp) (id : Nat) (reply : Result Credentials) (session : Session)
    (hfinishes : t.state.session.Finishes id reply now session) :
    Steps t (now, .settle id reply) { t with state := { t.state with session } }
  | wentOn (now : Timestamp) (n : Nat) (answers : (q : Call) → q.Reply) (w : Wait)
    (answer : w.Answer) (q : Request) (x : Stop Reply) (t' : Traffic) (hwaits : t.Waits n w)
    (hanswer : t.state.atHand answers w = some answer)
    (hmoves : q.Moves (.answered w answer) t.state x t'.state) : Steps t (now, .goOn n answers) t'
  | idle (now : Timestamp) (n : Nat) (answers : (q : Call) → q.Reply) : Steps t (now, .goOn n answers) t

variable {setting}

theorem preserves : (usage setting).Preserves (fun _ => True) fun _ => Stopped Request.Moves :=
  preserves_stopped (Request.keeps setting)

/-- Sound traffic only takes these steps, and stays sound. -/
theorem Sound.steps {t : Traffic} (h : t.Sound) (e : Timestamp × Event) :
    t.Steps e (t.step setting e) ∧ (t.step setting e).Sound := by
  refine ⟨?_, preserves.step h e⟩
  have hsteps : (usage setting).Steps t e (t.step setting e) := (usage setting).steps t e
  generalize t.step setting e = t' at hsteps
  cases hsteps with
  | called now q =>
    obtain ⟨-, x, -, hmoves⟩ := stopped_proceed (q.keeps setting) now t.state
    exact .called now q x _ hmoves
  | wentOn now n answers before after client hbefore hgoes =>
    obtain ⟨-, -, w, answer, x, hwaits, hanswer, -, hmoves⟩ :=
      (h.callers n before hbefore).goOn? hgoes
    exact .wentOn now n answers w answer before.request x _ ⟨before, hbefore, hwaits⟩ hanswer hmoves
  | stayed now n answers hstays => exact .idle now n answers
  | changed now x => exact .settled now x.1 x.2 _ (Session.finishes x.1 x.2 now t.state.session)

theorem sound_start (c : Client) : (start c).Sound :=
  Shared.holds_start trivial

/-- What every step of a run preserves holds at its end. -/
theorem run_induction {P : Traffic → Prop} {events : List (Timestamp × Event)}
    (hstep : ∀ t t' e, e ∈ events → t.Sound → t.Steps e t' → P t → P t') {t : Traffic} (h : t.Sound)
    (hP : P t) : P (t.run setting events) :=
  preserves.run_induction (fun t _ he ht => hstep t _ _ he ht (Sound.steps ht _).1) h hP

theorem sound_run {t : Traffic} (h : t.Sound) (events : List (Timestamp × Event)) :
    (t.run setting events).Sound :=
  preserves.run h events

end Traffic

/-! ### What is preserved -/

/-- What is preserved whatever is done to a session while nobody begins one: looking for a
credential, taking out a renewal that has finished, ending the session, and answering a renewal. -/
structure Lasting (P : Session → Prop) : Prop where
  used : ∀ s s', P s → s.Used s' → P s'
  leave : ∀ s id outcome, P s → s.outcome? id = some outcome → P (s.leave id)
  cleared : ∀ s, P s → P s.cleared
  finishes : ∀ s id answer now s', P s → s.Finishes id answer now s' → P s'

theorem lasting_consistent : Lasting Session.Consistent where
  used _ _ h hused := hused.consistent h
  leave _ id outcome h hout := h.leave id outcome hout
  cleared _ h := h.cleared
  finishes _ _ _ _ _ h hfinishes := h.finishes hfinishes

theorem lasting_isWorking : Lasting fun s => s.store.IsWorking where
  used _ _ h hused := hused.isWorking h
  leave s id _ h _ := by
    rw [Session.store_leave]
    exact h
  cleared _ h := Store.isWorking_remove _ _ (Store.isWorking_remove _ _ h)
  finishes s _ _ _ _ h hfinishes := by
    cases hfinishes with
    | ignored hid => exact h
    | failed r e hid hanswer => exact h
    | kept r pair hid hanswer hepoch =>
      exact Store.isWorking_set _ _ _ _ (Store.isWorking_set _ _ _ _ h)
    | dropped r pair hid hanswer hepoch => exact h

theorem lasting_isClosed : Lasting Session.IsClosed where
  used _ _ h hused := hused.isClosed h
  leave s id _ h _ := by
    -- There is nothing in the slot to take out.
    have hne : s.slot ≠ some id := by
      rw [h.slot]
      exact nofun
    rw [Session.leave_eq_self hne]
    exact h
  cleared s h := by
    -- Somebody who ends the session begins none.
    have hbegins : Session.Request.clear.Begins ⟨0, 0⟩ s (.done .done) s.cleared := .cleared rfl
    exact h.begins hbegins nofun
  finishes _ _ _ _ _ h hfinishes := h.finishes hfinishes

theorem Forgotten.congr {c c' : Client} (h : c.Forgotten) (hcache : c'.cache = c.cache)
    (hfiles : c'.files = c.files) : c'.Forgotten := by
  refine ⟨?_, ?_⟩
  · rw [hcache]
    exact h.memory
  · rw [hcache, hfiles]
    exact h.file

theorem forgotten_of_clear {c c' : Client}
    (h : (c'.cache, c'.files) = c.cache.clear c.files) : c'.Forgotten := by
  have hcache : c'.cache = (c.cache.clear c.files).1 := congrArg Prod.fst h
  have hfiles : c'.files = (c.cache.clear c.files).2 := congrArg Prod.snd h
  refine ⟨?_, ?_⟩
  · rw [hcache]
    rfl
  · intro file hfile
    rw [hcache] at hfile
    rw [hfiles]
    exact c.cache.lacksFile_clear c.files hfile

namespace Request.Moves

variable {q : Request} {cause : Cause} {c c' : Client} {x : Stop Reply}

theorem session {P : Session → Prop} (hlasting : Lasting P) (h : q.Moves cause c x c')
    (hcause : ∀ id outcome, cause = .answered (.renewal id) outcome →
      c.session.outcome? id = some outcome) (hP : P c.session) : P c'.session := by
  cases q with
  | load =>
    obtain ⟨y, hloading, -⟩ := h
    cases hloading with
    | called c c' y hsession hcache hfiles => exact hlasting.used _ _ hP hsession
    | renewed c c' y id outcome hsession hcache hfiles =>
      rw [hsession]
      exact hlasting.leave _ id outcome hP (hcause id outcome rfl)
    | fetched c c' y p now hsession hcached => rwa [hsession]
    | unfetched c y e => exact hP
    | balanced c c' y ledger account answer hspares => rwa [hspares.session]
  | signOut =>
    obtain ⟨y, hleaving, -⟩ := h
    cases hleaving with
    | called c c' y hsession hforgotten =>
      rw [hsession]
      exact hlasting.cleared _ hP
    | told c y handle answer => exact hP

/-- Only a caller that is brought a profile caches one. -/
theorem forgotten (h : q.Moves cause c x c')
    (hcause : ∀ p, cause ≠ .answered (.call .getProfile) (.ok p)) (hc : c.Forgotten) :
    c'.Forgotten := by
  cases q with
  | load =>
    obtain ⟨y, hloading, -⟩ := h
    cases hloading with
    | called c c' y hsession hcache hfiles => exact hc.congr hcache hfiles
    | renewed c c' y id outcome hsession hcache hfiles => exact hc.congr hcache hfiles
    | fetched c c' y p now hsession hcached => exact absurd rfl (hcause p)
    | unfetched c y e => exact hc
    | balanced c c' y ledger account answer hspares => exact hc.congr hspares.cache hspares.files
  | signOut =>
    obtain ⟨y, hleaving, -⟩ := h
    cases hleaving with
    | called c c' y hsession hforgotten => exact forgotten_of_clear hforgotten
    | told c y handle answer => exact hc

end Request.Moves

namespace Traffic

/-- A caller that waits for the profile is brought one. -/
def BringsProfile (t : Traffic) (e : Event) : Prop :=
  ∃ n answers p, e = .goOn n answers ∧ t.Waits n (.call .getProfile) ∧ answers .getProfile = .ok p

/-- During the events no caller is brought a profile. -/
def BringsNoProfile (setting : Setting) (t : Traffic) : List (Timestamp × Event) → Prop
  | [] => True
  | e :: events => ¬ t.BringsProfile e.2 ∧ (t.step setting e).BringsNoProfile setting events

section

variable {setting : Setting} {t t' : Traffic} {e : Timestamp × Event}

/-- What every way to use a session preserves is preserved by every event. -/
theorem Steps.session {P : Session → Prop} (h : t.Steps e t') (hlasting : Lasting P)
    (hP : P t.state.session) : P t'.state.session := by
  cases h with
  | called now q x t' hmoves => exact hmoves.session hlasting nofun hP
  | settled now id reply session hfinishes => exact hlasting.finishes _ _ _ _ _ hP hfinishes
  | wentOn now n answers w answer q x t' hwaits hanswer hmoves =>
    refine hmoves.session hlasting ?_ hP
    intro id outcome hcause
    cases hcause
    exact hanswer
  | idle now n answers => exact hP

theorem session_run {P : Session → Prop} (hlasting : Lasting P) (hsound : t.Sound)
    (events : List (Timestamp × Event)) (hP : P t.state.session) :
    P (t.run setting events).state.session :=
  run_induction (P := fun t => P t.state.session)
    (fun _ _ _ _ _ hsteps hP => hsteps.session hlasting hP) hsound hP

theorem Steps.forgotten (h : t.Steps e t') (hnone : ¬ t.BringsProfile e.2)
    (hforgotten : t.state.Forgotten) : t'.state.Forgotten := by
  cases h with
  | called now q x t' hmoves => exact hmoves.forgotten nofun hforgotten
  | settled now id reply session hfinishes => exact hforgotten.congr rfl rfl
  | wentOn now n answers w answer q x t' hwaits hanswer hmoves =>
    refine hmoves.forgotten ?_ hforgotten
    intro p hcause
    cases hcause
    exact hnone ⟨n, answers, p, rfl, hwaits, Option.some.inj hanswer⟩
  | idle now n answers => exact hforgotten

theorem forgotten_run (hsound : t.Sound) {events : List (Timestamp × Event)}
    (hnone : BringsNoProfile setting t events) (hforgotten : t.state.Forgotten) :
    (t.run setting events).state.Forgotten := by
  induction events generalizing t with
  | nil => exact hforgotten
  | cons e events ih =>
    exact ih (hsound.steps e).2 hnone.2 ((hsound.steps e).1.forgotten hnone.1 hforgotten)

/-- Signing out closes the session and forgets the profile, both at once. -/
theorem Steps.signOut {now : Timestamp} (h : t.Steps (now, .call .signOut) t')
    (hconsistent : t.state.session.Consistent) (hworking : t.state.session.store.IsWorking) :
    t'.state.session.IsClosed ∧ t'.state.Forgotten := by
  cases h with
  | called now q x t' hmoves =>
    obtain ⟨y, hleaving, -⟩ := hmoves
    have hboth : ∀ c c' : Client, SigningOut .called c y c' →
        c'.session = c.session.cleared ∧ (c'.cache, c'.files) = c.cache.clear c.files := by
      rintro c c' ⟨⟩
      exact ⟨‹_›, ‹_›⟩
    obtain ⟨hsession, hforgotten⟩ := hboth t.state t'.state hleaving
    rw [hsession]
    exact ⟨Session.isClosed_cleared hconsistent hworking, forgotten_of_clear hforgotten⟩

end

/-- Nothing is left of whoever was signed in. Whatever callers came to load the profile before, and
whatever they are answered: from the moment at which somebody signs out, no credential can be read
any more, and as long as no caller is brought a profile, none is cached, neither in memory nor in the
file. -/
theorem nothing_left (setting : Setting) (c : Client) (hw : c.session.store.IsWorking)
    (before later : List (Timestamp × Event)) (now : Timestamp) :
    let t := (start c).run setting before
    let t' := t.step setting (now, .call .signOut)
    let t'' := t'.run setting later
    (∀ now', (t''.state.session.store.get now' Session.accessName).1 = none ∧
        (t''.state.session.store.get now' Session.refreshName).1 = none) ∧
      (BringsNoProfile setting t' later → t''.state.cache.profile? = none ∧
        ∀ file, t''.state.cache.file? = some file →
          ProfileCache.read t''.state.files file = none) := by
  intro t t' t''
  have hsound : t.Sound := sound_run (sound_start c) before
  have hsteps : t.Steps (now, .call .signOut) t' ∧ t'.Sound := hsound.steps (now, .call .signOut)
  have hconsistent : t.state.session.Consistent :=
    session_run lasting_consistent (sound_start c) before (.start c.session.store)
  have hworking : t.state.session.store.IsWorking :=
    session_run lasting_isWorking (sound_start c) before hw
  obtain ⟨hclosed, hforgotten⟩ := hsteps.1.signOut hconsistent hworking
  refine ⟨?_, ?_⟩
  · -- The session stays closed, whatever comes.
    have hstays : t''.state.session.IsClosed :=
      session_run lasting_isClosed hsteps.2 later hclosed
    exact fun now' => ⟨Store.get_of_lacks _ now' _ hstays.access,
      Store.get_of_lacks _ now' _ hstays.refresh⟩
  · intro hnone
    have hstays : t''.state.Forgotten := forgotten_run hsteps.2 hnone hforgotten
    refine ⟨?_, fun file hfile => ProfileCache.read_of_lacksFile (hstays.file file hfile)⟩
    rw [ProfileCache.profile?, hstays.memory]
    rfl

/-- A client that holds both credentials, and no profile. -/
def loggedIn : Client where
  session := {
    store := (Store.inMemory.set Session.accessName "a" ⟨3600, 0⟩).set Session.refreshName "r"
      ⟨2592000, 0⟩ }

/-- The server has a profile for whoever asks for it, and nobody else answers in time. -/
def withProfile (p : Profile) : (q : Call) → q.Reply
  | .getProfile => .ok p
  | q => Wallet.Traffic.unanswered (.call q)

/-- Somebody signs out while the profile is asked for, and the server then does not give it. -/
theorem nothing_left_sample :
    let now : Timestamp := ⟨0, 0⟩
    let setting := Wallet.Traffic.openSetting
    let answers : (q : Call) → q.Reply := fun q => Wallet.Traffic.unanswered (.call q)
    let t := (start loggedIn).run setting [(now, .call .load)]
    let t' := t.step setting (now, .call .signOut)
    let t'' := t'.run setting [(now, .goOn 0 answers)]
    t.Waits 0 (.call .getProfile) ∧
      (∀ now', (t''.state.session.store.get now' Session.accessName).1 = none ∧
        (t''.state.session.store.get now' Session.refreshName).1 = none) ∧
      t''.state.cache.profile? = none ∧
      ∀ file, t''.state.cache.file? = some file → ProfileCache.read t''.state.files file = none := by
  intro now setting answers t t' t''
  obtain ⟨hcredentials, hprofile⟩ := nothing_left setting loggedIn trivial [(now, .call .load)]
    [(now, .goOn 0 answers)] now
  refine ⟨⟨_, rfl, rfl⟩, hcredentials, hprofile ⟨?_, trivial⟩⟩
  rintro ⟨n, answers', p, heq, -, hprofile⟩
  obtain ⟨-, rfl⟩ := Happening.goOn.inj heq
  exact nomatch hprofile

/-- What is not so in every run. A caller has asked for the profile when somebody signs out, and is
brought it after that. When both have returned there is no credential any more, but the profile is
cached. -/
theorem late_profile :
    let now : Timestamp := ⟨0, 0⟩
    let p : Profile := { id := "1" }
    let t := (start loggedIn).run Wallet.Traffic.openSetting
      [(now, .call .load), (now, .call .signOut), (now, .goOn 0 (withProfile p))]
    t.callers.map (·.request) = [.load, .signOut] ∧
      t.callers.map (·.rest) = [.done (.loaded (some p)), .done .signedOut] ∧
      (t.state.session.store.get now Session.accessName).1 = none ∧
      (t.state.session.store.get now Session.refreshName).1 = none ∧
      t.state.cache.profile? = some p :=
  ⟨rfl, rfl, rfl, rfl, rfl⟩

end Traffic

end Client

end Wager
