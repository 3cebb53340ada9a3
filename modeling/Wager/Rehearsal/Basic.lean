import Wager.Client.Execution
import Wager.Rehearsal.Script
import Wager.Table
import Wager.Time.Timers

/-!
# Rehearsals

A client in rehearsal: its operations run as tasks, and the others follow a script.

Tasks run one at a time, each from one wait to the next. An answer that is there already is taken
without giving way to other tasks; otherwise the task waits until it is woken, and those that are
woken run in that order. A renewal belongs to nobody: it is asked for, and its answer taken, by
whichever of its waiters runs first. If all of them are dropped it rests until somebody joins it.

An answer that is held back is given by `release`; that wakes whoever asked for it.

Time stands still while anything is ready. When it passes, the clock goes from one deadline to the
next, and whatever is woken at a deadline runs before it goes on; so a timer that is started then
counts from that deadline. The watch over a new notice is ready to begin when the notice is added,
and its timer starts when its turn comes.

## Main definitions

* `Rehearsal`: The state of a rehearsal.
* `Rehearsal.start`, `drop`, `release`, `perform`: What may be done from outside.
* `Rehearsal.settle`: Runs what is ready until everything waits.
* `Rehearsal.advance`: Lets time pass.
-/

namespace Wager

namespace Rehearsal

/-- Who waits for an answer. -/
inductive Asker
  | renewal (id : Nat)
  | task (number : Nat)
  deriving DecidableEq

/-- How a question stands: there will be no answer, or it is held back. -/
inductive Standing
  | silent
  | held (gate : Nat)
  deriving DecidableEq

/-- An answer that is held back until it is given. -/
structure Gate where
  role : Role
  asker : Asker
  outcome : Option role.Outcome := none

/-- Whom a call is with: whoever was called, or the ledger, to which the wallet has handed the
transaction. -/
inductive Progress
  | called
  | handedOver (tx : Transaction)

/-- A call under way. -/
structure Asked where
  progress : Progress
  standing : Standing

/-- A task: an operation that has come to a wait, or has not yet begun. -/
structure Task (α : Type) where
  number : Nat
  name : String
  routine : Operation α
  asked : Option Asked := none
  isLate : Bool := false

/-- What a timer is for. -/
inductive Alarm
  | notice (id : Nat)
  | task (number : Nat)
  deriving DecidableEq

/-- What may be ready to run: a task, or the watch over a notice that has a lifetime, at its begin and
at its end. -/
inductive Job
  | task (number : Nat)
  | watch (id lifetime : Nat)
  | expire (id : Nat)
  deriving DecidableEq

/-- What the others see. -/
inductive Entry
  | call (c : Call)
  | attempt (a : Attempt)
  | handOver (tx : Transaction)

end Rehearsal

/-- What stays the same in a rehearsal: the time of day, the wallet, the setting and what the server
usually says. -/
structure Stage where
  now : Timestamp
  wallet : StagedWallet
  setting : Setting
  usual : Usual

/-- The state of a rehearsal: the client, the cues that are left, the answers that are held back, how
the renewals stand, the tasks with those that wait for renewals, what is ready, the timers, which
wallets are connected, and what was seen and finished. -/
structure Rehearsal (α : Type) where
  client : Client := {}
  cues : (r : Role) → List (Cue r)
  gates : List Rehearsal.Gate := []
  renewals : Table Nat Rehearsal.Standing := .empty
  started : Nat := 0
  tasks : List (Rehearsal.Task α) := []
  joined : List (Nat × Nat) := []
  ready : List Rehearsal.Job := []
  timers : Timers Rehearsal.Alarm := {}
  connected : List Nat := []
  log : List Rehearsal.Entry := []
  finished : List (String × α) := []

namespace Rehearsal

variable {α : Type}

/-! ### Cues and gates -/

/-- The outcome that was given, if the gate is for the role. -/
def Gate.outcomeFor (g : Gate) (role : Role) : Option role.Outcome :=
  if h : g.role = role then h ▸ g.outcome else none

/-- Notes what the others see. -/
def note (r : Rehearsal α) (e : Entry) : Rehearsal α := { r with log := r.log ++ [e] }

/-- The cues without the next one of a role. -/
def withoutCue (cues : (r : Role) → List (Cue r)) (role : Role) : (r : Role) → List (Cue r) :=
  fun r => if r = role then (cues r).tail else cues r

/-- Takes the next cue of a role. -/
def take (r : Rehearsal α) (role : Role) (asker : Asker) :
    (role.Outcome ⊕ Standing) × Rehearsal α :=
  match r.cues role with
  | [] => (.inl (.ok none), r)
  | cue :: _ =>
    let r := { r with cues := withoutCue r.cues role }
    match cue with
    | .answers o => (.inl o, r)
    | .silent => (.inr .silent, r)
    | .held => (.inr (.held r.gates.length), { r with gates := r.gates ++ [{ role, asker }] })

/-- The outcome that was held back, if it has been given. -/
def given? (r : Rehearsal α) (role : Role) : Standing → Option role.Outcome
  | .silent => none
  | .held gate => r.gates[gate]?.bind (·.outcomeFor role)

/-! ### Answers -/

/-- A given value, else the usual one. -/
def orUsual {β : Type} (usual : β) (o : Result (Option β)) : Result β := o.map (·.getD usual)

/-- The ledger's word on a transaction. -/
def ledgerReply (tx : Transaction) (o : Role.handOver.Outcome) : Result String := do
  match ← o, tx.id with
  | some signature, _ => return signature
  | none, some id => return id
  | none, none => throw (.submissionRejected "missing signature")

/-- The wallet hands a transaction to the ledger. -/
def handOver (n : Nat) (tx : Transaction) (r : Rehearsal α) :
    (Timely String ⊕ Asked) × Rehearsal α :=
  match (r.note (.handOver tx)).take .handOver (.task n) with
  | (.inl o, r) => (.inl (.answered (ledgerReply tx o)), r)
  | (.inr standing, r) => (.inr ⟨.handedOver tx, standing⟩, r)

/-- What a call comes to when the script has said its outcome. -/
def receive (st : Stage) (n : Nat) (r : Rehearsal α) :
    (c : Call) → c.role.Outcome → (c.Reply ⊕ Asked) × Rehearsal α
  | .renew _, o => (.inl (orUsual st.usual.renewed o), r)
  | .signIn .., o => (.inl (orUsual st.usual.signedIn o), r)
  | .getProfile, o => (.inl (orUsual st.usual.profile o), r)
  | .listDuels, o => (.inl (orUsual st.usual.duels o), r)
  | .requestTransaction _, o => (.inl (orUsual st.usual.payload o), r)
  | .finalize _ hash, o => (.inl (orUsual (st.usual.finalized hash) o), r)
  | .resolve resolution, o => (.inl (orUsual (st.usual.resolved resolution) o), r)
  | .connectWallet handle, o =>
    match o with
    | .error e => (.inl (.answered (.error e)), r)
    | .ok _ => (.inl (.answered st.wallet.address), { r with connected := handle :: r.connected })
  | .signMessage handle message, o =>
    match o with
    | .error e => (.inl (.answered (.error e)), r)
    | .ok (some signature) => (.inl (.answered (.ok signature)), r)
    | .ok none =>
      (.inl (.answered (st.wallet.sign (Text.bytes message) (handle ∈ r.connected))), r)
  | .sendTransaction handle _ tx, o =>
    match o.bind fun _ => st.wallet.prepare tx (handle ∈ r.connected) with
    | .error e => (.inl (.answered (.error e)), r)
    | .ok signed => r.handOver n signed
  | .disconnectWallet handle, o =>
    match o with
    | .error e => (.inl (.answered (.error e)), r)
    | .ok _ =>
      (.inl (.answered (.ok ())), { r with connected := r.connected.filter (· ≠ handle) })
  | .readBalance .., o => (.inl o, r)

/-- The answer to a call if there is one, else where the call stands now. -/
def pollCall (st : Stage) (n : Nat) (c : Call) (asked : Option Asked) (r : Rehearsal α) :
    (c.Reply ⊕ Asked) × Rehearsal α :=
  match asked, c with
  | none, c =>
    match (r.note (.call c)).take c.role (.task n) with
    | (.inl o, r) => r.receive st n c o
    | (.inr standing, r) => (.inr ⟨.called, standing⟩, r)
  | some ⟨.handedOver tx, standing⟩, .sendTransaction .. =>
    match r.given? .handOver standing with
    | some o => (.inl (.answered (ledgerReply tx o)), r)
    | none => (.inr ⟨.handedOver tx, standing⟩, r)
  | some ⟨progress, standing⟩, c =>
    match r.given? c.role standing with
    | some o => r.receive st n c o
    | none => (.inr ⟨progress, standing⟩, r)

/-- Finishes a renewal with the outcome that the script says. -/
def finishRenewal (st : Stage) (id : Nat) (o : Role.renew.Outcome) (r : Rehearsal α) :
    Rehearsal α :=
  let session := r.client.session.finish id (orUsual st.usual.renewed o) st.now
  { r with client := { r.client with session } }

/-- The outcome of a renewal, if there is one. A renewal that nobody has asked for yet is asked
for. -/
def pollRenewal (st : Stage) (id : Nat) (r : Rehearsal α) : Option (Result String) × Rehearsal α :=
  match r.client.session.renewals[id]? with
  | none => (none, r)
  | some { outcome := some o, .. } => (some o, r)
  | some { refresh, outcome := none, .. } =>
    let (o, r) := match r.renewals.get? id with
      | some standing => (r.given? .renew standing, r)
      | none => match (r.note (.call (.renew refresh))).take .renew (.renewal id) with
        | (.inl o, r) => (some o, r)
        | (.inr standing, r) => (none, { r with renewals := r.renewals.set id standing })
    match o with
    | none => (none, r)
    | some o =>
      let r := r.finishRenewal st id o
      (r.client.session.outcome? id, r)

/-! ### Tasks -/

/-- The client after a section. The others see the attempts to open handles; the watches over new
notices that have a lifetime are ready to begin. -/
def afterSection (r : Rehearsal α) (c : Client) : Rehearsal α :=
  let attempts := c.attempts.drop r.client.attempts.length
  let events := c.notices.events.drop r.client.notices.events.length
  let watch? : Notices.Event → Option Job
    | .added { id, lifetime := some lifetime, .. } => some (.watch id lifetime)
    | _ => none
  { r with
    client := c
    log := r.log ++ attempts.map .attempt
    ready := r.ready ++ events.filterMap watch? }

/-- A task that has come to its end is gone. -/
def finish (r : Rehearsal α) (t : Task α) (a : α) : Rehearsal α :=
  { r with
    tasks := r.tasks.filter (·.number ≠ t.number)
    finished := r.finished ++ [(t.name, a)] }

/-- A task that waits is put back in its place. -/
def putBack (r : Rehearsal α) (t : Task α) : Rehearsal α :=
  { r with tasks := r.tasks.map fun u => if u.number = t.number then t else u }

/-- A task that waits for a renewal is among those who have joined it. -/
def join (r : Rehearsal α) (n id : Nat) : Rehearsal α :=
  if (n, id) ∈ r.joined then r else { r with joined := r.joined ++ [(n, id)] }

/-- A task no longer waits for what it has waited for. -/
def resumed (r : Rehearsal α) (n : Nat) : Rehearsal α :=
  { r with
    joined := r.joined.filter (·.1 ≠ n)
    timers := r.timers.stop (· = .task n) }

/-- Whether the time for a call is up when it has been asked and is not answered: either its timer has
fired since, or there was no time to begin with. -/
def isOverdue (st : Stage) (t : Task α) (asked : Option Asked) : Bool :=
  match asked with
  | some _ => t.isLate
  | none => st.setting.patience = 0

/-- Runs a task up to its next wait: `t` is the task, and what it has to do is given apart. -/
def drive (st : Stage) (t : Task α) : Operation α → Option Asked → Rehearsal α → Rehearsal α
  | .done a, _, r => r.finish t a
  | .act effect next, _, r =>
    drive st t (next st.now r.client) none (r.afterSection (effect st.now r.client))
  | .wait (.renewal id) next, _, r =>
    match r.pollRenewal st id with
    | (some o, r) => drive st t (next o) none (r.resumed t.number)
    | (none, r) =>
      (r.join t.number id).putBack { t with routine := .wait (.renewal id) next, asked := none }
  | .wait (.call c) next, asked, r =>
    match r.pollCall st t.number c asked with
    | (.inl answer, r) => drive st t (next answer) none (r.resumed t.number)
    | (.inr now, r) =>
      match if isOverdue st t asked then c.late? else none with
      | some answer => drive st t (next answer) none (r.resumed t.number)
      | none =>
        let r := if asked.isNone ∧ c.isTimed then
            { r with timers := r.timers.start st.setting.patience (.task t.number) }
          else r
        r.putBack { t with routine := .wait (.call c) next, asked := some now, isLate := false }

/-- Makes a job ready, behind all that are ready already. -/
def enqueue (r : Rehearsal α) (j : Job) : Rehearsal α :=
  if j ∈ r.ready then r else { r with ready := r.ready ++ [j] }

/-- Wakes a task. -/
def wake (r : Rehearsal α) (n : Nat) : Rehearsal α := r.enqueue (.task n)

/-- Removes a notice whose lifetime has passed. -/
def expire (r : Rehearsal α) (id : Nat) : Rehearsal α :=
  { r with client := { r.client with notices := r.client.notices.remove id } }

/-- Runs a job; a task only if it is still there. -/
def run (st : Stage) (r : Rehearsal α) : Job → Rehearsal α
  | .task n =>
    match r.tasks.find? (·.number = n) with
    | some t => drive st t t.routine t.asked r
    | none => r
  | .watch id lifetime =>
    if lifetime = 0 then r.expire id
    else { r with timers := r.timers.start lifetime (.notice id) }
  | .expire id => r.expire id

/-- Runs the jobs that are ready, in the order in which they became so. -/
def runReady (st : Stage) (r : Rehearsal α) : Rehearsal α :=
  r.ready.foldl (run st) { r with ready := [] }

/-- Runs what is ready until everything waits. Tasks make nothing ready but watches, and these make
nothing ready, so that takes two rounds. -/
def settle (st : Stage) (r : Rehearsal α) : Rehearsal α := (r.runReady st).runReady st

/-! ### Time -/

/-- What a timer does when it fires. -/
def ring (r : Rehearsal α) : Alarm → Rehearsal α
  | .notice id => r.enqueue (.expire id)
  | .task n =>
    let tasks := r.tasks.map fun t => if t.number = n then { t with isLate := true } else t
    { r with tasks }.wake n

/-- Moves the clock on and fires what is due then. -/
def tick (millis : Nat) (r : Rehearsal α) : Rehearsal α :=
  let (due, timers) := (r.timers.advance millis).takeDue
  due.foldl ring { r with timers }

/-- Lets time pass, from deadline to deadline. Once all is settled no timer is due, since none is
started that would be due at once; so the next deadline lies ahead. -/
def advance (st : Stage) (millis : Nat) (r : Rehearsal α) : Rehearsal α :=
  let r := r.settle st
  match r.timers.untilNext? with
  | none => r.tick millis
  | some gap =>
    if _h : 0 < gap ∧ gap ≤ millis then advance st (millis - gap) (r.tick gap) else r.tick millis
  termination_by millis

/-! ### From outside -/

/-- Starts an operation as a task with a name. -/
def start (name : String) (routine : Operation α) (r : Rehearsal α) : Rehearsal α :=
  let tasks := r.tasks ++ [{ number := r.started, name, routine }]
  { r with started := r.started + 1, tasks }.wake r.started

/-- Drops the task with a name, and tells whether there was one. -/
def drop (name : String) (r : Rehearsal α) : Bool × Rehearsal α :=
  match r.tasks.find? (·.name = name) with
  | none => (false, r)
  | some t => (true, { r.resumed t.number with
      tasks := r.tasks.filter (·.number ≠ t.number)
      ready := r.ready.filter (· ≠ .task t.number) })

/-- Whether somebody still waits at a gate. -/
def isAwaited (r : Rehearsal α) (gate : Nat) : Asker → Bool
  | .task n => r.tasks.any fun t =>
    t.number = n && t.asked.any fun a => a.standing = .held gate
  | .renewal id => r.renewals.get? id = some (.held gate) &&
    (r.client.session.slot = some id || r.joined.any (·.2 = id))

/-- Wakes whoever waits at a gate. -/
def wakeAsker (r : Rehearsal α) : Asker → Rehearsal α
  | .task n => r.wake n
  | .renewal id => (r.joined.filter (·.2 = id)).foldl (fun r (n, _) => r.wake n) r

/-- Gives an answer that is held back, the oldest one of a role for which somebody waits. Tells
whether there was one. -/
def release (role : Role) (o : role.Outcome) (r : Rehearsal α) : Bool × Rehearsal α :=
  let isWaiting : Gate × Nat → Bool := fun (g, i) =>
    g.role = role && g.outcome.isNone && r.isAwaited i g.asker
  match r.gates.zipIdx.find? isWaiting with
  | none => (false, r)
  | some ({ asker, .. }, i) =>
    let gates := r.gates.set i { role, asker, outcome := some o }
    (true, { r with gates }.wakeAsker asker)

/-- Does at once what takes no waiting. -/
def perform {β : Type} (st : Stage) (routine : Operation β) (r : Rehearsal α) :
    Option β × Rehearsal α :=
  match routine.proceed st.now r.client with
  | (.done b, c) => (some b, r.afterSection c)
  | (_, c) => (none, r.afterSection c)

end Rehearsal

end Wager
