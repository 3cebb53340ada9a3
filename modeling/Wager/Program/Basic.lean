import Wager.Program.Desk
import Wager.Program.Dotenv

/-!
# The program

What the program does for each command, on a given machine.

A run reads the settings, sets up a client with them, does what it is told and leaves files and
keychain behind as they are then. Whatever was printed before a failure stays printed. If the
keychain cannot be reached the session lasts only as long as the run, and without a directory for
it the same goes for the cached profile.

## Main definitions

* `Program.perform`: What a command does at a desk.
* `Program.configure`: Writes the settings.
* `Program.run`: A run of the program.
-/

namespace Wager.Program

/-- What a run leaves behind: its status and what was printed, and the machine's new state. -/
structure Outcome where
  status : Nat := 0
  output : String := ""
  errors : String := ""
  files : Files
  keychain : Keychain
  sent : List Remote.Request := []

/-! ### Commands -/

/-- A failure that has no cause behind it. -/
def fail {α : Type} (message : String) : Job α := throw ⟨message, []⟩

/-- Nothing is done for people who are not signed in. -/
def requireSession (d : Desk) : Job Unit := do
  unless ← Job.run d (Client.ofSession Session.isOpen) do
    fail "Not signed in. Run `duels login` first."

/-- Who is greeted. -/
def greeting (p : Profile) : String := s!"Signed in as {p.displayName} (id {p.id})"

/-- Prints the balance that was read last. -/
def sayBalance : Job Unit := do
  if let some balance := (← get).1.wallet.balance then
    Job.say s!"Balance: {balance.text} USDC"

/-- Signs in. -/
def signIn (d : Desk) : Job Unit := do
  match ← Job.attempt d "Sign-in failed" (Client.signIn d.setting) with
  | some p => Job.say (greeting p)
  | none => Job.say "Signed in, profile unavailable"
  sayBalance

/-- Tells who is signed in. -/
def status (d : Desk) : Job Unit := do
  if ← Job.run d (Client.ofSession Session.isOpen) then
    match ← Job.run d (Client.loadProfile d.setting) with
    | some p =>
      Job.say (greeting p)
      if let some address := p.publicAddress then Job.say s!"Wallet: {address}"
      sayBalance
      if let some cached := (← get).1.cache.current then
        Job.say s!"Profile cached {cached.ageMinutes d.now}m ago"
    | none => Job.say "Session stored, profile unavailable"
  else Job.say "Not signed in"

/-- Whose balance is asked for: the given owner, else the address on file, else the key pair. -/
def owner (d : Desk) (given : Option String) : Job Address := do
  let onFile := (← get).1.cache.profile?.bind Profile.publicAddress
  match given, onFile, d.config.keypairPath with
  | some text, _, _ => Job.orReport "Invalid owner address" (Address.parse text)
  | none, some text, _ => Job.orReport "Invalid address on file" (Address.parse text)
  | none, none, some _ => Job.orReport none (d.keypair.map Keypair.address)
  | none, none, none => fail "No owner given, no signed-in user and no keypair configured"

/-- Prints a balance. -/
def balance (d : Desk) (given : Option String) : Job Unit := do
  let owner ← owner d given
  let balance ← Job.attempt d s!"Failed to fetch balance for {owner.text}"
    (Client.balance d.setting owner)
  Job.say s!"{balance.text} USDC"

/-- Prints the account of an owner. -/
def account (d : Desk) (given : Option String) : Job Unit := do
  let some text := given | fail "ata needs an owner address"
  let owner ← Job.orReport "Invalid owner address" (Address.parse text)
  Job.say (d.mint.accountOf owner).text

/-- A line about a duel. -/
def duelLine (duel : Duel) : String :=
  s!"{duel.id}  {duel.status.name}  {duel.playersCount} players  {duel.question}"

/-- Lists the duels of whoever is signed in. -/
def listDuels (d : Desk) : Job Unit := do
  requireSession d
  let duels ← Job.attempt d "Failed to load duels" (Client.ask .listDuels)
  duels.forM fun duel => Job.say (duelLine duel)
  let pending ← Job.attempt d none Client.openDuels
  Job.say s!"{duels.length} duels, {pending} awaiting resolution"

/-- Shows a duel. -/
def showDuel (d : Desk) (given : Option String) : Job Unit := do
  let some id := given | fail "duel needs a duel id"
  requireSession d
  let found ← ExceptT.lift (d.authorized (.duel id))
  let detail ← Job.orReport ("Failed to load duel " ++ id) found
  let duel := detail.duel
  Job.say duel.question
  Job.say s!"Status: {duel.status.name}"
  Job.say s!"Price: {duel.price.plainText} USDC, commission {duel.commission}%"
  if let some date := duel.eventDate then Job.say s!"Event date: {date.sentenceText}"
  if let some result := duel.finalResult then Job.say s!"Final result: {result}"
  Job.say s!"Players: {detail.players.length}"

/-- Prints the figures of whoever is signed in. -/
def statistics (d : Desk) : Job Unit := do
  requireSession d
  let found ← ExceptT.lift (d.authorized .statistics)
  let figures ← Job.orReport "Failed to load stats" found
  Job.say figures.pretty

/-- Executes an action. -/
def execute (d : Desk) (a : Duel.Action) : Job Unit := do
  requireSession d
  let reply ← Job.attempt d (a.name ++ " failed") (Client.execute d.setting a)
  Job.say reply.pretty

/-- Opens a duel. -/
def create (d : Desk) (args : List String) : Job Unit := do
  execute d (.create (← ExceptT.mk (pure (Command.opening args))))

/-- Joins a duel. -/
def join (d : Desk) (args : List String) : Job Unit := do
  let (duelId, answer) ← ExceptT.mk (pure (Command.target "join" args))
  execute d (.join { duelId, answer })

/-- Resolves a duel. -/
def resolve (d : Desk) (args : List String) : Job Unit := do
  requireSession d
  let (duelId, answer) ← ExceptT.mk (pure (Command.target "resolve" args))
  let reply ← Job.attempt d "Resolve failed" (Client.resolve { duelId, answer })
  Job.say reply.pretty

/-- Signs out. -/
def signOut (d : Desk) : Job Unit := do
  Job.run d Client.signOut
  Job.say "Logged out"

/-- What a command does. -/
def perform (d : Desk) : Command → Job Unit
  | .signIn => signIn d
  | .status => status d
  | .balance given => balance d given
  | .account given => account d given
  | .duels => listDuels d
  | .duel given => showDuel d given
  | .statistics => statistics d
  | .create args => create d args
  | .join args => join d args
  | .resolve args => resolve d args
  | .signOut => signOut d
  | .unknown name => fail ("Unknown command: " ++ name)
  | .usage | .configure _ => return

/-! ### Runs -/

/-- Writes the settings, with the key pair if one is given; gives the file's name. -/
def configure (env : Environment) (fs : Files) (keypair : Option String) :
    Except Report String × Files :=
  let found : Except Report Config := do
    let config ← (Config.load env fs).mapError (Report.context "Failed to load config")
    match keypair with
    | none => return config
    | some name =>
      let config := { config with keypairPath := some name }
      match Desk.keypairOf config env fs with
      | .ok _ => return config
      | .error e => throw (Report.context ("Unreadable keypair file " ++ name) (.ofError e))
  match found with
  | .error r => (.error r, fs)
  | .ok config =>
    let (saved, fs) := config.save env fs
    (saved.mapError (Report.context "Failed to save config"), fs)

/-- The cached profile: on file if there is a directory for it. -/
def openCache (env : Environment) (fs : Files) : ProfileCache × Files :=
  match env.cacheDirectory with
  | none => ({}, fs)
  | some name => match ProfileCache.openIn fs (env.path name) name with
    | (.ok cache, fs) => (cache, fs)
    | (.error _, fs) => ({}, fs)

/-- The desk for the settings, with its client, and the files after it is set up. -/
def setUp (m : Machine) (env : Environment) : Except Report (Desk × Client) × Files :=
  match (Config.load env m.files).mapError (Report.context "Failed to load config") with
  | .error r => (.error r, m.files)
  | .ok config =>
    let (cache, files) := openCache env m.files
    match config.token with
    | .error e => (.error (Report.context "Invalid token mint in config" (.ofError e)), files)
    | .ok mint =>
      let keypair := Desk.keypairOf config env files
      (.ok ({ config, keypair, mint, now := m.now, peer := m.peer },
        { session := { store := Store.choose m.keychain }, cache, files }), files)

/-- The keychain as a client leaves it. -/
def keychainAfter (before : Keychain) (c : Client) : Keychain :=
  match c.session.store with
  | .keychain k => k
  | .memory _ => before

/-- What is printed about a failure. -/
def failureText (r : Report) : String := "Error: " ++ r.text ++ "\n"

/-- A run for a command that needs a client. -/
def runCommand (m : Machine) (env : Environment) (command : Command) : Outcome :=
  match setUp m env with
  | (.error r, files) => { status := 1, errors := failureText r, files, keychain := m.keychain }
  | (.ok (d, client), _) =>
    let (ended, client, tray) := ExceptT.run (perform d command) (client, {})
    let outcome : Outcome := {
      output := tray.printed, files := client.files
      keychain := keychainAfter m.keychain client, sent := tray.sent }
    let usage := match command with
      | .unknown _ => Command.usageText ++ "\n"
      | _ => ""
    match ended with
    | .ok () => outcome
    | .error r => { outcome with status := 1, errors := usage ++ failureText r }

/-- A run of the program. -/
def run (m : Machine) (args : List String) : Outcome :=
  let env := Dotenv.load m.environment m.files
  match Command.parse args with
  | .usage => { output := Command.usageText ++ "\n", files := m.files, keychain := m.keychain }
  | .configure keypair => match configure env m.files keypair with
    | (.ok name, files) =>
      { output := "Config written to " ++ name ++ "\n", files, keychain := m.keychain }
    | (.error r, files) => { status := 1, errors := failureText r, files, keychain := m.keychain }
  | command => runCommand m env command

end Wager.Program
