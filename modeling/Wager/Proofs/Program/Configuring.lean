import Wager.Program.Basic
import Wager.Proofs.Config

/-!
# Writing the settings with a command

What the command that writes the settings leaves behind.

Everything that may be wrong with the settings is found before anything is written: they have to be
loaded, and if a key pair is given its file has to hold one. So either there are settings to be written
(`Program.IsConfigured`) or no file is touched. If there are, the command does what saving them does.

## Main definitions

* `Keypair.IsOnFile`: A file holds a key pair.
* `Program.IsConfigured`: The settings that are to be written.
* `Environment.IsUnset`: An environment that sets none of the settings.

## Theorems

* `Program.configure_of_isConfigured`: Settings that are to be written are saved.
* `Program.configure_of_not_isConfigured`: If there are none, nothing is written.
* `Program.settings_survive`: Loading, saving and the command.
-/

namespace Wager

/-- The file holds a key pair. -/
def Keypair.IsOnFile (fs : Files) (path : Path) : Prop :=
  ∃ contents k, fs.readText path = .ok contents ∧ Keypair.parse contents = .ok k

/-- The environment sets none of the settings. -/
def Environment.IsUnset (env : Environment) : Prop :=
  ∀ name ∈ ["DUELS_API_URL", "DUELS_RPC_URL", "DUELS_KEYPAIR"], env.values.get? name = none

theorem Config.isOverridden_of_isUnset {env : Environment} (h : env.IsUnset) (c : Config) :
    IsOverridden env c c := by
  have hkept : ∀ name ∈ ["DUELS_API_URL", "DUELS_RPC_URL", "DUELS_KEYPAIR"],
      ∀ s, env.values.get? name = some s → ∀ ch ∈ s.toList, Text.isBlank ch = true :=
    fun name hname s hs => nomatch (h name hname).symm.trans hs
  refine ⟨.kept (hkept _ ?_), .kept (hkept _ ?_), .kept (hkept _ ?_), rfl, rfl, rfl, rfl⟩
  all_goals simp

namespace Program

/-- The settings that are to be written: those in force, with the key pair that is given, if its file
holds one. -/
inductive IsConfigured (env : Environment) (fs : Files) : Option String → Config → Prop
  | loaded {c : Config} (h : Config.load env fs = .ok c) : IsConfigured env fs none c
  | signing {c : Config} {key : String} (h : Config.load env fs = .ok c)
    (hkey : Keypair.IsOnFile fs (env.path key)) :
    IsConfigured env fs (some key) { c with keypairPath := some key }

theorem isOnFile_of_keypairOf {config : Config} {env : Environment} {fs : Files} {key : String}
    {k : Keypair} (hconfig : config.keypairPath = some key)
    (h : Desk.keypairOf config env fs = .ok k) : Keypair.IsOnFile fs (env.path key) := by
  unfold Desk.keypairOf at h
  rw [hconfig] at h
  simp only at h
  split at h
  case h_1 contents hcontents => exact ⟨contents, k, hcontents, h⟩
  case h_2 => exact nomatch h

/-- Settings that are to be written are saved. -/
theorem configure_of_isConfigured {env : Environment} {fs : Files} {keypair : Option String}
    {c : Config} (h : IsConfigured env fs keypair c) :
    configure env fs keypair =
      ((c.save env fs).1.mapError (Report.context "Failed to save config"), (c.save env fs).2) := by
  cases h with
  | loaded h => simp only [configure, h, Except.mapError, Bind.bind, Except.bind, Pure.pure, Except.pure]
  | @signing c key h hkey =>
    obtain ⟨contents, k, hcontents, hk⟩ := hkey
    simp only [configure, h, Except.mapError, Bind.bind, Except.bind, Desk.keypairOf, hcontents, hk,
      Pure.pure, Except.pure]

/-- If there are none, nothing is written. -/
theorem configure_of_not_isConfigured {env : Environment} {fs : Files} {keypair : Option String}
    (h : ∀ c, ¬ IsConfigured env fs keypair c) : ∃ r, configure env fs keypair = (.error r, fs) := by
  cases hload : Config.load env fs with
  | error r =>
    simp only [configure, hload, Except.mapError, Bind.bind, Except.bind]
    exact ⟨_, rfl⟩
  | ok c =>
    cases keypair with
    | none => exact absurd (.loaded hload) (h c)
    | some key =>
      cases hkeypair : Desk.keypairOf { c with keypairPath := some key } env fs with
      | ok k => exact absurd (.signing hload (isOnFile_of_keypairOf rfl hkeypair)) (h _)
      | error e =>
        simp only [configure, hload, Except.mapError, Bind.bind, Except.bind, hkeypair, throw, throwThe,
          MonadExceptOf.throw]
        exact ⟨_, rfl⟩

theorem run_configure (m : Machine) (args : List String) : run m ("init" :: args) =
    match configure (Dotenv.load m.environment m.files) m.files args.head? with
    | (.ok name, files) =>
      { output := "Config written to " ++ name ++ "\n", files, keychain := m.keychain }
    | (.error r, files) => { status := 1, errors := failureText r, files, keychain := m.keychain } :=
  rfl

/-- A run that finds nothing to write fails, and leaves all files as they were. -/
theorem run_of_not_isConfigured {m : Machine} {args : List String}
    (h : ∀ c, ¬ IsConfigured (Dotenv.load m.environment m.files) m.files args.head? c) :
    (run m ("init" :: args)).status = 1 ∧ (run m ("init" :: args)).files = m.files := by
  obtain ⟨r, hr⟩ := configure_of_not_isConfigured h
  rw [run_configure, hr]
  exact ⟨rfl, rfl⟩

/-- A run that finds something to write succeeds if that can be saved, and leaves the files as saving
it does. -/
theorem run_of_isConfigured {m : Machine} {args : List String} {c : Config}
    (h : IsConfigured (Dotenv.load m.environment m.files) m.files args.head? c) :
    (run m ("init" :: args)).files = (c.save (Dotenv.load m.environment m.files) m.files).2 ∧
      ((run m ("init" :: args)).status = 0 ↔
        ∃ name, (c.save (Dotenv.load m.environment m.files) m.files).1 = .ok name) := by
  rw [run_configure, configure_of_isConfigured h]
  cases (c.save (Dotenv.load m.environment m.files) m.files).1 with
  | ok name => exact ⟨rfl, fun _ => ⟨name, rfl⟩, fun _ => rfl⟩
  | error r => exact ⟨rfl, nofun, fun ⟨_, h⟩ => nomatch h⟩

/-- After a run that succeeds the file has the settings that were to be written. -/
theorem decode?_of_run {m : Machine} {args : List String} {c : Config}
    (h : IsConfigured (Dotenv.load m.environment m.files) m.files args.head? c)
    (hstatus : (run m ("init" :: args)).status = 0) : ∃ directory name contents,
      Config.HasPlace (Dotenv.load m.environment m.files) directory name ∧
      (run m ("init" :: args)).files.readText ((Dotenv.load m.environment m.files).path name) =
        .ok contents ∧ Json.decode? Config.decoder contents = some c := by
  obtain ⟨hfiles, hiff⟩ := run_of_isConfigured h
  obtain ⟨name, hname⟩ := hiff.mp hstatus
  obtain ⟨directory, fs₁, hplace, -, hwrite⟩ := Config.save_eq_ok_iff.mp (Prod.ext hname hfiles.symm)
  exact ⟨directory, name, _, hplace, Files.readText_of_writeText hwrite, c.decode?_pretty⟩

/-- Settings survive loading, overriding and saving.

What is loaded is what the file gives, or the default settings without one, with just those replaced
that the environment replaces. What was saved is loaded again where the environment sets none of it; and
saving succeeds where the file was there, or else where its directory can be created and has room for
it. A run of the command fails and leaves all files as they were if the settings cannot be loaded, or if
a key pair is given and its file holds none. Otherwise it succeeds if the settings can be saved, and then
the file has those loaded, with the key pair that was given. -/
theorem settings_survive :
    (∀ env fs c, Config.load env fs = .ok c ↔ ∃ directory name base,
      Config.HasPlace env directory name ∧ Config.IsOnFile fs (env.path name) base ∧
        Config.IsOverridden env base c) ∧
    (∀ (c : Config) env env' fs fs' name, c.save env fs = (.ok name, fs') →
      Environment.SharesPlace env env' → env'.IsUnset → Config.load env' fs' = .ok c) ∧
    (∀ (c : Config) env fs directory name, Config.HasPlace env directory name →
      ((∃ contents, fs.readText (env.path name) = .ok contents) ∨
        name.utf8ByteSize ≤ Path.maxText ∧ ∃ fs₁, fs.createDirectories (env.path directory) = (.ok (), fs₁) ∧
          fs₁.HasRoomFor (env.path name)) →
      ∃ fs', c.save env fs = (.ok name, fs')) ∧
    ∀ (m : Machine) (args : List String),
      let env := Dotenv.load m.environment m.files
      let after := run m ("init" :: args)
      ((∀ c, ¬ IsConfigured env m.files args.head? c) → after.status = 1 ∧ after.files = m.files) ∧
      ∀ c, IsConfigured env m.files args.head? c →
        after.files = (c.save env m.files).2 ∧
        (after.status = 0 ↔ ∃ name, (c.save env m.files).1 = .ok name) ∧
        (after.status = 0 → ∃ directory name contents, Config.HasPlace env directory name ∧
          after.files.readText (env.path name) = .ok contents ∧
            Json.decode? Config.decoder contents = some c) := by
  refine ⟨fun _ _ _ => Config.load_eq_ok_iff, ?_, ?_, fun m args => ⟨run_of_not_isConfigured, ?_⟩⟩
  · intro c env env' fs fs' name hsave hsame hunset
    -- Where nothing is set a configuration replaces itself.
    exact Config.load_of_save hsave hsame (Config.isOverridden_of_isUnset hunset c)
  · rintro c env fs directory name hplace (⟨contents, hfile⟩ | ⟨hsize, fs₁, hcreate, hroom⟩)
    · exact Config.exists_save_eq_ok_of_file hplace hfile c
    · exact Config.exists_save_eq_ok hplace hsize hcreate hroom c
  · intro c h
    obtain ⟨hfiles, hstatus⟩ := run_of_isConfigured h
    exact ⟨hfiles, hstatus, decode?_of_run h⟩

/-- A file that names one server, and an environment that names the other one and has a blank in place
of the first. The file is rewritten with both, and read so without that environment. -/
theorem settings_survive_sample :
    let directory := ["home", ".config", "duels"]
    let m : Machine := {
      environment := {
        values := .ofList [("HOME", "/home"), ("DUELS_API_URL", " "), ("DUELS_RPC_URL", "http://here")] }
      files := ⟨.ofList [(["home"], .directory), (["home", ".config"], .directory),
        (directory, .directory),
        (directory ++ ["config.json"], .file (Text.bytes "\x7b\"api_url\":\"http://there\"\x7d"))]⟩
      keychain := {}, now := ⟨0, 0⟩, peer := .unreachable }
    let c : Config := { apiUrl := "http://there", rpcUrl := "http://here" }
    Config.load m.environment m.files = .ok c ∧ (run m ["init"]).status = 0 ∧
      ∃ name contents, (run m ["init"]).files.readText (m.environment.path name) = .ok contents ∧
        Json.decode? Config.decoder contents = some c ∧
        Config.load { values := .ofList [("HOME", "/home")] } (run m ["init"]).files = .ok c := by
  intro directory m c
  have hload : Config.load m.environment m.files = .ok c := by decide +kernel
  have henv : Dotenv.load m.environment m.files = m.environment := by
    have hnone : Dotenv.find? m.files [] = none := by
      rw [Dotenv.find?, show m.files.node? ([] ++ [Dotenv.fileName]) = none by decide +kernel]
      rfl
    rw [Dotenv.load, hnone]
  have hplace : Config.HasPlace m.environment "/home/.config/duels" "/home/.config/duels/config.json" :=
    ⟨by decide +kernel, by decide +kernel⟩
  have hfile : m.files.readText (m.environment.path "/home/.config/duels/config.json") =
      .ok "\x7b\"api_url\":\"http://there\"\x7d" := by decide +kernel
  obtain ⟨-, hback, hsave, hrun⟩ := settings_survive
  obtain ⟨fs', hfs'⟩ := hsave c _ _ _ _ hplace (.inl ⟨_, hfile⟩)
  have hconfigured : IsConfigured m.environment m.files none c := .loaded hload
  obtain ⟨-, hsucceeds⟩ := hrun m []
  rw [henv] at hsucceeds
  obtain ⟨hfiles, hstatus, hafter⟩ := hsucceeds c hconfigured
  have hzero := hstatus.mpr ⟨_, congrArg Prod.fst hfs'⟩
  obtain ⟨-, name, contents, -, hread, hdecode⟩ := hafter hzero
  rw [hfs'] at hfiles
  refine ⟨hload, hzero, name, contents, hread, hdecode, ?_⟩
  rw [show (run m ["init"]).files = fs' from hfiles]
  exact hback c m.environment _ _ _ _ hfs' ⟨rfl, by decide +kernel, by decide +kernel⟩
    (by unfold Environment.IsUnset; decide +kernel)

end Program

end Wager
