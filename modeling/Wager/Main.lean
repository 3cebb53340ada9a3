import Std.Time.DateTime.Timestamp
import Wager.Program.Basic

/-!
# The command line

The outermost layer: gathers what a run needs, runs the program and puts its results into place.

All decisions are made by `Program.run`. This layer knows which files a run may read and which
variables count, and nothing else. It has neither a keychain nor a way to the network to offer: a
session lasts as long as the run, and nobody can be reached.

## Main definitions

* `main`: The program.
-/

namespace Wager.CommandLine

/-- The variables that count. -/
def variableNames : List String :=
  ["HOME", "XDG_CONFIG_HOME", "XDG_CACHE_HOME", "DUELS_API_URL", "DUELS_RPC_URL", "DUELS_KEYPAIR"]

/-- The environment of the process. -/
def environment : IO Environment := do
  let found ← variableNames.filterMapM fun name => do
    return (← IO.getEnv name).map (name, ·)
  return {
    values := Table.ofList found
    directory := Path.ofText [] (← IO.currentDir).toString }

/-- The name of a path. -/
def nameOf (p : Path) : String := "/" ++ String.intercalate "/" p

/-- The files with one more, if it can be read. -/
def fetch (fs : Files) (p : Path) : IO Files := do
  try
    let content ← IO.FS.readBinFile (nameOf p)
    let (_, fs) := fs.createDirectories p.dropLast
    match fs.writeBytes p content.data.toList with
    | .ok fs => return fs
    | .error _ => return fs
  catch _ => return fs

/-- The files that may set variables: one in each directory from the given one upwards. -/
def dotenvPaths (directory : Path) : List Path :=
  (List.range (directory.length + 1)).map fun n => directory.take n ++ [Dotenv.fileName]

/-- The files of the settings and of the cached profile. -/
def ownPaths (env : Environment) : List Path :=
  let config := match Config.fileName env with
    | .ok name => [env.path name]
    | .error _ => []
  let cache := match env.cacheDirectory with
    | some name => [env.path name ++ [ProfileCache.fileName]]
    | none => []
  config ++ cache

/-- The files of key pairs: the one that the settings name, and those that arguments may name. -/
def keypairPaths (env : Environment) (fs : Files) (args : List String) : List Path :=
  let configured := match Config.load env fs with
    | .ok { keypairPath := some name, .. } => [name]
    | _ => []
  (configured ++ args).map env.path

/-- All files that a run may read. -/
def gather (env : Environment) (args : List String) : IO Files := do
  let fs ← (dotenvPaths env.directory).foldlM fetch {}
  let env := Dotenv.load env fs
  let fs ← (ownPaths env).foldlM fetch fs
  (keypairPaths env fs args).foldlM fetch fs

/-- Puts the files into place that a run has written, and removes those that it has removed. -/
def putBack (before after : Files) : IO Unit := do
  for (p, node) in after.nodes.entries do
    if before.node? p ≠ some node then
      match node with
      | .file content =>
        IO.FS.createDirAll (nameOf p.dropLast)
        IO.FS.writeBinFile (nameOf p) ⟨content.toArray⟩
      | .directory => IO.FS.createDirAll (nameOf p)
      | .brokenLink => pure ()
  for (p, _) in before.nodes.entries do
    if after.node? p = none then IO.FS.removeFile (nameOf p)

/-- The time of day. -/
def now : IO Timestamp := do
  let t ← Std.Time.Timestamp.now
  let nanos := t.toNanosecondsSinceUnixEpoch.val
  return ⟨nanos.fdiv 1000000000, (nanos.fmod 1000000000).toNat⟩

/-- A keychain that cannot be reached. -/
def noKeychain : Keychain where
  faults _ operation := if operation = .enter then none else some .noAccess

/-- A run on this machine. -/
def run (args : List String) : IO UInt32 := do
  let env ← environment
  let files ← gather env args
  let outcome := Program.run
    { environment := env, files, keychain := noKeychain, now := ← now, peer := .unreachable } args
  putBack files outcome.files
  IO.print outcome.output
  IO.eprint outcome.errors
  return .ofNat outcome.status

end Wager.CommandLine

/-- The program. -/
def main (args : List String) : IO UInt32 := Wager.CommandLine.run args
