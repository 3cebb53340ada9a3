import Wager.Files
import Wager.Json.Decode
import Wager.Json.Text
import Wager.Report
import Wager.Token.Mint

/-!
# Configuration

Where the servers are, which token is used, how long to wait, and which key pair to sign with.

Every setting has a default, so a file need not name any, and no file is needed. Three variables of
the environment take precedence over the file, unless they are blank.

## Main definitions

* `Config`: The settings.
* `Environment`: Variables, and where files are found by them.
* `Config.load`, `Config.save`: Reading and writing the file.
-/

namespace Wager

/-- The settings. Times are in seconds. -/
structure Config where
  apiUrl : String := "http://localhost:8080"
  rpcUrl : String := "https://api.mainnet-beta.solana.com"
  mint : String := Mint.dollarText
  decimals : UInt8 := Mint.dollarDecimals
  requestTimeout : UInt64 := 30
  walletTimeout : UInt64 := 120
  keypairPath : Option String := none
  deriving DecidableEq

/-- The variables of a process and the directory it runs in. -/
structure Environment where
  values : Table String String := {}
  directory : Path := []
  deriving DecidableEq

namespace Environment

/-- The name of something in a directory. -/
def inDirectory (directory name : String) : String :=
  if directory.endsWith "/" then directory ++ name else directory ++ "/" ++ name

/-- The directory that a variable names, or one in the home directory. Only absolute names count.
Where no home directory is named the system could still look up that of the user; an environment
here has no users, so there is none. -/
def baseDirectory (env : Environment) (name fallback : String) : Option String :=
  match env.values.get? name with
  | some s => if s.startsWith "/" then some s else inHome
  | none => inHome
where
  inHome : Option String :=
    match env.values.get? "HOME" with
    | some home => if home.isEmpty then none else some (inDirectory home fallback)
    | none => none

/-- The directory for the program's settings. -/
def configDirectory (env : Environment) : Option String :=
  (env.baseDirectory "XDG_CONFIG_HOME" ".config").map (inDirectory · "duels")

/-- The directory for what the program can do without. -/
def cacheDirectory (env : Environment) : Option String :=
  (env.baseDirectory "XDG_CACHE_HOME" ".cache").map (inDirectory · "duels")

/-- The path that a text names for the process. -/
def path (env : Environment) (s : String) : Path := Path.ofText env.directory s

/-- The value of a variable that is set and not blank. -/
def setting? (env : Environment) (name : String) : Option String :=
  (env.values.get? name).filter fun s => !Text.isBlankText s

end Environment

namespace Config

/-- The settings as a document. -/
def toValue (c : Config) : Json.Value :=
  .object [
    ("api_url", .text c.apiUrl),
    ("rpc_url", .text c.rpcUrl),
    ("usdc_mint", .text c.mint),
    ("token_decimals", .ofNat c.decimals.toNat),
    ("request_timeout_secs", .ofNat c.requestTimeout.toNat),
    ("wallet_timeout_secs", .ofNat c.walletTimeout.toNat),
    ("keypair_path", .ofOption .text c.keypairPath)]

/-- Reads settings from a document. -/
def decoder : Json.Decoder Config :=
  .record ["api_url", "rpc_url", "usdc_mint", "token_decimals", "request_timeout_secs",
      "wallet_timeout_secs", "keypair_path"] fun budget slots =>
    let base : Config := {}
    match slots with
    | [apiUrl, rpcUrl, mint, decimals, requestTimeout, walletTimeout, keypairPath] => do
      return {
        apiUrl := ← Json.Decoder.defaulted .text base.apiUrl budget apiUrl
        rpcUrl := ← Json.Decoder.defaulted .text base.rpcUrl budget rpcUrl
        mint := ← Json.Decoder.defaulted .text base.mint budget mint
        decimals := ← Json.Decoder.defaulted .byte base.decimals budget decimals
        requestTimeout := ← Json.Decoder.defaulted .word base.requestTimeout budget requestTimeout
        walletTimeout := ← Json.Decoder.defaulted .word base.walletTimeout budget walletTimeout
        keypairPath := ← Json.Decoder.optional .text budget keypairPath }
    | _ => none

/-- The settings with those replaced that the environment sets. -/
def override (c : Config) (env : Environment) : Config :=
  { c with
    apiUrl := (env.setting? "DUELS_API_URL").getD c.apiUrl
    rpcUrl := (env.setting? "DUELS_RPC_URL").getD c.rpcUrl
    keypairPath := (env.setting? "DUELS_KEYPAIR").or c.keypairPath }

/-- The name of the settings file. -/
def fileName (env : Environment) : Except Report String :=
  match env.configDirectory with
  | some directory => .ok (Environment.inDirectory directory "config.json")
  | none => .error ⟨"Could not find config directory", []⟩

/-- The settings in a file, the default ones if there is no file. -/
def read (fs : Files) (path : Path) (name : String) : Except Report Config :=
  if fs.isThere path then
    match fs.readText path with
    | .error f => .error ⟨"Failed to read " ++ name, [f.message]⟩
    | .ok contents => match Json.decode? decoder contents with
      | some c => .ok c
      | none => .error ⟨"Failed to parse " ++ name, [Json.malformed]⟩
  else .ok {}

/-- The settings in force. -/
def load (env : Environment) (fs : Files) : Except Report Config := do
  let name ← fileName env
  let c ← read fs (env.path name) name
  return c.override env

/-- Writes the settings to their file, creating its directory; gives the file's name. -/
def save (c : Config) (env : Environment) (fs : Files) : Except Report String × Files :=
  match fileName env with
  | .error r => (.error r, fs)
  | .ok name =>
    let directory := (env.configDirectory).getD ""
    match fs.createDirectories (env.path directory) with
    | (.error f, fs) => (.error ⟨"Failed to create " ++ directory, [f.message]⟩, fs)
    | (.ok (), fs) => match fs.writeText (env.path name) c.toValue.pretty with
      | .error f => (.error ⟨"Failed to write " ++ name, [f.message]⟩, fs)
      | .ok fs => (.ok name, fs)

/-- The token that is used. -/
def token (c : Config) : Result Mint := Mint.parse c.mint c.decimals

end Config

end Wager
