import Wager.Proofs.Json.Documents
import Wager.Proofs.Json.Records
import Wager.Proofs.Paths

/-!
# Settings on file

Which settings are in force, and that they are kept when they are saved.

Three things make the settings: the file, which need not name them all and need not be there; the
default ones; and the environment, which takes precedence for three of them. What each of them decides
is told here by itself: `Config.IsReadFrom` for a document, `Config.IsOnFile` for a file or none, and
`Config.IsOverridden` for the environment.

All settings are texts or whole numbers in range, so they are read back from the document they are
written as, whatever they are (`Config.decode?_pretty`). What was saved is therefore what is loaded,
unless the environment says otherwise the second time.

Saving needs the directory, and in it the place for the file. The file's name is one step behind that
of the directory, so where a file was found saving succeeds.

## Main definitions

* `Config.IsReadFrom`: Settings that a document gives.
* `Config.IsOnFile`: Settings that a file gives, or the default ones without a file.
* `Environment.Decides`, `Config.IsOverridden`: What the environment replaces.
* `Config.HasPlace`: The directory and the name of the file.
* `Environment.Follows`: An environment in which the file has the same place, without settings.

## Theorems

* `Config.decoder_eq_some_iff`, `Config.decode?_pretty`: Settings and documents.
* `Config.load_eq_ok_iff`: Which settings are loaded.
* `Config.load_of_save`: What was saved is loaded.
* `Config.exists_save_eq_ok`, `Config.exists_save_eq_ok_of_file`: When saving succeeds.
-/

namespace Wager

namespace Config

/-! ### Documents -/

/-- The names of the settings in order. -/
def fieldNames : List String :=
  ["api_url", "rpc_url", "usdc_mint", "token_decimals", "request_timeout_secs", "wallet_timeout_secs",
    "keypair_path"]

/-- Settings are read from a document: each of them is what the document gives for it, and the default
one where it gives nothing. -/
inductive IsReadFrom (t : Json.Tree) (c : Config) : Prop
  | mk {apiUrl rpcUrl mint decimals requestTimeout walletTimeout keypairPath : Json.Slot}
    (hrecord : t.IsRecord fieldNames
      [apiUrl, rpcUrl, mint, decimals, requestTimeout, walletTimeout, keypairPath])
    (hapiUrl : apiUrl.Gives (fun t s => t = .text (some s)) ({} : Config).apiUrl c.apiUrl)
    (hrpcUrl : rpcUrl.Gives (fun t s => t = .text (some s)) ({} : Config).rpcUrl c.rpcUrl)
    (hmint : mint.Gives (fun t s => t = .text (some s)) ({} : Config).mint c.mint)
    (hdecimals : decimals.Gives (fun t n => t = .number (some (.whole n.toNat)))
      ({} : Config).decimals c.decimals)
    (hrequestTimeout : requestTimeout.Gives (fun t n => t = .number (some (.whole n.toNat)))
      ({} : Config).requestTimeout c.requestTimeout)
    (hwalletTimeout : walletTimeout.Gives (fun t n => t = .number (some (.whole n.toNat)))
      ({} : Config).walletTimeout c.walletTimeout)
    (hkeypairPath : keypairPath.Gives (Json.Tree.OrNull fun t s => t = .text (some s))
      ({} : Config).keypairPath c.keypairPath)

theorem decoder_eq_some_iff {budget : Nat} {t : Json.Tree} {c : Config} :
    decoder (budget + 1) t = some c ↔ IsReadFrom t c := by
  have htext : ∀ default slot s, Json.Decoder.defaulted .text default budget slot = some s ↔
      slot.Gives (fun t s => t = .text (some s)) default s :=
    fun _ _ _ => Json.Decoder.defaulted_eq_some_iff fun _ _ => Json.Decoder.text_eq_some_iff
  have hbyte : ∀ default slot n, Json.Decoder.defaulted .byte default budget slot = some n ↔
      slot.Gives (fun t n => t = .number (some (.whole n.toNat))) default n :=
    fun _ _ _ => Json.Decoder.defaulted_eq_some_iff fun _ _ => Json.Decoder.byte_eq_some_iff
  have hword : ∀ default slot n, Json.Decoder.defaulted .word default budget slot = some n ↔
      slot.Gives (fun t n => t = .number (some (.whole n.toNat))) default n :=
    fun _ _ _ => Json.Decoder.defaulted_eq_some_iff fun _ _ => Json.Decoder.word_eq_some_iff
  have hoptional : ∀ slot o, Json.Decoder.optional .text budget slot = some o ↔
      slot.Gives (Json.Tree.OrNull fun t s => t = .text (some s)) none o := by
    intro slot o
    rw [Json.Decoder.optional_eq_defaulted]
    exact Json.Decoder.defaulted_eq_some_iff fun _ _ =>
      Json.Decoder.nullOr_eq_some_iff (fun _ _ => Json.Decoder.text_eq_some_iff) nofun
  rw [decoder, Json.Decoder.record_eq_some_iff]
  -- Slot by slot, since each setting is read by itself.
  constructor
  · rintro ⟨slots, hrecord, hbuild⟩
    simp only at hbuild
    split at hbuild
    case h_1 =>
      simp only [Option.bind_eq_bind, Option.pure_def, Option.bind_eq_some_iff, Option.some.injEq,
        htext, hbyte, hword, hoptional] at hbuild
      obtain ⟨_, h1, _, h2, _, h3, _, h4, _, h5, _, h6, _, h7, rfl⟩ := hbuild
      exact .mk hrecord h1 h2 h3 h4 h5 h6 h7
    case h_2 => exact nomatch hbuild
  · rintro ⟨hrecord, h1, h2, h3, h4, h5, h6, h7⟩
    refine ⟨_, hrecord, ?_⟩
    simp only [(htext _ _ _).mpr h1, (htext _ _ _).mpr h2, (htext _ _ _).mpr h3,
      (hbyte _ _ _).mpr h4, (hword _ _ _).mpr h5, (hword _ _ _).mpr h6, (hoptional _ _).mpr h7,
      Option.bind_eq_bind, Option.bind_some, Option.pure_def]

theorem decoder_toTree (c : Config) (budget : Nat) :
    decoder (budget + 1) c.toValue.toTree = some c := by
  have hbyte : ∀ n : UInt8, Json.Decoder.byte budget (Json.Value.ofNat n.toNat).toTree = some n :=
    fun n => Json.Decoder.byte_eq_some_iff.mpr rfl
  have hword : ∀ n : UInt64, Json.Decoder.word budget (Json.Value.ofNat n.toNat).toTree = some n :=
    fun n => Json.Decoder.word_eq_some_iff.mpr rfl
  have hpath : Json.Decoder.nullOr .text budget (Json.Value.ofOption .text c.keypairPath).toTree =
      some c.keypairPath := by
    cases c.keypairPath <;> rfl
  simp [decoder, toValue, Json.Value.toTree, Json.memberTrees, Json.Decoder.record, Json.slots?,
    Json.slotOf?, Json.Decoder.defaulted, Json.Decoder.optional, Json.Decoder.text, hbyte, hword,
    hpath]

theorem isLegible_ofNat {n : Nat} (h : n < 0x10000000000000000) : (Json.Value.ofNat n).IsLegible := by
  refine Json.Number.isLegible_whole ?_
  simp only [Json.Number.inRange, Bool.and_eq_true, decide_eq_true_eq]
  omega

theorem isLegible_toValue (c : Config) : c.toValue.IsLegible := by
  have hbyte := c.decimals.toNat_lt
  have htext : ∀ o, (Json.Value.ofOption .text o).IsLegible :=
    Json.Value.isLegible_ofOption fun _ => trivial
  exact ⟨trivial, trivial, trivial, isLegible_ofNat (by omega), isLegible_ofNat c.requestTimeout.toNat_lt,
    isLegible_ofNat c.walletTimeout.toNat_lt, htext _, trivial⟩

/-- Settings are read back from their document, whatever they are. -/
theorem decode?_pretty (c : Config) : Json.decode? decoder c.toValue.pretty = some c := by
  rw [Json.decode?, Json.parse?_pretty _ c.isLegible_toValue, Option.bind_some, Json.maxDepth,
    decoder_toTree]

end Config

/-! ### The environment -/

namespace Environment

variable (env : Environment)

/-- What a variable decides: a new value if it is set and not blank, and otherwise the old one. -/
inductive Decides {α : Type} (name : String) (ofText : String → α) (old : α) : α → Prop
  | set {s : String} (h : env.values.get? name = some s) (hs : ∃ c ∈ s.toList, Text.isBlank c = false) :
    Decides name ofText old (ofText s)
  | kept (h : ∀ s, env.values.get? name = some s → ∀ c ∈ s.toList, Text.isBlank c = true) :
    Decides name ofText old old

theorem setting?_eq_some_iff {name s : String} : env.setting? name = some s ↔
    env.values.get? name = some s ∧ ∃ c ∈ s.toList, Text.isBlank c = false := by
  simp [setting?, Option.filter_eq_some_iff, Text.isBlankText]

theorem setting?_eq_none_iff {name : String} : env.setting? name = none ↔
    ∀ s, env.values.get? name = some s → ∀ c ∈ s.toList, Text.isBlank c = true := by
  simp [setting?, Option.filter_eq_none_iff, Text.isBlankText]

theorem decides_iff {α : Type} {name : String} {ofText : String → α} {old new : α} :
    env.Decides name ofText old new ↔ new = ((env.setting? name).map ofText).getD old := by
  constructor
  · intro h
    cases h with
    | set h hs => rw [(env.setting?_eq_some_iff).mpr ⟨h, hs⟩, Option.map_some, Option.getD_some]
    | kept h => rw [(env.setting?_eq_none_iff).mpr h, Option.map_none, Option.getD_none]
  · rintro rfl
    cases hsetting : env.setting? name with
    | none => exact .kept ((env.setting?_eq_none_iff).mp hsetting)
    | some s =>
      obtain ⟨h, hs⟩ := (env.setting?_eq_some_iff).mp hsetting
      exact .set h hs

/-- The file of the settings has the same place in both environments. -/
structure SharesPlace (env env' : Environment) : Prop where
  directory_eq : env'.directory = env.directory
  config_eq : env'.values.get? "XDG_CONFIG_HOME" = env.values.get? "XDG_CONFIG_HOME"
  home_eq : env'.values.get? "HOME" = env.values.get? "HOME"

variable {env env' : Environment}

theorem SharesPlace.path_eq (h : SharesPlace env env') (s : String) : env'.path s = env.path s := by
  rw [path, h.directory_eq, path]

theorem SharesPlace.configDirectory_eq (h : SharesPlace env env') :
    env'.configDirectory = env.configDirectory := by
  simp only [configDirectory, baseDirectory, baseDirectory.inHome, h.config_eq, h.home_eq]

end Environment

namespace Config

/-- Settings with just those replaced that the environment replaces. -/
structure IsOverridden (env : Environment) (base c : Config) : Prop where
  apiUrl : env.Decides "DUELS_API_URL" id base.apiUrl c.apiUrl
  rpcUrl : env.Decides "DUELS_RPC_URL" id base.rpcUrl c.rpcUrl
  keypairPath : env.Decides "DUELS_KEYPAIR" some base.keypairPath c.keypairPath
  mint : c.mint = base.mint
  decimals : c.decimals = base.decimals
  requestTimeout : c.requestTimeout = base.requestTimeout
  walletTimeout : c.walletTimeout = base.walletTimeout

theorem isOverridden_iff {env : Environment} {base c : Config} :
    IsOverridden env base c ↔ c = base.override env := by
  have hor : ∀ o : Option String, (o.map some).getD base.keypairPath = o.or base.keypairPath := by
    intro o
    cases o <;> rfl
  constructor
  · rintro ⟨hapi, hrpc, hkeypair, hmint, hdecimals, hrequest, hwallet⟩
    rw [Environment.decides_iff, Option.map_id] at hapi hrpc
    rw [Environment.decides_iff, hor] at hkeypair
    obtain ⟨apiUrl, rpcUrl, mint, decimals, requestTimeout, walletTimeout, keypairPath⟩ := c
    simp only [override, mk.injEq]
    exact ⟨hapi, hrpc, hmint, hdecimals, hrequest, hwallet, hkeypair⟩
  · rintro rfl
    refine ⟨?_, ?_, ?_, rfl, rfl, rfl, rfl⟩
    · rw [Environment.decides_iff, Option.map_id]
      rfl
    · rw [Environment.decides_iff, Option.map_id]
      rfl
    · rw [Environment.decides_iff, hor]
      rfl

/-! ### Loading -/

/-- The settings that a file gives. Without a file they are the default ones. -/
inductive IsOnFile (fs : Files) (path : Path) : Config → Prop
  | absent (h : fs.isThere path = false) : IsOnFile fs path {}
  | read {contents : String} {t : Json.Tree} {c : Config} (hcontents : fs.readText path = .ok contents)
    (ht : Json.Tree.parse? contents = some t) (h : IsReadFrom t c) : IsOnFile fs path c

theorem read_eq_ok_iff {fs : Files} {path : Path} {name : String} {c : Config} :
    read fs path name = .ok c ↔ IsOnFile fs path c := by
  constructor
  · intro h
    unfold read at h
    split at h
    case isFalse hthere =>
      cases h
      exact .absent (Bool.eq_false_iff.mpr hthere)
    case isTrue =>
      split at h
      case h_1 => exact nomatch h
      case h_2 contents hcontents =>
        split at h
        case h_1 c' hc =>
          cases h
          obtain ⟨t, ht, hread⟩ := Option.bind_eq_some_iff.mp hc
          exact .read hcontents ht (decoder_eq_some_iff.mp hread)
        case h_2 => exact nomatch h
  · intro h
    cases h with
    | absent h => rw [read, h, if_neg Bool.false_ne_true]
    | @read contents _ _ hcontents ht h =>
      have hdecode : Json.decode? decoder contents = some c := by
        rw [Json.decode?, ht, Option.bind_some]
        exact decoder_eq_some_iff.mpr h
      simp only [read, Files.isThere_of_readText hcontents, if_pos, hcontents, hdecode]

/-- The file of the settings has a place: there is a directory for it and it is in there. -/
structure HasPlace (env : Environment) (directory name : String) : Prop where
  directory_eq : env.configDirectory = some directory
  name_eq : name = Environment.inDirectory directory "config.json"

theorem HasPlace.of_sharesPlace {env env' : Environment} {directory name : String}
    (h : HasPlace env directory name) (hsame : Environment.SharesPlace env env') :
    HasPlace env' directory name :=
  ⟨hsame.configDirectory_eq.trans h.directory_eq, h.name_eq⟩

theorem fileName_eq_ok_iff {env : Environment} {name : String} :
    fileName env = .ok name ↔ ∃ directory, HasPlace env directory name := by
  unfold fileName
  cases hdirectory : env.configDirectory with
  | none => exact ⟨nofun, fun ⟨_, h⟩ => nomatch hdirectory.symm.trans h.directory_eq⟩
  | some directory =>
    refine ⟨fun h => ⟨directory, hdirectory, (Except.ok.inj h).symm⟩, ?_⟩
    rintro ⟨directory', hplace⟩
    rw [hplace.name_eq, Option.some.inj (hdirectory.symm.trans hplace.directory_eq)]

/-- The settings that are loaded are those on file, overridden by the environment. -/
theorem load_eq_ok_iff {env : Environment} {fs : Files} {c : Config} :
    load env fs = .ok c ↔ ∃ directory name base, HasPlace env directory name ∧
      IsOnFile fs (env.path name) base ∧ IsOverridden env base c := by
  unfold load
  constructor
  · intro h
    cases hname : fileName env with
    | error r => exact nomatch hname ▸ h
    | ok name =>
      cases hbase : read fs (env.path name) name with
      | error r => simp [hname, hbase, Bind.bind, Except.bind] at h
      | ok base =>
        simp only [hname, hbase, Bind.bind, Except.bind, Pure.pure, Except.pure] at h
        obtain ⟨directory, hplace⟩ := fileName_eq_ok_iff.mp hname
        exact ⟨directory, name, base, hplace, read_eq_ok_iff.mp hbase,
          isOverridden_iff.mpr (Except.ok.inj h).symm⟩
  · rintro ⟨directory, name, base, hplace, hbase, hover⟩
    rw [fileName_eq_ok_iff.mpr ⟨directory, hplace⟩, isOverridden_iff.mp hover]
    simp only [Bind.bind, Except.bind, read_eq_ok_iff.mpr hbase, Pure.pure, Except.pure]

/-! ### Saving -/

/-- Settings are saved if their directory can be created and there is room for the file. -/
theorem save_eq_ok_iff {env : Environment} {fs fs' : Files} {c : Config} {name : String} :
    c.save env fs = (.ok name, fs') ↔ ∃ directory fs₁, HasPlace env directory name ∧
      fs.createDirectories (env.path directory) = (.ok (), fs₁) ∧
      fs₁.writeText (env.path name) c.toValue.pretty = .ok fs' := by
  unfold save
  constructor
  · intro h
    split at h
    case h_1 => cases h
    case h_2 name' hname =>
      obtain ⟨directory, hplace⟩ := fileName_eq_ok_iff.mp hname
      simp only [hplace.directory_eq, Option.getD_some] at h
      split at h
      case h_1 => cases h
      case h_2 fs₁ hcreate =>
        split at h
        case h_1 => cases h
        case h_2 fs₂ hwrite =>
          obtain ⟨hname', rfl⟩ := Prod.mk.inj h
          obtain rfl := Except.ok.inj hname'
          exact ⟨directory, fs₁, hplace, hcreate, hwrite⟩
  · rintro ⟨directory, fs₁, hplace, hcreate, hwrite⟩
    simp only [fileName_eq_ok_iff.mpr ⟨directory, hplace⟩, hplace.directory_eq, Option.getD_some,
      hcreate, hwrite]

/-- What was saved is on file. -/
theorem isOnFile_of_save {env : Environment} {fs fs' : Files} {c : Config} {name : String}
    (h : c.save env fs = (.ok name, fs')) : IsOnFile fs' (env.path name) c := by
  obtain ⟨directory, fs₁, -, -, hwrite⟩ := save_eq_ok_iff.mp h
  obtain ⟨t, ht, hread⟩ := Option.bind_eq_some_iff.mp c.decode?_pretty
  exact .read (Files.readText_of_writeText hwrite) ht (decoder_eq_some_iff.mp hread)

/-- What was saved is loaded where the file has the same place and the environment replaces none of it
by something else. -/
theorem load_of_save {env env' : Environment} {fs fs' : Files} {c : Config} {name : String}
    (h : c.save env fs = (.ok name, fs')) (hsame : Environment.SharesPlace env env')
    (hover : IsOverridden env' c c) : load env' fs' = .ok c := by
  obtain ⟨directory, fs₁, hplace, -, -⟩ := save_eq_ok_iff.mp h
  have hfile := isOnFile_of_save h
  rw [← hsame.path_eq] at hfile
  exact load_eq_ok_iff.mpr ⟨directory, name, c, hplace.of_sharesPlace hsame, hfile, hover⟩

/-- The file is one step behind its directory. -/
theorem HasPlace.path_eq {env : Environment} {directory name : String}
    (h : HasPlace env directory name) (hsize : name.utf8ByteSize ≤ Path.maxText) :
    env.path name = env.path directory ++ ["config.json"] := by
  obtain ⟨outer, -, rfl⟩ := Option.map_eq_some_iff.mp h.directory_eq
  obtain rfl := h.name_eq
  exact env.path_inDirectory ⟨by decide, by decide, by decide⟩ ⟨by decide, by decide, by decide⟩ hsize

/-- Settings are saved if their directory can be created and nothing but a file has the name of the
file in there. -/
theorem exists_save_eq_ok {env : Environment} {fs fs₁ : Files} {directory name : String}
    (hplace : HasPlace env directory name) (hsize : name.utf8ByteSize ≤ Path.maxText)
    (hcreate : fs.createDirectories (env.path directory) = (.ok (), fs₁))
    (hroom : fs₁.HasRoomFor (env.path name)) (c : Config) :
    ∃ fs', c.save env fs = (.ok name, fs') := by
  obtain ⟨place, hfollow, hnode⟩ :=
    (Files.isDirectory_iff fs₁ _).mp (Files.isDirectory_of_createDirectories hcreate)
  have hpath := hplace.path_eq hsize
  have hchild : fs₁.follow (env.path name) = .ok (place ++ ["config.json"]) := by
    rw [hpath]
    exact Files.follow_child ⟨by decide, by decide, by decide⟩ hfollow hnode
  exact ⟨_, save_eq_ok_iff.mpr ⟨directory, fs₁, hplace, hcreate,
    Files.writeText_of_hasRoomFor hroom hchild _⟩⟩

/-- Where the file is there already, settings are saved. -/
theorem exists_save_eq_ok_of_file {env : Environment} {fs : Files} {directory name contents : String}
    (hplace : HasPlace env directory name) (hfile : fs.readText (env.path name) = .ok contents)
    (c : Config) : ∃ fs', c.save env fs = (.ok name, fs') := by
  obtain ⟨place, content, hfollow, hnode⟩ := Files.exists_of_readText hfile
  have hsize := Path.utf8ByteSize_le_of_follow hfollow
  have hchild := hplace.path_eq hsize ▸ hfollow
  refine exists_save_eq_ok hplace hsize
    (Files.createDirectories_of_isDirectory (Files.isDirectory_of_follow_child hchild)) ?_ c
  intro n hn
  rw [Files.find?_of_node? hfollow, hnode] at hn
  exact ⟨content, (Option.some.inj hn).symm⟩

end Config

end Wager
