import Mathlib.Data.List.Induction
import Wager.Proofs.Profile.Clearing
import Wager.Proofs.Profile.Written

/-!
# The cache across restarts

What is cached is what the next run of the program finds.

The cache in memory and its file are changed together, so what is in memory is at any time what
would be read from the file (`ProfileCache.Mirrors`). Opening the cache again reads the file, and
finds what was in memory before: the same profile, cached since the same time. This needs a profile
to be read back from the document it is written as, and the way to the file to stay open: there is
the directory, which nobody removes, and in the place of the file there is a file or nothing.

If that is so in the beginning, nothing fails later on. What is found then is what the last storing
or clearing left, and what the file held in the beginning as long as there was none
(`ProfileCache.Holds`). A file that is not the document of a cached profile counts as none.

## Main definitions

* `ProfileCache.Action`, `ProfileCache.run`: What is done to a cache, and restarts.
* `ProfileCache.lastCached?`: What the last storing or clearing left.
* `ProfileCache.Mirrors`: The file holds what is in memory.
* `ProfileCache.Holds`: What there is after actions.

## Theorems

* `ProfileCache.mirrors_of_openIn`: A cache that was opened mirrors its file.
* `ProfileCache.Mirrors.openIn_eq`: Opening it again changes nothing.
* `ProfileCache.Mirrors.store`, `ProfileCache.Mirrors.clear`: Storing and clearing.
* `ProfileCache.Mirrors.run`: All actions succeed, and the cache mirrors its file still.
* `ProfileCache.restarts`: Whatever is done, the cache survives restarts.
-/

namespace Wager

namespace ProfileCache

/-! ### Actions -/

/-- What is done to a cache: a profile is stored at some time of day, the cache is cleared, or the
next run of the program opens it. -/
inductive Action
  | store (now : Timestamp) (p : Profile)
  | clear
  | reopen

/-- The points in time that are stored are proper. -/
def Action.IsProper : Action → Prop
  | .store now p => now.IsProper ∧ p.IsProper
  | _ => True

/-- Cache and files after an action. Opening may fail. -/
def act (directory : Path) (name : String) (s : ProfileCache × Files) :
    Action → Except Report (ProfileCache × Files)
  | .store now p => .ok (s.1.store s.2 now p)
  | .clear => .ok (s.1.clear s.2)
  | .reopen =>
    match openIn s.2 directory name with
    | (.ok c, fs) => .ok (c, fs)
    | (.error report, _) => .error report

/-- Cache and files after one action after another. -/
def run (directory : Path) (name : String) (s : ProfileCache × Files) (actions : List Action) :
    Except Report (ProfileCache × Files) :=
  actions.foldlM (act directory name) s

/-- What is cached after an action whatever was before. -/
def Action.cached? : Action → Option (Option CachedProfile)
  | .store now p => some (some ⟨p, now⟩)
  | .clear => some none
  | .reopen => none

/-- What is cached after the last storing or clearing, if there is one. -/
def lastCached? (actions : List Action) : Option (Option CachedProfile) :=
  actions.reverse.findSome? Action.cached?

theorem lastCached?_concat (actions : List Action) (a : Action) :
    lastCached? (actions ++ [a]) = a.cached?.or (lastCached? actions) := by
  rw [lastCached?, List.reverse_append, List.reverse_singleton, List.singleton_append,
    List.findSome?_cons, lastCached?]
  cases a.cached? <;> rfl

theorem run_concat (directory : Path) (name : String) (s : ProfileCache × Files)
    (actions : List Action) (a : Action) :
    run directory name s (actions ++ [a]) = (run directory name s actions).bind
      (act directory name · a) := by
  rw [run, List.foldlM_append]
  refine congrArg _ (funext fun s' => ?_)
  rw [List.foldlM_cons]
  cases act directory name s' a <;> rfl

/-! ### Memory and file -/

/-- The name of the file is that of a file. -/
theorem isPlainName_fileName : Files.IsPlainName fileName where
  ne_back := by decide
  ne_directory := by decide
  size_le := by decide

/-- The directory of the cache is there, and room for the file in it; and what is in memory is what
is read from the file. -/
structure Mirrors (directory place : Path) (c : ProfileCache) (fs : Files) : Prop where
  directory_eq : c.directory = some directory
  follow_eq : fs.follow directory = .ok place
  node_eq : fs.node? place = some .directory
  hasRoom : fs.HasRoomFor (directory ++ [fileName])
  current_eq : c.current = read fs (directory ++ [fileName])

/-- A cache is opened when its directory is there, and holds what is read from its file. -/
theorem openIn_eq_ok {fs fs' : Files} {directory : Path} {name : String} {c : ProfileCache}
    (h : openIn fs directory name = (.ok c, fs')) :
    fs'.isDirectory directory = true ∧
      c = { directory := some directory, current := read fs' (directory ++ [fileName]) } := by
  unfold openIn at h
  cases hcreate : fs.createDirectories directory with
  | mk outcome created =>
    rw [hcreate] at h
    cases outcome with
    | error f => simp only [Prod.mk.injEq, reduceCtorEq, false_and] at h
    | ok u =>
      simp only [Prod.mk.injEq, Except.ok.injEq] at h
      obtain ⟨rfl, rfl⟩ := h
      exact ⟨Files.isDirectory_of_createDirectories hcreate, rfl⟩

/-- A cache that was opened mirrors its file, if there is room for it. -/
theorem mirrors_of_openIn {fs fs' : Files} {directory : Path} {name : String} {c : ProfileCache}
    (h : openIn fs directory name = (.ok c, fs')) (hroom : fs'.HasRoomFor (directory ++ [fileName])) :
    ∃ place, Mirrors directory place c fs' := by
  obtain ⟨hdirectory, rfl⟩ := openIn_eq_ok h
  obtain ⟨place, hfollow, hnode⟩ := (Files.isDirectory_iff _ directory).mp hdirectory
  exact ⟨place, rfl, hfollow, hnode, hroom, rfl⟩

namespace Mirrors

variable {directory place : Path} {c : ProfileCache} {fs : Files}

theorem file?_eq (h : Mirrors directory place c fs) : c.file? = some (directory ++ [fileName]) := by
  rw [file?, h.directory_eq, Option.map_some]

theorem follow_file (h : Mirrors directory place c fs) :
    fs.follow (directory ++ [fileName]) = .ok (place ++ [fileName]) :=
  Files.follow_child isPlainName_fileName h.follow_eq h.node_eq

/-- The file is in the directory, so it is another place. -/
theorem file_ne_directory (h : Mirrors directory place c fs) :
    fs.node? (place ++ [fileName]) ≠ some .directory := by
  intro hnode
  obtain ⟨content, heq⟩ := h.hasRoom .directory (by rw [Files.find?_of_node? h.follow_file, hnode])
  exact nomatch heq

/-- Opening the cache again changes nothing. -/
theorem openIn_eq (h : Mirrors directory place c fs) (name : String) :
    openIn fs directory name = (.ok c, fs) := by
  have hthere := (Files.isDirectory_iff fs directory).mpr ⟨place, h.follow_eq, h.node_eq⟩
  rw [openIn, Files.createDirectories_of_isDirectory hthere]
  simp only [← h.current_eq, ← h.directory_eq]

/-- Storing a profile changes the file with the cache. -/
theorem store (h : Mirrors directory place c fs) {now : Timestamp} {p : Profile}
    (hproper : CachedProfile.IsProper ⟨p, now⟩) :
    Mirrors directory place (c.store fs now p).1 (c.store fs now p).2 ∧
      (c.store fs now p).2.readText (directory ++ [fileName]) =
        .ok (CachedProfile.toValue ⟨p, now⟩).pretty := by
  generalize hcached : CachedProfile.mk p now = cached at hproper
  generalize hfs' : Files.mk (fs.nodes.set (place ++ [fileName])
    (.file (Text.bytes cached.toValue.pretty))) = fs'
  have hstore : c.store fs now p = ({ c with current := some cached }, fs') := by
    simp only [ProfileCache.store, h.file?_eq, hcached, hfs',
      Files.writeText_of_hasRoomFor h.hasRoom h.follow_file]
  have hkeeps : Files.KeepsDirectories fs fs' := by
    rw [← hfs']
    exact Files.keepsDirectories_set _ h.file_ne_directory
  have hfile : fs'.node? (place ++ [fileName]) = some (.file (Text.bytes cached.toValue.pretty)) := by
    rw [← hfs', Files.node?_set_self]
    exact List.append_ne_nil_of_right_ne_nil _ (List.cons_ne_nil _ _)
  have hfollow := Files.follow_of_keeps hkeeps h.follow_file
  have hread := Files.readText_of_node? hfollow hfile
  rw [hstore]
  refine ⟨⟨h.directory_eq, Files.follow_of_keeps hkeeps h.follow_eq, hkeeps place h.node_eq, ?_, ?_⟩,
    hread⟩
  · intro n hn
    rw [Files.find?_of_node? hfollow, hfile, Option.some.injEq] at hn
    exact ⟨_, hn.symm⟩
  · rw [read, hread]
    exact (CachedProfile.decode?_pretty hproper).symm

/-- Clearing the cache removes the file. -/
theorem clear (h : Mirrors directory place c fs) :
    Mirrors directory place (c.clear fs).1 (c.clear fs).2 ∧
      (c.clear fs).2.find? (directory ++ [fileName]) = none := by
  have hread := read_of_lacksFile (lacksFile_clear c fs h.file?_eq)
  have hfind := Files.find?_of_node? h.follow_file
  -- There may be no file to remove; then it is only forgotten.
  cases hnode : fs.node? (place ++ [fileName]) with
  | none =>
    rw [hnode] at hfind
    have hclear : c.clear fs = ({ c with current := none }, fs) := by
      simp only [ProfileCache.clear, h.file?_eq, Files.isThere, hfind, Bool.false_eq_true, ↓reduceIte]
    rw [hclear] at hread ⊢
    exact ⟨⟨h.directory_eq, h.follow_eq, h.node_eq, h.hasRoom, hread.symm⟩, hfind⟩
  | some n =>
    obtain ⟨content, rfl⟩ := h.hasRoom n (hfind.trans hnode)
    rw [hnode] at hfind
    generalize hfs' : Files.mk (fs.nodes.erase (place ++ [fileName])) = fs'
    have hclear : c.clear fs = ({ c with current := none }, fs') := by
      simp only [ProfileCache.clear, h.file?_eq, Files.isThere, hfind, ↓reduceIte, hfs',
        Files.remove_of_node? h.follow_file hnode]
    have hkeeps : Files.KeepsDirectories fs fs' := by
      rw [← hfs']
      exact Files.keepsDirectories_erase h.file_ne_directory
    have hgone : fs'.find? (directory ++ [fileName]) = none := by
      rw [Files.find?_of_node? (Files.follow_of_keeps hkeeps h.follow_file), ← hfs',
        Files.node?_erase_self]
      exact List.append_ne_nil_of_right_ne_nil _ (List.cons_ne_nil _ _)
    rw [hclear] at hread ⊢
    refine ⟨⟨h.directory_eq, Files.follow_of_keeps hkeeps h.follow_eq, hkeeps place h.node_eq, ?_,
      hread.symm⟩, hgone⟩
    intro n hn
    simp only [hgone, reduceCtorEq] at hn

end Mirrors

/-! ### Runs -/

/-- What there is after actions, by what is cached after the last storing or clearing: the profile, in
memory and in the file; or none, and no file; or what there was, if there was no such action. -/
def Holds (directory : Path) (start final : ProfileCache × Files) :
    Option (Option CachedProfile) → Prop
  | none => final = start
  | some none => final.1.current = none ∧ final.2.find? (directory ++ [fileName]) = none
  | some (some cached) => final.1.current = some cached ∧
    final.2.readText (directory ++ [fileName]) = .ok cached.toValue.pretty

/-- Actions on a cache that mirrors its file succeed, and leave one that does. -/
theorem Mirrors.run {directory place : Path} {start : ProfileCache × Files}
    (h : Mirrors directory place start.1 start.2) (name : String) (actions : List Action)
    (hproper : ∀ a ∈ actions, a.IsProper) :
    ∃ final, run directory name start actions = .ok final ∧
      Mirrors directory place final.1 final.2 ∧
      Holds directory start final (lastCached? actions) := by
  -- The last action tells what there is, unless it is a reopening, which changes nothing.
  induction actions using List.reverseRecOn with
  | nil => exact ⟨start, rfl, h, rfl⟩
  | append_singleton actions a ih =>
    obtain ⟨mid, hrun, hmid, hholds⟩ := ih fun b hb => hproper b (List.mem_append_left [a] hb)
    have ha := hproper a (List.mem_append_right actions List.mem_cons_self)
    rw [run_concat, hrun, lastCached?_concat]
    cases a with
    | store now p =>
      obtain ⟨hmirrors, hread⟩ := hmid.store ⟨ha.2, ha.1⟩
      exact ⟨_, rfl, hmirrors, rfl, hread⟩
    | clear =>
      obtain ⟨hmirrors, hgone⟩ := hmid.clear
      exact ⟨_, rfl, hmirrors, rfl, hgone⟩
    | reopen =>
      refine ⟨mid, ?_, hmid, hholds⟩
      simp only [Except.bind, act, hmid.openIn_eq name]

/-- The cache survives restarts. A profile is read back from its document exactly if its points in
time are proper, and no others are ever read. A cache that was opened holds what its file holds, or
none if that is no document of a cached profile. And if there is room for the file, then whatever is
stored, cleared and opened again succeeds; afterwards there is what the last storing or clearing has
left, and opening the cache once more changes nothing. -/
theorem restarts :
    (∀ p : Profile, (Json.decode? Profile.decoder p.toValue.pretty = some p ↔ p.IsProper) ∧
      (Json.decode? Profile.decoder p.toValue.compact = some p ↔ p.IsProper)) ∧
    (∀ (s : String) (p : Profile), Json.decode? Profile.decoder s = some p → p.IsProper) ∧
    ∀ (fs fs' : Files) (directory : Path) (name : String) (c : ProfileCache),
      openIn fs directory name = (.ok c, fs') →
      ((∀ s, fs'.readText (directory ++ [fileName]) = .ok s →
          c.current = Json.decode? CachedProfile.decoder s) ∧
        (∀ f, fs'.readText (directory ++ [fileName]) = .error f → c.current = none)) ∧
      (fs'.HasRoomFor (directory ++ [fileName]) →
        ∀ actions : List Action, (∀ a ∈ actions, a.IsProper) →
          ∃ final, run directory name (c, fs') actions = .ok final ∧
            openIn final.2 directory name = (.ok final.1, final.2) ∧
            Holds directory (c, fs') final (lastCached? actions)) := by
  refine ⟨fun p => ⟨p.decode?_pretty_iff, p.decode?_compact_iff⟩,
    fun s p => Profile.isProper_of_decode?, ?_⟩
  intro fs fs' directory name c hopen
  refine ⟨?_, ?_⟩
  · obtain ⟨-, rfl⟩ := openIn_eq_ok hopen
    refine ⟨?_, ?_⟩
    · intro s hs
      simp only [read, hs]
    · intro f hf
      simp only [read, hf]
  · intro hroom actions hproper
    -- Once opened, the cache mirrors its file, and every action preserves that.
    obtain ⟨place, hmirrors⟩ := mirrors_of_openIn hopen hroom
    have hstart : Mirrors directory place (c, fs').1 (c, fs').2 := hmirrors
    obtain ⟨final, hrun, hfinal, hholds⟩ := hstart.run name actions hproper
    exact ⟨final, hrun, hfinal.openIn_eq name, hholds⟩

/-- A directory with a file that is no document. -/
def brokenSample : Files :=
  ⟨⟨[(["cache"], .directory), (["cache", "user.json"], .file (Text.bytes "\x7bnot json"))]⟩⟩

/-- A profile with a number for an identifier, quotes and a line break in the name, and a point in
time with a fraction. -/
def profileSample : Profile where
  id := "7"
  username := some "\"new\nline\""
  createdAt := some ⟨1740830400, 250000000⟩

/-- The broken file counts as none; then the profile is stored, found again, cleared, and stored
again. -/
theorem restarts_sample :
    let c : ProfileCache := { directory := some ["cache"] }
    let now : Timestamp := ⟨1700000000, 5⟩
    let actions : List Action := [.reopen, .store ⟨1600000000, 0⟩ profileSample, .reopen, .clear,
      .reopen, .store now profileSample, .reopen]
    openIn brokenSample ["cache"] "cache" = (.ok c, brokenSample) ∧
      brokenSample.HasRoomFor ["cache", "user.json"] ∧ (∀ a ∈ actions, a.IsProper) ∧
      ∃ final, run ["cache"] "cache" (c, brokenSample) actions = .ok final ∧
        openIn final.2 ["cache"] "cache" = (.ok final.1, final.2) ∧
        final.1.current = some ⟨profileSample, now⟩ := by
  intro c now actions
  have hopen : openIn brokenSample ["cache"] "cache" = (.ok c, brokenSample) := by
    rw [openIn, Files.createDirectories_of_isDirectory (by decide)]
    decide +kernel
  have hroom : brokenSample.HasRoomFor (["cache"] ++ [fileName]) := by
    intro n hn
    exact ⟨Text.bytes "\x7bnot json", (Option.some.inj hn).symm⟩
  have hsample : profileSample.IsProper := by
    refine ⟨?_, fun t ht => nomatch ht⟩
    intro t ht
    rw [← Option.some.inj ht]
    exact ⟨by decide, by decide⟩
  have hproper : ∀ a ∈ actions, a.IsProper := by
    simp only [actions, now, List.forall_mem_cons, List.not_mem_nil, false_implies, implies_true,
      and_true]
    refine ⟨trivial, ⟨⟨by decide, by decide⟩, hsample⟩, trivial, trivial, trivial, ?_, trivial⟩
    exact ⟨⟨by decide, by decide⟩, hsample⟩
  obtain ⟨final, hrun, hreopen, hholds⟩ :=
    (restarts.2.2 brokenSample brokenSample ["cache"] "cache" c hopen).2 hroom actions hproper
  exact ⟨hopen, hroom, hproper, final, hrun, hreopen, hholds.1⟩

/-- What is not so of every profile. A profile was made in a leap second that is not the last of its
minute. Its document names the next second, so after a restart another profile is cached. -/
theorem misread_creation :
    let c : ProfileCache := { directory := some ["cache"] }
    let p : Profile := { id := "7", createdAt := some ⟨1740830400, 1250000000⟩ }
    let stored := c.store brokenSample ⟨1700000000, 0⟩ p
    openIn brokenSample ["cache"] "cache" = (.ok c, brokenSample) ∧ stored.1.profile? = some p ∧
      ∃ reopened, openIn stored.2 ["cache"] "cache" = (.ok reopened, stored.2) ∧
        reopened.profile? = some { p with createdAt := some ⟨1740830401, 250000000⟩ } := by
  intro c p stored
  refine ⟨?_, by decide +kernel, { c with current := read stored.2 ["cache", fileName] }, ?_, ?_⟩
  · rw [openIn, Files.createDirectories_of_isDirectory (by decide)]
    decide +kernel
  · rw [openIn, Files.createDirectories_of_isDirectory (by decide +kernel)]
    rfl
  · decide +kernel

end ProfileCache

end Wager
