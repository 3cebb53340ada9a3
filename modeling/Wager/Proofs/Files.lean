import Wager.Files

/-!
# Where paths lead

Where the paths of a file system lead after it was changed, and what is found there.

Every step of a path is taken from a directory, and no operation on a file takes a directory away.
So a path that led somewhere leads there still (`Files.followFrom_of_keeps`), and what is found at the
end of it is told by what was changed at that place. In particular the way to a file in a directory
is known once and for all when the directory is there (`Files.follow_child`).

Directories that are there need not be created: asking for that changes nothing
(`Files.createDirectories_of_isDirectory`), and after it was done they are there
(`Files.isDirectory_of_createDirectories`).

## Main definitions

* `Files.KeepsDirectories`: What was a directory is one still.
* `Files.IsPlainName`: A step that leads into a directory.
* `Files.HasRoomFor`: Nothing but a file is at the end of a path.

## Theorems

* `Files.followFrom_of_keeps`: Paths lead where they led.
* `Files.follow_child`: Where a path into a directory leads.
* `Files.keepsDirectories_set`, `Files.keepsDirectories_erase`: Changes of anything but a directory.
* `Files.createDirectories_of_isDirectory`, `Files.isDirectory_of_createDirectories`: Creating
  directories.
* `Files.readText_of_node?`, `Files.writeText_of_hasRoomFor`, `Files.remove_of_node?`: The operations,
  by what is at the place.
* `Files.readText_of_writeText`: Text that was written is read.
-/

namespace Wager

namespace Files

/-! ### Places -/

theorem barrier?_eq_none_iff (fs : Files) (p : Path) :
    fs.barrier? p = none ↔ fs.node? p = some .directory := by
  unfold barrier?
  split <;> simp_all

theorem node?_erase (fs : Files) {p place : Path} (h : place ≠ p) :
    (⟨fs.nodes.erase place⟩ : Files).node? p = fs.node? p := by
  simp only [node?, Table.get?_erase_of_ne fs.nodes h]

theorem node?_erase_self (fs : Files) {place : Path} (h : place ≠ []) :
    (⟨fs.nodes.erase place⟩ : Files).node? place = none := by
  rw [node?, if_neg h, Table.get?_erase_self]

theorem node?_set (fs : Files) {p place : Path} (n : Node) (h : place ≠ p) :
    (⟨fs.nodes.set place n⟩ : Files).node? p = fs.node? p := by
  simp only [node?, Table.get?_set_of_ne fs.nodes n h]

theorem node?_set_self (fs : Files) {place : Path} (n : Node) (h : place ≠ []) :
    (⟨fs.nodes.set place n⟩ : Files).node? place = some n := by
  rw [node?, if_neg h, Table.get?_set_self]

/-! ### Following paths -/

/-- What was a directory is one still. -/
def KeepsDirectories (fs fs' : Files) : Prop :=
  ∀ p, fs.node? p = some .directory → fs'.node? p = some .directory

/-- Paths lead through directories only, so they lead where they led while these are kept. -/
theorem followFrom_of_keeps {fs fs' : Files} (hkeeps : KeepsDirectories fs fs') {here p target : Path}
    (h : fs.followFrom here p = .ok target) : fs'.followFrom here p = .ok target := by
  induction p generalizing here with
  | nil => exact h
  | cons step rest ih =>
    rw [followFrom] at h ⊢
    cases hopen : fs.barrier? here with
    | some fault =>
      rw [hopen] at h
      exact nomatch h
    | none =>
      -- What is passed through is a directory, so it is there still. The step itself is only read.
      have hopen' : fs'.barrier? here = none := by
        rw [barrier?_eq_none_iff] at hopen ⊢
        exact hkeeps here hopen
      rw [hopen] at h
      rw [hopen']
      simp only at h ⊢
      split
      · rename_i hback
        rw [if_pos hback] at h
        exact ih h
      · rename_i hback
        rw [if_neg hback] at h
        split
        · rename_i hstay
          rw [if_pos hstay] at h
          exact ih h
        · rename_i hstay
          rw [if_neg hstay] at h
          split
          · rename_i hlong
            rw [if_pos hlong] at h
            exact nomatch h
          · rename_i hlong
            rw [if_neg hlong] at h
            exact ih h

theorem follow_of_keeps {fs fs' : Files} (hkeeps : KeepsDirectories fs fs') {p target : Path}
    (h : fs.follow p = .ok target) : fs'.follow p = .ok target :=
  followFrom_of_keeps hkeeps h

theorem keepsDirectories_erase {fs : Files} {place : Path}
    (h : fs.node? place ≠ some .directory) : KeepsDirectories fs ⟨fs.nodes.erase place⟩ := by
  intro p hp
  have hne : place ≠ p := by
    rintro rfl
    exact h hp
  rw [node?_erase fs hne, hp]

theorem keepsDirectories_set {fs : Files} {place : Path} (n : Node)
    (h : fs.node? place ≠ some .directory) : KeepsDirectories fs ⟨fs.nodes.set place n⟩ := by
  intro p hp
  have hne : place ≠ p := by
    rintro rfl
    exact h hp
  rw [node?_set fs n hne, hp]

theorem followFrom_append (fs : Files) (here p q : Path) :
    fs.followFrom here (p ++ q) = (fs.followFrom here p).bind (fs.followFrom · q) := by
  induction p generalizing here with
  | nil => rfl
  | cons step rest ih =>
    rw [List.cons_append, followFrom, followFrom]
    split
    · rfl
    · split
      · exact ih _
      · split
        · exact ih _
        · split
          · rfl
          · exact ih _

/-- A step into a directory: it neither leads back nor asks for a directory, and is short enough. -/
structure IsPlainName (name : String) : Prop where
  ne_back : name ≠ Path.back
  ne_directory : name ≠ Path.directory
  size_le : name.utf8ByteSize ≤ Path.maxName

/-- A path into a directory leads to the place of that name in the directory. -/
theorem follow_child {fs : Files} {p place : Path} {name : String} (hname : IsPlainName name)
    (hfollow : fs.follow p = .ok place) (hnode : fs.node? place = some .directory) :
    fs.follow (p ++ [name]) = .ok (place ++ [name]) := by
  have hopen : fs.barrier? place = none := (barrier?_eq_none_iff fs place).mpr hnode
  have hshort : ¬ Path.maxName < name.utf8ByteSize := Nat.not_lt.mpr hname.size_le
  rw [follow] at hfollow
  rw [follow, followFrom_append, hfollow]
  simp only [Except.bind, followFrom, hopen, hname.ne_back, hname.ne_directory, hshort, ↓reduceIte]

theorem isDirectory_iff (fs : Files) (p : Path) :
    fs.isDirectory p = true ↔ ∃ place, fs.follow p = .ok place ∧ fs.node? place = some .directory := by
  unfold isDirectory find?
  cases fs.follow p with
  | error f => simp
  | ok place => simp

/-! ### Files -/

theorem find?_of_node? {fs : Files} {p place : Path} (hfollow : fs.follow p = .ok place) :
    fs.find? p = fs.node? place := by
  simp only [find?, hfollow]

theorem exists_of_readBytes {fs : Files} {p : Path} {content : List UInt8}
    (h : fs.readBytes p = .ok content) :
    ∃ place, fs.follow p = .ok place ∧ fs.node? place = some (.file content) := by
  unfold readBytes at h
  cases hfollow : fs.follow p with
  | error fault =>
    rw [hfollow] at h
    exact nomatch h
  | ok place =>
    rw [hfollow] at h
    refine ⟨place, rfl, ?_⟩
    simp only [Bind.bind, Except.bind] at h
    split at h
    · rename_i found hnode
      rw [hnode, Except.ok.inj h]
    · exact nomatch h
    · exact nomatch h

theorem readText_of_node? {fs : Files} {p place : Path} {s : String}
    (hfollow : fs.follow p = .ok place) (hnode : fs.node? place = some (.file (Text.bytes s))) :
    fs.readText p = .ok s := by
  have hbytes : fs.readBytes p = .ok (Text.bytes s) := by
    simp only [readBytes, hfollow, Bind.bind, Except.bind, hnode, Pure.pure, Except.pure]
  simp only [readText, hbytes, Bind.bind, Except.bind, Text.ofBytes?_bytes]

/-- There is a file at the end of a path, or nothing that is in its way. -/
def HasRoomFor (fs : Files) (p : Path) : Prop :=
  ∀ n, fs.find? p = some n → ∃ content, n = .file content

/-- Where there is room for it, text can be written. -/
theorem writeText_of_hasRoomFor {fs : Files} {p place : Path} (hroom : fs.HasRoomFor p)
    (hfollow : fs.follow p = .ok place) (s : String) :
    fs.writeText p s = .ok ⟨fs.nodes.set place (.file (Text.bytes s))⟩ := by
  rw [HasRoomFor, find?_of_node? hfollow] at hroom
  unfold writeText writeBytes
  simp only [hfollow, Bind.bind, Except.bind]
  cases hnode : fs.node? place with
  | none => rfl
  | some n =>
    obtain ⟨content, rfl⟩ := hroom n hnode
    rfl

/-- Text can be written just where there is room for it. -/
theorem writeText_eq_ok_iff {fs fs' : Files} {p : Path} {s : String} :
    fs.writeText p s = .ok fs' ↔ ∃ place, fs.follow p = .ok place ∧ fs.HasRoomFor p ∧
      fs' = ⟨fs.nodes.set place (.file (Text.bytes s))⟩ := by
  constructor
  · intro h
    cases hfollow : fs.follow p with
    | error f => simp [writeText, writeBytes, hfollow, Bind.bind, Except.bind] at h
    | ok place =>
      have hroom : fs.HasRoomFor p := by
        rw [HasRoomFor, find?_of_node? hfollow]
        intro n hnode
        simp only [writeText, writeBytes, hfollow, Bind.bind, Except.bind, hnode] at h
        cases n with
        | file content => exact ⟨content, rfl⟩
        | directory => exact nomatch h
        | brokenLink => exact nomatch h
      rw [writeText_of_hasRoomFor hroom hfollow] at h
      exact ⟨place, rfl, hroom, (Except.ok.inj h).symm⟩
  · rintro ⟨place, hfollow, hroom, rfl⟩
    exact writeText_of_hasRoomFor hroom hfollow s

/-- Text that was written is read. -/
theorem readText_of_writeText {fs fs' : Files} {p : Path} {s : String}
    (h : fs.writeText p s = .ok fs') : fs'.readText p = .ok s := by
  obtain ⟨place, hfollow, hroom, rfl⟩ := writeText_eq_ok_iff.mp h
  have hfile : fs.node? place ≠ some .directory := by
    intro hnode
    obtain ⟨content, heq⟩ := hroom .directory (by rw [find?_of_node? hfollow, hnode])
    exact nomatch heq
  have hroot : place ≠ [] := by
    rintro rfl
    exact hfile rfl
  exact readText_of_node? (follow_of_keeps (keepsDirectories_set _ hfile) hfollow)
    (node?_set_self fs _ hroot)

theorem exists_of_readText {fs : Files} {p : Path} {s : String} (h : fs.readText p = .ok s) :
    ∃ place content, fs.follow p = .ok place ∧ fs.node? place = some (.file content) := by
  cases hbytes : fs.readBytes p with
  | error f => simp [readText, hbytes, Bind.bind, Except.bind] at h
  | ok content =>
    obtain ⟨place, hfollow, hnode⟩ := exists_of_readBytes hbytes
    exact ⟨place, content, hfollow, hnode⟩

theorem isThere_of_readText {fs : Files} {p : Path} {s : String} (h : fs.readText p = .ok s) :
    fs.isThere p = true := by
  obtain ⟨place, content, hfollow, hnode⟩ := exists_of_readText h
  rw [isThere, find?_of_node? hfollow, hnode]

/-- What has a path into a directory is in a directory. -/
theorem isDirectory_of_follow_child {fs : Files} {p place : Path} {name : String}
    (h : fs.follow (p ++ [name]) = .ok place) : fs.isDirectory p = true := by
  rw [follow, followFrom_append, ← follow] at h
  cases hfollow : fs.follow p with
  | error f => exact nomatch hfollow ▸ h
  | ok front =>
    rw [hfollow] at h
    refine (isDirectory_iff fs p).mpr ⟨front, hfollow, (barrier?_eq_none_iff fs front).mp ?_⟩
    cases hbarrier : fs.barrier? front with
    | none => rfl
    | some f => simp [Except.bind, followFrom, hbarrier] at h

theorem remove_of_node? {fs : Files} {p place : Path} {content : List UInt8}
    (hfollow : fs.follow p = .ok place) (hnode : fs.node? place = some (.file content)) :
    fs.remove p = .ok ⟨fs.nodes.erase place⟩ := by
  simp only [remove, hfollow, Bind.bind, Except.bind, hnode, Pure.pure, Except.pure]

/-! ### Directories -/

/-- What is a directory is not created again. -/
theorem createDirectory_of_isDirectory {fs fs' : Files} {p : Path} (h : fs.isDirectory p = true) :
    fs.createDirectory p ≠ .ok fs' := by
  obtain ⟨place, hfollow, hnode⟩ := (isDirectory_iff fs p).mp h
  unfold createDirectory
  cases hfront : fs.follow p.dropLast with
  | error f => simp [Bind.bind, Except.bind]
  | ok front =>
    cases hbarrier : fs.barrier? front with
    | some f => simp [Bind.bind, Except.bind, throw, throwThe, MonadExceptOf.throw, hbarrier]
    | none =>
      simp [Bind.bind, Except.bind, throw, throwThe, MonadExceptOf.throw, hbarrier, hfollow, hnode]

/-- Directories that are there need not be created. -/
theorem createDirectories_of_isDirectory {fs : Files} {p : Path} (h : fs.isDirectory p = true) :
    fs.createDirectories p = (.ok (), fs) := by
  have hensure : fs.ensureDirectory p = .ok fs := by
    unfold ensureDirectory
    split
    · rename_i fs' hcreate
      exact absurd hcreate (createDirectory_of_isDirectory h)
    · exact if_pos h
  rw [createDirectories, hensure]

/-- A directory is created where there was nothing. -/
theorem exists_of_createDirectory {fs fs' : Files} {p : Path} (h : fs.createDirectory p = .ok fs') :
    ∃ place, fs.follow p = .ok place ∧ fs.node? place = none ∧
      fs' = ⟨fs.nodes.set place .directory⟩ := by
  unfold createDirectory at h
  simp only [Bind.bind, Except.bind, Pure.pure, Except.pure, throw, throwThe,
    MonadExceptOf.throw] at h
  split at h
  · exact nomatch h
  · split at h
    · exact nomatch h
    · split at h
      · exact nomatch h
      · rename_i place hfollow
        split at h
        · exact nomatch h
        · rename_i hfree
          rw [not_or, Bool.not_eq_true, Option.isSome_eq_false_iff, Option.isNone_iff_eq_none] at hfree
          exact ⟨place, hfollow, hfree.2, (Except.ok.inj h).symm⟩

theorem isDirectory_of_ensureDirectory {fs fs' : Files} {p : Path}
    (h : fs.ensureDirectory p = .ok fs') : fs'.isDirectory p = true := by
  unfold ensureDirectory at h
  split at h
  · rename_i created hcreate
    rw [Except.ok.injEq] at h
    subst h
    obtain ⟨place, hfollow, hnone, rfl⟩ := exists_of_createDirectory hcreate
    -- There is always a directory at the root, so it is another place.
    have hroot : place ≠ [] := by
      rintro rfl
      simp only [node?, ↓reduceIte, reduceCtorEq] at hnone
    have hkeeps : KeepsDirectories fs ⟨fs.nodes.set place .directory⟩ :=
      keepsDirectories_set .directory (by simp only [hnone, ne_eq, reduceCtorEq, not_false_eq_true])
    exact (isDirectory_iff _ p).mpr
      ⟨place, follow_of_keeps hkeeps hfollow, node?_set_self fs .directory hroot⟩
  · split at h
    · rename_i hthere
      rw [Except.ok.injEq] at h
      rwa [← h]
    · simp only [reduceCtorEq] at h

/-- Directories that were created are there. -/
theorem isDirectory_of_createDirectories {fs fs' : Files} {p : Path}
    (h : fs.createDirectories p = (.ok (), fs')) : fs'.isDirectory p = true := by
  rw [createDirectories] at h
  split at h
  · rename_i created hensure
    rw [Prod.mk.injEq] at h
    rw [← h.2]
    exact isDirectory_of_ensureDirectory hensure
  · split at h
    · split at h
      · simp only [Prod.mk.injEq, reduceCtorEq, false_and] at h
      · split at h
        · rename_i created hensure
          rw [Prod.mk.injEq] at h
          rw [← h.2]
          exact isDirectory_of_ensureDirectory hensure
        · simp only [Prod.mk.injEq, reduceCtorEq, false_and] at h
    · simp only [Prod.mk.injEq, reduceCtorEq, false_and] at h

end Files

end Wager
