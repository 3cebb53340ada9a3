import Wager.Proofs.Files
import Wager.ProfileCache

/-!
# Clearing the cache

What is left in the file of the cache when it was cleared.

The file is removed if it is there, and trouble with that is ignored. So there is something to show:
whatever the directory and the files look like, nothing can be read from the file afterwards. Either
there was nothing to be read, be it that the path leads nowhere or to a directory, or the file was
removed. In that case the path still leads to the same place, because a path leads through
directories only and what was removed is none, and nothing is there.

## Main definitions

* `Files.LacksFile`: There is no file to be read.

## Theorems

* `Files.lacksFile_of_not_isThere`, `Files.lacksFile_of_remove`, `Files.lacksFile_of_remove_error`:
  When there is no file to be read.
* `ProfileCache.lacksFile_clear`: A cache that was cleared has no file to be read.
* `ProfileCache.read_of_lacksFile`: No profile is read then.
-/

namespace Wager

namespace Files

/-- There is no file to be read at the end of a path. -/
def LacksFile (fs : Files) (p : Path) : Prop := ∀ content, fs.readBytes p ≠ .ok content

/-- What is not there cannot be read. -/
theorem lacksFile_of_not_isThere {fs : Files} {p : Path} (h : fs.isThere p = false) :
    fs.LacksFile p := by
  intro content hread
  obtain ⟨place, hfollow, hnode⟩ := exists_of_readBytes hread
  simp only [isThere, find?, hfollow, hnode, Bool.true_eq_false] at h

/-- What cannot be removed cannot be read. -/
theorem lacksFile_of_remove_error {fs : Files} {p : Path} {fault : Fault}
    (h : fs.remove p = .error fault) : fs.LacksFile p := by
  intro content hread
  obtain ⟨place, hfollow, hnode⟩ := exists_of_readBytes hread
  rw [remove_of_node? hfollow hnode] at h
  simp only [reduceCtorEq] at h

/-- What was removed cannot be read. -/
theorem lacksFile_of_remove {fs fs' : Files} {p : Path} (h : fs.remove p = .ok fs') :
    fs'.LacksFile p := by
  intro content hread
  obtain ⟨place', hfollow', hnode'⟩ := exists_of_readBytes hread
  unfold remove at h
  cases hfollow : fs.follow p with
  | error fault =>
    rw [hfollow] at h
    exact nomatch h
  | ok place =>
    rw [hfollow] at h
    simp only [Bind.bind, Except.bind] at h
    have hplace : fs.node? place ≠ some .directory ∧ (⟨fs.nodes.erase place⟩ : Files) = fs' := by
      split at h
      · exact nomatch h
      · rename_i node hdirectory hnode
        exact ⟨fun heq => hdirectory (Option.some.inj (hnode.symm.trans heq)), Except.ok.inj h⟩
      · exact nomatch h
    obtain ⟨hdirectory, rfl⟩ := hplace
    -- The path leads to the same place, and there is nothing any more.
    rw [follow_of_keeps (keepsDirectories_erase hdirectory) hfollow, Except.ok.injEq] at hfollow'
    subst hfollow'
    have hroot : place ≠ [] := by
      rintro rfl
      exact hdirectory rfl
    rw [node?_erase_self fs hroot] at hnode'
    exact nomatch hnode'

end Files

namespace ProfileCache

/-- A cache that was cleared has no file to read. -/
theorem lacksFile_clear (cache : ProfileCache) (fs : Files) {file : Path}
    (h : cache.file? = some file) : (cache.clear fs).2.LacksFile file := by
  simp only [clear, h]
  split
  · split
    · rename_i hremove
      exact Files.lacksFile_of_remove hremove
    · rename_i hremove
      exact Files.lacksFile_of_remove_error hremove
  · rename_i hthere
    exact Files.lacksFile_of_not_isThere (Bool.eq_false_iff.mpr hthere)

/-- Where there is no file, no profile is read. -/
theorem read_of_lacksFile {fs : Files} {file : Path} (h : fs.LacksFile file) :
    read fs file = none := by
  unfold read Files.readText
  cases hread : fs.readBytes file with
  | ok content => exact absurd hread (h content)
  | error fault => rfl

end ProfileCache

end Wager
