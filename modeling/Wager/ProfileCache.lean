import Wager.Files
import Wager.Json.Text
import Wager.Profile
import Wager.Report

/-!
# The cached profile

The profile of the person who is signed in, kept so that it need not be fetched again.

The profile is held in memory and, if a directory is given, in a file there, so that the next run of
a program finds it. What is in memory counts: trouble with the file is ignored, and a file that
cannot be read is as good as none.

## Main definitions

* `CachedProfile`: A profile with the time since when it is cached.
* `ProfileCache`: The cache.
* `ProfileCache.openIn`, `store`, `clear`: The operations, on cache and files.
-/

namespace Wager

/-- A profile with the time since when it is cached. -/
structure CachedProfile where
  profile : Profile
  cachedAt : Timestamp
  deriving DecidableEq

namespace CachedProfile

/-- The whole minutes for which the profile has been cached, zero if the clock was set back. -/
def ageMinutes (c : CachedProfile) (now : Timestamp) : Nat := now.minutesSince c.cachedAt

/-- A cached profile as a document. -/
def toValue (c : CachedProfile) : Json.Value :=
  .object [("data", c.profile.toValue), ("cached_at", c.cachedAt.toValue)]

/-- Reads a cached profile from a document. -/
def decoder : Json.Decoder CachedProfile :=
  .record ["data", "cached_at"] fun budget slots =>
    match slots with
    | [profile, cachedAt] => do
      return {
        profile := ← Json.Decoder.required Profile.decoder budget profile
        cachedAt := ← Json.Decoder.required Timestamp.decoder budget cachedAt }
    | _ => none

end CachedProfile

/-- The cache: the directory of its file, if there is one, and what is in memory. -/
structure ProfileCache where
  directory : Option Path := none
  current : Option CachedProfile := none
  deriving DecidableEq

namespace ProfileCache

/-- The name of the file in its directory. -/
def fileName : String := "user.json"

/-- The file of the cache. -/
def file? (c : ProfileCache) : Option Path := c.directory.map (· ++ [fileName])

/-- The profile. -/
def profile? (c : ProfileCache) : Option Profile := c.current.map CachedProfile.profile

/-- The cached profile in a file, if it can be read. -/
def read (fs : Files) (p : Path) : Option CachedProfile :=
  match fs.readText p with
  | .ok contents => Json.decode? CachedProfile.decoder contents
  | .error _ => none

/-- The cache with a file in a directory, which is created. -/
def openIn (fs : Files) (directory : Path) (name : String) : Except Report ProfileCache × Files :=
  match fs.createDirectories directory with
  | (.error f, fs) => (.error ⟨"Failed to create cache directory " ++ name, [f.message]⟩, fs)
  | (.ok (), fs) =>
    (.ok { directory := some directory, current := read fs (directory ++ [fileName]) }, fs)

/-- Caches a profile. -/
def store (c : ProfileCache) (fs : Files) (now : Timestamp) (p : Profile) :
    ProfileCache × Files :=
  let cached : CachedProfile := ⟨p, now⟩
  let fs := match c.file? with
    | none => fs
    | some file => match fs.writeText file cached.toValue.pretty with
      | .ok fs => fs
      | .error _ => fs
  ({ c with current := some cached }, fs)

/-- Forgets the profile. -/
def clear (c : ProfileCache) (fs : Files) : ProfileCache × Files :=
  let fs := match c.file? with
    | none => fs
    | some file =>
      if fs.isThere file then
        match fs.remove file with
        | .ok fs => fs
        | .error _ => fs
      else fs
  ({ c with current := none }, fs)

end ProfileCache

end Wager
