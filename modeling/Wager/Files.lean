import Wager.Table
import Wager.Text.Utf8

/-!
# Files

The part of a file system that a client sees: files, directories, and links that lead nowhere.

A path is the list of its steps from the root. A step may lead back, or ask for a directory without
going anywhere. Every step is taken from a directory, so a path that leads through a file, or through
something that is not there, leads nowhere; `Files.follow` tells to which place a path leads, and what
is there can be looked up directly.

Creating directories may fail halfway. Those that were created by then stay, so that operation gives
the files back in any case.

## Main definitions

* `Path`: A path.
* `Path.ofText`: The path that a text names.
* `Files`: A file system.
* `Files.follow`: Where a path leads.
* `Files.readText`, `Files.writeText`, `Files.createDirectories`, `Files.remove`: The operations.
-/

namespace Wager

/-- The steps of a path from the root. -/
abbrev Path := List String

/-- Why an operation on files failed. -/
inductive Files.Fault
  | notFound
  | notDirectory
  | isDirectory
  | alreadyThere
  | nameTooLong
  | notText
  deriving DecidableEq

/-- The wording of a fault. -/
def Files.Fault.message : Files.Fault → String
  | .notFound => "No such file or directory (os error 2)"
  | .notDirectory => "Not a directory (os error 20)"
  | .isDirectory => "Is a directory (os error 21)"
  | .alreadyThere => "File exists (os error 17)"
  | .nameTooLong => "File name too long (os error 36)"
  | .notText => "stream did not contain valid UTF-8"

namespace Path

/-- The step that leads back. -/
def back : String := ".."

/-- The step that asks for a directory. -/
def directory : String := ""

/-- The most bytes that the name of a step may have. -/
def maxName : Nat := 255

/-- The most bytes that the text of a path may have. -/
def maxText : Nat := 4095

/-- The path that a text names, for someone in a directory. A separator at the end asks for a
directory. A text that is too long is taken for a single step, which is too long as well. -/
def ofText (here : Path) (s : String) : Path :=
  if maxText < s.utf8ByteSize then [s]
  else
    let steps := (s.toList.splitOn '/').map String.ofList
    let isNone (step : String) : Bool := step = "" || step = "."
    let start := if s.startsWith "/" then [] else here
    start ++ steps.filter (!isNone ·) ++ if steps.getLast?.any isNone then [directory] else []

end Path

/-- What a path may find. -/
inductive Files.Node
  | file (content : List UInt8)
  | directory
  | brokenLink
  deriving DecidableEq

/-- A file system. The root is always there. -/
structure Files where
  nodes : Table Path Files.Node := {}
  deriving DecidableEq

namespace Files

/-! ### Places -/

/-- What is at a place, which is a path without steps back. -/
def node? (fs : Files) (p : Path) : Option Node :=
  if p = [] then some .directory else fs.nodes.get? p

/-- Why no step can be taken from a place, unless it is a directory. -/
def barrier? (fs : Files) (place : Path) : Option Fault :=
  match fs.node? place with
  | some .directory => none
  | some (.file _) => some .notDirectory
  | some .brokenLink | none => some .notFound

/-- The place to which steps from a place lead. Nothing needs to be there yet. -/
def followFrom (fs : Files) (here : Path) : Path → Except Fault Path
  | [] => .ok here
  | step :: rest =>
    match fs.barrier? here with
    | some f => .error f
    | none =>
      if step = Path.back then followFrom fs here.dropLast rest
      else if step = Path.directory then followFrom fs here rest
      else if Path.maxName < step.utf8ByteSize then .error .nameTooLong
      else followFrom fs (here ++ [step]) rest

/-- The place to which a path leads. -/
def follow (fs : Files) (p : Path) : Except Fault Path := fs.followFrom [] p

/-- What a path finds. -/
def find? (fs : Files) (p : Path) : Option Node :=
  match fs.follow p with
  | .ok place => fs.node? place
  | .error _ => none

/-- Whether the path finds a file or directory. -/
def isThere (fs : Files) (p : Path) : Bool :=
  match fs.find? p with
  | some (.file _) => true
  | some .directory => true
  | _ => false

/-- Whether the path finds a directory. -/
def isDirectory (fs : Files) (p : Path) : Bool := fs.find? p = some .directory

/-! ### Files -/

/-- The content of a file. -/
def readBytes (fs : Files) (p : Path) : Except Fault (List UInt8) := do
  match fs.node? (← fs.follow p) with
  | some (.file content) => return content
  | some .directory => throw .isDirectory
  | _ => throw .notFound

/-- The content of a file that holds text. -/
def readText (fs : Files) (p : Path) : Except Fault String := do
  match Text.ofBytes? (← fs.readBytes p) with
  | some s => .ok s
  | none => .error .notText

/-- Gives a file the content, creating it if its directory is there. -/
def writeBytes (fs : Files) (p : Path) (content : List UInt8) : Except Fault Files := do
  let place ← fs.follow p
  match fs.node? place with
  | some .directory => throw .isDirectory
  | some .brokenLink => throw .notFound
  | some (.file _) | none => return ⟨fs.nodes.set place (.file content)⟩

/-- Gives a file the text as content. -/
def writeText (fs : Files) (p : Path) (s : String) : Except Fault Files :=
  fs.writeBytes p (Text.bytes s)

/-- Removes a file. -/
def remove (fs : Files) (p : Path) : Except Fault Files := do
  let place ← fs.follow p
  match fs.node? place with
  | some .directory => throw .isDirectory
  | some _ => return ⟨fs.nodes.erase place⟩
  | none => throw .notFound

/-! ### Directories -/

/-- Creates a directory in one that is there. -/
def createDirectory (fs : Files) (p : Path) : Except Fault Files := do
  let front ← fs.follow p.dropLast
  if let some f := fs.barrier? front then throw f
  let place ← fs.follow p
  if place ≠ front ++ p.getLast?.toList ∨ (fs.node? place).isSome then throw .alreadyThere
  return ⟨fs.nodes.set place .directory⟩

/-- Creates a directory in one that is there, unless there is one already. -/
def ensureDirectory (fs : Files) (p : Path) : Except Fault Files :=
  match fs.createDirectory p with
  | .ok fs => .ok fs
  | .error f => if fs.isDirectory p then .ok fs else .error f

/-- Creates the directories of the path that are missing. Those in front are only looked at if the last
one cannot be created without them. -/
def createDirectories (fs : Files) (p : Path) : Except Fault Unit × Files :=
  match fs.ensureDirectory p with
  | .ok fs => (.ok (), fs)
  | .error f =>
    if _h : f = .notFound ∧ p ≠ [] then
      match createDirectories fs p.dropLast with
      | (.error f, fs) => (.error f, fs)
      | (.ok (), fs) => match fs.ensureDirectory p with
        | .ok fs => (.ok (), fs)
        | .error f => (.error f, fs)
    else (.error f, fs)
  termination_by p.length
  decreasing_by
    have := List.length_pos_iff.2 _h.2
    simp only [List.length_dropLast]
    omega

/-- Removes a directory and all in it. -/
def removeTree (fs : Files) (p : Path) : Files :=
  ⟨⟨fs.nodes.entries.filter fun (q, _) => !p.isPrefixOf q⟩⟩

end Files

end Wager
