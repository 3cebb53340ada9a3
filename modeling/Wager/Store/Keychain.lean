import Wager.Table
import Wager.Text.Utf8

/-!
# Keychains

The keychain of an operating system: secrets under a service and a user, and the ways in which it
can refuse.

Every use goes in two steps, opening an entry and then reading, writing or deleting it, and every
step may fail for reasons of its own. Which steps fail is part of the keychain: `faults` answers for
the step of a given number, so a keychain may fail in any pattern. A step that fails changes nothing.

## Main definitions

* `Keychain`: A keychain.
* `Keychain.enter`, `read`, `write`, `delete`: The steps.
* `Keychain.isReachable`: Whether it answers at all.

## Theorems

* `Keychain.enter_secrets`, `Keychain.read_secrets`: Opening and reading change no secret.
-/

namespace Wager

/-- The steps in which a keychain is used. -/
inductive Keychain.Operation
  | enter
  | read
  | write
  | delete
  deriving DecidableEq

/-- Why a step failed. -/
inductive Keychain.Fault
  | noEntry
  | badEncoding
  | ambiguous
  | noAccess
  | platform
  deriving DecidableEq

/-- The service and user of an entry. -/
structure Keychain.Entry where
  service : String
  user : String
  deriving DecidableEq

/-- A keychain: its secrets, which of its steps fail, and how many were taken. -/
structure Keychain where
  secrets : Table Keychain.Entry (List UInt8) := {}
  faults : Nat → Keychain.Operation → Option Keychain.Fault := fun _ _ => none
  steps : Nat := 0

namespace Keychain

/-- The keychain after one more step. -/
def tick (k : Keychain) : Keychain := { k with steps := k.steps + 1 }

/-- Opens an entry, which need not be there. -/
def enter (k : Keychain) : Except Fault Unit × Keychain :=
  match k.faults k.steps .enter with
  | some f => (.error f, k.tick)
  | none => (.ok (), k.tick)

/-- Reads the secret of an entry as text. -/
def read (k : Keychain) (e : Entry) : Except Fault String × Keychain :=
  match k.faults k.steps .read with
  | some f => (.error f, k.tick)
  | none => match k.secrets.get? e with
    | none => (.error .noEntry, k.tick)
    | some secret => match Text.ofBytes? secret with
      | none => (.error .badEncoding, k.tick)
      | some s => (.ok s, k.tick)

/-- Writes the secret of an entry. -/
def write (k : Keychain) (e : Entry) (s : String) : Except Fault Unit × Keychain :=
  match k.faults k.steps .write with
  | some f => (.error f, k.tick)
  | none => (.ok (), { k.tick with secrets := k.secrets.set e (Text.bytes s) })

/-- Deletes an entry. -/
def delete (k : Keychain) (e : Entry) : Except Fault Unit × Keychain :=
  match k.faults k.steps .delete with
  | some f => (.error f, k.tick)
  | none => match k.secrets.get? e with
    | none => (.error .noEntry, k.tick)
    | some _ => (.ok (), { k.tick with secrets := k.secrets.erase e })

/-- Whether the keychain can be reached: an entry that is missing or unreadable shows that it can. -/
def isReachable (k : Keychain) (e : Entry) : Bool × Keychain :=
  match k.enter with
  | (.error _, k) => (false, k)
  | (.ok _, k) => match k.read e with
    | (.error .noAccess, k) => (false, k)
    | (.error .platform, k) => (false, k)
    | (_, k) => (true, k)

theorem enter_secrets (k : Keychain) : k.enter.2.secrets = k.secrets := by
  unfold enter
  split <;> rfl

theorem read_secrets (k : Keychain) (e : Entry) : (k.read e).2.secrets = k.secrets := by
  unfold read
  split
  · rfl
  · split
    · rfl
    · split <;> rfl

end Keychain

end Wager
