import Wager.Json.Text
import Wager.Json.Time
import Wager.Store.Keychain

/-!
# Credential stores

Where credentials are kept until they expire: in memory, or in the keychain of the system.

Expiry is decided here and nowhere else: from its time of expiry on a credential is absent. A medium
that fails is treated the same way, so that trouble with it looks like being logged out and stops
nobody. Whatever turns out to be expired or unreadable is removed on the way.

## Main definitions

* `StoredCredential`: A credential with its time of expiry.
* `Store`: A credential store.
* `Store.get`, `Store.set`, `Store.remove`: Reading, writing and removing a credential.
-/

namespace Wager

/-- A credential with the time from which on it is absent. -/
structure StoredCredential where
  value : String
  expiresAt : Timestamp
  deriving DecidableEq

namespace StoredCredential

/-- Whether the credential is absent at a time. -/
def isExpired (c : StoredCredential) (now : Timestamp) : Bool := c.expiresAt.le now

/-- A stored credential as a document. -/
def toValue (c : StoredCredential) : Json.Value :=
  .object [("value", .text c.value), ("expires_at", c.expiresAt.toValue)]

/-- Reads a stored credential from a document. -/
def decoder : Json.Decoder StoredCredential :=
  .record ["value", "expires_at"] fun budget slots =>
    match slots with
    | [value, expiresAt] => do
      return {
        value := ← Json.Decoder.required .text budget value
        expiresAt := ← Json.Decoder.required Timestamp.decoder budget expiresAt }
    | _ => none

end StoredCredential

/-- A credential store. -/
inductive Store
  | memory (entries : Table String StoredCredential)
  | keychain (k : Keychain)

namespace Store

/-- The service that keychain entries belong to. -/
def service : String := "duels"

/-- The name under which a credential is kept. -/
def qualified (name : String) : String := "duels::" ++ name

/-- The keychain entry of a credential. -/
def entryOf (name : String) : Keychain.Entry := ⟨service, qualified name⟩

/-- A credential in memory. -/
def getMemory (entries : Table String StoredCredential) (now : Timestamp) (name : String) :
    Option String × Table String StoredCredential :=
  match entries.get? (qualified name) with
  | none => (none, entries)
  | some c => if c.isExpired now then (none, entries.erase (qualified name)) else (some c.value, entries)

/-- A credential in the keychain. -/
def getKeychain (k : Keychain) (now : Timestamp) (name : String) : Option String × Keychain :=
  match k.enter with
  | (.error _, k) => (none, k)
  | (.ok _, k) => match k.read (entryOf name) with
    | (.error _, k) => (none, k)
    | (.ok raw, k) => match Json.decode? StoredCredential.decoder raw with
      | none => (none, (k.delete (entryOf name)).2)
      | some c =>
        if c.isExpired now then (none, (k.delete (entryOf name)).2) else (some c.value, k)

/-- Writes a credential to the keychain. -/
def setKeychain (k : Keychain) (name : String) (c : StoredCredential) : Keychain :=
  match k.enter with
  | (.error _, k) => k
  | (.ok _, k) => (k.write (entryOf name) c.toValue.compact).2

/-- Removes a credential from the keychain. -/
def removeKeychain (k : Keychain) (name : String) : Keychain :=
  match k.enter with
  | (.error _, k) => k
  | (.ok _, k) => (k.delete (entryOf name)).2

/-- The credential with a name, unless it is missing or expired. -/
def get (s : Store) (now : Timestamp) (name : String) : Option String × Store :=
  match s with
  | .memory entries =>
    let (value, entries) := getMemory entries now name
    (value, .memory entries)
  | .keychain k =>
    let (value, k) := getKeychain k now name
    (value, .keychain k)

/-- Keeps a credential until it expires. -/
def set (s : Store) (name value : String) (expiresAt : Timestamp) : Store :=
  match s with
  | .memory entries => .memory (entries.set (qualified name) ⟨value, expiresAt⟩)
  | .keychain k => .keychain (setKeychain k name ⟨value, expiresAt⟩)

/-- Removes the credential with a name. -/
def remove (s : Store) (name : String) : Store :=
  match s with
  | .memory entries => .memory (entries.erase (qualified name))
  | .keychain k => .keychain (removeKeychain k name)

/-- A store in memory with nothing in it. -/
def inMemory : Store := .memory .empty

/-- The keychain if it can be reached, else a store in memory. -/
def choose (k : Keychain) : Store :=
  match k.isReachable (entryOf "availability") with
  | (true, k) => .keychain k
  | (false, _) => inMemory

end Store

end Wager
