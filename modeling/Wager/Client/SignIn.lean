import Wager.Client.Connection

/-!
# Signing in and out

How a person signs in with their wallet, what is loaded for them, and how they sign out.

Signing in is the exchange of a signature for a session, and then a look at the person's profile and
balance. Only the exchange can fail; what is loaded afterwards may be missing. What has succeeded
before a failure stays, so that a second try is shorter.

## Main definitions

* `Client.signIn`, `Client.signOut`: Signing in and out.
* `Client.loadProfile`: The profile of whoever is signed in, with a fresh balance.
* `Client.openDuels`: How many duels of the person await resolution.
-/

namespace Wager.Client

/-- Tells the person of an error. -/
def report (e : Error) : Operation Unit := do
  let _ ← inNotices fun now ns => ns.error now e.userMessage

/-- Exchanges the wallet's signature for a session. -/
def exchange (setting : Setting) : Operation (Result Unit) := ExceptT.run do
  let connection ← ExceptT.mk <| connect setting true
  let some signature := connection.signature
    | throw (.walletRejected "wallet returned no signature")
  let reply ← ExceptT.mk <| ask (.signIn connection.address.text signature)
  Session.establish reply.credentials
  if let some p := reply.profile then
    (Routine.atomically fun now c => ((), c.cacheProfile p now) : Operation Unit)

/-- Reads the balance of the connected wallet, else of the address on file. -/
def refreshBalance (setting : Setting) (p : Option Profile) : Operation Unit := do
  let onFile := p.bind fun p => p.publicAddress.bind fun a => (Address.parse a).toOption
  let _ ← balance setting onFile

/-- Fetches the profile of whoever is signed in, and caches it. -/
def fetchProfile : Operation (Option Profile) := do
  match ← Session.access with
  | .error _ | .ok none => return none
  | .ok (some _) =>
    match ← ask .getProfile with
    | .error _ => return none
    | .ok p =>
      .atomically fun now c => ((), c.cacheProfile p now)
      return some p

/-- The profile of whoever is signed in, from the cache or from the server. The balance is read
afterwards. -/
def loadProfile (setting : Setting) : Operation (Option Profile) := do
  let found ← match ← .look (·.cache.profile?) with
    | some p => pure (some p)
    | none => fetchProfile
  if found.isSome then refreshBalance setting found
  return found

/-- Signs in with the wallet. -/
def signIn (setting : Setting) : Operation (Result (Option Profile)) := do
  match ← exchange setting with
  | .error e =>
    report e
    return .error e
  | .ok () =>
    let found ← loadProfile setting
    if found.isNone then refreshBalance setting none
    return .ok found

/-- Signs out: ends the session, forgets the profile and the notices, and disconnects the wallet. -/
def signOut : Operation Unit := do
  Session.clear
  .change forgetProfile
  inNotices fun _ ns => ((), ns.clear)
  disconnect

/-- How many duels of the person await resolution; none if nobody is signed in. -/
def openDuels : Operation (Result Nat) := do
  match ← Session.access with
  | .error e => return .error e
  | .ok none => return .ok 0
  | .ok (some _) => return (← ask .listDuels).map fun ds => ds.countP fun d => !d.status.isSettled

end Wager.Client
