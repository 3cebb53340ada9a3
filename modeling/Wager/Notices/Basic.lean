import Wager.Time.Timestamp

/-!
# Notices

Short messages to the person, which go away by themselves or when told to.

A notice with a lifetime is listed until that has passed. Listing drops what has expired, silently;
a timer that fires removes a notice and announces it. Everything that happens to the list is
announced to whoever follows it, except the silent drop.

A follower that falls behind loses the oldest events: only the last 64 are kept for it, and it is
told how many it missed.

## Main definitions

* `Notice`: A notice.
* `Notices`: The list of notices with its history.
* `Notices.add`, `remove`, `clear`, `active`: The operations.
* `Notices.drain`: What a follower has not yet seen.
-/

namespace Wager

/-- The kinds of notices. -/
inductive Notice.Kind
  | success
  | error
  | warning
  | loading
  deriving DecidableEq

/-- A message to the person. The lifetime is in milliseconds; a notice without one stays until it is
removed. -/
structure Notice where
  id : Nat
  text : String
  kind : Notice.Kind
  createdAt : Timestamp
  lifetime : Option Nat
  deriving DecidableEq

namespace Notice

/-- The largest lifetime that is kept as it is. -/
def maxLifetime : Nat := 0xFFFFFFFFFFFFFFFF

/-- The largest lifetime that expiry counts with. -/
def maxCounted : Nat := 0x7FFFFFFFFFFFFFFF

/-- Whether the notice has expired; nothing if its time of expiry lies beyond the calendar. -/
def isExpired (n : Notice) (now : Timestamp) : Option Bool :=
  match n.lifetime with
  | none => some false
  | some lifetime => (n.createdAt.addMillis? (min lifetime maxCounted)).map (·.le now)

/-- The kind's name. -/
def Kind.name : Kind → String
  | .success => "success"
  | .error => "error"
  | .warning => "warning"
  | .loading => "loading"

end Notice

/-- What happened to the list. -/
inductive Notices.Event
  | added (n : Notice)
  | removed (id : Nat)
  | cleared
  deriving DecidableEq

/-- What a follower finds: an event, or that it missed some. -/
inductive Notices.Seen
  | event (e : Notices.Event)
  | lagged (count : Nat)
  deriving DecidableEq

/-- The notices, all that happened to them, and the next identifier. -/
structure Notices where
  items : List Notice := []
  nextId : Nat := 1
  events : List Notices.Event := []
  deriving DecidableEq

namespace Notices

/-- How long notices of success, errors and warnings are listed, in milliseconds. -/
def defaultLifetime : Nat := 3000

/-- How many events are kept for a follower. -/
def keptEvents : Nat := 64

/-- Records an event. -/
def announce (ns : Notices) (e : Event) : Notices := { ns with events := ns.events ++ [e] }

/-- The notice that `add` would add. -/
def next (ns : Notices) (now : Timestamp) (kind : Notice.Kind) (text : String)
    (lifetime : Option Nat) : Notice :=
  ⟨ns.nextId, text, kind, now, lifetime.map (min · Notice.maxLifetime)⟩

/-- Adds a notice; gives its identifier. -/
def add (ns : Notices) (now : Timestamp) (kind : Notice.Kind) (text : String)
    (lifetime : Option Nat) : Nat × Notices :=
  let n := ns.next now kind text lifetime
  (n.id, { ns with items := ns.items ++ [n], nextId := ns.nextId + 1 }.announce (.added n))

/-- Adds a notice of success. -/
def success (ns : Notices) (now : Timestamp) (text : String) : Nat × Notices :=
  ns.add now .success text (some defaultLifetime)

/-- Adds a notice of an error. -/
def error (ns : Notices) (now : Timestamp) (text : String) : Nat × Notices :=
  ns.add now .error text (some defaultLifetime)

/-- Adds a warning. -/
def warning (ns : Notices) (now : Timestamp) (text : String) : Nat × Notices :=
  ns.add now .warning text (some defaultLifetime)

/-- Adds a notice that stays until it is removed. -/
def loading (ns : Notices) (now : Timestamp) (text : String) : Nat × Notices :=
  ns.add now .loading text none

/-- Removes a notice if it is there. -/
def remove (ns : Notices) (id : Nat) : Notices :=
  if ns.items.any (·.id == id) then
    { ns with items := ns.items.filter (·.id != id) }.announce (.removed id)
  else ns

/-- Removes all notices. -/
def clear (ns : Notices) : Notices :=
  { ns with items := [] }.announce .cleared

/-- Drops the expired ones among some notices, up to the first for which expiry cannot be decided.
Tells what is left, and whether expiry could be decided for all. -/
def prune (now : Timestamp) : List Notice → List Notice × Bool
  | [] => ([], true)
  | n :: ns =>
    match n.isExpired now with
    | none => (n :: ns, false)
    | some true => prune now ns
    | some false => ((prune now ns).map (n :: ·) id)

/-- The notices that have not expired, and the list without those that were dropped. Nothing if expiry
cannot be decided for one of them; only those before it are dropped then. -/
def active (ns : Notices) (now : Timestamp) : Option (List Notice) × Notices :=
  let (items, isDecided) := prune now ns.items
  (if isDecided then some items else none, { ns with items })

/-- Where a follower stands: how many events it has seen or missed. -/
abbrev Follower := Nat

/-- A follower from now on. -/
def follow (ns : Notices) : Follower := ns.events.length

/-- What a follower has not yet seen. -/
def drain (ns : Notices) (f : Follower) : List Seen × Follower :=
  let unseen := ns.events.drop f
  let missed := unseen.length - keptEvents
  let kept := (unseen.drop missed).map .event
  (if missed = 0 then kept else .lagged missed :: kept, ns.events.length)

end Notices

end Wager
