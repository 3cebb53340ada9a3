import Wager.Number.Whole
import Wager.Url.Host
import Wager.Url.Path

/-!
# Addresses on the web

How the address of a server is read, and how it is written.

Reading is generous: blanks around the text and line breaks within it are ignored, either slash
separates the parts of a web address, and whatever may not stand in a part is escaped. Every scheme
may be read, though only two of them are asked for anything. The name of a user and a password may
stand before the host; they are taken out of an address before it is used.

## Main definitions

* `Url`: An address.
* `Url.parse?`: The address that a text names.
* `Url.text`: The text of an address.
* `Url.withoutUser`: The address without the name of a user and a password.
* `Url.isAskable`: Whether an address can be asked for anything.
-/

namespace Wager

/-- Who is asked where: the name of a user with a password, the host, and the socket there. The texts
are escaped. -/
structure Url.Authority where
  user : List Char := []
  password : Option (List Char) := none
  host : Url.Host := .empty
  socket : Option Nat := none
  deriving DecidableEq

/-- An address: the name of its scheme, the authority, the path, and what follows the path. The texts
are escaped. -/
structure Url where
  scheme : List Char
  authority : Option Url.Authority := none
  path : List Char
  query : Option (List Char) := none
  fragment : Option (List Char) := none
  deriving DecidableEq

namespace Url

/-! ### Authorities -/

/-- Splits at the first of some characters, which stays with the rest. -/
def splitBefore (isEnd : Char → Bool) (cs : List Char) : List Char × List Char :=
  (cs.takeWhile (!isEnd ·), cs.dropWhile (!isEnd ·))

/-- Cuts off what stands before the last of some character; nothing if it is not there. -/
def cutLast? (c : Char) (cs : List Char) : Option (List Char × List Char) :=
  if cs.contains c then
    let behind := (cs.reverse.takeWhile (· ≠ c)).reverse
    some (cs.take (cs.length - behind.length - 1), behind)
  else none

/-- The name of a user and a password; one that is empty is none. -/
def userInfo (cs : List Char) : List Char × Option (List Char) :=
  let (user, password) := splitBefore (· = ':') cs
  let password := password.drop 1
  (escape inUser user, if password.isEmpty then none else some (escape inUser password))

/-- Splits before the colon that ends a host. Colons in brackets belong to it. -/
def splitHost (isInside : Bool) : List Char → List Char × List Char
  | [] => ([], [])
  | c :: rest =>
    if c = ':' ∧ !isInside then ([], c :: rest)
    else
      let isInside := if c = '[' then true else if c = ']' then false else isInside
      let (host, behind) := splitHost isInside rest
      (c :: host, behind)

/-- Reads the number of a socket, and what follows it. -/
def socket? (isEnd : Char → Bool) (cs : List Char) : Option (Option Nat × List Char) :=
  let (digits, rest) := splitBefore (!Char.isDigit ·) cs
  if rest.head?.all isEnd then
    if digits.isEmpty then some (none, rest)
    else match Whole.readDigits 65535 0 digits with
      | .ok n => some (some n, rest)
      | .error _ => none
  else none

/-- Reads the host and the socket, and gives what follows them. If a user or a socket is named there
must be a host. -/
def place? (s : Scheme) (isUserGiven : Bool) (cs : List Char) :
    Option ((Host × Option Nat) × List Char) := do
  let (front, behind) := splitBefore s.isSlash cs
  let (host, socket) := splitHost false front
  let host ← if s = .other then Host.ofOther? host else Host.ofWeb? host
  if host = .empty ∧ (isUserGiven ∨ !socket.isEmpty) then none
  else if socket.isEmpty then return ((host, none), behind)
  else
    let (number, rest) ← socket? (· ∈ ['/', '\\']) (socket.drop 1 ++ behind)
    return ((host, number.filter (s.usualSocket? ≠ some ·)), rest)

/-- Reads an authority, and gives what follows it. `isMore` tells whether a query or a fragment comes
behind. Where nobody is named before the sign for a user, only the end may follow without a host. -/
def authority? (s : Scheme) (isMore : Bool) (cs : List Char) : Option (Authority × List Char) := do
  let (front, behind) := splitBefore s.isSlash cs
  match cutLast? '@' front with
  | none =>
    let ((host, socket), rest) ← place? s false cs
    return ({ host, socket }, rest)
  | some (who, place) =>
    if who.isEmpty ∧ place.isEmpty ∧ (isMore ∨ !behind.isEmpty) then none
    else
      let (user, password) := userInfo who
      let ((host, socket), rest) ← place? s (!user.isEmpty || password.isSome) (place ++ behind)
      return ({ user, password, host, socket }, rest)

/-! ### Parts -/

/-- Reads a path from the root, up to the query. -/
def rooted (s : Scheme) (cs : List Char) : Walk := Walk.through s {} (s.steps cs)

/-- Reads the path behind an authority. -/
def pathBehind (s : Scheme) (cs : List Char) : Walk :=
  match cs with
  | [] => if s = .other then {} else { steps := [[]] }
  | c :: rest => if s.isSlash c then rooted s rest else rooted s cs

/-- The path of a file starts with one slash. -/
def filePath (w : Walk) : List Char := '/' :: w.text.dropWhile (· = '/')

/-- What follows a separator, if one comes next. -/
def Scheme.behindSlash? (s : Scheme) (cs : List Char) : Option (List Char) :=
  match cs.dropWhile isBreak with
  | c :: rest => if s.isSlash c then some rest else none
  | [] => none

/-- Reads what follows the scheme of files, up to the query. -/
def file? (cs : List Char) : Option (Authority × List Char) :=
  let s := Scheme.file
  match s.behindSlash? cs with
  | none => some ({}, filePath (rooted s cs))
  | some front => match s.behindSlash? front with
    | none => some ({}, filePath (rooted s front))
    | some rest => do
      let (name, behind) := splitBefore s.isSlash rest
      let name := unbroken name
      if name.length = 2 ∧ isDrive name then return ({}, filePath (rooted s rest))
      else
        let host ← if name.isEmpty then some Host.empty else Host.ofWeb? name
        if host = .empty ∨ host = .name "localhost".toList then
          return ({}, filePath (rooted s behind))
        else
          let w := pathBehind s behind
          return ({ host := if w.isOnDrive then .empty else host }, filePath w)

/-- Reads what follows a scheme, up to the query: the authority and the path. -/
def body? (s : Scheme) (isMore : Bool) (cs : List Char) : Option (Option Authority × List Char) :=
  let behindSlashes (cs : List Char) : Option (Option Authority × List Char) := do
    let (authority, rest) ← authority? s isMore cs
    return (some authority, (pathBehind s rest).text)
  match s, unbroken cs with
  | .file, _ => (file? cs).map fun (authority, path) => (some authority, path)
  | .web _, plain => behindSlashes (plain.dropWhile s.isSlash)
  | .other, '/' :: '/' :: rest => behindSlashes rest
  | .other, '/' :: rest => some (none, (rooted s rest).text)
  | .other, plain => some (none, escapeControls plain)

/-- The name of the scheme and what follows it. -/
def scheme? (cs : List Char) : Option (List Char × List Char) :=
  let isInName (c : Char) : Bool := c.isAlphanum || c ∈ ['+', '-', '.'] || isBreak c
  let (name, rest) := splitBefore (!isInName ·) cs
  match unbroken name, rest with
  | c :: name, ':' :: rest => if c.isAlpha then some ((c :: name).map Char.toLower, rest) else none
  | _, _ => none

/-- Cuts off what stands from a character on, without that character. -/
def cutAt (c : Char) (cs : List Char) : List Char × Option (List Char) :=
  match splitBefore (· = c) cs with
  | (front, _ :: rest) => (front, some rest)
  | (front, []) => (front, none)

/-! ### Reading and writing -/

/-- The text without blanks around it. -/
def trimmed (cs : List Char) : List Char :=
  let isEdge (c : Char) : Bool := c.toNat ≤ 32
  ((cs.dropWhile isEdge).reverse.dropWhile isEdge).reverse

/-- The address that a text names. -/
def parse? (s : String) : Option Url := do
  let (scheme, rest) ← scheme? (trimmed s.toList)
  let kind := Scheme.ofName scheme
  let (rest, fragment) := cutAt '#' rest
  let (rest, query) := cutAt '?' rest
  let (authority, path) ← body? kind (query.isSome || fragment.isSome) rest
  let isInQuery (c : Char) : Bool := inQuery c || (c = '\x27' && kind ≠ .other)
  return {
    scheme, authority, path
    query := query.map (escape isInQuery ∘ unbroken)
    fragment := fragment.map (escape inFragment ∘ unbroken) }

/-- What follows a mark, if it is there. -/
def marked (mark : Char) : Option (List Char) → List Char
  | none => []
  | some cs => mark :: cs

/-- The text of an authority. -/
def Authority.text (a : Authority) : List Char :=
  let who := a.user ++ marked ':' a.password
  (if who.isEmpty then [] else who ++ ['@']) ++ a.host.text ++
    marked ':' (a.socket.map (Nat.toDigits 10))

/-- The text of an address. A path that begins with two slashes could be taken for an authority, so a
step that stays where it is comes first. -/
def text (u : Url) : String :=
  let place := match u.authority with
    | some a => '/' :: '/' :: a.text
    | none => if ['/', '/'].isPrefixOf u.path then ['/', '.'] else []
  String.ofList
    (u.scheme ++ ':' :: place ++ u.path ++ marked '?' u.query ++ marked '#' u.fragment)

/-- The address without the name of a user and a password, if they can be read as texts. -/
def withoutUser (u : Url) : Url :=
  match u.authority with
  | none => u
  | some a =>
    match unescaped? a.user with
    | none => u
    | some user =>
      if user.isEmpty ∧ (a.password.bind unescaped?).isNone then u
      else { u with authority := some { a with user := [], password := none } }

/-- What may stand in a host but cannot be sent. -/
def isUnsendable (c : Char) : Bool := c ∈ ['\x22', '\x60', '\x7b', '\x7d']

/-- The longest address that can be sent, in characters. -/
def maxLength : Nat := 65534

/-- Whether an address can be asked for anything: its scheme is one of those that are asked, and it can
be sent. -/
def isAskable (u : Url) : Bool :=
  String.ofList u.scheme ∈ ["http", "https"] && u.text.length ≤ maxLength &&
    !u.authority.any (·.host.text.any isUnsendable)

end Url

end Wager
