import Wager.Remote.Endpoint

/-!
# Asking an endpoint

What comes of asking an endpoint of the server with a credential.

A request that is made of an endpoint is told by its method, its address, what authorizes it and the
document that it carries, and not by the endpoint: `Operation` has a row for each operation on behalf of
whoever is signed in, and `Endpoint.Makes` ties an endpoint to its row. The address is the root of the
server with a path behind it, where the root is the server's text without the slashes at its end
(`IsAt`).

There are three cases. What may not stand in the head of a request is withheld, and the caller is told
that the credential has expired. An address that cannot be asked for anything gets no request either.
Otherwise there is one request, and its delivery decides all that follows: whatever the peer answers,
nothing is asked again (`Endpoint.Asks`).

## Main definitions

* `Url.askable?`: The address at which a text can be asked.
* `IsHeaderText`: What may stand in the head of a request.
* `Request.received`: What is received for a request.
* `IsAt`: The root of a server.
* `Operation`, `Endpoint.Makes`: The requests that are made of endpoints.
* `accessRequest`, `renewalRequest`: A request with an access credential, and that of a renewal.
* `Endpoint.settle`: What an endpoint makes of what is received.
* `Endpoint.Asks`: What comes of asking an endpoint.

## Theorems

* `Peer.ask_of_askable`, `Peer.ask_of_unaskable`: A request is sent to an address that can be asked.
* `isAt_iff`: Every server has one root.
* `Operation.makes`, `Endpoint.makes_renewal`: The rows are right.
* `Endpoint.Makes.asks`, `Endpoint.ask_withheld`, `Endpoint.Makes.ask_of_unaskable`: An endpoint is
  asked once, or not at all for one of two reasons.
-/

namespace Wager

/-- The address at which a text can be asked for anything, if it names one. Whoever is named in it is
taken out. -/
def Url.askable? (s : String) : Option Url :=
  (parse? s).bind fun url => if url.withoutUser.isAskable then some url.withoutUser else none

namespace Remote

/-! ### Requests -/

/-- A text may stand in the head of a request: it has no control characters but tabs. -/
def IsHeaderText (s : String) : Prop := ∀ b ∈ Text.bytes s, b = 9 ∨ 32 ≤ b ∧ b ≠ 127

instance (s : String) : Decidable (IsHeaderText s) :=
  inferInstanceAs (Decidable (∀ b ∈ Text.bytes s, b = 9 ∨ 32 ≤ b ∧ b ≠ 127))

theorem isSendable_iff (s : String) : isSendable s = true ↔ IsHeaderText s := by
  simp only [isSendable, IsHeaderText, List.all_eq_true, Bool.or_eq_true, Bool.and_eq_true,
    decide_eq_true_eq, or_comm]

/-- What is received for a request, by its delivery. -/
def Request.received (r : Request) : Delivery → Except Failure Reply
  | .unreachable | .lost => .error (.transport s!"error sending request for url ({r.url.text})")
  | .reply status body isWhole => .ok { status, body, isWhole }

/-- Only a failure of the transport keeps a request from being answered. -/
theorem Request.exists_eq_transport (r : Request) {delivery : Delivery} {failure : Failure}
    (h : r.received delivery = .error failure) : ∃ detail, failure = .transport detail := by
  cases delivery with
  | unreachable | lost => exact ⟨_, (Except.error.inj h).symm⟩
  | reply => cases h

section

variable (peer : Peer) {address : String} (method : Method) (authorization : Option String)
  (body : Option Json.Value) (sent : List Request)

/-- A request to an address that can be asked is sent, whatever comes of it. -/
theorem Peer.ask_of_askable {url : Url} (hurl : Url.askable? address = some url) :
    let r : Request := { method, url, authorization, body }
    peer.ask method address authorization body sent = (r.received (peer sent r), sent ++ [r]) := by
  intro r
  rw [Url.askable?, Option.bind_eq_some_iff] at hurl
  obtain ⟨named, hnamed, hurl⟩ := hurl
  obtain ⟨haskable, hname⟩ := Option.ite_none_right_eq_some.mp hurl
  obtain rfl : named.withoutUser = url := Option.some.inj hname
  simp only [Peer.ask, hnamed, haskable, if_true, Bind.bind, StateT.bind, get, getThe,
    MonadStateOf.get, StateT.get, set, Pure.pure]
  -- What has been sent is the same for each delivery.
  generalize peer sent { method, url := named.withoutUser, authorization, body } = delivery
  cases delivery <;> rfl

/-- An address that cannot be asked gets no request. -/
theorem Peer.ask_of_unaskable (hurl : Url.askable? address = none) :
    ∃ detail, peer.ask method address authorization body sent
      = (.error (.transport detail), sent) := by
  cases hnamed : Url.parse? address with
  | none =>
    refine ⟨"builder error", ?_⟩
    simp only [Peer.ask, hnamed]
    rfl
  | some named =>
    rw [Url.askable?, hnamed, Option.bind_some, ite_eq_right_iff] at hurl
    have haskable : ¬ named.withoutUser.isAskable = true := fun h => nomatch hurl h
    refine ⟨s!"builder error for url ({named.withoutUser.text})", ?_⟩
    simp only [Peer.ask, hnamed, if_neg haskable]
    rfl

end

/-! ### Servers -/

/-- A server is at a root: its text is that of the root, but for slashes at the end. -/
structure IsAt (server root : String) : Prop where
  text : ∃ n, server = root ++ String.ofList (List.replicate n '/')
  ends : root.toList.getLast? ≠ some '/'

/-- The characters of a text without the slashes at its end. -/
theorem toList_base (server : String) : (Endpoint.base server).toList
    = (server.toList.reverse.dropWhile (fun c => decide (c = '/'))).reverse := by
  rw [Endpoint.base, String.toList_ofList]

/-- Without them it does not end in a slash. -/
theorem getLast?_base (server : String) :
    (Endpoint.base server).toList.getLast? ≠ some '/' := by
  rw [toList_base, List.getLast?_reverse]
  have hhead := List.head?_dropWhile_not (fun c => decide (c = '/')) server.toList.reverse
  intro hslash
  simp [hslash] at hhead

/-- With them it is the text again. -/
theorem exists_eq_base_append (server : String) :
    ∃ n, server = Endpoint.base server ++ String.ofList (List.replicate n '/') := by
  let slashes := server.toList.reverse.takeWhile (fun c => decide (c = '/'))
  have hslashes : slashes = List.replicate slashes.length '/' :=
    List.eq_replicate_of_mem fun c hc =>
      of_decide_eq_true (List.all_eq_true.mp List.all_takeWhile c hc)
  refine ⟨slashes.length, String.toList_injective ?_⟩
  calc server.toList
      = (slashes ++ server.toList.reverse.dropWhile (fun c => decide (c = '/'))).reverse := by
        rw [List.takeWhile_append_dropWhile, List.reverse_reverse]
    _ = (Endpoint.base server).toList ++ List.replicate slashes.length '/' := by
        rw [List.reverse_append, toList_base, hslashes, List.reverse_replicate,
          List.length_replicate]
    _ = _ := by rw [String.toList_append, String.toList_ofList]

/-- A text that does not end in a slash is all that is left of it with slashes behind. -/
theorem base_append {root : String} (h : root.toList.getLast? ≠ some '/') (n : Nat) :
    Endpoint.base (root ++ String.ofList (List.replicate n '/')) = root := by
  have hslashes : ∀ c ∈ List.replicate n '/', decide (c = '/') = true := fun c hc =>
    decide_eq_true (List.mem_replicate.mp hc).2
  have hroot : root.toList.reverse.dropWhile (fun c => decide (c = '/')) = root.toList.reverse := by
    rw [← List.head?_reverse] at h
    cases hcs : root.toList.reverse with
    | nil => rfl
    | cons c cs =>
      rw [hcs, List.head?_cons, ne_eq, Option.some.injEq] at h
      exact List.dropWhile_cons_of_neg (by simpa using h)
  apply String.toList_injective
  rw [toList_base, String.toList_append, String.toList_ofList, List.reverse_append,
    List.reverse_replicate, List.dropWhile_append_of_pos hslashes, hroot, List.reverse_reverse]

/-- Every server is at one root. -/
theorem isAt_iff (server root : String) : IsAt server root ↔ Endpoint.base server = root := by
  constructor
  · rintro ⟨⟨n, rfl⟩, hends⟩
    exact base_append hends n
  · rintro rfl
    exact ⟨exists_eq_base_append server, getLast?_base server⟩

/-! ### Endpoints -/

variable {α : Type}

/-- A request that is made of an endpoint: its method, the path behind the root of the server, and
the document that it carries. -/
structure Endpoint.Makes (e : Endpoint α) (method : Method) (path : String)
    (body : Option Json.Value) : Prop where
  method : e.method = method
  address : ∀ server root, IsAt server root → e.address server = root ++ path
  body : e.body = body

/-- A path that does not begin with a slash comes behind one. -/
theorem Endpoint.makes_of_path (e : Endpoint α) (hpath : e.path.toList.head? ≠ some '/') :
    e.Makes e.method ("/" ++ e.path) e.body where
  method := rfl
  address server root hroot := by
    have hrest : e.path.toList.dropWhile (fun c => decide (c = '/')) = e.path.toList := by
      cases hcs : e.path.toList with
      | nil => rfl
      | cons c cs =>
        rw [hcs, List.head?_cons, ne_eq, Option.some.injEq] at hpath
        exact List.dropWhile_cons_of_neg (by simpa using hpath)
    rw [address, (isAt_iff server root).mp hroot, hrest, String.ofList_toList, String.append_assoc]
  body := rfl

/-- The operations on behalf of whoever is signed in, with the request that each makes. -/
inductive Operation : {α : Type} → Endpoint α → Method → String → Option Json.Value → Prop
  | profile : Operation .profile .get "/user" none
  | statistics : Operation .statistics .get "/user/stats" none
  | duels : Operation .duels .get "/duel/my" none
  | duel (id : String) : Operation (.duel id) .get ("/duel/" ++ Text.trimmed id) none
  | transactionOfCreate (o : Duel.Opening) :
    Operation (.transaction (.create o)) .post "/crypto-duel/solana/sign-tx"
      (some (Duel.Action.create o).signBody)
  | transactionOfJoin (e : Duel.Entry) :
    Operation (.transaction (.join e)) .post "/crypto-duel/solana/join/sign-tx"
      (some (Duel.Action.join e).signBody)
  | finalizeCreate (o : Duel.Opening) (hash : String) :
    Operation (.finalize (.create o) hash) .post "/crypto-duel/solana"
      (some ((Duel.Action.create o).finalizeBody hash))
  | finalizeJoin (e : Duel.Entry) (hash : String) :
    Operation (.finalize (.join e) hash) .post "/crypto-duel/solana/join"
      (some ((Duel.Action.join e).finalizeBody hash))
  | resolve (r : Duel.Resolution) :
    Operation (.resolve r) .put "/crypto-duel/solana/resolve" (some r.toValue)

theorem Operation.makes {e : Endpoint α} {method : Method} {path : String}
    {body : Option Json.Value} (h : Operation e method path body) : e.Makes method path body := by
  cases h with
  | duel id =>
    have hmakes := (Endpoint.duel id).makes_of_path
      (by simp [Endpoint.duel, String.toList_append])
    rwa [Endpoint.duel, ← String.append_assoc] at hmakes
  | profile | statistics | duels | transactionOfCreate | transactionOfJoin | finalizeCreate
  | finalizeJoin | resolve =>
    exact Endpoint.makes_of_path _ (by simp [Endpoint.profile, Endpoint.statistics, Endpoint.duels,
      Endpoint.transaction, Endpoint.finalize, Endpoint.resolve, Endpoint.actionPath])

/-- A renewal carries the empty document. -/
theorem Endpoint.makes_renewal :
    renewal.Makes .post "/auth/refresh" (some (.object [])) :=
  renewal.makes_of_path (by decide)

/-- A request that an access credential authorizes. -/
def accessRequest (method : Method) (url : Url) (body : Option Json.Value) (access : String) :
    Request where
  method := method
  url := url
  authorization := some ("Bearer " ++ access)
  body := body

/-- The request of a renewal, which its refresh credential authorizes by itself. -/
def renewalRequest (url : Url) (refresh : String) : Request where
  method := .post
  url := url
  authorization := some refresh
  body := some (.object [])

namespace Endpoint

/-- What an endpoint makes of what is received. -/
def settle (e : Endpoint α) : Except Failure Reply → Result α
  | .ok reply => e.conclude reply
  | .error failure => .error failure.toError

/-- What comes of asking an endpoint by a request after some others: the result and all requests
that were sent then. A request that may not be made is withheld. -/
structure Asks (e : Endpoint α) (peer : Peer) (r : Request) (sent : List Request)
    (result : Result α) (sent' : List Request) : Prop where
  asked : (∀ credential, r.authorization = some credential → IsHeaderText credential) →
    result = e.settle (r.received (peer sent r)) ∧ sent' = sent ++ [r]
  withheld : (∃ credential, r.authorization = some credential ∧ ¬ IsHeaderText credential) →
    result = .error .authExpired ∧ sent' = sent

variable {e : Endpoint α} (peer : Peer) (server : String) {credential : String}

/-- What may not stand in the head of a request is not sent. -/
theorem ask_of_not_isHeaderText (h : ¬ IsHeaderText credential) (sent : List Request) :
    e.ask peer server (some credential) sent = (.error .authExpired, sent) := by
  rw [← isSendable_iff] at h
  simp only [ask, Option.all_some, h, Bool.false_eq_true, if_false]
  rfl

/-- What may stand there is sent as far as the address goes. -/
theorem ask_of_isHeaderText (h : IsHeaderText credential) (sent : List Request) :
    e.ask peer server (some credential) sent
      = (e.settle (peer.ask e.method (e.address server) (some credential) e.body sent).1,
        (peer.ask e.method (e.address server) (some credential) e.body sent).2) := by
  rw [← isSendable_iff] at h
  simp only [ask, Option.all_some, h, if_true, Bind.bind, StateT.bind]
  generalize peer.ask e.method (e.address server) (some credential) e.body sent = answer
  rcases answer with ⟨_ | _, _⟩ <;> rfl

namespace Makes

variable {server} {root : String} {method : Method} {path : String} {body : Option Json.Value}

/-- An endpoint whose address can be asked is asked once, if the credential may be sent. -/
theorem asks (h : e.Makes method path body) (hroot : IsAt server root) {url : Url}
    (hurl : Url.askable? (root ++ path) = some url) (sent : List Request) :
    e.Asks peer { method, url, authorization := some credential, body } sent
      (e.ask peer server (some credential) sent).1
      (e.ask peer server (some credential) sent).2 where
  asked hsendable := by
    rw [ask_of_isHeaderText peer server (hsendable credential rfl), h.method,
      h.address server root hroot, h.body, peer.ask_of_askable _ _ _ _ hurl]
    exact ⟨rfl, rfl⟩
  withheld hwithheld := by
    obtain ⟨_, ⟨⟩, hnot⟩ := hwithheld
    rw [ask_of_not_isHeaderText peer server hnot]
    exact ⟨rfl, rfl⟩

/-- One whose address cannot be asked is not asked. -/
theorem ask_of_unaskable (h : e.Makes method path body) (hroot : IsAt server root)
    (hurl : Url.askable? (root ++ path) = none) (hsendable : IsHeaderText credential)
    (sent : List Request) :
    ∃ detail, e.ask peer server (some credential) sent
      = (.error (.networkFailure detail), sent) := by
  obtain ⟨detail, hask⟩ := peer.ask_of_unaskable method (some credential) body sent hurl
  refine ⟨detail, ?_⟩
  rw [ask_of_isHeaderText peer server hsendable, h.method, h.address server root hroot, h.body,
    hask]
  rfl

end Makes

end Endpoint

end Remote

end Wager
