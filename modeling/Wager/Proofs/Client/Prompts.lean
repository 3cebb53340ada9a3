import Wager.Proofs.Client.Prompting
import Wager.Proofs.Interleaving
import Wager.Proofs.Notices.Staying
import Wager.Proofs.Wallet.Leaving

/-!
# Prompts

What a person who is asked to sign in reads, and for how long.

Callers use the wallet or sign out, interleaved where they wait, and notices are added, removed,
cleared and listed by anybody meanwhile; a timer that fires is one of those who remove. A caller may
be answered anything, late answers included, and may be dropped wherever it waits, which is how
operations are cancelled.

Every caller keeps a record of its own segments: what was announced in them, and what was listed
before one of them and not after it. So it can be told what a caller has done to the notices, apart
from what the others have done.

Connecting for a signature adds one prompt, which stays until it is removed, and removes nothing else.
Once it has returned, with whatever outcome, the prompt is not listed any more. What takes the prompt
back is the last section of the operation, though, and a caller that is dropped never comes to it:
its prompt remains, as the prompt of a caller that still waits does, until somebody else removes it or
clears all notices (`Traffic.abandoned_prompt`). That it does remain until then is part of what is
proved, so the list of events tells exactly which prompts are listed.

The proof needs little of the others: whatever they do in a segment is one way for notices to evolve
(`Notices.Evolves`), and what is known of a caller survives that (`Caller.Sound.evolves`).

## Main definitions

* `Request`, `Caller`, `Traffic`: What callers come for, what is recorded of them, and a client with
  its callers.
* `usage`: How callers use a client.
* `Use`, `Given`, `Event`, `Traffic.run`: What happens.
* `Caller.IsPrompted`: What holds of a caller that connects for a signature.
* `Caller.Sound`, `Caller.Proceeds`: What is known of any caller, and what it does in a segment.

## Theorems

* `Caller.Sound.evolves`: What others do is no matter.
* `Caller.sound_called`, `Caller.Sound.answered`: A caller comes, or goes on.
* `preserves`: What is known of all callers is preserved.
* `Traffic.prompts_retracted`: One prompt for each that connects for a signature, and until when it is
  listed.
* `Traffic.abandoned_prompt`: A prompt that outlives its caller.
-/

namespace Wager.Client.Prompts

/-! ### Requests -/

/-- What callers come for. -/
inductive Request
  | wallet (q : Wallet.Request)
  | signOut
  deriving DecidableEq

/-- What a request comes to. -/
inductive Reply
  | wallet (reply : Wallet.Reply)
  | signedOut

/-- Connecting for a signature. -/
def signing : Request := .wallet (.connect true)

namespace Request

/-- The operation of a request. -/
def operation (setting : Setting) : Request → Operation Reply
  | .wallet q => .wallet <$> q.operation setting
  | .signOut => (fun _ => .signedOut) <$> Client.signOut

/-- Neither a prompt is shown nor are notices cleared. -/
def IsQuiet (q : Request) : Prop := q ≠ signing ∧ q ≠ .signOut

theorem quiet_operation (setting : Setting) {q : Request} (hq : q.IsQuiet) :
    Keeps Quiet (q.operation setting) := by
  -- What has another result is still quiet.
  have hmap : ∀ {α : Type} {r : Operation α} (f : α → Wallet.Reply), Keeps Quiet r →
      Keeps Quiet (Reply.wallet <$> f <$> r) := fun f h c =>
    ((h c).map fun _ _ _ _ h => h).map fun _ _ _ _ h => h
  cases q with
  | wallet q =>
    cases q with
    | connect sign =>
      cases sign with
      | false => exact hmap _ (leavesNotices_connect setting).quiet
      | true => exact absurd rfl hq.1
    | balance known => exact hmap _ (quiet_balance setting known)
    | submit payload => exact hmap _ (leavesNotices_submit setting payload).quiet
    | disconnect => exact hmap _ quiet_disconnect
  | signOut => exact absurd rfl hq.2

theorem prompting_operation (setting : Setting) (c : Client) :
    KeepsAfter (Prompting c.notices.nextId) .called c (signing.operation setting) :=
  ((prompting_connect setting c).map fun _ _ _ _ h => h.map _).map fun _ _ _ _ h => h.map _

theorem clearing_operation (setting : Setting) :
    Keeps Clearing (Request.signOut.operation setting) := fun c =>
  (clearing_signOut c).map fun _ _ _ _ h => h.map _

end Request

/-! ### Events -/

/-- A caller: what it came for, what is left to do, whether it was dropped, what was announced in its
segments, and what was listed before one of them and not after it. -/
structure Caller extends Wager.Caller Request (Operation Reply) where
  isDropped : Bool := false
  announced : List Notices.Event := []
  gone : List Notice := []

/-- A caller that goes on up to its next wait or its end. -/
def Caller.proceed (now : Timestamp) (caller : Caller) (c : Client) : Caller × Client :=
  let (rest, c') := caller.rest.proceed now c
  ({ caller with
    rest
    announced := caller.announced ++ c.notices.said c'.notices
    gone := caller.gone ++ c.notices.lost c'.notices }, c')

/-- A caller that waits is given an answer, unless it was dropped. -/
def Caller.answered? (answers : (w : Wait) → w.Answer) (caller : Caller) : Option Caller :=
  match caller.rest with
  | .wait w next => if caller.isDropped then none else some { caller with rest := next (answers w) }
  | _ => none

/-- A use of the notices. -/
inductive Use
  | add (kind : Notice.Kind) (text : String) (lifetime : Option Nat)
  | remove (id : Nat)
  | clear
  | list

/-- The notices after a use at some time. -/
def Use.applyTo (now : Timestamp) (ns : Notices) : Use → Notices
  | .add kind text lifetime => (ns.add now kind text lifetime).2
  | .remove id => ns.remove id
  | .clear => ns.clear
  | .list => (ns.active now).2

/-- What a caller may be given: an answer to what it waits for, whatever that is, or nothing ever
again. -/
inductive Given
  | answer (answers : (w : Wait) → w.Answer)
  | drop

/-- How callers use a client. -/
def usage (setting : Setting) : Usage Client Caller Request Given Use where
  come now q c := Caller.proceed now { request := q, rest := q.operation setting } c
  goOn? now given caller c :=
    match given with
    | .answer answers => (caller.answered? answers).map fun caller => caller.proceed now c
    | .drop => some ({ caller with isDropped := true }, c)
  change now u c := { c with notices := u.applyTo now c.notices }

/-- A client and its callers, in the order in which they came. -/
abbrev Traffic := Shared Client Caller

/-- What may happen next. -/
abbrev Event := Happening Request Given Use

/-- Caller `n` is answered. -/
abbrev Event.answer (n : Nat) (answers : (w : Wait) → w.Answer) : Event := .goOn n (.answer answers)

/-- Caller `n` is dropped. -/
abbrev Event.drop (n : Nat) : Event := .goOn n .drop

/-- The notices are used. -/
abbrev Event.use (u : Use) : Event := .change u

namespace Traffic

/-- A client to whose person nothing has been said yet. -/
def start (c : Client) : Traffic where
  state := { c with notices := {} }

variable (setting : Setting)

/-- The traffic after some events. -/
def run (t : Traffic) (events : List (Timestamp × Event)) : Traffic := (usage setting).run t events

end Traffic

/-! ### What notices become -/

theorem evolves_use (now : Timestamp) (ns : Notices) (u : Use) : ns.Evolves (u.applyTo now ns) := by
  cases u with
  | add kind text lifetime => exact Notices.evolves_add ns now kind text lifetime
  | remove id => exact Notices.evolves_remove ns id
  | clear => exact Notices.evolves_clear ns
  | list => exact Notices.evolves_active ns now

section

variable {α : Type} {cause : Cause} {c c' : Client} {x : Stop α}

theorem evolves_of_quiet (h : Quiet cause c x c') : c.notices.Evolves c'.notices := by
  rw [show c'.notices = c.notices from h]
  exact .refl _

theorem evolves_of_prompting {id : Nat} (h : Prompting id cause c x c') :
    c.notices.Evolves c'.notices := by
  have hshown : ∀ now, c.notices.Evolves (c.notices.loading now prompt).2 := fun now =>
    Notices.evolves_add c.notices now .loading prompt none
  cases h with
  | shown c c' w now hnotices =>
    rw [hnotices]
    exact hshown now
  | failed c c' a now hnotices =>
    rw [hnotices]
    exact (hshown now).trans (Notices.evolves_remove _ id)
  | waiting c c' w w' answer hnotices =>
    rw [hnotices]
    exact .refl _
  | retracted c c' w answer a hnotices =>
    rw [hnotices]
    exact Notices.evolves_remove _ id

theorem evolves_of_clearing (h : Clearing cause c x c') : c.notices.Evolves c'.notices := by
  cases h with
  | called c c' x hnotices =>
    rw [hnotices]
    exact Notices.evolves_clear _
  | told c c' w answer x hnotices =>
    rw [hnotices]
    exact .refl _

end

/-! ### What is known of a caller -/

namespace Caller

/-- A caller that connects for a signature has shown one prompt, which stays until it is removed. It
has removed it when it has returned, unless that was done before, and it has removed nothing else. -/
structure IsPrompted (ns : Notices) (caller : Caller) (p : Notice) : Prop where
  kind : p.kind = .loading
  text : p.text = prompt
  lifetime : p.lifetime = none
  posted : ns.Posted p
  announced : caller.announced = [.added p] ∨
    caller.HasReturned ∧ caller.announced = [.added p, .removed p.id]
  gone : ∀ n ∈ caller.gone, n = p
  returned : caller.HasReturned → p ∉ ns.items

/-- What is known of a caller: what it may still do to the notices, and what it has done. -/
inductive Sound (ns : Notices) (caller : Caller) : Prop
  | quiet (hrequest : caller.request.IsQuiet) (hkeeps : KeepsOn Quiet caller.rest)
    (hannounced : caller.announced = []) (hgone : caller.gone = [])
  | prompting (p : Notice) (hrequest : caller.request = signing)
    (hkeeps : KeepsOn (Prompting p.id) caller.rest) (hprompted : caller.IsPrompted ns p)
  | clearing (hrequest : caller.request = .signOut) (hkeeps : KeepsOn Clearing caller.rest)

variable {ns ns' : Notices} {caller : Caller}

/-- What others do is no matter. -/
theorem IsPrompted.evolves {p : Notice} (h : caller.IsPrompted ns p) (hevolves : ns.Evolves ns') :
    caller.IsPrompted ns' p where
  kind := h.kind
  text := h.text
  lifetime := h.lifetime
  posted := h.posted.evolves h.lifetime hevolves
  announced := h.announced
  gone := h.gone
  returned hreturned := h.posted.not_mem_of_evolves (h.returned hreturned) hevolves

theorem Sound.evolves (h : caller.Sound ns) (hevolves : ns.Evolves ns') : caller.Sound ns' := by
  cases h with
  | quiet hrequest hkeeps hannounced hgone => exact .quiet hrequest hkeeps hannounced hgone
  | prompting p hrequest hkeeps hprompted =>
    exact .prompting p hrequest hkeeps (hprompted.evolves hevolves)
  | clearing hrequest hkeeps => exact .clearing hrequest hkeeps

/-- Dropping a caller changes nothing that is known of it. -/
theorem Sound.dropped (h : caller.Sound ns) : { caller with isDropped := true }.Sound ns := by
  cases h with
  | quiet hrequest hkeeps hannounced hgone => exact .quiet hrequest hkeeps hannounced hgone
  | prompting p hrequest hkeeps h =>
    exact .prompting p hrequest hkeeps
      ⟨h.kind, h.text, h.lifetime, h.posted, h.announced, h.gone, h.returned⟩
  | clearing hrequest hkeeps => exact .clearing hrequest hkeeps

theorem hasReturned_of_stopsAt {reply : Reply} (h : StopsAt caller.rest (.ends reply)) :
    caller.HasReturned := by
  cases hrest : caller.rest with
  | done reply' => exact ⟨reply', hrest⟩
  | act effect next =>
    rw [hrest] at h
    exact h.elim
  | wait w next =>
    rw [hrest] at h
    exact nomatch h

theorem not_hasReturned_of_stopsAt {w : Wait} (h : StopsAt caller.rest (.waits w)) :
    ¬ caller.HasReturned := by
  rintro ⟨reply, hrest⟩
  rw [hrest] at h
  exact nomatch h

/-! ### What a caller does -/

/-- A caller has gone through one of its segments, and what it has done there is recorded. -/
structure Proceeds (S : Segment Reply) (cause : Cause) (caller : Caller) (c : Client)
    (caller' : Caller) (c' : Client) : Prop where
  request : caller'.request = caller.request
  keeps : KeepsOn S caller'.rest
  moves : ∃ x, StopsAt caller'.rest x ∧ S cause c x c'
  announced : caller'.announced = caller.announced ++ c.notices.said c'.notices
  gone : caller'.gone = caller.gone ++ c.notices.lost c'.notices

theorem proceeds_proceed {S : Segment Reply} {cause : Cause} {c : Client}
    (h : KeepsAfter S cause c caller.rest) (now : Timestamp) :
    caller.Proceeds S cause c (caller.proceed now c).1 (caller.proceed now c).2 where
  request := rfl
  keeps := (h.proceed now).1
  moves := (h.proceed now).2
  announced := rfl
  gone := rfl

namespace Proceeds

variable {cause : Cause} {c c' : Client} {caller' : Caller}

/-- A quiet caller has nothing to record. -/
theorem quiet (h : caller.Proceeds Quiet cause c caller' c') (hrequest : caller.request.IsQuiet)
    (hannounced : caller.announced = []) (hgone : caller.gone = []) :
    c.notices.Evolves c'.notices ∧ caller'.Sound c'.notices := by
  obtain ⟨x, -, hmoves⟩ := h.moves
  have hnotices : c'.notices = c.notices := hmoves
  refine ⟨evolves_of_quiet hmoves, .quiet (h.request ▸ hrequest) h.keeps ?_ ?_⟩
  · rw [h.announced, hannounced, hnotices, Notices.said_self]
    rfl
  · rw [h.gone, hgone, hnotices, Notices.lost_self]
    rfl

/-- A caller that signs out may have anything to record. -/
theorem clearing (h : caller.Proceeds Clearing cause c caller' c')
    (hrequest : caller.request = .signOut) :
    c.notices.Evolves c'.notices ∧ caller'.Sound c'.notices := by
  obtain ⟨x, -, hmoves⟩ := h.moves
  exact ⟨evolves_of_clearing hmoves, .clearing (h.request.trans hrequest) h.keeps⟩

/-- Who connects for a signature shows the prompt at once. -/
theorem signing (h : caller.Proceeds (Prompting c.notices.nextId) .called c caller' c')
    (hnumbered : c.notices.IsNumbered) (hrequest : caller.request = signing)
    (hannounced : caller.announced = []) (hgone : caller.gone = []) :
    c.notices.Evolves c'.notices ∧ caller'.Sound c'.notices := by
  obtain ⟨x, hstops, hmoves⟩ := h.moves
  refine ⟨evolves_of_prompting hmoves, ?_⟩
  have hsaid := h.announced
  have hlost := h.gone
  rw [hannounced, List.nil_append] at hsaid
  rw [hgone, List.nil_append] at hlost
  cases hmoves with
  | shown c c' w now hnotices =>
    refine .prompting (c.notices.next now .loading prompt none) (h.request.trans hrequest) h.keeps ?_
    rw [hnotices] at hsaid hlost ⊢
    refine ⟨rfl, rfl, rfl, Notices.posted_loading hnumbered now prompt, .inl ?_, ?_, ?_⟩
    · exact hsaid.trans (Notices.said_of_append rfl)
    · rw [hlost, Notices.lost_of_subset (List.subset_append_left _ _)]
      exact fun _ h => absurd h List.not_mem_nil
    · exact fun hreturned => absurd hreturned (not_hasReturned_of_stopsAt hstops)
  | failed c c' reply now hnotices =>
    -- The attempt has failed before anybody was asked.
    refine .prompting (c.notices.next now .loading prompt none) (h.request.trans hrequest) h.keeps ?_
    rw [hnotices] at hsaid hlost ⊢
    have hposted := Notices.posted_loading hnumbered now prompt
    refine ⟨rfl, rfl, rfl, hposted.evolves rfl (Notices.evolves_remove _ _), .inr ⟨?_, ?_⟩, ?_, ?_⟩
    · exact hasReturned_of_stopsAt hstops
    · exact hsaid.trans (Notices.said_retracted c.notices now prompt)
    · rw [hlost, Notices.lost_retracted hnumbered now prompt]
      exact fun _ h => absurd h List.not_mem_nil
    · exact fun _ => Notices.not_mem_remove _ (c.notices.next now .loading prompt none)

/-- Who connects for a signature and is answered waits again, or takes the prompt back. -/
theorem prompted {p : Notice} {w : Wait} {answer : w.Answer} {rest : Operation Reply}
    (h : { caller with rest }.Proceeds (Prompting p.id) (.answered w answer) c caller' c')
    (hprompted : caller.IsPrompted c.notices p) (hwaiting : ¬ caller.HasReturned) :
    caller'.IsPrompted c'.notices p := by
  obtain ⟨x, hstops, hmoves⟩ := h.moves
  have hsaid := h.announced
  have hlost := h.gone
  -- It has waited until now, so it has not taken the prompt back yet.
  have hannounced : caller.announced = [.added p] :=
    hprompted.announced.resolve_right fun h => hwaiting h.1
  rw [hannounced] at hsaid
  cases hmoves with
  | waiting c c' w w' answer hnotices =>
    rw [hnotices] at hsaid hlost ⊢
    refine ⟨hprompted.kind, hprompted.text, hprompted.lifetime, hprompted.posted, .inl ?_, ?_, ?_⟩
    · rw [hsaid, Notices.said_self]
      rfl
    · rw [hlost, Notices.lost_self, List.append_nil]
      exact hprompted.gone
    · exact fun hreturned => absurd hreturned (not_hasReturned_of_stopsAt hstops)
  | retracted c c' w answer reply hnotices =>
    rw [hnotices] at hsaid hlost ⊢
    -- Somebody else may have removed the prompt before, and then nothing is announced.
    have hposted := hprompted.posted.evolves hprompted.lifetime
      (Notices.evolves_remove c.notices p.id)
    refine ⟨hprompted.kind, hprompted.text, hprompted.lifetime, hposted, ?_, ?_,
      fun _ => Notices.not_mem_remove _ p⟩
    · rcases Notices.said_remove c.notices p.id with hnothing | hremoved
      · rw [hsaid, hnothing]
        exact .inl rfl
      · rw [hsaid, hremoved]
        exact .inr ⟨hasReturned_of_stopsAt hstops, rfl⟩
    · intro n hn
      rw [hlost, List.mem_append] at hn
      rcases hn with hold | hnew
      · exact hprompted.gone n hold
      · exact hprompted.posted.own n (List.mem_of_mem_filter hnew) (Notices.id_of_mem_lost hnew)

end Proceeds

/-- What a caller does when it comes. -/
theorem sound_called (setting : Setting) (q : Request) {c : Client}
    (hnumbered : c.notices.IsNumbered) (now : Timestamp) :
    let caller : Caller := { request := q, rest := q.operation setting }
    c.notices.Evolves (caller.proceed now c).2.notices ∧
      (caller.proceed now c).1.Sound (caller.proceed now c).2.notices := by
  intro caller
  by_cases hsigning : q = Prompts.signing
  · subst hsigning
    have hkeeps := Request.prompting_operation setting c
    -- The prompt's identifier is the one at hand when the caller comes.
    exact (proceeds_proceed hkeeps now).signing hnumbered rfl rfl rfl
  by_cases hsignOut : q = .signOut
  · subst hsignOut
    have hkeeps := Request.clearing_operation setting c
    exact (proceeds_proceed hkeeps now).clearing rfl
  · have hquiet : q.IsQuiet := ⟨hsigning, hsignOut⟩
    have hkeeps := Request.quiet_operation setting hquiet c
    exact (proceeds_proceed hkeeps now).quiet hquiet rfl rfl

/-- Only a caller that waits is given an answer. -/
theorem eq_of_answered? {answers : (w : Wait) → w.Answer} {caller' : Caller}
    (h : caller.answered? answers = some caller') :
    ∃ w next, caller.rest = .wait w next ∧ caller' = { caller with rest := next (answers w) } := by
  unfold answered? at h
  split at h
  · rename_i w next hrest
    split at h
    · exact nomatch h
    · exact ⟨w, next, hrest, (Option.some.inj h).symm⟩
  · exact nomatch h

/-- What a caller does when it is answered. -/
theorem Sound.answered {c : Client} (h : caller.Sound c.notices) {answers : (w : Wait) → w.Answer}
    {caller' : Caller} (hanswered : caller.answered? answers = some caller') (now : Timestamp) :
    c.notices.Evolves (caller'.proceed now c).2.notices ∧
      (caller'.proceed now c).1.Sound (caller'.proceed now c).2.notices := by
  obtain ⟨w, next, hrest, rfl⟩ := eq_of_answered? hanswered
  -- What is left to do when it is answered keeps to what is left to do when it waits.
  have hproceeds : ∀ {S : Segment Reply}, KeepsOn S caller.rest →
      let caller₁ : Caller := { caller with rest := next (answers w) }
      caller₁.Proceeds S (.answered w (answers w)) c (caller₁.proceed now c).1
        (caller₁.proceed now c).2 := by
    intro S hkeeps
    rw [hrest] at hkeeps
    exact proceeds_proceed (hkeeps (answers w) c) now
  cases h with
  | quiet hrequest hkeeps hannounced hgone =>
    exact (hproceeds hkeeps).quiet hrequest hannounced hgone
  | prompting p hrequest hkeeps hprompted =>
    have hmoved := hproceeds hkeeps
    obtain ⟨x, -, hmoves⟩ := hmoved.moves
    have hwaiting : ¬ caller.HasReturned := by
      rintro ⟨reply, hdone⟩
      exact nomatch hrest.symm.trans hdone
    exact ⟨evolves_of_prompting hmoves, .prompting p (hmoved.request.trans hrequest) hmoved.keeps
      (hmoved.prompted hprompted hwaiting)⟩
  | clearing hrequest hkeeps => exact (hproceeds hkeeps).clearing hrequest

end Caller

/-- Whatever happens, what is known of each caller stays known: the notices evolve. -/
theorem preserves (setting : Setting) :
    (usage setting).Preserves (fun c => c.notices.IsNumbered)
      fun c caller => caller.Sound c.notices where
  come now q c hnumbered := by
    obtain ⟨hevolves, hsound⟩ := Caller.sound_called setting q hnumbered now
    exact ⟨hevolves.numbered hnumbered, hsound, fun _ hother => hother.evolves hevolves⟩
  goOn now given caller c caller' c' hnumbered hcaller hgoes := by
    cases given with
    | answer answers =>
      obtain ⟨caller₁, hanswered, heq⟩ := Option.map_eq_some_iff.mp hgoes
      obtain ⟨hevolves, hsound⟩ := hcaller.answered hanswered now
      rw [heq] at hevolves hsound
      exact ⟨hevolves.numbered hnumbered, hsound, fun _ hother => hother.evolves hevolves⟩
    | drop =>
      cases hgoes
      exact ⟨hnumbered, hcaller.dropped, fun _ hother => hother⟩
  change now u c hnumbered := by
    have hevolves := evolves_use now c.notices u
    exact ⟨hevolves.numbered hnumbered, fun _ hother => hother.evolves hevolves⟩

namespace Traffic

/-- What is known of all callers. -/
abbrev Sound (t : Traffic) : Prop :=
  t.Holds (fun c => c.notices.IsNumbered) fun c caller => caller.Sound c.notices

theorem sound_start (c : Client) : (start c).Sound :=
  Shared.holds_start Notices.isNumbered_empty

variable (setting : Setting)

theorem sound_run {t : Traffic} (h : t.Sound) (events : List (Timestamp × Event)) :
    (t.run setting events).Sound :=
  (preserves setting).run h events

/-! ### Prompts -/

/-- Connecting for a signature shows one prompt, which stays until it is removed, and whoever connects
without one shows none. Both take back nothing else. A listing shows the prompt exactly if it has not
been ended since it was shown, whether its caller waits, was dropped or has returned. And when the
caller has returned, with whatever outcome, it has been ended, and nothing with its identifier is
listed any more. -/
theorem prompts_retracted (c : Client) (events : List (Timestamp × Event)) (caller : Caller)
    (hcaller : caller ∈ ((start c).run setting events).callers) :
    let ns := ((start c).run setting events).state.notices
    (caller.request = .wallet (.connect false) → caller.announced = [] ∧ caller.gone = []) ∧
    (caller.request = .wallet (.connect true) → ∃ p : Notice,
      p.kind = .loading ∧ p.text = prompt ∧ p.lifetime = none ∧
      (caller.announced = [.added p] ∨ caller.announced = [.added p, .removed p.id]) ∧
      (∀ n ∈ caller.gone, n = p) ∧
      (∃ before later, ns.events = before ++ .added p :: later ∧
        ∀ now l, (ns.active now).1 = some l → (p ∈ l ↔ ∀ e ∈ later, ¬ e.Ends p)) ∧
      (caller.HasReturned → ∀ now l, (ns.active now).1 = some l → ∀ n ∈ l, n.id ≠ p.id)) := by
  intro ns
  obtain ⟨n, hn⟩ := List.mem_iff_getElem?.mp hcaller
  have hsound : caller.Sound ns := (sound_run setting (sound_start c) events).callers n caller hn
  -- What a caller has come for tells which kind of caller it is.
  refine ⟨fun hrequest => ?_, fun hrequest => ?_⟩
  · cases hsound with
    | quiet hquiet hkeeps hannounced hgone => exact ⟨hannounced, hgone⟩
    | prompting p hsigning hkeeps hprompted => exact nomatch hrequest.symm.trans hsigning
    | clearing hsignOut hkeeps => exact nomatch hrequest.symm.trans hsignOut
  · cases hsound with
    | quiet hquiet hkeeps hannounced hgone => exact absurd hrequest hquiet.1
    | clearing hsignOut hkeeps => exact nomatch hrequest.symm.trans hsignOut
    | prompting p hsigning hkeeps h =>
      refine ⟨p, h.kind, h.text, h.lifetime, h.announced.imp id And.right, h.gone, ?_, ?_⟩
      · obtain ⟨before, later, hevents, hlisted⟩ := h.posted.since
        refine ⟨before, later, hevents, fun now l hactive => ?_⟩
        rw [Notices.mem_active_iff hactive h.lifetime, hlisted]
      · intro hreturned now l hactive n hn hid
        rw [Notices.eq_of_active hactive] at hn
        have hlisted : n ∈ ns.items := (Notices.fades_active ns now).items.subset hn
        exact h.returned hreturned (h.posted.own n hlisted hid ▸ hlisted)

/-- Somebody connects for a signature, and somebody else without one. A warning is added, and then the
wallet answers the first one too late. -/
def lateAnswer : List (Timestamp × Event) :=
  [(⟨0, 0⟩, .call (.wallet (.connect true))), (⟨0, 0⟩, .call (.wallet (.connect false))),
    (⟨0, 0⟩, .use (.add .warning "look" none)), (⟨0, 0⟩, .answer 0 Wallet.Traffic.unanswered)]

/-- Who was answered too late has returned, and only the warning is listed. -/
theorem prompts_retracted_sample :
    ∃ signer other p l,
      ((start {}).run Wallet.Traffic.openSetting lateAnswer).callers[0]? = some signer ∧
      ((start {}).run Wallet.Traffic.openSetting lateAnswer).callers[1]? = some other ∧
      (((start {}).run Wallet.Traffic.openSetting lateAnswer).state.notices.active ⟨0, 0⟩).1
        = some l ∧ l.map Notice.text = ["look"] ∧ signer.HasReturned ∧
      other.announced = [] ∧ other.gone = [] ∧
      (signer.announced = [.added p] ∨ signer.announced = [.added p, .removed p.id]) ∧
      (∀ n ∈ signer.gone, n = p) ∧ ∀ n ∈ l, n.id ≠ p.id := by
  obtain ⟨signer, hsigner, hsigning, hreturned⟩ : ∃ signer,
      ((start {}).run Wallet.Traffic.openSetting lateAnswer).callers[0]? = some signer ∧
        signer.request = .wallet (.connect true) ∧ signer.HasReturned := ⟨_, rfl, rfl, _, rfl⟩
  obtain ⟨other, hother, hquiet⟩ : ∃ other,
      ((start {}).run Wallet.Traffic.openSetting lateAnswer).callers[1]? = some other ∧
        other.request = .wallet (.connect false) := ⟨_, rfl, rfl⟩
  obtain ⟨l, hactive, htext⟩ : ∃ l,
      (((start {}).run Wallet.Traffic.openSetting lateAnswer).state.notices.active ⟨0, 0⟩).1
        = some l ∧ l.map Notice.text = ["look"] := ⟨_, rfl, rfl⟩
  obtain ⟨p, -, -, -, hannounced, hgone, -, hended⟩ :=
    (prompts_retracted Wallet.Traffic.openSetting {} lateAnswer signer
      (List.mem_of_getElem? hsigner)).2 hsigning
  have hnothing := (prompts_retracted Wallet.Traffic.openSetting {} lateAnswer other
    (List.mem_of_getElem? hother)).1 hquiet
  exact ⟨signer, other, p, l, hsigner, hother, hactive, htext, hreturned, hnothing.1, hnothing.2,
    hannounced, hgone, hended hreturned ⟨0, 0⟩ l hactive⟩

/-- What is not so in every run. Somebody connects for a signature and is dropped while the wallet is
asked to connect. Nobody is left who waits for anything, and the prompt is listed still. -/
theorem abandoned_prompt :
    let now : Timestamp := ⟨0, 0⟩
    let p : Notice := ⟨1, prompt, .loading, now, none⟩
    let t := (start {}).run Wallet.Traffic.openSetting
      [(now, .call (.wallet (.connect true))), (now, .drop 0)]
    t.callers.map (·.request) = [.wallet (.connect true)] ∧
      t.callers.map (·.isDropped) = [true] ∧ t.callers.map (·.announced) = [[.added p]] ∧
      (t.state.notices.active now).1 = some [p] :=
  ⟨rfl, rfl, rfl, rfl⟩

end Traffic

end Wager.Client.Prompts
