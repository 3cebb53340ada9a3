import Wager.Proofs.Wallet.Holdings

/-!
# Keeping account of handles

Which handles a client holds, at every moment and with any number of callers, and what becomes of
those that it does not hold any more.

What was opened is known from the attempts, which are counted, and a handle is its number. So the
books are kept with one equation for each number (`Holdings.Books`): a handle on the wallet that was
opened is held or has been told to disconnect, never both and never twice, and no other handle is
ever held or told anything. Nobody tells a ledger anything; so all that can be said of the ledgers
that are not held any more is how many there are, one at most for each time that somebody has
disconnected.

## Main definitions

* `Holdings.opened`: The handles of a kind that were opened since.
* `Holdings.Books`: The books.
* `Traffic.begun`, `Traffic.calls`: The call that an event begins, and all that were begun.
* `Traffic.Accounted`: What becomes of the handles in a run.

## Theorems

* `Holdings.Books.tries`, `Holdings.Books.handling`: Whatever is done with handles keeps the books.
* `Traffic.Steps.handling`: What an event does with handles.
* `Traffic.books_run`: The books of a run.
* `Traffic.ledger_run`: While nobody disconnects there is one ledger.
* `Traffic.accounted`: What becomes of the handles, in every run.
-/

namespace Wager.Wallet

open Client (Cause Stop)

namespace Holdings

variable {setting : Setting} {h₀ h h' : Holdings} {a b : Attempt}

/-! ### What was opened -/

/-- The handles of a kind that were opened since. -/
def opened (setting : Setting) (h₀ h : Holdings) (a : Attempt) : List Nat :=
  (List.range (h.attemptsAt a)).filter fun n => h₀.attemptsAt a ≤ n && (setting.opening a n).isOk

theorem lt_of_mem_opened {n : Nat} (hn : n ∈ opened setting h₀ h a) : n < h.attemptsAt a :=
  List.mem_range.mp (List.mem_filter.mp hn).1

@[simp] theorem attemptsAt_put (n : Nat) : (h.put n b).attemptsAt a = h.attemptsAt a := by
  cases b <;> rfl

@[simp] theorem opened_put (n : Nat) : opened setting h₀ (h.put n b) a = opened setting h₀ h a := by
  rw [opened, attemptsAt_put, opened]

theorem attemptsAt_tried_self : (h.tried a).attemptsAt a = h.attemptsAt a + 1 := by
  rw [attemptsAt, tried, List.count_append, List.count_singleton_self, attemptsAt]

theorem attemptsAt_tried_of_ne (hne : a ≠ b) : (h.tried a).attemptsAt b = h.attemptsAt b := by
  rw [attemptsAt, tried, List.count_append, List.count_singleton, if_neg, Nat.add_zero, attemptsAt]
  exact fun heq => hne (beq_iff_eq.mp heq)

theorem attemptsAt_le_tried : h.attemptsAt b ≤ (h.tried a).attemptsAt b := by
  rw [attemptsAt, attemptsAt, tried, List.count_append]
  exact Nat.le_add_right _ _

theorem opened_tried_of_ne (hne : a ≠ b) :
    opened setting h₀ (h.tried a) b = opened setting h₀ h b := by
  rw [opened, attemptsAt_tried_of_ne hne, opened]

/-- An attempt that succeeds opens the handle that is known by its number. -/
theorem opened_tried_of_ok (hsince : h₀.attemptsAt a ≤ h.attemptsAt a)
    (hopened : setting.opening a (h.attemptsAt a) = .ok ()) :
    opened setting h₀ (h.tried a) a = opened setting h₀ h a ++ [h.attemptsAt a] := by
  rw [opened, attemptsAt_tried_self, List.range_succ, List.filter_append, opened,
    List.filter_cons_of_pos, List.filter_nil]
  rw [hopened, decide_eq_true hsince]
  rfl

theorem opened_tried_of_error {e : Error}
    (hfailed : setting.opening a (h.attemptsAt a) = .error e) :
    opened setting h₀ (h.tried a) a = opened setting h₀ h a := by
  rw [opened, attemptsAt_tried_self, List.range_succ, List.filter_append, opened,
    List.filter_cons_of_neg, List.filter_nil, List.append_nil]
  rw [hfailed, Bool.and_eq_true]
  exact fun hboth => nomatch hboth.2

/-! ### The books -/

/-- The books of the handles that were opened since, if each handle on the wallet was told to
disconnect as often as `told` says, and somebody has disconnected `left` times. -/
structure Books (setting : Setting) (h₀ : Holdings) (told : Nat → Nat) (left : Nat)
    (h : Holdings) : Prop where
  since : ∀ a, h₀.attemptsAt a ≤ h.attemptsAt a
  wallet : ∀ n, told n + (if h.wallet = some n then 1 else 0) =
    if n ∈ opened setting h₀ h .wallet then 1 else 0
  ledger : (opened setting h₀ h .ledger).length ≤ left + if h.ledger = none then 0 else 1
  openedLedger : ∀ n, h.ledger = some n → n ∈ opened setting h₀ h .ledger

variable {told : Nat → Nat} {left : Nat}

/-- Before anything is done nothing was opened since, if no handle is held. -/
theorem books_start (hwallet : h.wallet = none) (hledger : h.ledger = none) :
    Books setting h (fun _ => 0) 0 h := by
  have hnone : ∀ a, opened setting h h a = [] := by
    intro a
    refine List.filter_eq_nil_iff.mpr fun n hn hopened => ?_
    rw [Bool.and_eq_true, decide_eq_true_iff] at hopened
    exact Nat.not_le.mpr (List.mem_range.mp hn) hopened.1
  refine ⟨fun a => Nat.le_refl _, fun n => ?_, ?_, fun n hn => ?_⟩
  · rw [hnone, hwallet]
    rfl
  · rw [hnone]
    exact Nat.zero_le _
  · exact nomatch hledger.symm.trans hn

/-- The number of the next attempt is not among the handles. -/
theorem Books.told_next (hbooks : Books setting h₀ told left h) (hnone : h.wallet = none) :
    told (h.attemptsAt .wallet) = 0 := by
  have hnext := hbooks.wallet (h.attemptsAt .wallet)
  rw [hnone, if_neg nofun, if_neg fun hmem => Nat.lt_irrefl _ (lt_of_mem_opened hmem)] at hnext
  exact hnext

theorem Books.attempts (hbooks : Books setting h₀ told left h)
    (hattempts : Attempts setting h h') : Books setting h₀ told left h' := by
  cases hattempts with
  | opened a hnone hopened =>
    have hsince : ∀ b, h₀.attemptsAt b ≤ ((h.tried a).put (h.attemptsAt a) a).attemptsAt b := by
      intro b
      rw [attemptsAt_put]
      exact Nat.le_trans (hbooks.since b) attemptsAt_le_tried
    cases a with
    | wallet =>
      refine ⟨hsince, fun n => ?_, ?_, fun n hn => ?_⟩
      · rw [opened_put, opened_tried_of_ok (hbooks.since .wallet) hopened]
        have hheld : ((h.tried .wallet).put (h.attemptsAt .wallet) .wallet).wallet =
            some (h.attemptsAt .wallet) := rfl
        rw [hheld]
        by_cases hn : n = h.attemptsAt .wallet
        · -- The new handle is held, and nobody has told it anything.
          subst hn
          rw [hbooks.told_next hnone, if_pos rfl, if_pos (List.mem_append_right _ (by simp))]
        · have hold := hbooks.wallet n
          rw [show h.wallet = none from hnone, if_neg nofun] at hold
          rw [if_neg fun heq => hn (Option.some.inj heq).symm, hold]
          simp only [List.mem_append, List.mem_singleton, hn, or_false]
      · rw [opened_put, opened_tried_of_ne Attempt.noConfusion]
        exact hbooks.ledger
      · rw [opened_put, opened_tried_of_ne Attempt.noConfusion]
        exact hbooks.openedLedger n hn
    | ledger =>
      refine ⟨hsince, fun n => ?_, ?_, fun n hn => ?_⟩
      · rw [opened_put, opened_tried_of_ne Attempt.noConfusion]
        exact hbooks.wallet n
      · -- There was none, so there is one more now than there could be before.
        have hbefore := hbooks.ledger
        rw [if_pos (show h.ledger = none from hnone)] at hbefore
        rw [opened_put, opened_tried_of_ok (hbooks.since .ledger) hopened, List.length_append]
        exact Nat.add_le_add_right hbefore 1
      · rw [opened_put, opened_tried_of_ok (hbooks.since .ledger) hopened, ← Option.some.inj hn]
        exact List.mem_append_right _ (List.mem_singleton_self _)
  | failed a e hnone hfailed =>
    -- Nothing was opened, of either kind.
    have hopened : ∀ b, opened setting h₀ (h.tried a) b = opened setting h₀ h b := by
      intro b
      by_cases hab : a = b
      · subst hab
        exact opened_tried_of_error hfailed
      · exact opened_tried_of_ne hab
    refine ⟨fun b => Nat.le_trans (hbooks.since b) attemptsAt_le_tried, fun n => ?_, ?_, fun n => ?_⟩
    · rw [hopened]
      exact hbooks.wallet n
    · rw [hopened]
      exact hbooks.ledger
    · rw [hopened]
      exact hbooks.openedLedger n

theorem Books.tries (hbooks : Books setting h₀ told left h) (htries : Tries setting h h') :
    Books setting h₀ told left h' := by
  induction htries with
  | refl => exact hbooks
  | tail _ hattempts ih => exact ih.attempts hattempts

/-- Whatever a move does with handles keeps the books, if what it asks is written down. -/
theorem Books.handling {isLeaving : Bool} {x : Option Wait}
    (hbooks : Books setting h₀ told left h)
    (hhandling : Handling setting (isLeaving = true) h x h') :
    Books setting h₀ (fun n => told n + x.toList.countP (isTelling n)) (left + isLeaving.toNat)
      h' := by
  cases hhandling with
  | tries _ hstays htries htold hledger =>
    have hnone : ∀ n, x.toList.countP (isTelling n) = 0 := by
      intro n
      refine List.countP_eq_zero.mpr fun w hw => ?_
      rw [htold w n (Option.mem_toList.mp hw)]
      exact Bool.false_ne_true
    simp only [hnone, Nat.add_zero, Bool.eq_false_iff.mpr hstays, Bool.toNat_false]
    exact hbooks.tries htries
  | forgets hleaves htold =>
    refine ⟨hbooks.since, fun n => ?_, ?_, nofun⟩
    · -- Who has held the handle tells it now, and does not hold it any more.
      refine Eq.trans ?_ (hbooks.wallet n)
      have htelling : x.toList.countP (isTelling n) = if h.wallet = some n then 1 else 0 := by
        rw [htold]
        cases h.wallet with
        | none => rfl
        | some handle =>
          simp only [Option.map_some, Option.toList_some, List.countP_singleton, isTelling,
            beq_iff_eq, Option.some.injEq]
      rw [htelling]
      rfl
    · have hbefore := hbooks.ledger
      rw [hleaves, Bool.toNat_true]
      refine Nat.le_trans hbefore (Nat.add_le_add_left ?_ left)
      split <;> decide

end Holdings

open Holdings (Handling isTelling ledger?)

variable {setting : Setting}

/-! ### What events do -/

/-- What a caller waits for, if it waits. -/
def Caller.waitsFor? (caller : Caller) : Option Wait :=
  match caller.rest with
  | .wait w _ => some w
  | _ => none

theorem Caller.waitsFor?_eq {caller : Caller} {x : Stop Reply}
    (h : Client.StopsAt caller.rest x) : caller.waitsFor? = x.wait? := by
  unfold waitsFor?
  cases hrest : caller.rest with
  | done reply =>
    rw [hrest] at h
    rw [show x = .ends reply from h]
    rfl
  | act effect next =>
    rw [hrest] at h
    exact h.elim
  | wait w next =>
    rw [hrest] at h
    rw [show x = .waits w from h]
    rfl

/-- Somebody comes to disconnect. -/
def Event.isLeaving : Event → Bool
  | .call .disconnect => true
  | _ => false

namespace Traffic

/-- What is asked by the caller that comes or goes on with an event: what it waits for then. -/
def begun (t t' : Traffic) : Event → Option Wait
  | .call _ => t'.callers[t.callers.length]?.bind Caller.waitsFor?
  | .answer n _ => (t.callers[n]?.bind Caller.waitsFor?).bind fun _ =>
    t'.callers[n]?.bind Caller.waitsFor?

/-- What an event does with handles. -/
theorem Steps.handling {t t' : Traffic} {e : Timestamp × Event} (h : t.Steps setting e t') :
    Handling setting (e.2.isLeaving = true) (holdings t.state) (t.begun t' e.2)
      (holdings t'.state) := by
  cases h with
  | called now caller x client hstops hmoves =>
    have hbegun : t.begun { state := client, callers := t.callers ++ [caller] } (.call caller.request) =
        x.wait? := by
      rw [begun, List.getElem?_concat_length, Option.bind_some, Caller.waitsFor?_eq hstops]
    rw [hbegun]
    refine hmoves.handling.congr ?_
    cases caller.request with
    | disconnect => exact ⟨fun _ => rfl, fun _ => ⟨rfl, rfl⟩⟩
    | _ => exact ⟨nofun, nofun⟩
  | answered now n answers w before after x client hbefore hwaits hrequest hstops hmoves =>
    have hlt := (List.getElem?_eq_some_iff.mp hbefore).1
    have hbegun : t.begun { state := client, callers := t.callers.set n after } (.answer n answers) =
        x.wait? := by
      rw [begun, hbefore, Option.bind_some, Caller.waitsFor?_eq hwaits, List.getElem?_set_self hlt,
        Option.bind_some, Caller.waitsFor?_eq hstops]
      rfl
    rw [hbegun]
    exact hmoves.handling.congr ⟨nofun, nofun⟩
  | idle now n answers hidle =>
    -- Nobody waits there, so nobody has come to wait either.
    have hbegun : t.begun t (.answer n answers) = none := by
      rw [begun, Option.bind_eq_none_iff]
      intro w hw
      obtain ⟨caller, hcaller, hwaits⟩ := Option.bind_eq_some_iff.mp hw
      refine absurd ⟨caller, hcaller, ?_⟩ (hidle w)
      unfold Caller.waitsFor? at hwaits
      split at hwaits
      · rename_i hrest
        rw [hrest, ← Option.some.inj hwaits]
        rfl
      · exact nomatch hwaits
    rw [hbegun]
    exact Holdings.Tries.handling .refl nofun nofun nofun

variable (setting)

/-- All that is asked on the way, in order. -/
def calls (t : Traffic) : List (Timestamp × Event) → List Wait
  | [] => []
  | e :: events => (t.begun (t.step setting e) e.2).toList ++ (t.step setting e).calls events

variable {setting}

/-- The books of a run. -/
theorem books_run {t : Traffic} (hsound : t.Sound setting) {h₀ : Holdings} {told : Nat → Nat}
    {left : Nat} (hbooks : Holdings.Books setting h₀ told left (holdings t.state))
    (events : List (Timestamp × Event)) :
    Holdings.Books setting h₀ (fun n => told n + (t.calls setting events).countP (isTelling n))
      (left + events.countP (·.2.isLeaving)) (holdings (t.run setting events).state) := by
  induction events generalizing t told left with
  | nil => exact hbooks
  | cons e events ih =>
    have hstep := ih (hsound.steps e).2 (hbooks.handling (hsound.steps e).1.handling)
    simp only [calls, List.countP_append, List.countP_cons, ← Nat.add_assoc]
    rw [Nat.add_right_comm]
    have hleft : (if e.2.isLeaving then 1 else 0) = e.2.isLeaving.toNat := by
      cases e.2.isLeaving <;> rfl
    rw [hleft]
    exact hstep

/-! ### The ledger -/

/-- While nobody disconnects, a ledger that is held stays the same, and every call is made with the
one that is held in the end. -/
theorem ledger_run {t : Traffic} (hsound : t.Sound setting) {events : List (Timestamp × Event)}
    (hstays : ∀ e ∈ events, e.2.isLeaving = false) :
    (∀ ledger, t.state.wallet.ledger = some ledger →
      (t.run setting events).state.wallet.ledger = some ledger) ∧
    ∀ w ∈ t.calls setting events, ∀ ledger, ledger? w = some ledger →
      (t.run setting events).state.wallet.ledger = some ledger := by
  induction events generalizing t with
  | nil => exact ⟨fun ledger hheld => hheld, fun w hw => absurd hw List.not_mem_nil⟩
  | cons e events ih =>
    rw [List.forall_mem_cons] at hstays
    obtain ⟨hkept, hcalls⟩ := ih (hsound.steps e).2 hstays.2
    obtain ⟨htries, hledger⟩ :=
      (hsound.steps e).1.handling.stays (Bool.eq_false_iff.mp hstays.1)
    refine ⟨fun ledger hheld => ?_, fun w hw ledger hsome => ?_⟩
    · exact hkept ledger (htries.held (a := .ledger) hheld)
    · rw [calls, List.mem_append, Option.mem_toList] at hw
      rcases hw with hnow | hlater
      · exact hkept ledger (hledger w ledger hnow hsome)
      · exact hcalls w hlater ledger hsome

/-! ### Runs -/

theorem run_append (t : Traffic) (before later : List (Timestamp × Event)) :
    t.run setting (before ++ later) = (t.run setting before).run setting later :=
  (usage setting).run_append t before later

/-- The handles of a kind that were opened in a run. -/
def opened (setting : Setting) (c : Client) (events : List (Timestamp × Event)) (a : Attempt) :
    List Nat :=
  Holdings.opened setting (holdings (start c).state)
    (holdings ((start c).run setting events).state) a

/-- How often a handle on the wallet was told to disconnect in a run. -/
def told (setting : Setting) (c : Client) (events : List (Timestamp × Event)) (handle : Nat) : Nat :=
  ((start c).calls setting events).countP (isTelling handle)

/-- What becomes of the handles in a run of a client's wallet. -/
structure Accounted (setting : Setting) (c : Client) (events : List (Timestamp × Event)) :
    Prop where
  /-- A handle on the wallet that was opened is the one that is held, and was never told to
  disconnect, or it is not held any more, and was told so exactly once. -/
  wallet : ∀ handle ∈ opened setting c events .wallet,
    ((start c).run setting events).state.wallet.provider = some handle ∧
        told setting c events handle = 0 ∨
      ((start c).run setting events).state.wallet.provider ≠ some handle ∧
        told setting c events handle = 1
  /-- What was never opened is not held, and is told nothing. -/
  unopened : ∀ handle ∉ opened setting c events .wallet,
    ((start c).run setting events).state.wallet.provider ≠ some handle ∧
      told setting c events handle = 0
  /-- The ledger that is held was opened, -/
  openedLedger : ∀ ledger, ((start c).run setting events).state.wallet.ledger = some ledger →
    ledger ∈ opened setting c events .ledger
  /-- and no more were opened than one, and one for each time that somebody disconnected. -/
  ledgers : (opened setting c events .ledger).length ≤ 1 + events.countP (·.2.isLeaving)
  /-- Every event gives up all handles, when somebody comes to disconnect, or makes attempts to open
  handles of which none is held, and a failed attempt changes no handle. -/
  handling : ∀ before e later, events = before ++ e :: later →
    let t := (start c).run setting before
    let t' := (start c).run setting (before ++ [e])
    Handling setting (e.2.isLeaving = true) (holdings t.state) (t.begun t' e.2)
      (holdings t'.state)
  /-- While nobody disconnects the ledger that is held stays the same, and all calls are made with
  the same one. -/
  sameLedger : ∀ before between, events = before ++ between →
    (∀ e ∈ between, e.2.isLeaving = false) →
    (∀ ledger, ((start c).run setting before).state.wallet.ledger = some ledger →
      ((start c).run setting events).state.wallet.ledger = some ledger) ∧
    ∀ w ∈ ((start c).run setting before).calls setting between, ∀ ledger,
      ledger? w = some ledger → ((start c).run setting events).state.wallet.ledger = some ledger

/-- No handle is lost and none is closed twice, whoever comes for what, whatever is answered and in
whatever order, and however the attempts to open handles end. -/
theorem accounted (setting : Setting) (c : Client) (events : List (Timestamp × Event)) :
    Accounted setting c events := by
  have hstart : Holdings.Books setting (holdings (start c).state) (fun _ => 0) 0
      (holdings (start c).state) := Holdings.books_start rfl rfl
  have hbooks := books_run (sound_start c) hstart events
  simp only [Nat.zero_add] at hbooks
  have hwallet : ∀ handle, told setting c events handle +
      (if ((start c).run setting events).state.wallet.provider = some handle then 1 else 0) =
        if handle ∈ opened setting c events .wallet then 1 else 0 := hbooks.wallet
  refine ⟨?_, ?_, hbooks.openedLedger, ?_, ?_, ?_⟩
  · intro handle hopened
    have hequation := hwallet handle
    rw [if_pos hopened] at hequation
    -- The sum is one, so either it is held or it was told to close, once.
    by_cases hheld : ((start c).run setting events).state.wallet.provider = some handle
    · rw [if_pos hheld] at hequation
      exact .inl ⟨hheld, Nat.succ.inj hequation⟩
    · rw [if_neg hheld] at hequation
      exact .inr ⟨hheld, hequation⟩
  · intro handle hopened
    have hequation := hwallet handle
    rw [if_neg hopened] at hequation
    obtain ⟨htold, hheld⟩ := Nat.add_eq_zero_iff.mp hequation
    refine ⟨fun hsome => ?_, htold⟩
    rw [if_pos hsome] at hheld
    exact nomatch hheld
  · have hledger : (opened setting c events .ledger).length ≤ events.countP (·.2.isLeaving) +
        if ((start c).run setting events).state.wallet.ledger = none then 0 else 1 := hbooks.ledger
    split at hledger
    · omega
    · omega
  · rintro before e later rfl t t'
    have hsound : t.Sound setting := sound_run (sound_start c) before
    have hstep : t' = t.step setting e := run_append _ before [e]
    rw [hstep]
    exact (hsound.steps e).1.handling
  · rintro before between rfl hstays
    have hsound : ((start c).run setting before).Sound setting := sound_run (sound_start c) before
    rw [run_append]
    exact ledger_run hsound hstays

end Traffic

end Wager.Wallet
