import HLiquity.TransactionMonitor
import Mathlib.Logic.Relation

/-!
# The lifecycle of a transaction

A transaction waits for the approval of the user, then for its receipt, and its end is shown
for five seconds. The context follows this lifecycle as long as every click is rendered before
anything else happens, no click is made while another transaction is waited for, and the store
stays the same during a wait. A click during a wait is lost at its render.
-/

namespace HLiquity

namespace TransactionMonitor

/-- One edge of the lifecycle. -/
inductive TransactionState.Follows : TransactionState → TransactionState → Prop where
  | request {state : TransactionState} (h : state.isWaiting = false) (id : String) :
      Follows state (.waitingForApproval id)
  | approve (id : String) (tx : Nat) :
      Follows (.waitingForApproval id) (.waitingForConfirmation id tx)
  | deny (id : String) : Follows (.waitingForApproval id) (.cancelled id)
  | refuse (id error : String) : Follows (.waitingForApproval id) (.failed id error)
  | confirm (id : String) (tx : Nat) :
      Follows (.waitingForConfirmation id tx) (.confirmedOneShot id)
  | revert (id : String) (tx : Nat) (error : String) :
      Follows (.waitingForConfirmation id tx) (.failed id error)
  | replace (id : String) (tx : Nat) : Follows (.waitingForConfirmation id tx) (.cancelled id)
  | settle (id : String) : Follows (.confirmedOneShot id) (.confirmed id)
  | forget {state : TransactionState} (h : state.isSettled = true) : Follows state .idle

namespace TransactionSystem

open EffectSlot

variable {this : TransactionSystem}

/-- A requested approval has been rendered. -/
def ApprovalShown (this : TransactionSystem) : Prop :=
  this.transactionState.type = .waitingForApproval → this.shown = some this.transactionState

instance (this : TransactionSystem) : Decidable this.ApprovalShown :=
  inferInstanceAs (Decidable (_ → _))

/-- Every click has an id and is rendered before anything else happens, it is made while no
transaction is shown as waiting, and the store stays the same while a receipt is waited for. -/
def Orderly (this : TransactionSystem) : TransactionEvent → Prop
  | .send id => this.ApprovalShown ∧ id ≠ "" ∧
      ∃ shown ∈ this.shown, shown.isWaiting = false
  | .render store => this.confirmations.running.any Confirmation.live = true →
      this.rendered.map Prod.fst = some store
  | .sent _ _ => this.ApprovalShown
  | .receipt _ _ => this.ApprovalShown
  | .timeout _ => this.ApprovalShown

instance (this : TransactionSystem) : (event : TransactionEvent) → Decidable (this.Orderly event)
  | .send id => inferInstanceAs (Decidable (this.ApprovalShown ∧ id ≠ "" ∧
      ∃ shown ∈ this.shown, shown.isWaiting = false))
  | .render store => inferInstanceAs (Decidable
      (this.confirmations.running.any Confirmation.live = true →
        this.rendered.map Prod.fst = some store))
  | .sent _ _ => inferInstanceAs (Decidable this.ApprovalShown)
  | .receipt _ _ => inferInstanceAs (Decidable this.ApprovalShown)
  | .timeout _ => inferInstanceAs (Decidable this.ApprovalShown)

/-- A render of a state that nothing is to be waited for ends the wait. -/
theorem Attends.confirmationChanged_of_live (h : this.Attends)
    (hlive : this.confirmations.running.any Confirmation.live = true)
    (hwatched : this.transactionState.watched = none) (store : Nat) :
    this.confirmationChanged store = true := by
  by_contra hsame
  have hconfirming := h.confirming
  rw [watched_of_same (Bool.eq_false_iff.mpr hsame), hwatched,
    Option.map_eq_none_iff] at hconfirming
  rw [hconfirming] at hlive
  cases hlive

/-- In every order of events a click on a transaction is shown as waiting for its approval
exactly if no receipt is waited for, and otherwise it is shown as idle. -/
theorem click_shown_run (events : List TransactionEvent) (id : String) (store : Nat) :
    let this := EventRun.run step initial events
    ((this.step (.send id)).step (.render store)).transactionState =
      if this.confirmations.running.any Confirmation.live then .idle
      else .waitingForApproval id := by
  intro this
  have h : (this.sendTransaction id).Attends := (attends_run events).step (.send id)
  have hcleaned := h.cleanUpConfirmation.2.2
  have hkept : ((this.sendTransaction id).render store).transactionState =
      if (this.sendTransaction id).confirmationChanged store then
        (this.sendTransaction id).cleanUpConfirmation.transactionState
      else .waitingForApproval id := by
    rw [render_transactionState]
    exact ite_self _
  refine hkept.trans ?_
  cases hchanged : (this.sendTransaction id).confirmationChanged store with
  | true => exact hcleaned
  | false =>
      have hdead : this.confirmations.running.any Confirmation.live = false := by
        by_contra hlive
        have hforced := h.confirmationChanged_of_live (eq_true_of_ne_false hlive) rfl store
        rw [hchanged] at hforced
        cases hforced
      rw [hdead]
      rfl

/-- A call of `send` that has not returned. -/
def Pending (this : TransactionSystem) (number : Nat) (id : String) : Prop :=
  this.sends[number]? = some (SendCall.mk id false)

/-- What the state tells about the calls and effects after orderly events. -/
structure Ordered (this : TransactionSystem) : Prop where
  attends : this.Attends
  named : this.transactionState.id ≠ some ""
  asked : ∀ number id, this.Pending number id → this.transactionState = .waitingForApproval id
  once : ∀ number other id otherId, this.Pending number id → this.Pending other otherId →
    number = other
  approves : ∀ id, this.transactionState = .waitingForApproval id → ∃ number, this.Pending number id
  waits : ∀ confirmation ∈ this.confirmations.running, confirmation.live = true →
    this.transactionState = .waitingForConfirmation confirmation.id confirmation.tx
  received : ∀ confirmation ∈ this.confirmations.running, confirmation.finished = true →
    this.transactionState.type ≠ .waitingForConfirmation
  busy : this.transactionState.type = .waitingForConfirmation →
    ∃ shown ∈ this.shown, shown.isWaiting = true
  forgets : ∀ forgetting ∈ this.forgettings.running, forgetting.live = true →
    this.transactionState.isSettled = true ∨ ¬ this.ApprovalShown
  elapsed : ∀ forgetting ∈ this.forgettings.running, forgetting.elapsed = true →
    this.transactionState.isSettled = false
  oneShot : ∀ id, this.shown = some (.confirmedOneShot id) →
    this.transactionState.type ≠ .confirmedOneShot

theorem ordered_initial : Ordered initial where
  attends := attends_initial
  named h := by cases h
  asked number id h := by simp [Pending, initial] at h
  once number other id otherId h := by simp [Pending, initial] at h
  approves id h := by cases h
  waits confirmation h := by cases h
  received confirmation h := by cases h
  busy h := by cases h
  forgets forgetting h := by cases h
  elapsed forgetting h := by cases h
  oneShot id h := by cases h

/-- While a state without a transaction is shown, no receipt is waited for. -/
theorem Attends.not_confirming (h : this.Attends) {state : TransactionState}
    (hshown : this.shown = some state) (hwatched : state.watched = none) :
    this.confirmations.running = none := by
  have hconfirming := h.confirming
  rwa [hshown, Option.bind_some, hwatched, Option.map_eq_none_iff] at hconfirming

/-- While a state that is not settled is shown, none is about to be forgotten. -/
theorem Attends.not_forgetting (h : this.Attends) {state : TransactionState}
    (hshown : this.shown = some state) (hsettled : state.isSettled = false) :
    this.forgettings.running = none := by
  have hforgetting := h.forgetting
  rwa [hshown, Option.any_some, hsettled, Option.isSome_eq_false_iff,
    Option.isNone_iff_eq_none] at hforgetting

theorem Ordered.not_pending (h : this.Ordered) (happroval : this.ApprovalShown)
    {shown : TransactionState} (hshown : this.shown = some shown)
    (hwaiting : shown.isWaiting = false) (number : Nat) (id : String) :
    ¬ this.Pending number id := by
  intro hpending
  have hstate := h.asked number id hpending
  have hsame := happroval (congrArg TransactionState.type hstate)
  rw [hshown, hstate, Option.some_inj] at hsame
  rw [hsame] at hwaiting
  cases hwaiting

theorem Ordered.send (h : this.Ordered) {id : String} (horderly : this.Orderly (.send id)) :
    (this.sendTransaction id).Ordered := by
  obtain ⟨happroval, hid, shown, hshown, hwaiting⟩ := horderly
  have hnone := h.not_pending happroval hshown hwaiting
  have hquiet : this.confirmations.running = none := by
    apply h.attends.not_confirming hshown
    cases shown with
    | waitingForConfirmation id tx => cases hwaiting
    | _ => rfl
  -- the only call that has not returned is the new one
  have hpending (number : Nat) (other : String) (hother :
      (this.sendTransaction id).Pending number other) :
      number = this.sends.length ∧ other = id := by
    unfold Pending sendTransaction at hother
    rw [List.getElem?_append] at hother
    split at hother
    · exact absurd hother (hnone number other)
    · have hlt := (List.getElem?_eq_some_iff.mp hother).1
      rw [List.length_singleton] at hlt
      have hlength : number - this.sends.length = 0 := by omega
      rw [hlength] at hother
      cases hother
      exact ⟨by omega, rfl⟩
  have hunshown : ¬ (this.sendTransaction id).ApprovalShown := by
    intro hsame
    have heq : this.shown = some (.waitingForApproval id) := hsame rfl
    rw [hshown, Option.some_inj] at heq
    rw [heq] at hwaiting
    cases hwaiting
  constructor
  case attends => exact h.attends.step (.send id)
  case named => exact fun heq => hid (Option.some.inj heq)
  case asked =>
    intro number other hother
    rw [(hpending number other hother).2]
    rfl
  case once =>
    intro number other first second hfirst hsecond
    exact (hpending number first hfirst).1.trans (hpending other second hsecond).1.symm
  case approves =>
    intro other hother
    cases hother
    exact ⟨this.sends.length, by simp [Pending, sendTransaction]⟩
  case waits =>
    intro confirmation hrunning
    rw [show (this.sendTransaction id).confirmations = this.confirmations from rfl, hquiet]
      at hrunning
    cases hrunning
  case received => exact fun _ _ _ => nofun
  case busy => nofun
  case forgets => exact fun _ _ _ => .inr hunshown
  case elapsed => exact fun _ _ _ => rfl
  case oneShot => exact fun _ _ => nofun

theorem Ordered.sent (h : this.Ordered) (happroval : this.ApprovalShown) (number : Nat)
    (outcome : SendOutcome) : (this.sent number outcome).Ordered := by
  unfold TransactionSystem.sent
  split
  · next id hpending =>
      have hstate := h.asked number id hpending
      have hshown : this.shown = some (.waitingForApproval id) :=
        hstate ▸ happroval (congrArg TransactionState.type hstate)
      have hquiet := h.attends.not_confirming hshown rfl
      have hkept := h.attends.not_forgetting hshown rfl
      -- no other call has not returned
      have hnone (other : Nat) (otherId : String) :
          (this.sends.set number ⟨id, true⟩)[other]? ≠ some ⟨otherId, false⟩ := by
        intro hother
        rw [List.getElem?_set] at hother
        split at hother
        · split at hother <;> cases hother
        · next hne => exact hne (h.once number other id otherId hpending hother)
      constructor
      case attends => exact { h.attends with }
      case named =>
        have hnamed := h.named
        rw [hstate] at hnamed
        change (outcome.state id).id ≠ some ""
        rw [SendOutcome.state_id]
        exact hnamed
      case asked => exact fun other otherId hother => absurd hother (hnone other otherId)
      case once => exact fun first _ firstId _ hfirst _ => absurd hfirst (hnone first firstId)
      case approves => cases outcome <;> nofun
      case waits =>
        intro confirmation hrunning
        rw [hquiet] at hrunning
        cases hrunning
      case received =>
        intro confirmation hrunning
        rw [hquiet] at hrunning
        cases hrunning
      case busy => exact fun _ => ⟨_, hshown, rfl⟩
      case forgets =>
        intro forgetting hrunning
        rw [hkept] at hrunning
        cases hrunning
      case elapsed =>
        intro forgetting hrunning
        rw [hkept] at hrunning
        cases hrunning
      case oneShot => cases outcome <;> exact fun _ _ => nofun
  · exact h

theorem Ordered.receipt (h : this.Ordered) (number : Nat) (outcome : ReceiptOutcome) :
    (this.receipt number outcome).Ordered := by
  have hattends := h.attends.receipt number outcome
  unfold TransactionSystem.receipt at hattends ⊢
  cases hget : this.confirmations.instances[number]? with
  | none => exact h
  | some confirmation =>
      simp only [hget] at hattends ⊢
      cases hlive : confirmation.live with
      | false => exact h
      | true =>
          rw [hlive] at hattends
          simp only [if_true] at hattends ⊢
          obtain ⟨hcurrent, hrunning⟩ := h.attends.running_of_live hget hlive
          obtain ⟨hshown, hid⟩ := h.attends.shown_of_running hrunning
          have hkept := h.attends.not_forgetting hshown rfl
          have hstate := h.waits confirmation hrunning hlive
          have hput := Slot.running_put_of_current h.attends.confirmations hcurrent
            { confirmation with finished := true }
          -- a call that has not returned would still show its approval
          have hnone (other : Nat) (otherId : String) : ¬ this.Pending other otherId := by
            intro hpending
            have hasked := h.asked other otherId hpending
            rw [hstate] at hasked
            cases hasked
          constructor
          case attends => exact hattends
          case named => simpa using hid
          case asked => exact fun other otherId hother => absurd hother (hnone other otherId)
          case once => exact fun first _ firstId _ hfirst _ => absurd hfirst (hnone first firstId)
          case approves =>
            intro id hid
            cases outcome <;> cases hid
          case waits =>
            intro other hother hover
            rw [hput, Option.mem_some_iff] at hother
            rw [← hother] at hover
            simp [Confirmation.live] at hover
          case received =>
            intro other _ _ htype
            cases outcome <;> cases htype
          case busy =>
            intro htype
            cases outcome <;> cases htype
          case forgets =>
            intro forgetting hforgetting
            rw [hkept] at hforgetting
            cases hforgetting
          case elapsed =>
            intro forgetting hforgetting
            rw [hkept] at hforgetting
            cases hforgetting
          case oneShot =>
            intro other hother
            have heq := hshown.symm.trans hother
            cases heq

theorem Ordered.timeout (h : this.Ordered) (happroval : this.ApprovalShown) (number : Nat) :
    (this.timeout number).Ordered := by
  have hattends := h.attends.timeout number
  unfold TransactionSystem.timeout at hattends ⊢
  cases hget : this.forgettings.instances[number]? with
  | none => exact h
  | some forgetting =>
      simp only [hget] at hattends ⊢
      cases hlive : forgetting.live with
      | false => exact h
      | true =>
          rw [hlive] at hattends
          simp only [if_true] at hattends ⊢
          have hcurrent := h.attends.forgettings.only number forgetting hget hlive
          have hrunning := h.attends.forgettings.running_eq hget hlive
          obtain ⟨shown, hshown, hsettled⟩ := h.attends.settled_of_running hrunning
          have hstate := (h.forgets forgetting hrunning hlive).resolve_right
            (not_not.mpr happroval)
          have hquiet : this.confirmations.running = none := by
            apply h.attends.not_confirming hshown
            cases shown with
            | waitingForConfirmation id tx => cases hsettled
            | _ => rfl
          have hput := Slot.running_put_of_current h.attends.forgettings hcurrent
            { forgetting with elapsed := true }
          have hnone (other : Nat) (otherId : String) : ¬ this.Pending other otherId := by
            intro hpending
            rw [h.asked other otherId hpending] at hstate
            cases hstate
          constructor
          case attends => exact hattends
          case named => nofun
          case asked => exact fun other otherId hother => absurd hother (hnone other otherId)
          case once => exact fun first _ firstId _ hfirst _ => absurd hfirst (hnone first firstId)
          case approves => nofun
          case waits =>
            intro confirmation hconfirmation
            rw [hquiet] at hconfirmation
            cases hconfirmation
          case received => exact fun _ _ _ => nofun
          case busy => nofun
          case forgets =>
            intro other hother hover
            rw [hput, Option.mem_some_iff] at hother
            rw [← hother] at hover
            simp [Forgetting.live] at hover
          case elapsed => exact fun _ _ _ => rfl
          case oneShot => exact fun _ _ => nofun

/-- An orderly render does not drop a transaction. -/
theorem Ordered.cleaned (h : this.Ordered) {store : Nat}
    (horderly : this.Orderly (.render store)) (hchanged : this.confirmationChanged store = true) :
    this.cleanUpConfirmation.transactionState = this.transactionState := by
  rw [h.attends.cleanUpConfirmation.2.2]
  apply if_neg
  intro hlive
  obtain ⟨confirmation, hrunning, hgoes⟩ := (Option.any_eq_true _ _).mp hlive
  have hstate := h.waits confirmation hrunning hgoes
  obtain ⟨hshown, _⟩ := h.attends.shown_of_running hrunning
  obtain ⟨rendered, hrendered, hsame⟩ := Option.map_eq_some_iff.mp hshown
  have hstore := horderly hlive
  rw [hrendered, Option.map_some, Option.some_inj] at hstore
  simp [confirmationChanged, confirmationDeps, hrendered, hstore, hsame, hstate] at hchanged

/-- An orderly render changes the state of a confirmed transaction only. -/
theorem Ordered.render_state (h : this.Ordered) {store : Nat}
    (horderly : this.Orderly (.render store)) : (this.render store).transactionState =
      match this.transactionState with
      | .confirmedOneShot id => .confirmed id
      | state => state := by
  have hcleaned : (if this.confirmationChanged store = true then
      this.cleanUpConfirmation.transactionState else this.transactionState) =
        this.transactionState := by
    split
    · next hchanged => exact h.cleaned horderly hchanged
    · rfl
  rw [render_transactionState, hcleaned]
  cases hstate : this.transactionState with
  | confirmedOneShot id =>
      have hid : id ≠ "" := fun heq => h.named (by rw [hstate, heq]; rfl)
      have hchanged : this.forgettingChanged store = true := by
        by_contra hsame
        obtain ⟨shown, hshown, htype⟩ := Option.map_eq_some_iff.mp
          (type_of_same (Bool.eq_false_iff.mpr hsame)).1
        rw [hstate] at htype
        cases shown with
        | confirmedOneShot other =>
            exact h.oneShot other hshown (congrArg TransactionState.type hstate)
        | _ => cases htype
      simp [hchanged, hid]
  | _ => exact ite_self _

theorem Ordered.render (h : this.Ordered) {store : Nat}
    (horderly : this.Orderly (.render store)) : (this.render store).Ordered := by
  have hstate := h.render_state horderly
  have hattends := h.attends.render store
  have hconfirming (htype : (this.render store).transactionState.type = .waitingForConfirmation) :
      this.transactionState.type = .waitingForConfirmation := by
    rw [hstate] at htype
    cases hbefore : this.transactionState <;> rw [hbefore] at htype <;> cases htype
    rfl
  constructor
  case attends => exact hattends
  case named =>
    intro heq
    apply h.named
    rw [hstate] at heq
    cases hbefore : this.transactionState <;> rw [hbefore] at heq <;> exact heq
  case asked =>
    intro number id hpending
    rw [Pending, render_sends] at hpending
    rw [hstate, h.asked number id hpending]
  case once =>
    intro number other id otherId hnumber hother
    rw [Pending, render_sends] at hnumber hother
    exact h.once number other id otherId hnumber hother
  case approves =>
    intro id hid
    have hbefore : this.transactionState = .waitingForApproval id := by
      rw [hstate] at hid
      cases hbefore : this.transactionState <;> rw [hbefore] at hid <;> cases hid
      rfl
    obtain ⟨number, hpending⟩ := h.approves id hbefore
    refine ⟨number, ?_⟩
    rw [Pending, render_sends]
    exact hpending
  case waits =>
    intro confirmation hrunning _
    have hbefore : this.transactionState =
        .waitingForConfirmation confirmation.id confirmation.tx :=
      Option.some.inj (hattends.shown_of_running hrunning).1
    rw [hstate, hbefore]
  case received =>
    intro confirmation hrunning hfinished htype
    have hbefore := hconfirming htype
    rw [render_confirmations] at hrunning
    split at hrunning
    · -- a wait that has just begun is not finished
      split at hrunning
      · rw [Slot.running, h.attends.cleanUpConfirmation.2.1] at hrunning
        cases hrunning
      · rw [Slot.running_start] at hrunning
        cases hrunning
        cases hfinished
    · exact h.received confirmation hrunning hfinished hbefore
  case busy =>
    intro htype
    refine ⟨this.transactionState, rfl, ?_⟩
    rw [TransactionState.isWaiting, hconfirming htype]
    rfl
  case forgets =>
    intro forgetting hrunning _
    obtain ⟨shown, hshown, hsettled⟩ := hattends.settled_of_running hrunning
    rw [render_shown, Option.some_inj] at hshown
    left
    rw [hstate]
    cases shown with
    | confirmedOneShot id => cases hsettled
    | _ => rw [hshown]; exact hsettled
  case elapsed =>
    intro forgetting hrunning helapsed
    rw [render_forgettings] at hrunning
    split at hrunning
    · split at hrunning
      · rw [Slot.running_start] at hrunning
        cases hrunning
        cases helapsed
      · rw [Slot.running, h.attends.cleanUpForgetting.2] at hrunning
        cases hrunning
    · next hsame =>
        -- the shown state is settled, and the state has its type
        have hsettled := h.attends.forgetting
        rw [hrunning, isSettled_of_same (Bool.eq_false_iff.mpr hsame),
          h.elapsed forgetting hrunning helapsed] at hsettled
        cases hsettled
  case oneShot =>
    intro id hshown
    rw [render_shown, Option.some_inj] at hshown
    rw [hstate, hshown]
    intro htype
    cases htype

theorem Ordered.step (h : this.Ordered) (event : TransactionEvent) (horderly : this.Orderly event) :
    (this.step event).Ordered := by
  cases event with
  | send id => exact h.send horderly
  | sent number outcome => exact h.sent horderly number outcome
  | render store => exact h.render horderly
  | receipt number outcome => exact h.receipt number outcome
  | timeout number => exact h.timeout horderly number

theorem ordered_run {events : List TransactionEvent}
    (hmeets : EventRun.Meets TransactionSystem.step Orderly initial events) :
    (EventRun.run TransactionSystem.step initial events).Ordered :=
  EventRun.run_invariant_of_meets TransactionSystem.step
    (fun _ event h horderly => h.step event horderly) ordered_initial hmeets

open Relation

/-- A click that is not made during a wait does not find the state waiting either. -/
theorem Ordered.not_waiting (h : this.Ordered) {id : String} (horderly : this.Orderly (.send id)) :
    this.transactionState.isWaiting = false := by
  obtain ⟨happroval, _, shown, hshown, hwaiting⟩ := horderly
  have hsame (heq : this.shown = some this.transactionState) :
      this.transactionState.isWaiting = false := by
    rw [hshown, Option.some_inj] at heq
    rwa [← heq]
  cases hstate : this.transactionState with
  | waitingForApproval other =>
      rw [← hstate]
      exact hsame (happroval (congrArg TransactionState.type hstate))
  | waitingForConfirmation other tx =>
      obtain ⟨busy, hbusy, hwaits⟩ := h.busy (congrArg TransactionState.type hstate)
      rw [hshown, Option.mem_some_iff] at hbusy
      rw [← hbusy, hwaiting] at hwaits
      cases hwaits
  | _ => rfl

/-- An orderly event leaves the state or moves it along one edge. -/
theorem Ordered.follows (h : this.Ordered) (event : TransactionEvent)
    (horderly : this.Orderly event) :
    ReflGen TransactionState.Follows this.transactionState (this.step event).transactionState := by
  cases event with
  | send id => exact .single (.request (h.not_waiting horderly) id)
  | sent number outcome =>
      change ReflGen _ _ (this.sent number outcome).transactionState
      unfold TransactionSystem.sent
      split
      · next id hpending =>
          rw [h.asked number id hpending]
          cases outcome with
          | sent tx => exact .single (.approve id tx)
          | denied => exact .single (.deny id)
          | failed noMatchingKey => exact .single (.refuse id _)
      · exact .refl
  | render store =>
      change ReflGen _ _ (this.render store).transactionState
      rw [h.render_state horderly]
      cases this.transactionState with
      | confirmedOneShot id => exact .single (.settle id)
      | _ => exact .refl
  | receipt number outcome =>
      change ReflGen _ _ (this.receipt number outcome).transactionState
      unfold TransactionSystem.receipt
      split
      · exact .refl
      · next confirmation hget =>
          split
          · next hlive =>
              have hrunning := (h.attends.running_of_live hget hlive).2
              rw [h.waits confirmation hrunning hlive]
              cases outcome with
              | succeeded => exact .single (.confirm _ _)
              | failed => exact .single (.revert _ _ _)
              | replaced => exact .single (.replace _ _)
              | rejected => exact .single (.revert _ _ _)
          · exact .refl
  | timeout number =>
      change ReflGen _ _ (this.timeout number).transactionState
      unfold TransactionSystem.timeout
      split
      · exact .refl
      · next forgetting hget =>
          split
          · next hlive =>
              have hrunning := h.attends.forgettings.running_eq hget hlive
              exact .single (.forget ((h.forgets forgetting hrunning hlive).resolve_right
                (not_not.mpr horderly)))
          · exact .refl

/-- After orderly events, an orderly event leaves the state or moves it along one edge of the
lifecycle. -/
theorem lifecycle_run {events : List TransactionEvent} {event : TransactionEvent}
    (hmeets : EventRun.Meets step Orderly initial events)
    (horderly : (EventRun.run step initial events).Orderly event) :
    ReflGen TransactionState.Follows (EventRun.run step initial events).transactionState
      (EventRun.run step initial (events ++ [event])).transactionState := by
  rw [EventRun.run_append]
  exact (ordered_run hmeets).follows event horderly

/-- The receipt of a transaction that has been clicked, sent and rendered. -/
theorem lifecycle_run_borrow :
    ReflGen TransactionState.Follows
      (EventRun.run step initial
        [.render 0, .send "borrow", .render 0, .sent 0 (.sent 7), .render 0]).transactionState
      (EventRun.run step initial
        [.render 0, .send "borrow", .render 0, .sent 0 (.sent 7), .render 0,
          .receipt 0 .succeeded]).transactionState :=
  lifecycle_run (by decide) (by decide)

/-- What a state that is not idle waits for is still to come. -/
def Attended (this : TransactionSystem) : Prop :=
  match this.transactionState with
  | .idle => True
  | .waitingForApproval id => ∃ number, this.Pending number id
  | .waitingForConfirmation id tx => ∃ confirmation ∈ this.confirmations.running,
      confirmation.live = true ∧ confirmation.id = id ∧ confirmation.tx = tx
  | .confirmedOneShot _ => False
  | .confirmed _ => ∃ forgetting ∈ this.forgettings.running, forgetting.live = true
  | .failed _ _ => ∃ forgetting ∈ this.forgettings.running, forgetting.live = true
  | .cancelled _ => ∃ forgetting ∈ this.forgettings.running, forgetting.live = true

theorem Ordered.confirms (h : this.Ordered) {id : String} {tx : Nat}
    (hstate : this.transactionState = .waitingForConfirmation id tx)
    (hshown : this.shown = some this.transactionState) :
    ∃ confirmation ∈ this.confirmations.running,
      confirmation.live = true ∧ confirmation.id = id ∧ confirmation.tx = tx := by
  have hid : id ≠ "" := fun heq => h.named (by rw [hstate, heq]; rfl)
  have hconfirming := h.attends.confirming
  rw [hshown, hstate, Option.bind_some, TransactionState.watched, TransactionState.id,
    TransactionState.tx] at hconfirming
  dsimp only at hconfirming
  rw [if_neg hid, Option.map_eq_some_iff] at hconfirming
  obtain ⟨confirmation, hrunning, hsame⟩ := hconfirming
  obtain ⟨rfl, rfl⟩ := Prod.mk.inj hsame
  refine ⟨confirmation, hrunning, ?_, rfl, rfl⟩
  rw [Confirmation.live, h.attends.uncancelled confirmation hrunning, Bool.not_false,
    Bool.true_and, Bool.not_eq_true']
  by_contra hfinished
  exact h.received confirmation hrunning (eq_true_of_ne_false hfinished)
    (congrArg TransactionState.type hstate)

theorem Ordered.will_forget (h : this.Ordered) (hsettled : this.transactionState.isSettled = true)
    (hshown : this.shown = some this.transactionState) :
    ∃ forgetting ∈ this.forgettings.running, forgetting.live = true := by
  have hforgetting := h.attends.forgetting
  rw [hshown, Option.any_some, hsettled, Option.isSome_iff_exists] at hforgetting
  obtain ⟨forgetting, hrunning⟩ := hforgetting
  refine ⟨forgetting, hrunning, ?_⟩
  rw [Forgetting.live, h.attends.unforgotten forgetting hrunning, Bool.not_false, Bool.true_and,
    Bool.not_eq_true']
  by_contra helapsed
  have hunsettled := h.elapsed forgetting hrunning (eq_true_of_ne_false helapsed)
  rw [hsettled] at hunsettled
  cases hunsettled

/-- After orderly events, a state that has been rendered does not wait for what has already
ended: the call, the receipt or the five seconds that move it on are still to come. -/
theorem attended_run {events : List TransactionEvent}
    (hmeets : EventRun.Meets step Orderly initial events)
    (hshown : (EventRun.run step initial events).shown =
      some (EventRun.run step initial events).transactionState) :
    (EventRun.run step initial events).Attended := by
  have h := ordered_run hmeets
  generalize EventRun.run step initial events = this at h hshown ⊢
  unfold Attended
  split
  · trivial
  · next id hstate => exact h.approves id hstate
  · next id tx hstate => exact h.confirms hstate hshown
  · next id hstate =>
      rw [hstate] at hshown
      exact h.oneShot id hshown (congrArg TransactionState.type hstate)
  · next id hstate => exact h.will_forget (by rw [hstate]; rfl) hshown
  · next id error hstate => exact h.will_forget (by rw [hstate]; rfl) hshown
  · next id hstate => exact h.will_forget (by rw [hstate]; rfl) hshown

/-- A confirmed transaction is about to be forgotten. -/
theorem attended_run_borrow : (EventRun.run step initial
    [.render 0, .send "borrow", .render 0, .sent 0 (.sent 7), .render 0, .receipt 0 .succeeded,
      .render 0, .render 0]).Attended :=
  attended_run (by decide) (by decide)

end TransactionSystem

end TransactionMonitor

end HLiquity
