import HLiquity.Library.EffectSlot
import HLiquity.Library.EventRun

/-!
# The monitored transaction

One context holds the state of the transaction that the user has sent last. A call of
`sendTransaction` and the two effects of `TransactionMonitor` write it: one waits for the
receipt, the other forgets a settled transaction after five seconds. Both are cleaned up when a
render changes what they depend on.
-/

namespace HLiquity

namespace TransactionMonitor

inductive TransactionType where
  | idle
  | failed
  | waitingForApproval
  | cancelled
  | waitingForConfirmation
  | confirmed
  | confirmedOneShot
  deriving DecidableEq, Repr

/-- The state of the context. Sent transactions are told apart by numbers. -/
inductive TransactionState where
  | idle
  | failed (id : String) (error : String)
  | waitingForApproval (id : String)
  | cancelled (id : String)
  | waitingForConfirmation (id : String) (tx : Nat)
  | confirmed (id : String)
  | confirmedOneShot (id : String)
  deriving DecidableEq, Repr

namespace TransactionState

def type : TransactionState → TransactionType
  | idle => .idle
  | failed _ _ => .failed
  | waitingForApproval _ => .waitingForApproval
  | cancelled _ => .cancelled
  | waitingForConfirmation _ _ => .waitingForConfirmation
  | confirmed _ => .confirmed
  | confirmedOneShot _ => .confirmedOneShot

/-- `transactionState.type !== "idle" ? transactionState.id : undefined` -/
def id : TransactionState → Option String
  | idle => none
  | failed id _ => some id
  | waitingForApproval id => some id
  | cancelled id => some id
  | waitingForConfirmation id _ => some id
  | confirmed id => some id
  | confirmedOneShot id => some id

/-- `transactionState.type === "waitingForConfirmation" ? transactionState.tx : undefined` -/
def tx : TransactionState → Option Nat
  | waitingForConfirmation _ tx => some tx
  | _ => none

/-- The transaction of a state, where `id && tx` is truthy. -/
def watched (state : TransactionState) : Option (String × Nat) :=
  match state.id, state.tx with
  | some id, some tx => if id = "" then none else some (id, tx)
  | _, _ => none

theorem eq_of_watched {state : TransactionState} {id : String} {tx : Nat}
    (h : state.watched = some (id, tx)) : state = .waitingForConfirmation id tx := by
  cases state with
  | waitingForConfirmation other number =>
      rw [watched] at h
      dsimp only [TransactionState.id, TransactionState.tx] at h
      split at h
      · cases h
      · cases h
        rfl
  | idle => cases h
  | failed other error => cases h
  | waitingForApproval other => cases h
  | cancelled other => cases h
  | confirmed other => cases h
  | confirmedOneShot other => cases h

theorem id_ne_of_watched {id : String} {tx : Nat}
    (h : (waitingForConfirmation id tx).watched = some (id, tx)) : id ≠ "" := by
  rintro rfl
  cases h

/-- A button of another transaction is disabled with "You must wait for confirmation". -/
def isWaiting (state : TransactionState) : Bool :=
  state.type == .waitingForApproval || state.type == .waitingForConfirmation

/-- The types whose effect forgets the transaction after five seconds. -/
def isSettled (state : TransactionState) : Bool :=
  state.type == .confirmed || state.type == .failed || state.type == .cancelled

end TransactionState

/-- What becomes of a call of `send`: a transaction, a refusal of the user, or another failure,
which may be one that no wallet recovers from. -/
inductive SendOutcome where
  | sent (tx : Nat)
  | denied
  | failed (noMatchingKey : Bool)
  deriving DecidableEq, Repr

def SendOutcome.state (id : String) : SendOutcome → TransactionState
  | sent tx => .waitingForConfirmation id tx
  | denied => .cancelled id
  | failed _ => .failed id "Failed to send transaction (try again)"

/-- What becomes of the wait for a receipt: a receipt with a status, or a rejection. -/
inductive ReceiptOutcome where
  | succeeded
  | failed
  | replaced
  | rejected
  deriving DecidableEq, Repr

def ReceiptOutcome.state (id : String) : ReceiptOutcome → TransactionState
  | succeeded => .confirmedOneShot id
  | failed => .failed id "Reverted: <no revert reason on non-ethers liquity implementations>"
  | replaced => .cancelled id
  | rejected => .failed id "Failed"

@[simp] theorem SendOutcome.state_id (id : String) (outcome : SendOutcome) :
    (outcome.state id).id = some id := by
  cases outcome <;> rfl

@[simp] theorem ReceiptOutcome.state_id (id : String) (outcome : ReceiptOutcome) :
    (outcome.state id).id = some id := by
  cases outcome <;> rfl

/-- A call of `sendTransaction` that waits for `send`, or has returned. -/
structure SendCall where
  id : String
  returned : Bool
  deriving DecidableEq, Repr

/-- The variables of the effect that waits for a receipt. -/
structure Confirmation where
  id : String
  tx : Nat
  cancelled : Bool
  finished : Bool
  deriving DecidableEq, Repr

/-- A confirmation that still writes the state. -/
def Confirmation.live (confirmation : Confirmation) : Bool :=
  !confirmation.cancelled && !confirmation.finished

/-- The variables of the effect that forgets a settled transaction. -/
structure Forgetting where
  cancelled : Bool
  elapsed : Bool
  deriving DecidableEq, Repr

def Forgetting.live (forgetting : Forgetting) : Bool :=
  !forgetting.cancelled && !forgetting.elapsed

/-- The context with the calls and effects that write it. The state of the last render and the
store it was made with are what the effects compare their dependencies with. -/
structure TransactionSystem where
  transactionState : TransactionState
  rendered : Option (Nat × TransactionState)
  sends : List SendCall
  confirmations : EffectSlot.Slot Confirmation
  forgettings : EffectSlot.Slot Forgetting
  refreshes : Nat
  snacks : Nat
  deriving DecidableEq, Repr

/-- A click on a transaction, the end of a call of `send`, a render with some store, the end of
a wait for a receipt, or the end of five seconds. -/
inductive TransactionEvent where
  | send (id : String)
  | sent (number : Nat) (outcome : SendOutcome)
  | render (store : Nat)
  | receipt (number : Nat) (outcome : ReceiptOutcome)
  | timeout (number : Nat)
  deriving DecidableEq, Repr

namespace TransactionSystem

open EffectSlot

def initial : TransactionSystem := ⟨.idle, none, [], .empty, .empty, 0, 0⟩

/-- `sendTransaction`, up to its call of `send`. -/
def sendTransaction (this : TransactionSystem) (id : String) : TransactionSystem :=
  { this with
    transactionState := .waitingForApproval id
    sends := this.sends ++ [⟨id, false⟩] }

/-- `sendTransaction`, from the end of its call of `send` on. -/
def sent (this : TransactionSystem) (number : Nat) (outcome : SendOutcome) : TransactionSystem :=
  match this.sends[number]? with
  | some ⟨id, false⟩ =>
      { this with
        transactionState := outcome.state id
        sends := this.sends.set number ⟨id, true⟩
        snacks := if outcome = .failed true then this.snacks + 1 else this.snacks
        refreshes := this.refreshes + 1 }
  | _ => this

/-- The clean-up of the wait for a receipt. -/
def cleanUpConfirmation (this : TransactionSystem) : TransactionSystem :=
  match this.confirmations.current with
  | none => this
  | some number =>
      match this.confirmations.instances[number]? with
      | none => this
      | some confirmation =>
          if confirmation.finished then
            { this with confirmations := this.confirmations.cleanUp number confirmation }
          else
            { this with
              transactionState := .idle
              confirmations :=
                this.confirmations.cleanUp number { confirmation with cancelled := true } }

/-- The clean-up of the five seconds. -/
def cleanUpForgetting (this : TransactionSystem) : TransactionSystem :=
  match this.forgettings.current with
  | none => this
  | some number =>
      match this.forgettings.instances[number]? with
      | none => this
      | some forgetting =>
          { this with
            forgettings := this.forgettings.cleanUp number { forgetting with cancelled := true } }

/-- `if (id && tx)` and its body, with the values of the rendered state. -/
def startConfirmation (this : TransactionSystem) (shown : TransactionState) : TransactionSystem :=
  match shown.watched with
  | none => this
  | some (id, tx) =>
      { this with
        confirmations := this.confirmations.start ⟨id, tx, false, false⟩
        refreshes := this.refreshes + 1 }

/-- The body of the effect for the settled types, with the values of the rendered state. -/
def startForgetting (this : TransactionSystem) (shown : TransactionState) : TransactionSystem :=
  match shown with
  | .confirmedOneShot id =>
      if id = "" then this
      else { this with transactionState := .confirmed id, refreshes := this.refreshes + 1 }
  | shown =>
      if shown.isSettled then
        { this with
          forgettings := this.forgettings.start ⟨false, false⟩
          refreshes := this.refreshes + 1 }
      else this

/-- The dependencies of the wait for a receipt. -/
def confirmationDeps (rendered : Nat × TransactionState) : Nat × Option String × Option Nat :=
  (rendered.1, rendered.2.id, rendered.2.tx)

/-- The dependencies of the five seconds. -/
def forgettingDeps (rendered : Nat × TransactionState) :
    Nat × TransactionType × Option String :=
  (rendered.1, rendered.2.type, rendered.2.id)

/-- A render changes what the wait for a receipt depends on. -/
def confirmationChanged (this : TransactionSystem) (store : Nat) : Bool :=
  this.rendered.map confirmationDeps != some (confirmationDeps (store, this.transactionState))

/-- A render changes what the five seconds depend on. -/
def forgettingChanged (this : TransactionSystem) (store : Nat) : Bool :=
  this.rendered.map forgettingDeps != some (forgettingDeps (store, this.transactionState))

/-- A render and its effects: first the clean-ups of those whose dependencies have changed,
then their bodies. -/
def render (this : TransactionSystem) (store : Nat) : TransactionSystem :=
  let shown := this.transactionState
  let cleaned := if this.confirmationChanged store then this.cleanUpConfirmation else this
  let cleaned := if this.forgettingChanged store then cleaned.cleanUpForgetting else cleaned
  let started :=
    if this.confirmationChanged store then cleaned.startConfirmation shown else cleaned
  let started := if this.forgettingChanged store then started.startForgetting shown else started
  { started with rendered := some (store, shown) }

/-- The end of a wait for a receipt. -/
def receipt (this : TransactionSystem) (number : Nat) (outcome : ReceiptOutcome) :
    TransactionSystem :=
  match this.confirmations.instances[number]? with
  | none => this
  | some confirmation =>
      if confirmation.live then
        { this with
          transactionState := outcome.state confirmation.id
          confirmations := this.confirmations.put number { confirmation with finished := true } }
      else this

/-- The end of five seconds. -/
def timeout (this : TransactionSystem) (number : Nat) : TransactionSystem :=
  match this.forgettings.instances[number]? with
  | none => this
  | some forgetting =>
      if forgetting.live then
        { this with
          transactionState := .idle
          forgettings := this.forgettings.put number { forgetting with elapsed := true }
          refreshes := this.refreshes + 1 }
      else this

def step (this : TransactionSystem) : TransactionEvent → TransactionSystem
  | .send id => this.sendTransaction id
  | .sent number outcome => this.sent number outcome
  | .render store => this.render store
  | .receipt number outcome => this.receipt number outcome
  | .timeout number => this.timeout number

/-- The state of the last render. -/
def shown (this : TransactionSystem) : Option TransactionState := this.rendered.map Prod.snd

section Frames

variable (this : TransactionSystem) (state : TransactionState)

theorem cleanUpConfirmation_eq : ∃ transactionState confirmations,
    this.cleanUpConfirmation = { this with transactionState, confirmations } := by
  unfold cleanUpConfirmation
  split
  · exact ⟨_, _, rfl⟩
  · split
    · exact ⟨_, _, rfl⟩
    · split
      · exact ⟨_, _, rfl⟩
      · exact ⟨_, _, rfl⟩

@[simp] theorem cleanUpConfirmation_sends : this.cleanUpConfirmation.sends = this.sends := by
  obtain ⟨transactionState, confirmations, heq⟩ := this.cleanUpConfirmation_eq
  rw [heq]

@[simp] theorem cleanUpConfirmation_forgettings :
    this.cleanUpConfirmation.forgettings = this.forgettings := by
  obtain ⟨transactionState, confirmations, heq⟩ := this.cleanUpConfirmation_eq
  rw [heq]

theorem cleanUpForgetting_eq :
    ∃ forgettings, this.cleanUpForgetting = { this with forgettings } := by
  unfold cleanUpForgetting
  split
  · exact ⟨_, rfl⟩
  · split
    · exact ⟨_, rfl⟩
    · exact ⟨_, rfl⟩

/-- The clean-up of the five seconds is about its slot alone. -/
theorem cleanUpForgetting_congr {other : TransactionSystem}
    (h : this.forgettings = other.forgettings) :
    this.cleanUpForgetting.forgettings = other.cleanUpForgetting.forgettings := by
  unfold cleanUpForgetting
  rw [h]
  split
  · exact h
  · split
    · exact h
    · rfl

@[simp] theorem cleanUpForgetting_transactionState :
    this.cleanUpForgetting.transactionState = this.transactionState := by
  obtain ⟨forgettings, heq⟩ := this.cleanUpForgetting_eq
  rw [heq]

@[simp] theorem cleanUpForgetting_sends : this.cleanUpForgetting.sends = this.sends := by
  obtain ⟨forgettings, heq⟩ := this.cleanUpForgetting_eq
  rw [heq]

@[simp] theorem cleanUpForgetting_confirmations :
    this.cleanUpForgetting.confirmations = this.confirmations := by
  obtain ⟨forgettings, heq⟩ := this.cleanUpForgetting_eq
  rw [heq]

theorem startConfirmation_eq : ∃ confirmations refreshes,
    this.startConfirmation state = { this with confirmations, refreshes } := by
  unfold startConfirmation
  split
  · exact ⟨_, _, rfl⟩
  · exact ⟨_, _, rfl⟩

theorem startConfirmation_confirmations : (this.startConfirmation state).confirmations =
    match state.watched with
    | none => this.confirmations
    | some (id, tx) => this.confirmations.start ⟨id, tx, false, false⟩ := by
  unfold startConfirmation
  split <;> rfl

@[simp] theorem startConfirmation_transactionState :
    (this.startConfirmation state).transactionState = this.transactionState := by
  obtain ⟨confirmations, refreshes, heq⟩ := this.startConfirmation_eq state
  rw [heq]

@[simp] theorem startConfirmation_sends :
    (this.startConfirmation state).sends = this.sends := by
  obtain ⟨confirmations, refreshes, heq⟩ := this.startConfirmation_eq state
  rw [heq]

@[simp] theorem startConfirmation_forgettings :
    (this.startConfirmation state).forgettings = this.forgettings := by
  obtain ⟨confirmations, refreshes, heq⟩ := this.startConfirmation_eq state
  rw [heq]

theorem startForgetting_eq : ∃ transactionState forgettings refreshes,
    this.startForgetting state = { this with transactionState, forgettings, refreshes } := by
  unfold startForgetting
  split
  · split
    · exact ⟨_, _, _, rfl⟩
    · exact ⟨_, _, _, rfl⟩
  · split
    · exact ⟨_, _, _, rfl⟩
    · exact ⟨_, _, _, rfl⟩

theorem startForgetting_forgettings : (this.startForgetting state).forgettings =
    if state.isSettled then this.forgettings.start ⟨false, false⟩ else this.forgettings := by
  unfold startForgetting
  split
  · split <;> rfl
  · split <;> rfl

theorem startForgetting_transactionState : (this.startForgetting state).transactionState =
    match state with
    | .confirmedOneShot id => if id = "" then this.transactionState else .confirmed id
    | _ => this.transactionState := by
  unfold startForgetting
  split
  · split <;> rfl
  · split <;> rfl

@[simp] theorem startForgetting_sends : (this.startForgetting state).sends = this.sends := by
  obtain ⟨transactionState, forgettings, refreshes, heq⟩ := this.startForgetting_eq state
  rw [heq]

@[simp] theorem startForgetting_confirmations :
    (this.startForgetting state).confirmations = this.confirmations := by
  obtain ⟨transactionState, forgettings, refreshes, heq⟩ := this.startForgetting_eq state
  rw [heq]

end Frames

section Render

variable (this : TransactionSystem) (store : Nat)

@[simp] theorem render_rendered :
    (this.render store).rendered = some (store, this.transactionState) := rfl

@[simp] theorem render_shown : (this.render store).shown = some this.transactionState := rfl

@[simp] theorem render_sends : (this.render store).sends = this.sends := by
  unfold render
  cases this.confirmationChanged store <;> cases this.forgettingChanged store <;> simp

theorem render_confirmations : (this.render store).confirmations =
    if this.confirmationChanged store then
      match this.transactionState.watched with
      | none => this.cleanUpConfirmation.confirmations
      | some (id, tx) => this.cleanUpConfirmation.confirmations.start ⟨id, tx, false, false⟩
    else this.confirmations := by
  unfold render
  cases this.confirmationChanged store <;> cases this.forgettingChanged store <;>
    simp [startConfirmation_confirmations]

theorem render_forgettings : (this.render store).forgettings =
    if this.forgettingChanged store then
      if this.transactionState.isSettled then
        this.cleanUpForgetting.forgettings.start ⟨false, false⟩
      else this.cleanUpForgetting.forgettings
    else this.forgettings := by
  have hcongr := this.cleanUpConfirmation.cleanUpForgetting_congr
    this.cleanUpConfirmation_forgettings
  unfold render
  cases this.confirmationChanged store <;> cases this.forgettingChanged store <;>
    simp [startForgetting_forgettings, hcongr]

/-- A render writes the state if it drops a transaction or settles a confirmed one. -/
theorem render_transactionState : (this.render store).transactionState =
    let cleaned := if this.confirmationChanged store then
      this.cleanUpConfirmation.transactionState else this.transactionState
    if this.forgettingChanged store then
      match this.transactionState with
      | .confirmedOneShot id => if id = "" then cleaned else .confirmed id
      | _ => cleaned
    else cleaned := by
  unfold render
  cases this.confirmationChanged store <;> cases this.forgettingChanged store <;>
    simp [startForgetting_transactionState]

end Render

/-- The effects are those of the last render: only its transaction is waited for, and only if
it is settled it is about to be forgotten. -/
structure Attends (this : TransactionSystem) : Prop where
  confirmations : this.confirmations.Good Confirmation.live
  forgettings : this.forgettings.Good Forgetting.live
  confirming : this.confirmations.running.map (fun confirmation =>
    (confirmation.id, confirmation.tx)) = this.shown.bind TransactionState.watched
  forgetting : this.forgettings.running.isSome = this.shown.any TransactionState.isSettled
  uncancelled : ∀ confirmation ∈ this.confirmations.running, confirmation.cancelled = false
  unforgotten : ∀ forgetting ∈ this.forgettings.running, forgetting.cancelled = false

theorem attends_initial : Attends initial where
  confirmations := Slot.good_empty
  forgettings := Slot.good_empty
  confirming := rfl
  forgetting := rfl
  uncancelled confirmation h := by cases h
  unforgotten forgetting h := by cases h

section Attends

variable {this : TransactionSystem}

/-- The clean-up of the wait for a receipt: nothing is waited for any more, and the state is
idle if there was no receipt yet. -/
theorem Attends.cleanUpConfirmation (h : this.Attends) :
    this.cleanUpConfirmation.confirmations.Good Confirmation.live ∧
      this.cleanUpConfirmation.confirmations.current = none ∧
      this.cleanUpConfirmation.transactionState =
        if this.confirmations.running.any Confirmation.live then .idle
        else this.transactionState := by
  unfold TransactionSystem.cleanUpConfirmation
  cases hcurrent : this.confirmations.current with
  | none => exact ⟨h.confirmations, hcurrent, by simp [Slot.running, hcurrent]⟩
  | some number =>
      obtain ⟨confirmation, hget, hrunning⟩ := h.confirmations.exists_running hcurrent
      have hcancelled := h.uncancelled confirmation hrunning
      simp only [hget, hrunning, Option.any_some]
      cases hfinished : confirmation.finished with
      | true =>
          have hover : confirmation.live = false := by simp [Confirmation.live, hfinished]
          simp only [if_true, hover, Bool.false_eq_true, if_false]
          exact ⟨h.confirmations.cleanUp hcurrent hover, rfl, trivial⟩
      | false =>
          have hlive : confirmation.live = true := by
            simp [Confirmation.live, hfinished, hcancelled]
          simp only [Bool.false_eq_true, if_false, hlive, if_true]
          exact ⟨h.confirmations.cleanUp hcurrent rfl, rfl, trivial⟩

theorem Attends.cleanUpForgetting (h : this.Attends) :
    this.cleanUpForgetting.forgettings.Good Forgetting.live ∧
      this.cleanUpForgetting.forgettings.current = none := by
  unfold TransactionSystem.cleanUpForgetting
  cases hcurrent : this.forgettings.current with
  | none => exact ⟨h.forgettings, hcurrent⟩
  | some number =>
      obtain ⟨forgetting, hget, hrunning⟩ := h.forgettings.exists_running hcurrent
      simp only [hget]
      exact ⟨h.forgettings.cleanUp hcurrent rfl, rfl⟩

/-- A render that leaves what the wait for a receipt depends on leaves its transaction. -/
theorem watched_of_same {store : Nat} (h : this.confirmationChanged store = false) :
    this.shown.bind TransactionState.watched = this.transactionState.watched := by
  have hdeps : this.rendered.map confirmationDeps =
      some (confirmationDeps (store, this.transactionState)) := by
    simpa [confirmationChanged] using h
  obtain ⟨rendered, hrendered, heq⟩ := Option.map_eq_some_iff.mp hdeps
  have hid : rendered.2.id = this.transactionState.id := congrArg (·.2.1) heq
  have htx : rendered.2.tx = this.transactionState.tx := congrArg (·.2.2) heq
  rw [shown, hrendered, Option.map_some, Option.bind_some, TransactionState.watched,
    TransactionState.watched, hid, htx]

/-- A render that leaves what the five seconds depend on leaves the type. -/
theorem type_of_same {store : Nat} (h : this.forgettingChanged store = false) :
    this.shown.map TransactionState.type = some this.transactionState.type ∧
      this.shown.bind TransactionState.id = this.transactionState.id := by
  have hdeps : this.rendered.map forgettingDeps =
      some (forgettingDeps (store, this.transactionState)) := by
    simpa [forgettingChanged] using h
  obtain ⟨rendered, hrendered, heq⟩ := Option.map_eq_some_iff.mp hdeps
  rw [shown, hrendered]
  exact ⟨congrArg some (congrArg (·.2.1) heq), congrArg (·.2.2) heq⟩

theorem isSettled_of_same {store : Nat} (h : this.forgettingChanged store = false) :
    this.shown.any TransactionState.isSettled = this.transactionState.isSettled := by
  obtain ⟨shown, hshown, htype⟩ := Option.map_eq_some_iff.mp (type_of_same h).1
  rw [hshown, Option.any_some, TransactionState.isSettled, TransactionState.isSettled, htype]

theorem Attends.render_confirming (h : this.Attends) (store : Nat) :
    (this.render store).confirmations.Good Confirmation.live ∧
      (this.render store).confirmations.running.map (fun confirmation =>
        (confirmation.id, confirmation.tx)) = this.transactionState.watched ∧
      ∀ confirmation ∈ (this.render store).confirmations.running,
        confirmation.cancelled = false := by
  obtain ⟨hgood, hcurrent, _⟩ := h.cleanUpConfirmation
  rw [render_confirmations]
  cases hchanged : this.confirmationChanged store with
  | false => exact ⟨h.confirmations, h.confirming.trans (watched_of_same hchanged), h.uncancelled⟩
  | true =>
      rw [if_pos rfl]
      cases hwatched : this.transactionState.watched with
      | none =>
          have hnone : this.cleanUpConfirmation.confirmations.running = none := by
            rw [Slot.running, hcurrent, Option.bind_none]
          refine ⟨hgood, by rw [hnone, Option.map_none], fun confirmation hmem => ?_⟩
          rw [hnone] at hmem
          cases hmem
      | some transaction =>
          obtain ⟨id, tx⟩ := transaction
          refine ⟨hgood.start hcurrent _, by simp, fun confirmation hmem => ?_⟩
          rw [Slot.running_start, Option.mem_some_iff] at hmem
          rw [← hmem]

theorem Attends.render_forgetting (h : this.Attends) (store : Nat) :
    (this.render store).forgettings.Good Forgetting.live ∧
      (this.render store).forgettings.running.isSome = this.transactionState.isSettled ∧
      ∀ forgetting ∈ (this.render store).forgettings.running, forgetting.cancelled = false := by
  obtain ⟨hgood, hcurrent⟩ := h.cleanUpForgetting
  rw [render_forgettings]
  cases hchanged : this.forgettingChanged store with
  | false => exact ⟨h.forgettings, h.forgetting.trans (isSettled_of_same hchanged), h.unforgotten⟩
  | true =>
      rw [if_pos rfl]
      cases hsettled : this.transactionState.isSettled with
      | false =>
          have hnone : this.cleanUpForgetting.forgettings.running = none := by
            rw [Slot.running, hcurrent, Option.bind_none]
          refine ⟨hgood, by simp [hnone], fun forgetting hmem => ?_⟩
          rw [if_neg (by simp), hnone] at hmem
          cases hmem
      | true =>
          refine ⟨hgood.start hcurrent _, by simp, fun forgetting hmem => ?_⟩
          rw [if_pos rfl, Slot.running_start, Option.mem_some_iff] at hmem
          rw [← hmem]

theorem Attends.render (h : this.Attends) (store : Nat) : (this.render store).Attends where
  confirmations := (h.render_confirming store).1
  forgettings := (h.render_forgetting store).1
  confirming := (h.render_confirming store).2.1
  forgetting := (h.render_forgetting store).2.1
  uncancelled := (h.render_confirming store).2.2
  unforgotten := (h.render_forgetting store).2.2

/-- A wait that goes on is the current one. -/
theorem Attends.running_of_live (h : this.Attends) {number : Nat} {confirmation : Confirmation}
    (hget : this.confirmations.instances[number]? = some confirmation)
    (hlive : confirmation.live = true) :
    this.confirmations.current = some number ∧
      this.confirmations.running = some confirmation :=
  ⟨h.confirmations.only number confirmation hget hlive, h.confirmations.running_eq hget hlive⟩

/-- The transaction that a receipt is waited for is the shown one. -/
theorem Attends.shown_of_running (h : this.Attends) {confirmation : Confirmation}
    (hrunning : this.confirmations.running = some confirmation) :
    this.shown = some (.waitingForConfirmation confirmation.id confirmation.tx) ∧
      confirmation.id ≠ "" := by
  have hconfirming := h.confirming
  rw [hrunning, Option.map_some, eq_comm, Option.bind_eq_some_iff] at hconfirming
  obtain ⟨state, hshown, hwatched⟩ := hconfirming
  obtain rfl := TransactionState.eq_of_watched hwatched
  exact ⟨hshown, TransactionState.id_ne_of_watched hwatched⟩

/-- The state that is about to be forgotten is the shown one. -/
theorem Attends.settled_of_running (h : this.Attends) {forgetting : Forgetting}
    (hrunning : this.forgettings.running = some forgetting) :
    ∃ state, this.shown = some state ∧ state.isSettled = true := by
  have hforgetting := h.forgetting
  rwa [hrunning, Option.isSome_some, eq_comm, Option.any_eq_true] at hforgetting

theorem Attends.receipt (h : this.Attends) (number : Nat) (outcome : ReceiptOutcome) :
    (this.receipt number outcome).Attends := by
  unfold TransactionSystem.receipt
  split
  · exact h
  · next confirmation hget =>
      split
      · next hlive =>
          obtain ⟨hcurrent, hrunning⟩ := h.running_of_live hget hlive
          have hput := Slot.running_put_of_current h.confirmations hcurrent
            { confirmation with finished := true }
          refine { h with
            confirmations := h.confirmations.put hget fun _ => hlive
            confirming := ?_
            uncancelled := ?_ }
          · have hconfirming := h.confirming
            rw [hrunning] at hconfirming
            rw [hput]
            exact hconfirming
          · intro other hother
            rw [hput, Option.mem_some_iff] at hother
            rw [← hother]
            exact h.uncancelled confirmation hrunning
      · exact h

theorem Attends.timeout (h : this.Attends) (number : Nat) : (this.timeout number).Attends := by
  unfold TransactionSystem.timeout
  split
  · exact h
  · next forgetting hget =>
      split
      · next hlive =>
          have hcurrent := h.forgettings.only number forgetting hget hlive
          have hrunning := h.forgettings.running_eq hget hlive
          have hput := Slot.running_put_of_current h.forgettings hcurrent
            { forgetting with elapsed := true }
          refine { h with
            forgettings := h.forgettings.put hget fun _ => hlive
            forgetting := ?_
            unforgotten := ?_ }
          · have hforgetting := h.forgetting
            rw [hrunning] at hforgetting
            rw [hput]
            exact hforgetting
          · intro other hother
            rw [hput, Option.mem_some_iff] at hother
            rw [← hother]
            exact h.unforgotten forgetting hrunning
      · exact h

theorem Attends.sent (h : this.Attends) (number : Nat) (outcome : SendOutcome) :
    (this.sent number outcome).Attends := by
  unfold TransactionSystem.sent
  split
  · exact { h with }
  · exact h

theorem Attends.step (h : this.Attends) (event : TransactionEvent) : (this.step event).Attends := by
  cases event with
  | send id => exact { h with }
  | sent number outcome => exact h.sent number outcome
  | render store => exact h.render store
  | receipt number outcome => exact h.receipt number outcome
  | timeout number => exact h.timeout number

end Attends

theorem attends_run (events : List TransactionEvent) :
    (EventRun.run step initial events).Attends :=
  EventRun.run_invariant step (fun _ event h => h.step event) attends_initial events

/-- In every order of clicks, renders and completions at most one receipt is waited for, which
is that of the transaction of the last render, and at most one settled state is about to be
forgotten, which is that of the last render. -/
theorem live_run (events : List TransactionEvent) :
    let this := EventRun.run step initial events
    (∀ number confirmation, this.confirmations.instances[number]? = some confirmation →
      confirmation.live = true → this.confirmations.current = some number ∧
        this.shown = some (.waitingForConfirmation confirmation.id confirmation.tx)) ∧
    (∀ number forgetting, this.forgettings.instances[number]? = some forgetting →
      forgetting.live = true → this.forgettings.current = some number ∧
        ∃ state, this.shown = some state ∧ state.isSettled = true) := by
  have h := attends_run events
  refine ⟨fun number confirmation hget hlive => ?_, fun number forgetting hget hlive => ?_⟩
  · obtain ⟨hcurrent, hrunning⟩ := h.running_of_live hget hlive
    exact ⟨hcurrent, (h.shown_of_running hrunning).1⟩
  · have hrunning := h.forgettings.running_eq hget hlive
    obtain ⟨state, hshown, hsettled⟩ := h.settled_of_running hrunning
    exact ⟨h.forgettings.only number forgetting hget hlive, state, hshown, hsettled⟩

end TransactionSystem

end TransactionMonitor

end HLiquity
