import HLiquity.Library.CommittedCell
import HLiquity.Library.EventRun
import HLiquity.StoreState
import HLiquity.TroveManagerRenders

/-!
# The views of the panels

The panels of the trove, of the stability deposit and of liquidity mining each show a view that
events move along a table of transitions. A dispatch reads the view of the last render. An
effect dispatches an event of its own when the status of the store or the store itself changes.
-/

namespace HLiquity

/-- What the three providers differ in. -/
structure ViewProvider (View Event Status : Type) where
  transition : View → Event → View
  statusEvent : Status → Option Event
  getInitialView : Status → View

/-- The state of a provider, with the status and the store of the last render. -/
structure ViewState (View Status : Type) where
  view : View
  viewRef : View
  rendered : Option (Status × Nat)
  deriving DecidableEq, Repr

inductive ViewEvent (Event Status : Type) where
  | dispatchEvent (event : Event)
  | render (status : Status) (store : Nat)
  deriving DecidableEq, Repr

namespace ViewProvider

open CommittedCell

variable {View Event Status : Type} [DecidableEq Status]
  (provider : ViewProvider View Event Status)

def dispatchEvent (this : ViewState View Status) (event : Event) : ViewState View Status :=
  { this with view := provider.transition this.viewRef event }

/-- The event that the effect dispatches after a render. -/
def effectEvent (rendered : Option (Status × Nat)) (status : Status) (store : Nat) :
    Option Event :=
  if rendered = some (status, store) then none else provider.statusEvent status

/-- A render and its effects, of which the first one commits the view. -/
def render (this : ViewState View Status) (status : Status) (store : Nat) :
    ViewState View Status :=
  let committed := { this with viewRef := this.view, rendered := some (status, store) }
  match provider.effectEvent this.rendered status store with
  | some event => provider.dispatchEvent committed event
  | none => committed

def step (this : ViewState View Status) : ViewEvent Event Status → ViewState View Status
  | .dispatchEvent event => provider.dispatchEvent this event
  | .render status store => provider.render this status store

/-- The first render. -/
def mount (status : Status) (store : Nat) : ViewState View Status :=
  provider.render ⟨provider.getInitialView status, provider.getInitialView status, none⟩
    status store

/-- What a run does to the cell of the view: dispatches, of the components and of the effect,
and commits. -/
def acts : Option (Status × Nat) → List (ViewEvent Event Status) → List (Act Event)
  | _, [] => []
  | rendered, .dispatchEvent event :: events => .dispatch event :: acts rendered events
  | rendered, .render status store :: events =>
      .commit :: ((provider.effectEvent rendered status store).map .dispatch).toList ++
        acts (some (status, store)) events

variable {provider}

theorem run_eq_acts (this : ViewState View Status) (events : List (ViewEvent Event Status)) :
    (⟨(EventRun.run provider.step this events).view,
        (EventRun.run provider.step this events).viewRef⟩ : Cell View) =
      (provider.acts this.rendered events).foldl (act provider.transition)
        ⟨this.view, this.viewRef⟩ := by
  induction events generalizing this with
  | nil => rfl
  | cons event events ih =>
      rw [EventRun.run_cons, ih]
      cases event with
      | dispatchEvent event => rfl
      | render status store =>
          rw [acts, step, render]
          cases provider.effectEvent this.rendered status store with
          | none => rfl
          | some event => rfl

/-- The view is what the last dispatches between any two renders make of the initial view. -/
theorem run_view (status : Status) (store : Nat) (events : List (ViewEvent Event Status)) :
    (EventRun.run provider.step (provider.mount status store) events).view =
      (counted (provider.acts none (.render status store :: events))).foldl provider.transition
        (provider.getInitialView status) := by
  have hmount : EventRun.run provider.step (provider.mount status store) events =
      EventRun.run provider.step
        ⟨provider.getInitialView status, provider.getInitialView status, none⟩
        (.render status store :: events) := rfl
  have hcell := @run_eq_acts _ _ _ _ provider
    ⟨provider.getInitialView status, provider.getInitialView status, none⟩
    (.render status store :: events)
  rw [hmount, ← value_run, ← hcell]

end ViewProvider

/-- `troveStatusEvents` -/
def troveStatusEvents : UserTroveStatus → Option TroveEvent
  | .open => some .troveOpened
  | .closedByOwner => some .troveClosed
  | .closedByLiquidation => some .troveLiquidated
  | .closedByRedemption => some .troveRedeemed
  | .nonExistent => none

/-- `getInitialView` of the trove. -/
def TroveView.ofStatus : UserTroveStatus → TroveView
  | .closedByLiquidation => .liquidated
  | .closedByRedemption => .redeemed
  | .open => .active
  | _ => .none

/-- `TroveViewProvider` -/
def troveViewProvider : ViewProvider TroveView TroveEvent UserTroveStatus :=
  ⟨transition, troveStatusEvents, TroveView.ofStatus⟩

inductive StabilityView where
  | none
  | depositing
  | active
  | adjusting
  deriving DecidableEq, Repr

inductive StabilityEvent where
  | depositPressed
  | adjustDepositPressed
  | cancelPressed
  | depositConfirmed
  | rewardsClaimed
  | depositEmptied
  deriving DecidableEq, Repr

/-- `transitions` of the stability deposit. -/
def StabilityView.transitions : StabilityView → StabilityEvent → Option StabilityView
  | .none, .depositPressed => some .depositing
  | .depositing, .cancelPressed => some .none
  | .depositing, .depositConfirmed => some .active
  | .active, .rewardsClaimed => some .active
  | .active, .adjustDepositPressed => some .adjusting
  | .active, .depositEmptied => some .none
  | .adjusting, .cancelPressed => some .active
  | .adjusting, .depositConfirmed => some .active
  | .adjusting, .depositEmptied => some .none
  | _, _ => Option.none

/-- `StabilityViewProvider`, whose status is whether the deposit is empty. -/
def stabilityViewProvider : ViewProvider StabilityView StabilityEvent Bool where
  transition view event := (StabilityView.transitions view event).getD view
  statusEvent isEmpty := if isEmpty then some .depositEmptied else none
  getInitialView isEmpty := if isEmpty then .none else .active

inductive MineView where
  | inactive
  | staking
  | active
  | adjusting
  | disabled
  deriving DecidableEq, Repr

inductive MineEvent where
  | stakePressed
  | adjustPressed
  | cancelPressed
  | stakeApproved
  | stakeConfirmed
  | claimRewardConfirmed
  | unstakeAndClaimConfirmed
  deriving DecidableEq, Repr

/-- `transitions` of liquidity mining. -/
def MineView.transitions : MineView → MineEvent → Option MineView
  | .inactive, .stakePressed => some .staking
  | .staking, .cancelPressed => some .inactive
  | .staking, .stakeConfirmed => some .active
  | .staking, .stakeApproved => some .staking
  | .active, .adjustPressed => some .adjusting
  | .active, .claimRewardConfirmed => some .active
  | .active, .unstakeAndClaimConfirmed => some .inactive
  | .adjusting, .cancelPressed => some .active
  | .adjusting, .stakeConfirmed => some .active
  | .adjusting, .stakeApproved => some .adjusting
  | .disabled, .claimRewardConfirmed => some .disabled
  | .disabled, .unstakeAndClaimConfirmed => some .disabled
  | _, _ => none

/-- `MineViewProvider`, whose status is whether the stake is zero. The remaining reward decides
about the initial view alone. -/
def mineViewProvider (remainingRewardIsZero : Bool) : ViewProvider MineView MineEvent Bool where
  transition view event := (MineView.transitions view event).getD view
  statusEvent stakeIsZero := if stakeIsZero then some .unstakeAndClaimConfirmed else none
  getInitialView stakeIsZero :=
    if remainingRewardIsZero then .disabled else if stakeIsZero then .inactive else .active

open CommittedCell in
/-- In every run each panel shows what its table of transitions makes of the initial view and
of the last events between any two renders. -/
theorem views_run (store : Nat) :
    (∀ status events,
      (EventRun.run troveViewProvider.step (troveViewProvider.mount status store) events).view =
        (counted (troveViewProvider.acts none (.render status store :: events))).foldl transition
          (TroveView.ofStatus status)) ∧
    (∀ isEmpty events,
      (EventRun.run stabilityViewProvider.step (stabilityViewProvider.mount isEmpty store)
        events).view =
        (counted (stabilityViewProvider.acts none (.render isEmpty store :: events))).foldl
          stabilityViewProvider.transition (if isEmpty then .none else .active)) ∧
    (∀ rewardIsZero stakeIsZero events,
      (EventRun.run (mineViewProvider rewardIsZero).step
        ((mineViewProvider rewardIsZero).mount stakeIsZero store) events).view =
        (counted ((mineViewProvider rewardIsZero).acts none
          (.render stakeIsZero store :: events))).foldl (mineViewProvider rewardIsZero).transition
            (if rewardIsZero then .disabled else if stakeIsZero then .inactive else .active)) :=
  ⟨fun status events => ViewProvider.run_view status store events,
    fun isEmpty events => ViewProvider.run_view isEmpty store events,
    fun _ stakeIsZero events => ViewProvider.run_view stakeIsZero store events⟩

/-- The views from which a trove is adjusted or closed. -/
def TroveView.changesTrove : TroveView → Bool
  | .active | .adjusting | .closing => true
  | _ => false

namespace TroveViewProvider

abbrev State := ViewState TroveView UserTroveStatus

/-- The status of the last render. -/
def State.troveStatus (this : State) : Option UserTroveStatus := this.rendered.map Prod.fst

/-- The last dispatch has been rendered, no component dispatches that a trove has been opened,
and an open trove does not cease to exist. -/
def NeverReopens (this : State) : ViewEvent TroveEvent UserTroveStatus → Prop
  | .dispatchEvent event => this.view = this.viewRef ∧ event ≠ .troveOpened
  | .render status _ => this.troveStatus = some .open → status ≠ .nonExistent

instance (this : State) : (event : ViewEvent TroveEvent UserTroveStatus) →
    Decidable (NeverReopens this event)
  | .dispatchEvent _ => inferInstanceAs (Decidable (this.view = this.viewRef ∧ _))
  | .render status _ => inferInstanceAs (Decidable (_ → status ≠ .nonExistent))

/-- The last dispatch has been rendered, and no component dispatches that an open trove has been
closed, liquidated or redeemed. -/
def NeverCloses (this : State) : ViewEvent TroveEvent UserTroveStatus → Prop
  | .dispatchEvent event => this.view = this.viewRef ∧ (this.troveStatus = some .open →
      event ≠ .troveClosed ∧ event ≠ .troveLiquidated ∧ event ≠ .troveRedeemed)
  | .render _ _ => True

instance (this : State) : (event : ViewEvent TroveEvent UserTroveStatus) →
    Decidable (NeverCloses this event)
  | .dispatchEvent _ => inferInstanceAs (Decidable (this.view = this.viewRef ∧ (_ → _)))
  | .render _ _ => .isTrue trivial

theorem changesTrove_of_transition {view : TroveView} {event : TroveEvent}
    (hevent : event ≠ .troveOpened) (h : (transition view event).changesTrove = true) :
    view.changesTrove = true := by
  cases view <;> cases event <;> first | rfl | exact absurd rfl hevent | cases h

theorem not_changesTrove_of_statusEvent {status : UserTroveStatus} {event : TroveEvent}
    (hevent : troveStatusEvents status = some event) (hstatus : status ≠ .open)
    (view : TroveView) : (transition view event).changesTrove = false := by
  cases status with
  | nonExistent => cases hevent
  | «open» => exact absurd rfl hstatus
  | closedByOwner => cases hevent; cases view <;> rfl
  | closedByLiquidation => cases hevent; cases view <;> rfl
  | closedByRedemption => cases hevent; cases view <;> rfl

theorem changesTrove_of_troveOpened (view : TroveView) :
    (transition view .troveOpened).changesTrove = true := by
  cases view <;> rfl

theorem changesTrove_transition {view : TroveView} {event : TroveEvent}
    (hclosed : event ≠ .troveClosed) (hliquidated : event ≠ .troveLiquidated)
    (hredeemed : event ≠ .troveRedeemed) (h : view.changesTrove = true) :
    (transition view event).changesTrove = true := by
  cases view <;> cases event <;>
    first | rfl | exact absurd rfl hclosed | exact absurd rfl hliquidated |
      exact absurd rfl hredeemed | cases h

/-- A trove that can be changed is open. -/
def ChangesOpen (this : State) : Prop :=
  this.view.changesTrove = true → this.troveStatus = some .open

/-- An open trove can be changed. -/
def OpenChanges (this : State) : Prop :=
  this.troveStatus = some .open → this.view.changesTrove = true

theorem ChangesOpen.render {this : State} (h : ChangesOpen this) {status : UserTroveStatus}
    {store : Nat} (hstep : NeverReopens this (.render status store)) :
    ChangesOpen (troveViewProvider.render this status store) := by
  unfold ViewProvider.render ChangesOpen
  split
  · next event hevent =>
      intro hchanges
      by_cases hopen : status = .open
      · exact congrArg some hopen
      · have hstatus : troveStatusEvents status = some event := by
          unfold ViewProvider.effectEvent at hevent
          split at hevent
          · cases hevent
          · exact hevent
        rw [show (troveViewProvider.dispatchEvent _ event).view =
            transition this.view event from rfl,
          not_changesTrove_of_statusEvent hstatus hopen] at hchanges
        cases hchanges
  · next hevent =>
      intro hchanges
      have hbefore := h hchanges
      have hexists := hstep hbefore
      unfold ViewProvider.effectEvent at hevent
      split at hevent
      · next hsame =>
          rw [State.troveStatus, hsame] at hbefore
          exact hbefore
      · cases status with
        | nonExistent => exact absurd rfl hexists
        | «open» => rfl
        | closedByOwner => cases hevent
        | closedByLiquidation => cases hevent
        | closedByRedemption => cases hevent

theorem ChangesOpen.step {this : State} (event : ViewEvent TroveEvent UserTroveStatus)
    (h : ChangesOpen this) (hstep : NeverReopens this event) :
    ChangesOpen (troveViewProvider.step this event) := by
  cases event with
  | dispatchEvent event =>
      intro hchanges
      apply h
      rw [hstep.1]
      exact changesTrove_of_transition hstep.2 hchanges
  | render status store => exact h.render hstep

theorem OpenChanges.render {this : State} (h : OpenChanges this) (status : UserTroveStatus)
    (store : Nat) : OpenChanges (troveViewProvider.render this status store) := by
  unfold ViewProvider.render
  split
  · next event hevent =>
      intro hopen
      obtain rfl : status = .open := Option.some.inj hopen
      have htrove : event = .troveOpened := by
        unfold ViewProvider.effectEvent at hevent
        split at hevent
        · cases hevent
        · exact (Option.some.inj hevent).symm
      rw [htrove]
      exact changesTrove_of_troveOpened this.view
  · next hevent =>
      intro hopen
      obtain rfl : status = .open := Option.some.inj hopen
      unfold ViewProvider.effectEvent at hevent
      split at hevent
      · next hsame => exact h (by rw [State.troveStatus, hsame]; rfl)
      · cases hevent

theorem OpenChanges.step {this : State} (event : ViewEvent TroveEvent UserTroveStatus)
    (h : OpenChanges this) (hstep : NeverCloses this event) :
    OpenChanges (troveViewProvider.step this event) := by
  cases event with
  | dispatchEvent event =>
      intro hopen
      obtain ⟨hclosed, hliquidated, hredeemed⟩ := hstep.2 hopen
      have hbefore := h hopen
      rw [hstep.1] at hbefore
      exact changesTrove_transition hclosed hliquidated hredeemed hbefore
  | render status store => exact h.render status store

/-- In every run in which each dispatch is rendered before the next one, no component reopens
the trove and an open trove does not cease to exist, a trove that can be changed is open. -/
theorem changes_open_run {status : UserTroveStatus} {store : Nat}
    {events : List (ViewEvent TroveEvent UserTroveStatus)}
    (hmeets : EventRun.Meets troveViewProvider.step NeverReopens
      (troveViewProvider.mount status store) events) :
    ChangesOpen (EventRun.run troveViewProvider.step (troveViewProvider.mount status store)
      events) := by
  apply EventRun.run_invariant_of_meets troveViewProvider.step
    (fun _ event h hstep => ChangesOpen.step event h hstep) _ hmeets
  cases status <;> intro h <;> first | rfl | cases h

/-- An open trove that is closed by its owner while the editor is shown. -/
theorem changes_open_run_closed : ChangesOpen (EventRun.run troveViewProvider.step
    (troveViewProvider.mount .open 0) [.render .open 0, .dispatchEvent .adjustTrovePressed,
      .render .open 0, .dispatchEvent .troveClosed, .render .closedByOwner 0]) :=
  changes_open_run (by decide)

/-- In every run in which each dispatch is rendered before the next one and no component
dispatches the end of an open trove, an open trove can be changed. -/
theorem open_changes_run {status : UserTroveStatus} {store : Nat}
    {events : List (ViewEvent TroveEvent UserTroveStatus)}
    (hmeets : EventRun.Meets troveViewProvider.step NeverCloses
      (troveViewProvider.mount status store) events) :
    OpenChanges (EventRun.run troveViewProvider.step (troveViewProvider.mount status store)
      events) := by
  apply EventRun.run_invariant_of_meets troveViewProvider.step
    (fun _ event h hstep => OpenChanges.step event h hstep) _ hmeets
  cases status <;> intro h <;> first | rfl | cases h

/-- A trove that is opened while the form for it is shown. -/
theorem open_changes_run_opened : OpenChanges (EventRun.run troveViewProvider.step
    (troveViewProvider.mount .nonExistent 0) [.render .nonExistent 0,
      .dispatchEvent .openTrovePressed, .render .nonExistent 0, .render .open 0]) :=
  open_changes_run (by decide)

end TroveViewProvider

end HLiquity
