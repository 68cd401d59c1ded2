import HLiquity.Library.RenderCycle
import HLiquity.LiquityReducer
import HLiquity.TroveManager

/-!
# The renders of the trove manager

The reducer of the trove manager is another function in each render, so
`dispatch` is another one as well, and every effect runs after every render. An
effect that dispatches an amount replaces the edited trove by a new object, which
is never identical to the one before, and renders again. Only the identity of
the objects decides whether a dispatch renders again, so the states of this
module carry it beside the values.
-/

namespace HLiquity

variable {constants : Constants} {E : ExtraState}

inductive TroveView where
  | none
  | liquidated
  | redeemed
  | opening
  | adjusting
  | closing
  | active
  deriving DecidableEq, Repr

inductive TroveEvent where
  | openTrovePressed
  | adjustTrovePressed
  | closeTrovePressed
  | cancelAdjustTrovePressed
  | troveClosed
  | troveAdjusted
  | troveLiquidated
  | troveRedeemed
  | troveSurplusCollateralClaimed
  | troveOpened
  deriving DecidableEq, Repr

/-- `transitions` -/
def transitions : TroveView → TroveEvent → Option TroveView
  | .none, .openTrovePressed => some .opening
  | .none, .troveOpened => some .active
  | .liquidated, .openTrovePressed => some .opening
  | .liquidated, .troveSurplusCollateralClaimed => some .none
  | .liquidated, .troveOpened => some .active
  | .redeemed, .openTrovePressed => some .opening
  | .redeemed, .troveSurplusCollateralClaimed => some .none
  | .redeemed, .troveOpened => some .active
  | .opening, .cancelAdjustTrovePressed => some .none
  | .opening, .troveOpened => some .active
  | .adjusting, .cancelAdjustTrovePressed => some .active
  | .adjusting, .troveAdjusted => some .active
  | .adjusting, .troveClosed => some .none
  | .adjusting, .troveLiquidated => some .liquidated
  | .adjusting, .troveRedeemed => some .redeemed
  | .closing, .cancelAdjustTrovePressed => some .active
  | .closing, .troveClosed => some .none
  | .closing, .troveAdjusted => some .active
  | .closing, .troveLiquidated => some .liquidated
  | .closing, .troveRedeemed => some .redeemed
  | .active, .adjustTrovePressed => some .adjusting
  | .active, .closeTrovePressed => some .closing
  | .active, .troveClosed => some .none
  | .active, .troveLiquidated => some .liquidated
  | .active, .troveRedeemed => some .redeemed
  | _, _ => none

def transition (view : TroveView) (event : TroveEvent) : TroveView :=
  (transitions view event).getD view

/-- `TransactionState`, with the identifier of the transaction. -/
inductive TransactionState where
  | idle
  | failed (id : String)
  | waitingForApproval (id : String)
  | cancelled (id : String)
  | waitingForConfirmation (id : String)
  | confirmed (id : String)
  | confirmedOneShot (id : String)
  deriving DecidableEq, Repr

def TransactionState.id : TransactionState → Option String
  | idle => none
  | failed id | waitingForApproval id | cancelled id | waitingForConfirmation id
  | confirmed id | confirmedOneShot id => some id

/-- `useMyTransactionState`, for the identifiers that start with a prefix. -/
def useMyTransactionState (idPrefix : String) (transactionState : TransactionState) :
    TransactionState :=
  if transactionState.id.any idPrefix.isPrefixOf then transactionState else .idle

namespace TroveManager

def transactionIdPrefix : String := "trove-"

/-- What identifies an object: its address in the store, or the number of the object among
those that the component has created. -/
inductive Reference where
  | stored (address : Address)
  | created (index : Nat)
  deriving DecidableEq, Repr

/-- An object with its identity. -/
structure Located (α : Type) where
  reference : Reference
  value : α

/-- A state of the reducer with the identity of both troves. -/
structure LocatedState (constants : Constants) where
  original : Located (UserTrove constants)
  edited : Located (Trove constants)
  changePending : Bool
  debtDirty : Bool
  addedMinimumDebt : Bool

namespace LocatedState

/-- The state without the identity of its objects. -/
def values (this : LocatedState constants) : State constants :=
  ⟨this.original.value, this.edited.value, this.changePending, this.debtDirty,
    this.addedMinimumDebt⟩

/-- `shallowEquals`: the troves are identical and the flags are the same. -/
def equals (a b : LocatedState constants) : Bool :=
  a.original.reference == b.original.reference && a.edited.reference == b.edited.reference &&
    a.changePending == b.changePending && a.debtDirty == b.debtDirty &&
    a.addedMinimumDebt == b.addedMinimumDebt

/-- The state with new values, in which the edited trove is a new object and the original one
is the old object. -/
def create (this : LocatedState constants) (index : Nat) (next : State constants) :
    LocatedState constants :=
  ⟨this.original, ⟨.created index, next.edited⟩, next.changePending, next.debtDirty,
    next.addedMinimumDebt⟩

/-- The object that `apply` returns: the trove itself when nothing changes, and the edited one
when it cannot be created. -/
def applied (trove : Located (UserTrove constants)) (edited : Located (Trove constants))
    (index : Nat) : Option (TroveChange constants) → Reference
  | none => trove.reference
  | some (.invalidCreation _ _) => edited.reference
  | some _ => .created index

/-- The arm `updateStore`, which reverts to a new object as well. -/
def updateStore (this : LocatedState constants) (index : Nat)
    (trove : Located (UserTrove constants)) (changeCommitted : Bool) :
    Result (LocatedState constants) :=
  let newState := { this with original := trove }
  if this.changePending && changeCommitted then
    .ok (newState.create index newState.values.revert.finishChange)
  else do
    let change ← this.original.value.toTrove.whatChanged this.edited.value (some Decimal.zero)
    if (TroveChange.isCreation change && !trove.value.isEmpty) ||
        (TroveChange.isClosure change && trove.value.isEmpty) then
      return newState.create index newState.values.revert
    else
      let edited ← trove.value.toTrove.apply change (some Decimal.zero)
      return { newState with edited := ⟨applied trove this.edited index change, edited⟩ }

/-- The reducer. What one action creates has one number, since it keeps a single new trove. -/
def reduce (this : LocatedState constants) (index : Nat) :
    Action constants E → Result (LocatedState constants)
  | .startChange => .ok { this with changePending := true }
  | .finishChange => .ok { this with changePending := false }
  | .setCollateral newValue => do
      let newCollateral ← Decimal.from newValue
      return this.create index (this.values.setCollateral newCollateral)
  | .setDebt newValue => do
      let newDebt ← Decimal.from newValue
      return this.create index
        { this.values with edited := this.edited.value.setDebt newDebt, debtDirty := true }
  | .addMinimumDebt => .ok (this.create index this.values.addMinimumDebt)
  | .removeMinimumDebt => .ok (this.create index this.values.removeMinimumDebt)
  | .revert => .ok (this.create index this.values.revert)
  | .updateStore params =>
      this.updateStore index
        ⟨.stored params.newState.derived.trove.address, params.newState.derived.trove.value⟩
        (params.stateChange.base .troveBeforeRedistribution).isSome

theorem create_values {this : LocatedState constants} {next : State constants}
    (h : next.original = this.original.value) (index : Nat) :
    (this.create index next).values = next := by
  rw [create, values, ← h]

theorem updateStore_values (this : LocatedState constants) (index : Nat)
    (trove : Located (UserTrove constants)) (changeCommitted : Bool) :
    (this.updateStore index trove changeCommitted).map values =
      this.values.updateStore trove.value changeCommitted := by
  simp only [updateStore, State.updateStore, values]
  by_cases hcommits : (this.changePending && changeCommitted) = true
  · simp only [hcommits, if_true]
    rfl
  · rw [Bool.not_eq_true] at hcommits
    simp only [hcommits, Bool.false_eq_true, if_false]
    cases this.original.value.toTrove.whatChanged this.edited.value (some Decimal.zero) with
    | error failure => rfl
    | ok change =>
        simp only [Result.ok_bind]
        split_ifs
        · rfl
        · cases trove.value.toTrove.apply change (some Decimal.zero) <;> rfl

/-- Without the identities the reducer is the one of the values. -/
theorem reduce_values (this : LocatedState constants) (index : Nat)
    (action : Action constants E) :
    (this.reduce index action).map values = this.values.reduce action := by
  cases action with
  | updateStore params => exact updateStore_values this index _ _
  | setCollateral newValue =>
      cases hfrom : Decimal.from newValue with
      | error failure => simp [reduce, State.reduce, hfrom, Except.map]
      | ok newCollateral =>
          have hvalues : (this.create index (this.values.setCollateral newCollateral)).values =
              this.values.setCollateral newCollateral :=
            create_values (setCollateral_original this.values newCollateral) index
          simp [reduce, State.reduce, hfrom, Except.map, hvalues]
  | setDebt newValue =>
      cases hfrom : Decimal.from newValue with
      | error failure => simp [reduce, State.reduce, hfrom, Except.map]
      | ok newDebt =>
          simp only [reduce, State.reduce, hfrom, Result.ok_bind]
          rfl
  | _ => rfl

end LocatedState

/-- What the component is mounted with, none of which changes. -/
structure Inputs (constants : Constants) (E : ExtraState) where
  store : HLiquityStore constants E
  collateral : Option Decimalish
  debt : Option Decimalish
  transactionState : TransactionState

/-- The trove of the store. -/
def Inputs.trove (inputs : Inputs constants E) : Located (UserTrove constants) :=
  ⟨.stored inputs.store.state.derived.trove.address, inputs.store.state.derived.trove.value⟩

/-- The transaction state that the component reacts to. -/
def Inputs.myTransactionState (inputs : Inputs constants E) : TransactionState :=
  useMyTransactionState transactionIdPrefix inputs.transactionState

/-- The component between two rounds: the state of its reducer, how many objects and functions
it has created, the `dispatch` that its effects have seen last, whether it renders again, and
the view of the page, which shows the component for closing a trove. -/
structure Component (constants : Constants) where
  state : LocatedState constants
  created : Nat
  seen : Option Nat
  rerender : Bool
  view : TroveView

/-- The component when it is mounted. -/
def Inputs.mount (inputs : Inputs constants E) : Component constants where
  state := ⟨inputs.trove,
    ⟨.created 0, ⟨inputs.trove.value.collateral, inputs.trove.value.debt⟩⟩, false, false, false⟩
  created := 1
  seen := none
  rerender := false
  view := .closing

namespace Component

/-- `dispatch`, which renders again unless the new state equals the current one. -/
def dispatch (this : Component constants) (action : Action constants E) :
    Result (Component constants) := do
  let newState ← this.state.reduce this.created action
  let this := { this with created := this.created + 1 }
  if !newState.equals this.state then
    return { this with state := newState, rerender := true }
  else return this

/-- The effect of `useLiquityReducer`. The one of `useLiquitySelector` finds the state that it
has already. -/
def subscribe (inputs : Inputs constants E) (this : Component constants) :
    Result (Component constants) :=
  this.dispatch (.updateStore inputs.store.catchUp)

/-- An effect dispatches a prop that is defined. -/
def dispatchDefined (this : Component constants) (prop : Option Decimalish)
    (action : Decimalish → Action constants E) : Result (Component constants) :=
  match prop with
  | some newValue => this.dispatch (action newValue)
  | none => .ok this

/-- The effect of the amounts. -/
def dispatchAmounts (inputs : Inputs constants E) (this : Component constants) :
    Result (Component constants) := do
  let this ← this.dispatchDefined inputs.collateral
    (.setCollateral : Decimalish → Action constants E)
  this.dispatchDefined inputs.debt (.setDebt : Decimalish → Action constants E)

/-- The event of a confirmed transaction. -/
def confirmedEvent (id : String) : TroveEvent :=
  if id = transactionIdPrefix ++ "closure" then .troveClosed else .troveAdjusted

/-- The effect of the transaction state. -/
def followTransaction (inputs : Inputs constants E) (this : Component constants) :
    Result (Component constants) :=
  match inputs.myTransactionState with
  | .waitingForApproval _ | .waitingForConfirmation _ =>
      this.dispatch (.startChange : Action constants E)
  | .failed _ | .cancelled _ => this.dispatch (.finishChange : Action constants E)
  | .confirmedOneShot id => .ok { this with view := transition this.view (confirmedEvent id) }
  | .idle | .confirmed _ => .ok this

def runEffects (inputs : Inputs constants E) (this : Component constants) :
    Result (Component constants) := do
  let this ← this.subscribe inputs
  let this ← this.dispatchAmounts inputs
  this.followTransaction inputs

/-- The render creates a reducer and with it a new `dispatch`. -/
def render (this : Component constants) : Component constants :=
  { this with seen := some this.created, created := this.created + 1, rerender := false }

/-- A render, and the effects if their `dispatch` is not identical to the one before. Another
render follows if one of them has asked for it. An effect that throws unmounts the component,
and so does another view. -/
def round (inputs : Inputs constants E) (this : Component constants) :
    Option (Component constants) :=
  let rendered := this.render
  if rendered.seen = this.seen then none
  else
    match rendered.runEffects inputs with
    | .error _ => none
    | .ok next => if next.view = .closing && next.rerender then some next else none

end Component

/-- The amounts of the props. -/
def Inputs.amounts (inputs : Inputs constants E) : Result (Option Decimal × Option Decimal) := do
  let collateral ← inputs.collateral.mapM Decimal.from
  let debt ← inputs.debt.mapM Decimal.from
  return (collateral, debt)

/-- After finitely many renders no effect leads to another one. -/
def Inputs.Terminates (inputs : Inputs constants E) : Prop :=
  RenderCycle.Terminates (Component.round inputs) inputs.mount

end TroveManager

namespace Trove

open Decimal

/-- An open trove whose debt does not cover the liquidation reserve is cleared. -/
def Unclosable (this that : Trove constants) : Prop :=
  this ≠ empty ∧ that = empty ∧ this.debt < constants.hchfLiquidationReserve

theorem not_unclosable_self (this : Trove constants) : ¬ this.Unclosable this :=
  fun h => h.1 h.2.1

theorem netDebt_of_lt {this : Trove constants} (h : this.debt < constants.hchfLiquidationReserve) :
    ∃ failure, this.netDebt = .error failure := by
  rw [netDebt, if_pos (lt_iff.mpr h)]
  cases constants.hchfLiquidationReserve.toString none with
  | error failure => exact ⟨failure, rfl⟩
  | ok reserve => exact ⟨_, rfl⟩

/-- What changes when an unclosable trove is cleared cannot be computed. -/
theorem whatChanged_of_unclosable {this that : Trove constants} (h : this.Unclosable that)
    (rate : Option Decimal) : ∃ failure, this.whatChanged that rate = .error failure := by
  obtain ⟨hopen, rfl, hdebt⟩ := h
  obtain ⟨failure, hnetDebt⟩ := netDebt_of_lt hdebt
  refine ⟨failure, ?_⟩
  rw [whatChanged, componentsDiffer hopen, isEmpty_eq_false.mpr hopen, isEmpty_iff.mpr rfl,
    hnetDebt]
  rfl

/-- Otherwise the edit, replayed on the trove that it was made on, gives the edited trove. -/
theorem replay_self {this that : Trove constants} (h : ¬ this.Unclosable that) :
    ∃ change, this.whatChanged that (some Decimal.zero) = .ok change ∧
      this.apply change (some Decimal.zero) = .ok that ∧
      (TroveChange.isCreation change && !this.isEmpty) = false ∧
      (TroveChange.isClosure change && this.isEmpty) = false ∧
      (this = that → change = none) := by
  by_cases hsame : this = that
  · subst hsame
    exact ⟨none, whatChanged_self this _, rfl, rfl, rfl, fun _ => rfl⟩
  · by_cases hempty : this = empty
    · subst hempty
      have hthat : that ≠ empty := fun heq => hsame heq.symm
      rcases lt_or_ge that.debt constants.hchfLiquidationReserve with hdebt | hdebt
      · refine ⟨_, whatChanged_invalidCreation hthat hdebt _, rfl, rfl, rfl,
          fun heq => absurd heq hsame⟩
      · refine ⟨_, whatChanged_creation hthat hdebt _, ?_, rfl, rfl,
          fun heq => absurd heq hsame⟩
        rw [Option.getD_some, unapplyFee_zero_rate, apply, if_neg (by simp), Option.getD_some,
          applyFee_zero_rate]
        congr 1
        apply Trove.ext
        · rfl
        · ext
          exact Nat.add_sub_cancel' (Decimal.le_def.mp hdebt)
    · by_cases hcleared : that = empty
      · subst hcleared
        have hdebt : constants.hchfLiquidationReserve ≤ this.debt :=
          not_lt.mp fun hlt => h ⟨hempty, rfl, hlt⟩
        refine ⟨_, whatChanged_closure hempty hdebt _, ?_, rfl, ?_, fun heq => absurd heq hsame⟩
        · rw [apply, if_neg (by simpa using hempty)]
        · rw [isEmpty_eq_false.mpr hempty, Bool.and_false]
      · refine ⟨_, whatChanged_adjustment hsame hempty hcleared _, ?_, rfl, rfl,
          fun heq => absurd heq hsame⟩
        rw [Option.getD_some, apply_adjustmentTo this that Decimal.zero (.inr rfl),
          replayed_zero]

end Trove

namespace TroveManager

namespace LocatedState

variable {this : LocatedState constants}

/-- An update with the trove that is edited already keeps all values. The edited object becomes
the one of the store when nothing is edited. -/
theorem updateStore_self (index : Nat)
    (h : ¬ this.original.value.toTrove.Unclosable this.edited.value) :
    ∃ reference, this.updateStore index this.original false =
        .ok { this with edited := ⟨reference, this.edited.value⟩ } ∧
      (this.original.value.toTrove = this.edited.value →
        reference = this.original.reference) ∧
      (reference = this.original.reference ∨ reference = this.edited.reference ∨
        reference = .created index) := by
  obtain ⟨change, hchange, happly, hcreation, hclosure, hsame⟩ := Trove.replay_self h
  refine ⟨applied this.original this.edited index change, ?_, ?_, ?_⟩
  · simp only [updateStore, Bool.and_false, Bool.false_eq_true, if_false, hchange,
      Result.ok_bind, hcreation, hclosure, Bool.or_false, happly]
    rfl
  · intro heq
    rw [hsame heq]
    rfl
  · cases change with
    | none => exact .inl rfl
    | some change =>
        cases change with
        | invalidCreation trove error => exact .inr (.inl rfl)
        | creation params | closure params | adjustment params setToZero =>
            exact .inr (.inr rfl)

/-- An update with a trove that the edit clears but that cannot be closed throws. -/
theorem updateStore_of_unclosable (index : Nat)
    (h : this.original.value.toTrove.Unclosable this.edited.value) :
    ∃ failure, this.updateStore index this.original false = .error failure := by
  obtain ⟨failure, hchange⟩ := Trove.whatChanged_of_unclosable h (some Decimal.zero)
  refine ⟨failure, ?_⟩
  simp only [updateStore, Bool.and_false, Bool.false_eq_true, if_false, hchange,
    Result.error_bind]

end LocatedState

namespace Component

variable {inputs : Inputs constants E} {this : Component constants}

/-- The original is the trove of the store, and a created edited trove is an old object. -/
structure Valid (inputs : Inputs constants E) (this : Component constants) : Prop where
  original : this.state.original = inputs.trove
  fresh : ∀ index, this.state.edited.reference = .created index → index < this.created

theorem valid_mount (inputs : Inputs constants E) : inputs.mount.Valid inputs := by
  refine ⟨rfl, ?_⟩
  rintro index ⟨⟩
  exact Nat.zero_lt_one

/-- An action that creates an edited trove renders again. -/
theorem dispatch_of_create (h : this.Valid inputs) {action : Action constants E}
    {next : State constants}
    (hreduce : this.state.reduce this.created action = .ok (this.state.create this.created next)) :
    this.dispatch action = .ok { this with
      state := this.state.create this.created next
      created := this.created + 1
      rerender := true } := by
  have hdiffers : (this.state.create this.created next).equals this.state = false := by
    rw [Bool.eq_false_iff]
    intro hequals
    simp only [LocatedState.equals, LocatedState.create, Bool.and_eq_true, beq_iff_eq] at hequals
    exact absurd (h.fresh _ hequals.1.1.1.2.symm) (lt_irrefl _)
  rw [dispatch, hreduce, Result.ok_bind]
  simp only [hdiffers]
  rfl

theorem valid_create (h : this.Valid inputs) (next : State constants) (rerender : Bool) :
    Valid inputs { this with
      state := this.state.create this.created next
      created := this.created + 1
      rerender := rerender } := by
  refine ⟨h.original, ?_⟩
  rintro index ⟨⟩
  exact Nat.lt_succ_self _

/-- The component after an action that keeps all values but the flag of the pending change: it
renders again if the action replaces the edited object or changes the flag. -/
def relabel (this : Component constants) (reference : Reference) (pending : Bool) :
    Component constants :=
  { this with
    state := { this.state with
      edited := ⟨reference, this.state.edited.value⟩, changePending := pending }
    created := this.created + 1
    rerender := this.rerender ||
      !(reference == this.state.edited.reference && pending == this.state.changePending) }

theorem dispatch_of_relabel {action : Action constants E} {reference : Reference} {pending : Bool}
    (hreduce : this.state.reduce this.created action = .ok { this.state with
      edited := ⟨reference, this.state.edited.value⟩, changePending := pending }) :
    this.dispatch action = .ok (this.relabel reference pending) := by
  rw [dispatch, hreduce, Result.ok_bind, relabel]
  by_cases hsame : reference = this.state.edited.reference ∧ pending = this.state.changePending
  · obtain ⟨rfl, rfl⟩ := hsame
    simp [LocatedState.equals]
  · have hdiffers : (reference == this.state.edited.reference &&
        pending == this.state.changePending) = false := by
      rw [Bool.eq_false_iff]
      simpa using hsame
    simp only [LocatedState.equals, beq_self_eq_true, Bool.true_and, Bool.and_true, hdiffers,
      Bool.not_false, if_true, Bool.or_true]
    rfl

/-- The subscription keeps all values, and the edited trove becomes the one of the store if
nothing is edited. -/
theorem subscribe_ok (h : this.Valid inputs)
    (hclosable : ¬ inputs.trove.value.toTrove.Unclosable this.state.edited.value) :
    ∃ reference,
      this.subscribe inputs = .ok (this.relabel reference this.state.changePending) ∧
      (this.relabel reference this.state.changePending).Valid inputs ∧
      (inputs.trove.value.toTrove = this.state.edited.value →
        reference = inputs.trove.reference) := by
  rw [← h.original] at hclosable
  obtain ⟨reference, hupdate, hstored, hcases⟩ :=
    LocatedState.updateStore_self this.created hclosable
  rw [h.original] at hstored hcases
  have hreduce : this.state.reduce this.created
      (.updateStore inputs.store.catchUp : Action constants E) = .ok { this.state with
        edited := ⟨reference, this.state.edited.value⟩
        changePending := this.state.changePending } := by
    rw [← hupdate, h.original]
    rfl
  refine ⟨reference, dispatch_of_relabel hreduce, ⟨h.original, ?_⟩, hstored⟩
  rintro index rfl
  rcases hcases with horiginal | hedited | hcreated
  · cases horiginal
  · exact Nat.lt_succ_of_lt (h.fresh index hedited.symm)
  · cases hcreated
    exact Nat.lt_succ_self _

theorem subscribe_of_unclosable (h : this.Valid inputs)
    (hclears : inputs.trove.value.toTrove.Unclosable this.state.edited.value) :
    ∃ failure, this.subscribe inputs = .error failure := by
  rw [← h.original] at hclears
  obtain ⟨failure, hupdate⟩ := LocatedState.updateStore_of_unclosable this.created hclears
  refine ⟨failure, ?_⟩
  have hreduce : this.state.reduce this.created
      (.updateStore inputs.store.catchUp : Action constants E) = .error failure := by
    rw [← hupdate, h.original]
    rfl
  rw [subscribe, dispatch, hreduce, Result.error_bind]

end Component

/-- The values after the arm `setDebt` with the parsed amount. -/
def State.setDebtTo (this : State constants) (newDebt : Decimal) : State constants :=
  { this with edited := this.edited.setDebt newDebt, debtDirty := true }

/-- The values after the effect of the amounts. -/
def State.setAmounts (this : State constants) (collateral debt : Option Decimal) :
    State constants :=
  let this := collateral.elim this this.setCollateral
  debt.elim this this.setDebtTo

namespace Component

variable {inputs : Inputs constants E} {this : Component constants}

/-- What the effect of the amounts does to the component. -/
structure Edits (inputs : Inputs constants E) (before after : Component constants)
    (values : State constants) (dispatches : Bool) : Prop where
  valid : after.Valid inputs
  values : after.state.values = values
  rerender : after.rerender = (before.rerender || dispatches)
  view : after.view = before.view
  seen : after.seen = before.seen
  created : before.created ≤ after.created

theorem mapM_some_eq_ok {newValue : Decimalish} {amount : Option Decimal} :
    (some newValue).mapM Decimal.from = .ok amount ↔
      ∃ converted, Decimal.from newValue = .ok converted ∧ some converted = amount := by
  change (Decimal.from newValue >>= fun converted => .ok (some converted)) = .ok amount ↔ _
  cases hfrom : Decimal.from newValue with
  | error failure => simp
  | ok converted => simp

theorem mapM_some_eq_error {newValue : Decimalish} {failure : Failure} :
    (some newValue).mapM Decimal.from = .error failure ↔
      Decimal.from newValue = .error failure := by
  change (Decimal.from newValue >>= fun converted => .ok (some converted)) = .error failure ↔ _
  cases hfrom : Decimal.from newValue with
  | error failure => simp
  | ok converted => simp

/-- A defined prop that converts replaces the edited trove and renders again. -/
theorem dispatchDefined_ok (h : this.Valid inputs) (action : Decimalish → Action constants E)
    (edit : State constants → Decimal → State constants)
    (hreduce : ∀ newValue amount, Decimal.from newValue = .ok amount →
      this.state.reduce this.created (action newValue) =
        .ok (this.state.create this.created (edit this.state.values amount)))
    (horiginal : ∀ amount, (edit this.state.values amount).original = this.state.original.value)
    {prop : Option Decimalish} {amount : Option Decimal}
    (hprop : prop.mapM Decimal.from = .ok amount) :
    ∃ next, this.dispatchDefined prop action = .ok next ∧
      Edits inputs this next (amount.elim this.state.values (edit this.state.values))
        amount.isSome := by
  cases prop with
  | none =>
      cases hprop
      refine ⟨this, rfl, ⟨h, rfl, (Bool.or_false _).symm, rfl, rfl, le_refl _⟩⟩
  | some newValue =>
      obtain ⟨converted, hfrom, rfl⟩ := mapM_some_eq_ok.mp hprop
      refine ⟨_, dispatch_of_create h (hreduce newValue converted hfrom),
        ⟨valid_create h _ true, ?_, (Bool.or_true _).symm, rfl, rfl, Nat.le_succ _⟩⟩
      exact LocatedState.create_values (horiginal converted) this.created

/-- A defined prop that does not convert throws. -/
theorem dispatchDefined_error (this : Component constants)
    (action : Decimalish → Action constants E)
    (hreduce : ∀ newValue failure, Decimal.from newValue = .error failure →
      this.state.reduce this.created (action newValue) = .error failure)
    {prop : Option Decimalish} {failure : Failure}
    (hprop : prop.mapM Decimal.from = .error failure) :
    this.dispatchDefined prop action = .error failure := by
  cases prop with
  | none => cases hprop
  | some newValue =>
      rw [dispatchDefined, dispatch, hreduce newValue _ (mapM_some_eq_error.mp hprop),
        Result.error_bind]

theorem dispatchCollateral_ok (h : this.Valid inputs) {collateral : Option Decimal}
    (hcollateral : inputs.collateral.mapM Decimal.from = .ok collateral) :
    ∃ next, this.dispatchDefined inputs.collateral
        (.setCollateral : Decimalish → Action constants E) = .ok next ∧
      Edits inputs this next
        (collateral.elim this.state.values this.state.values.setCollateral)
        collateral.isSome := by
  apply dispatchDefined_ok h
  · intro newValue amount hfrom
    simp [LocatedState.reduce, hfrom]
  · exact setCollateral_original this.state.values
  · exact hcollateral

theorem dispatchAmounts_ok (h : this.Valid inputs) {collateral debt : Option Decimal}
    (hamounts : inputs.amounts = .ok (collateral, debt)) :
    ∃ next, this.dispatchAmounts inputs = .ok next ∧
      Edits inputs this next (this.state.values.setAmounts collateral debt)
        (collateral.isSome || debt.isSome) := by
  obtain ⟨converted, hcollateral, hrest⟩ := Result.bind_eq_ok.mp hamounts
  obtain ⟨convertedDebt, hdebt, hpair⟩ := Result.bind_eq_ok.mp hrest
  cases hpair
  obtain ⟨first, hfirst, hedits⟩ := dispatchCollateral_ok h hcollateral
  obtain ⟨next, hnext, hlater⟩ := dispatchDefined_ok hedits.valid
    (.setDebt : Decimalish → Action constants E) State.setDebtTo
    (fun newValue amount hfrom => by
      simp only [LocatedState.reduce, hfrom, Result.ok_bind]
      rfl)
    (fun amount => rfl) hdebt
  refine ⟨next, ?_, ⟨hlater.valid, ?_, ?_, hlater.view.trans hedits.view,
    hlater.seen.trans hedits.seen, hedits.created.trans hlater.created⟩⟩
  · rw [dispatchAmounts, hfirst, Result.ok_bind, hnext]
  · rw [hlater.values, hedits.values]
    rfl
  · rw [hlater.rerender, hedits.rerender, Bool.or_assoc]

theorem dispatchAmounts_error (h : this.Valid inputs) {failure : Failure}
    (hamounts : inputs.amounts = .error failure) :
    this.dispatchAmounts inputs = .error failure := by
  rcases Result.bind_eq_error.mp hamounts with hcollateral | ⟨collateral, hcollateral, hrest⟩
  · have hfirst := dispatchDefined_error this
      (.setCollateral : Decimalish → Action constants E)
      (fun newValue thrown hfrom => by simp [LocatedState.reduce, hfrom]) hcollateral
    rw [dispatchAmounts, hfirst, Result.error_bind]
  · obtain ⟨first, hfirst, hedits⟩ := dispatchCollateral_ok h hcollateral
    rw [dispatchAmounts, hfirst, Result.ok_bind]
    rcases Result.bind_eq_error.mp hrest with hdebt | ⟨debt, _, hpair⟩
    · exact dispatchDefined_error first (.setDebt : Decimalish → Action constants E)
        (fun newValue thrown hfrom => by simp [LocatedState.reduce, hfrom]) hdebt
    · cases hpair

end Component

/-- The flag of the pending change after the effect of the transaction state. -/
def pendingAfter (pending : Bool) : TransactionState → Bool
  | .waitingForApproval _ | .waitingForConfirmation _ => true
  | .failed _ | .cancelled _ => false
  | .idle | .confirmed _ | .confirmedOneShot _ => pending

/-- The view after the effect of the transaction state. -/
def viewAfter (view : TroveView) : TransactionState → TroveView
  | .confirmedOneShot id => transition view (Component.confirmedEvent id)
  | _ => view

namespace Component

variable {inputs : Inputs constants E} {this : Component constants}

/-- The effect of the transaction state keeps the troves. -/
theorem followTransaction_eq (inputs : Inputs constants E) (this : Component constants) :
    ∃ created, this.created ≤ created ∧ this.followTransaction inputs = .ok { this with
      state := { this.state with
        changePending := pendingAfter this.state.changePending inputs.myTransactionState }
      created := created
      rerender := this.rerender ||
        !(pendingAfter this.state.changePending inputs.myTransactionState ==
          this.state.changePending)
      view := viewAfter this.view inputs.myTransactionState } := by
  unfold followTransaction
  cases inputs.myTransactionState with
  | idle | confirmed id | confirmedOneShot id =>
      refine ⟨this.created, le_refl _, ?_⟩
      simp [pendingAfter, viewAfter]
  | waitingForApproval id | waitingForConfirmation id =>
      refine ⟨this.created + 1, Nat.le_succ _, ?_⟩
      have hreduce : this.state.reduce this.created (.startChange : Action constants E) =
        .ok { this.state with
          edited := ⟨this.state.edited.reference, this.state.edited.value⟩
          changePending := true } := rfl
      simp only [dispatch_of_relabel hreduce, relabel, pendingAfter, viewAfter,
        beq_self_eq_true, Bool.true_and]
  | failed id | cancelled id =>
      refine ⟨this.created + 1, Nat.le_succ _, ?_⟩
      have hreduce : this.state.reduce this.created (.finishChange : Action constants E) =
        .ok { this.state with
          edited := ⟨this.state.edited.reference, this.state.edited.value⟩
          changePending := false } := rfl
      simp only [dispatch_of_relabel hreduce, relabel, pendingAfter, viewAfter,
        beq_self_eq_true, Bool.true_and]

/-- The effects of a round whose props convert and do not clear an unclosable trove. -/
theorem runEffects_ok (h : this.Valid inputs)
    (hclosable : ¬ inputs.trove.value.toTrove.Unclosable this.state.edited.value)
    {collateral debt : Option Decimal} (hamounts : inputs.amounts = .ok (collateral, debt)) :
    ∃ next, this.runEffects inputs = .ok next ∧ next.Valid inputs ∧
      next.state.edited.value = (this.state.values.setAmounts collateral debt).edited ∧
      next.state.addedMinimumDebt =
        (this.state.values.setAmounts collateral debt).addedMinimumDebt ∧
      ((collateral.isSome || debt.isSome) = true → next.rerender = true) ∧
      next.view = viewAfter this.view inputs.myTransactionState ∧
      next.seen = this.seen ∧ this.created ≤ next.created := by
  obtain ⟨reference, hsubscribe, hvalid, _⟩ := subscribe_ok h hclosable
  obtain ⟨edited, hdispatched, hedits⟩ := dispatchAmounts_ok hvalid hamounts
  obtain ⟨created, hcreated, hfollowed⟩ := followTransaction_eq inputs edited
  have hvalues : (this.relabel reference this.state.changePending).state.values =
      this.state.values := rfl
  have hedited := hedits.values
  rw [hvalues] at hedited
  have hruns : this.runEffects inputs = edited.followTransaction inputs := by
    rw [runEffects, hsubscribe, Result.ok_bind, hdispatched, Result.ok_bind]
  refine ⟨_, hruns.trans hfollowed, ⟨hedits.valid.original, ?_⟩, ?_, ?_, ?_, ?_,
    hedits.seen, ?_⟩
  · exact fun index hindex => (hedits.valid.fresh index hindex).trans_le hcreated
  · rw [← hedited]
    rfl
  · rw [← hedited]
    rfl
  · intro hdefined
    simp [hedits.rerender, hdefined]
  · exact congrArg (viewAfter · inputs.myTransactionState) hedits.view
  · exact ((Nat.le_succ _).trans hedits.created).trans hcreated

/-- The effects throw if a prop does not convert, or the edit clears an unclosable trove. -/
theorem runEffects_error (h : this.Valid inputs)
    (hthrows : inputs.trove.value.toTrove.Unclosable this.state.edited.value ∨
      ∃ failure, inputs.amounts = .error failure) :
    ∃ failure, this.runEffects inputs = .error failure := by
  by_cases hclosable : inputs.trove.value.toTrove.Unclosable this.state.edited.value
  · obtain ⟨failure, hsubscribe⟩ := subscribe_of_unclosable h hclosable
    exact ⟨failure, by rw [runEffects, hsubscribe, Result.error_bind]⟩
  · obtain ⟨failure, hamounts⟩ := hthrows.resolve_left hclosable
    obtain ⟨reference, hsubscribe, hvalid, _⟩ := subscribe_ok h hclosable
    refine ⟨failure, ?_⟩
    rw [runEffects, hsubscribe, Result.ok_bind, dispatchAmounts_error hvalid hamounts,
      Result.error_bind]

theorem valid_render (h : this.Valid inputs) : this.render.Valid inputs :=
  ⟨h.original, fun index hindex => Nat.lt_succ_of_lt (h.fresh index hindex)⟩

/-- A round whose effects throw is the last one. -/
theorem round_of_error (h : ∃ failure, this.render.runEffects inputs = .error failure) :
    this.round inputs = none := by
  obtain ⟨failure, hthrows⟩ := h
  simp only [round, hthrows]
  exact ite_self _

/-- A round whose effects ask for another one leads to it. -/
theorem round_of_rerender {next : Component constants}
    (h : this.render.runEffects inputs = .ok next) (hseen : this.render.seen ≠ this.seen)
    (hview : next.view = .closing) (hrerender : next.rerender = true) :
    this.round inputs = some next := by
  simp only [round, if_neg hseen, h, hview, hrerender]
  rfl

/-- A round after which no effect asks for another, or the view is another one, is the last. -/
theorem round_of_last {next : Component constants}
    (h : this.render.runEffects inputs = .ok next)
    (hlast : next.view ≠ .closing ∨ next.rerender = false) : this.round inputs = none := by
  have hends : ¬ (next.view = .closing && next.rerender) = true := by
    simpa [imp_iff_not_or] using hlast
  simp only [round, h, if_neg hends]
  exact ite_self _

/-- A round leads to what its effects leave. -/
theorem eq_of_round {next after : Component constants}
    (h : this.render.runEffects inputs = .ok next) (hround : this.round inputs = some after) :
    after = next := by
  simp only [round, h] at hround
  split_ifs at hround
  cases hround
  rfl

/-- The `dispatch` of a render is none of the earlier ones. -/
theorem render_seen_ne (h : ∀ index, this.seen = some index → index < this.created) :
    this.render.seen ≠ this.seen := fun heq => absurd (h _ heq.symm) (lt_irrefl _)

end Component

/-- The trove of the store with the amounts that are defined. -/
def Inputs.target (inputs : Inputs constants E) (collateral debt : Option Decimal) :
    Trove constants :=
  ⟨collateral.getD inputs.trove.value.collateral, debt.getD inputs.trove.value.debt⟩

/-- An edited trove that is not empty gets the amounts, without a minimum debt. -/
theorem setAmounts_open (this : State constants) (hopen : this.edited ≠ Trove.empty)
    (hadded : this.addedMinimumDebt = false) (collateral debt : Option Decimal) :
    (this.setAmounts collateral debt).edited =
        ⟨collateral.getD this.edited.collateral, debt.getD this.edited.debt⟩ ∧
      (this.setAmounts collateral debt).addedMinimumDebt = false := by
  have hcollateral : ∀ newCollateral,
      this.setCollateral newCollateral =
        { this with edited := this.edited.setCollateral newCollateral } := by
    intro newCollateral
    simp [State.setCollateral, Trove.isEmpty_eq_false.mpr hopen, hadded]
  cases collateral with
  | none =>
      cases debt with
      | none => exact ⟨rfl, hadded⟩
      | some newDebt => exact ⟨rfl, hadded⟩
  | some newCollateral =>
      cases debt with
      | none =>
          constructor
          · simp only [State.setAmounts, Option.elim_some, Option.elim_none, hcollateral]
            rfl
          · simp only [State.setAmounts, Option.elim_some, Option.elim_none, hcollateral]
            exact hadded
      | some newDebt =>
          constructor
          · simp only [State.setAmounts, Option.elim_some, hcollateral]
            rfl
          · simp only [State.setAmounts, Option.elim_some, hcollateral]
            exact hadded

/-- A round leads to another one. If the edit may not clear the trove, the edited trove is the
one of the store or has the amounts of the props. -/
structure Running (inputs : Inputs constants E) (collateral debt : Option Decimal)
    (this : Component constants) : Prop where
  valid : this.Valid inputs
  fresh : ∀ index, this.seen = some index → index < this.created
  view : this.view = .closing
  edits : inputs.trove.value.toTrove.Unclosable Trove.empty →
    this.state.addedMinimumDebt = false ∧
      (this.state.edited.value = inputs.trove.value.toTrove ∨
        this.state.edited.value = inputs.target collateral debt)

namespace Running

variable {inputs : Inputs constants E} {collateral debt : Option Decimal}
  {this : Component constants}

theorem mount (inputs : Inputs constants E) (collateral debt : Option Decimal) :
    Running inputs collateral debt inputs.mount where
  valid := Component.valid_mount inputs
  fresh := fun index hindex => by cases hindex
  view := rfl
  edits := fun _ => ⟨rfl, .inl rfl⟩

theorem edited_ne_empty (h : Running inputs collateral debt this)
    (htarget : ¬ inputs.trove.value.toTrove.Unclosable (inputs.target collateral debt))
    (hreserve : inputs.trove.value.toTrove.Unclosable Trove.empty) :
    this.state.edited.value ≠ Trove.empty := by
  intro hempty
  cases (h.edits hreserve).2 with
  | inl hstored => exact hreserve.1 (hstored.symm.trans hempty)
  | inr hedited =>
      rw [← hedited, hempty] at htarget
      exact htarget hreserve

theorem closable (h : Running inputs collateral debt this)
    (htarget : ¬ inputs.trove.value.toTrove.Unclosable (inputs.target collateral debt)) :
    ¬ inputs.trove.value.toTrove.Unclosable this.state.edited.value := by
  intro hclears
  have hreserve : inputs.trove.value.toTrove.Unclosable Trove.empty :=
    ⟨hclears.1, rfl, hclears.2.2⟩
  exact h.edited_ne_empty htarget hreserve hclears.2.1

/-- The amounts make an edited trove of the invariant one with the amounts of the props. -/
theorem setAmounts (h : Running inputs collateral debt this)
    (htarget : ¬ inputs.trove.value.toTrove.Unclosable (inputs.target collateral debt))
    (hreserve : inputs.trove.value.toTrove.Unclosable Trove.empty) :
    (this.state.values.setAmounts collateral debt).edited = inputs.target collateral debt ∧
      (this.state.values.setAmounts collateral debt).addedMinimumDebt = false := by
  obtain ⟨hadded, hedited⟩ := h.edits hreserve
  obtain ⟨hset, hkept⟩ := setAmounts_open this.state.values
    (h.edited_ne_empty htarget hreserve) hadded collateral debt
  refine ⟨hset.trans ?_, hkept⟩
  cases hedited with
  | inl hstored =>
      have hvalue : this.state.values.edited = inputs.trove.value.toTrove := hstored
      rw [hvalue]
      rfl
  | inr hamounts =>
      have hvalue : this.state.values.edited = inputs.target collateral debt := hamounts
      rw [hvalue]
      cases collateral <;> cases debt <;> rfl

/-- A round that dispatches an amount leads to another one. -/
theorem round (h : Running inputs collateral debt this)
    (hamounts : inputs.amounts = .ok (collateral, debt))
    (hdefined : (collateral.isSome || debt.isSome) = true)
    (hview : viewAfter .closing inputs.myTransactionState = .closing)
    (htarget : ¬ inputs.trove.value.toTrove.Unclosable (inputs.target collateral debt)) :
    ∃ next, this.round inputs = some next ∧ Running inputs collateral debt next := by
  obtain ⟨next, hruns, hvalid, hedited, hadded, hrerender, hnext, hseen, hcreated⟩ :=
    Component.runEffects_ok (Component.valid_render h.valid) (h.closable htarget) hamounts
  have hclosing : next.view = .closing := by
    rw [hnext]
    exact (congrArg (viewAfter · inputs.myTransactionState) h.view).trans hview
  refine ⟨next, ?_, ⟨hvalid, ?_, hclosing, ?_⟩⟩
  · exact Component.round_of_rerender hruns (Component.render_seen_ne h.fresh) hclosing
      (hrerender hdefined)
  · intro index hindex
    rw [hseen] at hindex
    cases hindex
    exact hcreated
  · intro hreserve
    obtain ⟨hset, hkept⟩ := h.setAmounts htarget hreserve
    exact ⟨hadded.trans hkept, .inr (hedited.trans hset)⟩

end Running

/-- Nothing is dispatched, a transaction has just been confirmed, a prop does not convert, or
the props clear a trove whose debt does not cover the liquidation reserve. -/
inductive Inputs.Ends (inputs : Inputs constants E) : Prop where
  | noProps (hcollateral : inputs.collateral = none) (hdebt : inputs.debt = none)
  | confirmed (id : String) (h : inputs.myTransactionState = .confirmedOneShot id)
  | unreadable (failure : Failure) (h : inputs.amounts = .error failure)
  | unclosable (collateral debt : Option Decimal)
      (hamounts : inputs.amounts = .ok (collateral, debt))
      (h : inputs.trove.value.toTrove.Unclosable (inputs.target collateral debt))

section Ends

variable {inputs : Inputs constants E}

theorem mapM_isSome {prop : Option Decimalish} {amount : Option Decimal}
    (h : prop.mapM Decimal.from = .ok amount) : amount.isSome = prop.isSome := by
  cases prop with
  | none =>
      cases h
      rfl
  | some newValue =>
      obtain ⟨converted, _, rfl⟩ := Component.mapM_some_eq_ok.mp h
      rfl

theorem amounts_isSome {collateral debt : Option Decimal}
    (h : inputs.amounts = .ok (collateral, debt)) :
    collateral.isSome = inputs.collateral.isSome ∧ debt.isSome = inputs.debt.isSome := by
  obtain ⟨converted, hcollateral, hrest⟩ := Result.bind_eq_ok.mp h
  obtain ⟨convertedDebt, hdebt, hpair⟩ := Result.bind_eq_ok.mp hrest
  cases hpair
  exact ⟨mapM_isSome hcollateral, mapM_isSome hdebt⟩

/-- Only the confirmation of a transaction leaves the view for closing a trove. -/
theorem viewAfter_closing_iff (transactionState : TransactionState) :
    viewAfter .closing transactionState = .closing ↔
      ∀ id, transactionState ≠ .confirmedOneShot id := by
  cases transactionState with
  | confirmedOneShot id =>
      refine iff_of_false ?_ fun h => h id rfl
      simp only [viewAfter, Component.confirmedEvent]
      split_ifs <;> decide
  | _ => simp [viewAfter]

/-- Unless one of the conditions holds, the renders go on forever. -/
theorem not_terminates (h : ¬ inputs.Ends) : ¬ inputs.Terminates := by
  cases hamounts : inputs.amounts with
  | error failure => exact absurd (.unreadable failure hamounts) h
  | ok amounts =>
      obtain ⟨collateral, debt⟩ := amounts
      obtain ⟨hcollateral, hdebt⟩ := amounts_isSome hamounts
      have hdefined : (collateral.isSome || debt.isSome) = true := by
        rw [hcollateral, hdebt]
        by_contra hnone
        simp only [Bool.or_eq_true, not_or, Option.not_isSome_iff_eq_none] at hnone
        exact h (.noProps hnone.1 hnone.2)
      have hview := (viewAfter_closing_iff inputs.myTransactionState).mpr
        fun id hid => h (.confirmed id hid)
      exact RenderCycle.not_terminates
        (fun this hruns => hruns.round hamounts hdefined hview
          fun hclears => h (.unclosable collateral debt hamounts hclears))
        (Running.mount inputs collateral debt)

/-- The effects of a round without props, when nothing is edited. -/
theorem Component.runEffects_noProps {this : Component constants} (h : this.Valid inputs)
    (hcollateral : inputs.collateral = none) (hdebt : inputs.debt = none)
    (hedited : inputs.trove.value.toTrove = this.state.edited.value) :
    ∃ next, this.runEffects inputs = .ok next ∧ next.Valid inputs ∧
      next.state.edited = ⟨inputs.trove.reference, inputs.trove.value.toTrove⟩ ∧
      next.state.changePending =
        pendingAfter this.state.changePending inputs.myTransactionState ∧
      next.rerender = (this.rerender ||
        !(inputs.trove.reference == this.state.edited.reference) ||
        !(pendingAfter this.state.changePending inputs.myTransactionState ==
          this.state.changePending)) := by
  have hclosable : ¬ inputs.trove.value.toTrove.Unclosable this.state.edited.value := by
    rw [← hedited]
    exact Trove.not_unclosable_self _
  obtain ⟨reference, hsubscribe, hvalid, hreference⟩ := subscribe_ok h hclosable
  obtain ⟨created, hcreated, hfollowed⟩ := followTransaction_eq inputs
    (this.relabel reference this.state.changePending)
  have hruns : this.runEffects inputs =
      (this.relabel reference this.state.changePending).followTransaction inputs := by
    rw [runEffects, hsubscribe, Result.ok_bind, dispatchAmounts, hcollateral, hdebt]
    rfl
  refine ⟨_, hruns.trans hfollowed, ⟨hvalid.original, ?_⟩, ?_, rfl, ?_⟩
  · exact fun index hindex => (hvalid.fresh index hindex).trans_le hcreated
  · rw [← hreference hedited, hedited]
    rfl
  · rw [← hreference hedited]
    simp [relabel]

theorem pendingAfter_pendingAfter (pending : Bool) (transactionState : TransactionState) :
    pendingAfter (pendingAfter pending transactionState) transactionState =
      pendingAfter pending transactionState := by
  cases transactionState <;> rfl

/-- A round without props leads to one that is the last. -/
theorem terminates_of_noProps (hcollateral : inputs.collateral = none)
    (hdebt : inputs.debt = none) : inputs.Terminates := by
  obtain ⟨next, hruns, hvalid, hedited, hpending, _⟩ :=
    Component.runEffects_noProps (Component.valid_render (Component.valid_mount inputs))
      hcollateral hdebt rfl
  refine RenderCycle.terminates_of_forall fun after hafter => ?_
  obtain rfl := Component.eq_of_round hruns hafter
  obtain ⟨last, hlast, _, _, _, hrerender⟩ :=
    Component.runEffects_noProps (Component.valid_render hvalid) hcollateral hdebt
      (congrArg Located.value hedited).symm
  refine RenderCycle.terminates_of_none (Component.round_of_last hlast (.inr ?_))
  have hreference : after.render.state.edited.reference = inputs.trove.reference :=
    congrArg Located.reference hedited
  have hkept : pendingAfter after.render.state.changePending inputs.myTransactionState =
      after.render.state.changePending := by
    have hpending' : after.render.state.changePending = _ := hpending
    rw [hpending', pendingAfter_pendingAfter]
  rw [hrerender, hreference, hkept, beq_self_eq_true, beq_self_eq_true]
  rfl

/-- A round that follows the confirmation of a transaction is the last. -/
theorem terminates_of_confirmed {id : String}
    (h : inputs.myTransactionState = .confirmedOneShot id) : inputs.Terminates := by
  refine RenderCycle.terminates_of_none ?_
  cases hamounts : inputs.amounts with
  | error failure =>
      exact Component.round_of_error (Component.runEffects_error
        (Component.valid_render (Component.valid_mount inputs)) (.inr ⟨failure, hamounts⟩))
  | ok amounts =>
      obtain ⟨next, hruns, _, _, _, _, hview, _⟩ := Component.runEffects_ok
        (Component.valid_render (Component.valid_mount inputs))
        (Trove.not_unclosable_self inputs.trove.value.toTrove) hamounts
      refine Component.round_of_last hruns (.inl ?_)
      rw [hview, h]
      exact fun hclosing => (viewAfter_closing_iff _).mp hclosing id rfl

/-- A round after which the effects throw is followed by the last one. -/
theorem terminates_of_unclosable {collateral debt : Option Decimal}
    (hamounts : inputs.amounts = .ok (collateral, debt))
    (h : inputs.trove.value.toTrove.Unclosable (inputs.target collateral debt)) :
    inputs.Terminates := by
  obtain ⟨next, hruns, hvalid, hedited, _⟩ := Component.runEffects_ok
    (Component.valid_render (Component.valid_mount inputs))
    (Trove.not_unclosable_self inputs.trove.value.toTrove) hamounts
  have htarget : next.state.edited.value = inputs.target collateral debt :=
    hedited.trans (setAmounts_open inputs.mount.state.values h.1 rfl collateral debt).1
  refine RenderCycle.terminates_of_forall fun after hafter => ?_
  obtain rfl := Component.eq_of_round hruns hafter
  rw [← htarget] at h
  exact RenderCycle.terminates_of_none (Component.round_of_error
    (Component.runEffects_error (Component.valid_render hvalid) (.inl h)))

/-- The renders end exactly under the conditions. -/
theorem terminates_iff (inputs : Inputs constants E) : inputs.Terminates ↔ inputs.Ends := by
  constructor
  · intro hterminates
    by_contra hends
    exact not_terminates hends hterminates
  · intro hends
    cases hends with
    | noProps hcollateral hdebt => exact terminates_of_noProps hcollateral hdebt
    | confirmed id h => exact terminates_of_confirmed h
    | unreadable failure h =>
        exact RenderCycle.terminates_of_none (Component.round_of_error
          (Component.runEffects_error
            (Component.valid_render (Component.valid_mount inputs)) (.inr ⟨failure, h⟩)))
    | unclosable collateral debt hamounts h => exact terminates_of_unclosable hamounts h

/-- The page for closing a trove of 10 HBAR and 2000 HCHF. -/
def closing : Inputs defaults noExtraState where
  store := (HLiquityStore.new.load { defaultBaseState with
    troveBeforeRedistribution := ⟨.supplied 0 0,
      ⟨⟨⟨⟨1000000000⟩, ⟨200000000000⟩⟩, "0.0.1001", .open⟩, ⟨1000000000⟩, Trove.empty⟩⟩ } none).2
  collateral := some (.decimal Decimal.zero)
  debt := some (.decimal Decimal.zero)
  transactionState := .idle

/-- The page renders again and again. -/
theorem closing_renders_forever : closing.store.loaded = true ∧ ¬ closing.Terminates := by
  refine ⟨rfl, not_terminates ?_⟩
  intro hends
  cases hends with
  | noProps hcollateral hdebt => cases hcollateral
  | confirmed id h => cases h
  | unreadable failure h => cases h
  | unclosable collateral debt hamounts h =>
      cases hamounts
      exact absurd h.2.2 (by decide)

end Ends

end TroveManager

end HLiquity
