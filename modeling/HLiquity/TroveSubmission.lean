import HLiquity.AdjustmentEncoding
import HLiquity.ClientAgreement
import HLiquity.Library.StableValue
import HLiquity.TroveValidationSound
import HLiquity.UnsavedEdits

/-!
# The submission of trove changes

Both forms of a trove validate the change of each render and keep it in a hook, so that equal
changes are one object. What their button submits is the kept change with the maximum rate of the
last render, and it reaches the chain as the arguments of a contract call.
-/

namespace HLiquity

open Decimal

variable {constants : Constants}

/-- `type` -/
def TroveChange.type : TroveChange constants → String
  | .invalidCreation _ _ => "invalidCreation"
  | .creation _ => "creation"
  | .closure _ => "closure"
  | .adjustment _ _ => "adjustment"

/-- `paramsEq` -/
def paramsEq (a b : Option Decimal) : Bool :=
  match a, b with
  | some a, some b => a.eq b
  | a, b => !a.isSome && !b.isSome

/-- `equals` -/
def TroveChange.equals (a b : TroveChange constants) : Bool :=
  a.type == b.type &&
  paramsEq a.borrowHCHF b.borrowHCHF &&
  paramsEq a.repayHCHF b.repayHCHF &&
  paramsEq a.depositCollateral b.depositCollateral &&
  paramsEq a.withdrawCollateral b.withdrawCollateral

/-- Whether the effect of `useStableTroveChange` keeps the stable change. -/
def keepsTroveChange (stableTroveChange troveChange : Option (TroveChange constants)) : Bool :=
  if stableTroveChange.isSome != troveChange.isSome then false
  else match stableTroveChange, troveChange with
    | some stableTroveChange, some troveChange => stableTroveChange.equals troveChange
    | _, _ => true

@[simp] theorem paramsEq_iff {a b : Option Decimal} : paramsEq a b = true ↔ a = b := by
  cases a <;> cases b <;> simp [paramsEq]

/-- Equal changes are of one kind and have the same amounts. -/
theorem TroveChange.equals_iff {a b : TroveChange constants} :
    a.equals b = true ↔ a.type = b.type ∧ a.borrowHCHF = b.borrowHCHF ∧
      a.repayHCHF = b.repayHCHF ∧ a.depositCollateral = b.depositCollateral ∧
      a.withdrawCollateral = b.withdrawCollateral := by
  simp [equals, and_assoc]

theorem TroveChange.equals_refl (change : TroveChange constants) :
    change.equals change = true :=
  equals_iff.mpr ⟨rfl, rfl, rfl, rfl, rfl⟩

theorem keepsTroveChange_refl (change : Option (TroveChange constants)) :
    keepsTroveChange change change = true := by
  cases change with
  | none => rfl
  | some change => simpa [keepsTroveChange] using change.equals_refl

theorem keepsTroveChange_some_left {change : TroveChange constants}
    {given : Option (TroveChange constants)} (h : keepsTroveChange (some change) given = true) :
    ∃ valid, given = some valid ∧ change.equals valid = true := by
  cases given with
  | none => simp [keepsTroveChange] at h
  | some valid => exact ⟨valid, rfl, by simpa [keepsTroveChange] using h⟩

theorem keepsTroveChange_some_right {valid : TroveChange constants}
    {kept : Option (TroveChange constants)} (h : keepsTroveChange kept (some valid) = true) :
    ∃ change, kept = some change ∧ change.equals valid = true := by
  cases kept with
  | none => simp [keepsTroveChange] at h
  | some change => exact ⟨change, rfl, by simpa [keepsTroveChange] using h⟩

/-- What a render of a form reads. The trove, the allowance and the state of its approval are those
of the adjusting form, the gas estimation is that of the opening one. -/
structure FormInputs (constants : Constants) where
  trove : UserTrove constants
  edited : EditedAmounts
  borrowingRate : Decimal
  validationContext : TroveChangeValidationSelectedState constants
  hasConnection : Bool
  userHasAssociatedWithHchf : Bool
  hchfTokenAllowanceOfHchfContract : Decimal
  hchfAssociationPending : Bool
  hchfApprovalPending : Bool
  gasEstimationInProgress : Bool
  isTransactionPending : Bool

/-- `maxBorrowingRate` -/
def FormInputs.maxBorrowingRate (inputs : FormInputs constants) : Decimal :=
  inputs.borrowingRate.add ⟨500000⟩

/-- What the button of a form does, if it is enabled. -/
inductive FormAction (constants : Constants) where
  | associateWithHchf
  | approveHchfSpender (amount : Decimal)
  | submit (change : TroveChange constants) (maxBorrowingRate : Decimal)
  deriving DecidableEq

/-- A button that can be disabled. -/
def button (disabled : Bool) (action : FormAction constants) : Option (FormAction constants) :=
  if disabled then none else some action

inductive TroveForm where
  | opening
  | adjusting
  deriving DecidableEq, Repr

namespace TroveForm

/-- The trove that is changed. -/
def original : TroveForm → FormInputs constants → Trove constants
  | .opening, _ => .empty
  | .adjusting, inputs => inputs.trove.toTrove

/-- The trove that it is changed to. -/
def updated (form : TroveForm) (inputs : FormInputs constants) : Result (Trove constants) :=
  match form with
  | .opening => return (HLiquity.opening constants inputs.borrowingRate inputs.edited).trove
  | .adjusting => do
      let render ← HLiquity.adjusting inputs.trove.toTrove inputs.edited.collateral
        inputs.edited.netDebt inputs.borrowingRate
      return render.updatedTrove

/-- The valid change of a render. -/
def validated (form : TroveForm) (inputs : FormInputs constants) :
    Result (Option (TroveChange constants)) := do
  let outcome ← validateTroveChange (form.original inputs) (← form.updated inputs)
    inputs.borrowingRate inputs.validationContext inputs.hasConnection
  return outcome.1

/-- The `TroveAction` of a stable change. -/
def submitButton (inputs : FormInputs constants)
    (stableTroveChange : Option (TroveChange constants)) : Option (FormAction constants) :=
  stableTroveChange.bind fun change =>
    button inputs.isTransactionPending (.submit change inputs.maxBorrowingRate)

/-- The button of a render that shows the stable change. -/
def action (form : TroveForm) (inputs : FormInputs constants)
    (stableTroveChange : Option (TroveChange constants)) : Option (FormAction constants) :=
  match form with
  | .opening =>
      if !inputs.hasConnection || inputs.gasEstimationInProgress then none
      else if !inputs.userHasAssociatedWithHchf then
        button (stableTroveChange.isNone || inputs.hchfAssociationPending) .associateWithHchf
      else submitButton inputs stableTroveChange
  | .adjusting =>
      let needsHchfAssociation :=
        stableTroveChange.isNone || (stableTroveChange.bind (·.borrowHCHF)).isSome
      if inputs.trove.status ≠ .open then none
      else if needsHchfAssociation && !inputs.userHasAssociatedWithHchf then
        button (stableTroveChange.isNone || inputs.hchfAssociationPending) .associateWithHchf
      else match stableTroveChange.bind (·.repayHCHF) with
        | some repayHCHF =>
            if !repayHCHF.lte inputs.hchfTokenAllowanceOfHchfContract then
              button inputs.hchfApprovalPending (.approveHchfSpender repayHCHF)
            else submitButton inputs stableTroveChange
        | none => submitButton inputs stableTroveChange

end TroveForm

/-- A form with what its last render has read. -/
structure TroveFormState (constants : Constants) where
  inputs : FormInputs constants
  stableTroveChange : StableValue.Hook (Option (TroveChange constants))

/-- A render of a form, or the effect of its hook. -/
abbrev TroveFormEvent (constants : Constants) := StableValue.Event (FormInputs constants)

namespace TroveForm

def mount (form : TroveForm) (inputs : FormInputs constants) :
    Result (TroveFormState constants) := do
  return ⟨inputs, StableValue.mount (← form.validated inputs)⟩

def step (form : TroveForm) (this : TroveFormState constants) :
    TroveFormEvent constants → Result (TroveFormState constants)
  | .render inputs => do
      let troveChange ← form.validated inputs
      return ⟨inputs,
        StableValue.step keepsTroveChange this.stableTroveChange (.render troveChange)⟩
  | .effect =>
      return ⟨this.inputs, StableValue.step keepsTroveChange this.stableTroveChange .effect⟩

/-- The form after its first render and the events that follow. -/
def run (form : TroveForm) (first : FormInputs constants)
    (events : List (TroveFormEvent constants)) : Result (TroveFormState constants) := do
  FallibleRun.run form.step (← form.mount first) events

/-- What the button of the last render does. -/
def shownAction (form : TroveForm) (this : TroveFormState constants) :
    Option (FormAction constants) :=
  form.action this.inputs this.stableTroveChange.returned

end TroveForm

/-- The client that an application sends with. -/
inductive SendableLiquity (constants : Constants) where
  | hashgraph (liquity : HashgraphLiquity constants)
  | ethers (liquity : PopulatableEthersLiquity constants)

namespace SendableLiquity

def openTrove (this : SendableLiquity constants) (params : ParamsRecord)
    (maxBorrowingRate : Option Decimalish) : Result ContractCall :=
  match this with
  | .hashgraph liquity => liquity.populateOpenTrove params maxBorrowingRate
  | .ethers liquity => liquity.openTrove params maxBorrowingRate

def closeTrove : SendableLiquity constants → ContractCall
  | .hashgraph _ => HashgraphLiquity.populateCloseTrove
  | .ethers _ => PopulatableEthersLiquity.closeTrove

/-- Both clients close a trove alike. -/
theorem closeTrove_eq (this : SendableLiquity constants) :
    this.closeTrove = HashgraphLiquity.populateCloseTrove := by
  cases this <;> rfl

def adjustTrove (this : SendableLiquity constants) (params : ParamsRecord)
    (maxBorrowingRate : Option Decimalish) : Result ContractCall :=
  match this with
  | .hashgraph liquity => liquity.populateAdjustTrove params maxBorrowingRate none
  | .ethers liquity => liquity.adjustTrove params maxBorrowingRate none

end SendableLiquity

/-- The call that `TroveAction` sends. Its type has no invalid creation; one would be adjusted
with parameters that are undefined. -/
def TroveAction.populate (liquity : SendableLiquity constants) (change : TroveChange constants)
    (maxBorrowingRate : Decimal) : Result ContractCall :=
  match change with
  | .creation params =>
      liquity.openTrove params.ofDecimal.record (some (.decimal maxBorrowingRate))
  | .closure _ => return liquity.closeTrove
  | .adjustment params _ =>
      liquity.adjustTrove params.ofDecimal.record (some (.decimal maxBorrowingRate))
  | .invalidCreation _ _ =>
      .error (.error "Cannot convert undefined or null to object")

/-- What the trove that a render changes has in common with the store: it is open and inside the
total. The opening form changes an empty one. -/
def TroveForm.Consistent : TroveForm → FormInputs constants → Prop
  | .opening, _ => True
  | .adjusting, inputs => AdjustingEditor.IsOpen inputs.trove.toTrove ∧
      constants.hchfMinimumDebt ≤ inputs.trove.debt ∧
      inputs.trove.collateral ≤ inputs.validationContext.total.collateral ∧
      inputs.trove.debt ≤ inputs.validationContext.total.debt

/-- A valid change of a render is the difference of its troves, and sound. -/
structure TroveForm.Valid (form : TroveForm) (inputs : FormInputs constants)
    (change : TroveChange constants) : Prop where
  validated : form.validated inputs = .ok (some change)
  sound : ∃ resulting, (form.original inputs).apply (some change) (some inputs.borrowingRate) =
      .ok resulting ∧
    SoundChange (form.original inputs) resulting change inputs.validationContext

section Valid

variable {form : TroveForm} {inputs : FormInputs constants}

theorem validateTroveChange_whatChanged {original adjusted : Trove constants} {rate : Decimal}
    {state : TroveChangeValidationSelectedState constants} {hasConnection : Bool}
    {change : TroveChange constants} {description : Option (Description constants)}
    (h : validateTroveChange original adjusted rate state hasConnection =
      .ok (some change, description)) :
    original.whatChanged adjusted (some rate) = .ok (some change) := by
  obtain ⟨changed, hchanged, hrest⟩ := Result.bind_eq_ok.mp h
  cases changed with
  | none => cases hrest
  | some changed =>
      obtain ⟨resulting, happly, _⟩ := Result.bind_eq_ok.mp hrest
      obtain ⟨valid, description, hrun, haccepted⟩ :=
        validateTroveChange_of_change hchanged happly state hasConnection
      cases h.symm.trans hrun
      rw [(haccepted change rfl).1]
      exact hchanged

theorem TroveForm.updated_ok (h : form.Consistent inputs) :
    ∃ updated, form.updated inputs = .ok updated := by
  cases form with
  | opening => exact ⟨_, rfl⟩
  | adjusting =>
      rw [TroveForm.updated, adjusting_eq h.1.1 h.1.2]
      exact ⟨_, rfl⟩

/-- A consistent render is validated without a throw, and its valid change is sound. -/
theorem TroveForm.validated_ok (hminimum : constants.hchfMinimumDebt =
      constants.hchfLiquidationReserve.add constants.hchfMinimumNetDebt)
    (h : form.Consistent inputs) :
    ∃ change, form.validated inputs = .ok change ∧
      ∀ valid, change = some valid → form.Valid inputs valid := by
  obtain ⟨updated, hupdated⟩ := form.updated_ok h
  have hstore : ((form.original inputs).isEmpty = true ∨
        constants.hchfMinimumDebt ≤ (form.original inputs).debt) ∧
      (form.original inputs).collateral ≤ inputs.validationContext.total.collateral ∧
      (form.original inputs).debt ≤ inputs.validationContext.total.debt := by
    cases form with
    | opening => exact ⟨.inl rfl, zero_le _, zero_le _⟩
    | adjusting => exact ⟨.inr h.2.1, h.2.2⟩
  obtain ⟨change, description, hrun, hsound⟩ := validateTroveChange_sound hminimum
    (form.original inputs) updated inputs.borrowingRate inputs.validationContext
    inputs.hasConnection hstore.1 hstore.2.1 hstore.2.2
  have hvalidated : form.validated inputs = .ok change := by
    rw [TroveForm.validated, hupdated, Result.ok_bind, hrun]
    rfl
  refine ⟨change, hvalidated, ?_⟩
  rintro valid rfl
  exact ⟨hvalidated, hsound valid rfl⟩

/-- A valid change is the difference of the troves of its render. -/
theorem TroveForm.Valid.whatChanged {change : TroveChange constants}
    (h : form.Valid inputs change) :
    ∃ updated, form.updated inputs = .ok updated ∧
      (form.original inputs).whatChanged updated (some inputs.borrowingRate) =
        .ok (some change) := by
  obtain ⟨updated, hupdated, hvalidated⟩ := Result.bind_eq_ok.mp h.validated
  obtain ⟨⟨valid, description⟩, hrun, hvalid⟩ := Result.bind_eq_ok.mp hvalidated
  cases hvalid
  exact ⟨updated, hupdated, validateTroveChange_whatChanged hrun⟩

end Valid

/-- What a render must read so that its button submits a change. -/
def TroveForm.Eligible (form : TroveForm) (inputs : FormInputs constants)
    (change : TroveChange constants) : Prop :=
  inputs.isTransactionPending = false ∧
  match form with
  | .opening => inputs.hasConnection = true ∧ inputs.gasEstimationInProgress = false ∧
      inputs.userHasAssociatedWithHchf = true
  | .adjusting => inputs.trove.status = .open ∧
      (change.borrowHCHF.isSome = true → inputs.userHasAssociatedWithHchf = true) ∧
      ∀ repayHCHF, change.repayHCHF = some repayHCHF →
        repayHCHF ≤ inputs.hchfTokenAllowanceOfHchfContract

section Runs

variable {form : TroveForm}

@[simp] theorem button_eq_some {disabled : Bool} {action shown : FormAction constants} :
    button disabled action = some shown ↔ disabled = false ∧ action = shown := by
  cases disabled <;> simp [button]

/-- A button that is shown instead hides the submission. -/
theorem instead_eq_submit {condition : Prop} [Decidable condition]
    {shown rest : Option (FormAction constants)} {change : TroveChange constants}
    {maxBorrowingRate : Decimal} (hshown : shown ≠ some (.submit change maxBorrowingRate)) :
    (if condition then shown else rest) = some (.submit change maxBorrowingRate) ↔
      ¬condition ∧ rest = some (.submit change maxBorrowingRate) := by
  by_cases hcondition : condition <;> simp [hcondition, hshown]

theorem TroveForm.submitButton_eq_submit {inputs : FormInputs constants}
    {stableTroveChange : Option (TroveChange constants)} {change : TroveChange constants}
    {maxBorrowingRate : Decimal} :
    submitButton inputs stableTroveChange = some (.submit change maxBorrowingRate) ↔
      stableTroveChange = some change ∧ inputs.isTransactionPending = false ∧
        maxBorrowingRate = inputs.maxBorrowingRate := by
  cases stableTroveChange with
  | none => simp [submitButton]
  | some stable =>
      rw [submitButton, Option.bind_some, button_eq_some, FormAction.submit.injEq,
        Option.some.injEq, and_left_comm, eq_comm (b := maxBorrowingRate)]

/-- The button submits a change exactly if it is the stable one and the render is eligible. -/
theorem TroveForm.action_eq_submit {inputs : FormInputs constants}
    {stableTroveChange : Option (TroveChange constants)} {change : TroveChange constants}
    {maxBorrowingRate : Decimal} :
    form.action inputs stableTroveChange = some (.submit change maxBorrowingRate) ↔
      stableTroveChange = some change ∧ form.Eligible inputs change ∧
        maxBorrowingRate = inputs.maxBorrowingRate := by
  cases form with
  | opening =>
      rw [TroveForm.action, instead_eq_submit (by simp), instead_eq_submit (by simp),
        submitButton_eq_submit]
      simp only [TroveForm.Eligible, Bool.or_eq_true, Bool.not_eq_true', not_or,
        Bool.not_eq_false, Bool.not_eq_true]
      tauto
  | adjusting =>
      rw [TroveForm.action, instead_eq_submit (by simp), instead_eq_submit (by simp)]
      have happrove : (match stableTroveChange.bind (·.repayHCHF) with
          | some repayHCHF =>
              if !repayHCHF.lte inputs.hchfTokenAllowanceOfHchfContract then
                button inputs.hchfApprovalPending (.approveHchfSpender repayHCHF)
              else submitButton inputs stableTroveChange
          | none => submitButton inputs stableTroveChange) =
            some (.submit change maxBorrowingRate) ↔
          (∀ repayHCHF, stableTroveChange.bind (·.repayHCHF) = some repayHCHF →
            repayHCHF ≤ inputs.hchfTokenAllowanceOfHchfContract) ∧
          submitButton inputs stableTroveChange = some (.submit change maxBorrowingRate) := by
        cases stableTroveChange.bind (·.repayHCHF) with
        | none => simp
        | some repayHCHF =>
            rw [instead_eq_submit (by simp)]
            simp
      rw [happrove, submitButton_eq_submit]
      cases stableTroveChange with
      | none => simp
      | some stable =>
          constructor
          · rintro ⟨hopen, hassociated, hallowed, hstable, hpending, hlimit⟩
            cases hstable
            have hassociated : change.borrowHCHF.isSome = true →
                inputs.userHasAssociatedWithHchf = true := by
              simpa [imp_iff_not_or, or_comm] using hassociated
            exact ⟨rfl, ⟨hpending, not_not.mp hopen, hassociated, hallowed⟩, hlimit⟩
          · rintro ⟨hstable, ⟨hpending, hopen, hassociated, hallowed⟩, hlimit⟩
            cases hstable
            refine ⟨not_not.mpr hopen, ?_, hallowed, rfl, hpending, hlimit⟩
            simpa [imp_iff_not_or, or_comm] using hassociated

/-- An event of a form as the event of its hook. -/
def TroveForm.change (form : TroveForm) (inputs : FormInputs constants) :
    Option (TroveChange constants) :=
  (form.validated inputs).toOption.join

/-- The renders of an event are consistent. -/
def TroveForm.ConsistentEvent (form : TroveForm) : TroveFormEvent constants → Prop
  | .render inputs => form.Consistent inputs
  | .effect => True

/-- A form renders without a throw, and its hook runs on the changes of its renders. -/
theorem TroveForm.run_ok (hminimum : constants.hchfMinimumDebt =
      constants.hchfLiquidationReserve.add constants.hchfMinimumNetDebt)
    {first : FormInputs constants} (hfirst : form.Consistent first)
    {events : List (TroveFormEvent constants)}
    (hevents : ∀ event ∈ events, form.ConsistentEvent event) :
    ∃ last, form.run first events = .ok last ∧
      last.stableTroveChange = EventRun.run (StableValue.step keepsTroveChange)
        (StableValue.mount (form.change first))
        (events.map (StableValue.Event.map form.change)) ∧
      form.validated last.inputs = .ok last.stableTroveChange.given := by
  have hchange {inputs : FormInputs constants} (h : form.Consistent inputs) :
      form.validated inputs = .ok (form.change inputs) := by
    obtain ⟨change, hvalidated, _⟩ := form.validated_ok hminimum h
    rw [TroveForm.change, hvalidated]
    rfl
  have hmount : form.mount first =
      .ok ⟨first, StableValue.mount (form.change first)⟩ := by
    rw [TroveForm.mount, hchange hfirst]
    rfl
  have hstep (this : TroveFormState constants) (event : TroveFormEvent constants)
      (h : form.ConsistentEvent event) : ∃ next, form.step this event = .ok next ∧
      next.stableTroveChange = StableValue.step keepsTroveChange this.stableTroveChange
        (event.map form.change) := by
    cases event with
    | render inputs =>
        rw [TroveForm.step, hchange h]
        exact ⟨_, rfl, rfl⟩
    | effect => exact ⟨_, rfl, rfl⟩
  have hgiven (this : TroveFormState constants) (event : TroveFormEvent constants)
      (next : TroveFormState constants)
      (h : form.validated this.inputs = .ok this.stableTroveChange.given)
      (_ : form.ConsistentEvent event) (hnext : form.step this event = .ok next) :
      form.validated next.inputs = .ok next.stableTroveChange.given := by
    cases event with
    | render inputs =>
        obtain ⟨change, hvalidated, hnext⟩ := Result.bind_eq_ok.mp hnext
        cases hnext
        exact hvalidated
    | effect =>
        cases hnext
        rw [StableValue.step, StableValue.runEffect_given]
        exact h
  obtain ⟨last, hrun, hhook⟩ := FallibleRun.run_simulates form.step hstep
    (FallibleRun.meets_of_forall form.step hevents ⟨first, StableValue.mount (form.change first)⟩)
  refine ⟨last, ?_, hhook, ?_⟩
  · rw [TroveForm.run, hmount]
    exact hrun
  · exact FallibleRun.run_invariant form.step hgiven (hchange hfirst) hevents hrun

/-- What a form submits: a change that is equal to a valid one, with the maximum rate of an eligible
render. -/
structure TroveForm.Submits (form : TroveForm) (last : TroveFormState constants)
    (valid change : TroveChange constants) (maxBorrowingRate : Decimal) : Prop where
  equal : change.equals valid = true
  eligible : form.Eligible last.inputs change
  limit : maxBorrowingRate = last.inputs.maxBorrowingRate

/-- A trove of 10000 HBAR and 2000 HCHF, of which HBAR are to be withdrawn. -/
def withdrawal (hbar : Nat) : FormInputs defaults where
  trove := ⟨⟨⟨1000000000000⟩, ⟨200000000000⟩⟩, "0xa", .open⟩
  edited := ⟨⟨(10000 - hbar) * digits⟩, ⟨198000000000⟩⟩
  borrowingRate := ⟨500000⟩
  validationContext := ⟨⟨70000000⟩, ⟨⟨2000000000000⟩, ⟨400000000000⟩⟩, ⟨0⟩, ⟨0⟩, 2⟩
  hasConnection := true
  userHasAssociatedWithHchf := true
  hchfTokenAllowanceOfHchfContract := ⟨0⟩
  hchfAssociationPending := false
  hchfApprovalPending := false
  gasEstimationInProgress := false
  isTransactionPending := false

theorem consistent_withdrawal (hbar : Nat) : TroveForm.adjusting.Consistent (withdrawal hbar) := by
  simp only [TroveForm.Consistent, withdrawal]
  decide

/-- The states of a form whose renders are all consistent. -/
def TroveForm.Reachable (form : TroveForm) (this : TroveFormState constants) : Prop :=
  ∃ first events, form.Consistent first ∧ (∀ event ∈ events, form.ConsistentEvent event) ∧
    form.run first events = .ok this

/-- What a form submits is the valid change of its last render, if that render is eligible, and
nothing otherwise. -/
structure TroveForm.SubmitsShown (form : TroveForm) (this : TroveFormState constants) : Prop where
  submits : ∀ valid, form.validated this.inputs = .ok (some valid) →
    form.Eligible this.inputs valid → ∃ change,
      form.shownAction this = some (.submit change this.inputs.maxBorrowingRate) ∧
        change.equals valid = true
  submitted : ∀ change maxBorrowingRate,
    form.shownAction this = some (.submit change maxBorrowingRate) → ∃ valid,
      form.validated this.inputs = .ok (some valid) ∧
        form.Submits this valid change maxBorrowingRate

theorem TroveForm.Eligible.of_equals {inputs : FormInputs constants}
    {valid change : TroveChange constants} (h : form.Eligible inputs valid)
    (hequal : change.equals valid = true) : form.Eligible inputs change := by
  obtain ⟨_, hborrow, hrepay, _⟩ := TroveChange.equals_iff.mp hequal
  cases form with
  | opening => exact h
  | adjusting =>
      rw [TroveForm.Eligible, hborrow, hrepay]
      exact h

/-- At rest, a form submits what it shows. -/
theorem TroveForm.submitsShown_of_atRest {this : TroveFormState constants}
    (hcurrent : StableValue.Current keepsTroveChange this.stableTroveChange)
    (hgiven : form.validated this.inputs = .ok this.stableTroveChange.given)
    (hrest : StableValue.AtRest this.stableTroveChange) : form.SubmitsShown this := by
  have hequal := hcurrent.returned_of_atRest hrest
  constructor
  · intro valid hvalid heligible
    rw [Except.ok.inj (hgiven.symm.trans hvalid)] at hequal
    obtain ⟨change, hreturned, hsame⟩ := keepsTroveChange_some_right hequal
    exact ⟨change, action_eq_submit.mpr ⟨hreturned, heligible.of_equals hsame, rfl⟩, hsame⟩
  · intro change maxBorrowingRate haction
    obtain ⟨hreturned, heligible, hlimit⟩ := action_eq_submit.mp haction
    rw [hreturned] at hequal
    obtain ⟨valid, hvalid, hsame⟩ := keepsTroveChange_some_left hequal
    exact ⟨valid, hgiven.trans (congrArg _ hvalid), hsame, heligible, hlimit⟩

theorem TroveForm.Reachable.current (hminimum : constants.hchfMinimumDebt =
      constants.hchfLiquidationReserve.add constants.hchfMinimumNetDebt)
    {this : TroveFormState constants} (h : form.Reachable this) :
    StableValue.Current keepsTroveChange this.stableTroveChange ∧
      form.validated this.inputs = .ok this.stableTroveChange.given := by
  obtain ⟨first, events, hfirst, hevents, hrun⟩ := h
  obtain ⟨last, hlast, hhook, hgiven⟩ := form.run_ok hminimum hfirst hevents
  cases hrun.symm.trans hlast
  refine ⟨?_, hgiven⟩
  rw [hhook]
  exact (StableValue.current_mount _).run keepsTroveChange_refl _

/-- What a call asks of the chain: the change, at most at the maximum rate. The deposit is read in
units of the library that sends it. -/
structure RequestsChange (call : ContractCall) (change : TroveChange constants)
    (maxBorrowingRate : Decimal) : Prop where
  deposit : ∀ readAmount unitsPerOne, ReadsAmount readAmount unitsPerOne → ∀ value,
    call.sentAmount readAmount = .ok value →
      (value : ℚ) = (change.depositCollateral.getD zero).bigNumber / digits * unitsPerOne
  arguments : match change with
    | .invalidCreation _ _ => False
    | .creation params => call.functionName = "openTrove" ∧ ∃ upperHint lowerHint,
        call.arguments = [.uint256 maxBorrowingRate.bigNumber, .uint256 params.borrowHCHF.bigNumber,
          .address upperHint, .address lowerHint]
    | .closure _ => call.functionName = "closeTrove" ∧ call.arguments = []
    | .adjustment params _ => call.functionName = "adjustTrove" ∧ ∃ upperHint lowerHint,
        call.arguments = [.uint256 maxBorrowingRate.bigNumber,
          .uint256 (params.withdrawCollateral.getD zero).bigNumber,
          .uint256 ((params.borrowHCHF <|> params.repayHCHF).getD zero).bigNumber,
          .bool params.borrowHCHF.isSome, .address upperHint, .address lowerHint]

variable {liquity : SendableLiquity constants} {call : ContractCall} {maxBorrowingRate : Decimal}

theorem normalizeTroveCreation_ofDecimal (params : TroveCreationParams Decimal) :
    normalizeTroveCreation params.ofDecimal.record = .ok params := by
  rfl

theorem requestsChange_creation {params : TroveCreationParams Decimal}
    (h : TroveAction.populate liquity (.creation params) maxBorrowingRate = .ok call) :
    RequestsChange call (.creation params : TroveChange constants) maxBorrowingRate := by
  rw [TroveAction.populate] at h
  cases liquity with
  | hashgraph liquity =>
      simp only [SendableLiquity.openTrove, HashgraphLiquity.populateOpenTrove,
        normalizeTroveCreation_ofDecimal, Result.ok_bind] at h
      obtain ⟨fees, _, h⟩ := Result.bind_eq_ok.mp h
      obtain ⟨borrowingRate, _, h⟩ := Result.bind_eq_ok.mp h
      obtain ⟨newTrove, _, h⟩ := Result.bind_eq_ok.mp h
      obtain ⟨limit, hlimit, h⟩ := Result.bind_eq_ok.mp h
      obtain ⟨hbar, hprinted, h⟩ := Result.bind_eq_ok.mp h
      cases hlimit
      cases h
      refine ⟨?_, rfl, _, _, rfl⟩
      intro readAmount unitsPerOne hreads value hvalue
      exact hreads.printed hprinted hvalue
  | ethers liquity =>
      simp only [SendableLiquity.openTrove, PopulatableEthersLiquity.openTrove,
        normalizeTroveCreation_ofDecimal, Result.ok_bind] at h
      obtain ⟨fees, _, h⟩ := Result.bind_eq_ok.mp h
      obtain ⟨borrowingRate, _, h⟩ := Result.bind_eq_ok.mp h
      obtain ⟨newTrove, _, h⟩ := Result.bind_eq_ok.mp h
      obtain ⟨limit, hlimit, h⟩ := Result.bind_eq_ok.mp h
      obtain ⟨value, hprinted, h⟩ := Result.bind_eq_ok.mp h
      cases hlimit
      cases h
      refine ⟨?_, rfl, _, _, rfl⟩
      intro readAmount unitsPerOne hreads value hvalue
      exact hreads.printed hprinted hvalue

/-- The call of an adjustment encodes it, at most at the maximum rate. -/
theorem SendableLiquity.adjustTrove_requests {params : ParamsRecord}
    {normalized : TroveAdjustmentParams Decimal}
    (hnormalized : normalizeTroveAdjustment params = .ok normalized)
    (h : liquity.adjustTrove params (some (.decimal maxBorrowingRate)) = .ok call) :
    EncodesAdjustment call normalized ∧ call.functionName = "adjustTrove" ∧
      ∃ upperHint lowerHint, call.arguments = [.uint256 maxBorrowingRate.bigNumber,
        .uint256 (normalized.withdrawCollateral.getD zero).bigNumber,
        .uint256 ((normalized.borrowHCHF <|> normalized.repayHCHF).getD zero).bigNumber,
        .bool normalized.borrowHCHF.isSome, .address upperHint, .address lowerHint] := by
  cases liquity with
  | hashgraph liquity =>
      obtain ⟨same, hsame, hencodes⟩ := HashgraphLiquity.populateAdjustTrove_encodesAdjustment h
      cases hnormalized.symm.trans hsame
      simp only [SendableLiquity.adjustTrove, HashgraphLiquity.populateAdjustTrove, hnormalized,
        Result.ok_bind] at h
      obtain ⟨trove, _, h⟩ := Result.bind_eq_ok.mp h
      obtain ⟨fees, _, h⟩ := Result.bind_eq_ok.mp h
      obtain ⟨borrowingRate, _, h⟩ := Result.bind_eq_ok.mp h
      obtain ⟨finalTrove, _, h⟩ := Result.bind_eq_ok.mp h
      obtain ⟨limit, hlimit, h⟩ := Result.bind_eq_ok.mp h
      obtain ⟨hbar, _, h⟩ := Result.bind_eq_ok.mp h
      cases hlimit
      cases h
      exact ⟨hencodes, rfl, _, _, rfl⟩
  | ethers liquity =>
      obtain ⟨same, hsame, hencodes⟩ := PopulatableEthersLiquity.adjustTrove_encodesAdjustment h
      cases hnormalized.symm.trans hsame
      simp only [SendableLiquity.adjustTrove, PopulatableEthersLiquity.adjustTrove, hnormalized,
        Result.ok_bind] at h
      obtain ⟨address, _, h⟩ := Result.bind_eq_ok.mp h
      obtain ⟨trove, _, h⟩ := Result.bind_eq_ok.mp h
      obtain ⟨fees, _, h⟩ := Result.bind_eq_ok.mp h
      obtain ⟨borrowingRate, _, h⟩ := Result.bind_eq_ok.mp h
      obtain ⟨finalTrove, _, h⟩ := Result.bind_eq_ok.mp h
      obtain ⟨limit, hlimit, h⟩ := Result.bind_eq_ok.mp h
      obtain ⟨value, _, h⟩ := Result.bind_eq_ok.mp h
      cases hlimit
      cases h
      exact ⟨hencodes, rfl, _, _, rfl⟩

theorem requestsChange_adjustment {params : TroveAdjustmentParams Decimal}
    {setToZero : Option SetToZero} (hentries : ∀ entry ∈ params.entries, entry.2 ≠ zero)
    (h : TroveAction.populate liquity (.adjustment params setToZero) maxBorrowingRate = .ok call) :
    RequestsChange call (.adjustment params setToZero : TroveChange constants)
      maxBorrowingRate := by
  obtain ⟨hencodes, hname, upperHint, lowerHint, harguments⟩ :=
    SendableLiquity.adjustTrove_requests (normalizeTroveAdjustment_ofDecimal hentries) h
  refine ⟨?_, hname, upperHint, lowerHint, harguments⟩
  intro readAmount unitsPerOne hreads value hvalue
  exact hencodes.sentAmount hreads hvalue

/-- The call of a valid change requests it. -/
theorem TroveForm.Valid.requests {inputs : FormInputs constants} {valid : TroveChange constants}
    (h : form.Valid inputs valid) (hconsistent : form.Consistent inputs)
    (hcall : TroveAction.populate liquity valid maxBorrowingRate = .ok call) :
    RequestsChange call valid maxBorrowingRate := by
  obtain ⟨updated, _, hchanged⟩ := h.whatChanged
  have horiginal : form.original inputs = .empty ∨
      constants.hchfLiquidationReserve ≤ (form.original inputs).debt := by
    cases form with
    | opening => exact .inl rfl
    | adjusting => exact .inr hconsistent.1.2
  rcases Trove.whatChanged_cases updated horiginal (some inputs.borrowingRate) with
    ⟨_, hchange⟩ | ⟨_, _, _, hchange⟩ | ⟨_, _, _, hchange⟩ | ⟨_, _, _, hchange⟩ |
    ⟨_, _, hdiffer, _, hchange⟩
  · cases hchanged.symm.trans hchange
  · cases hchanged.symm.trans hchange
    obtain ⟨_, _, hsound⟩ := h.sound
    exact absurd rfl (hsound.possible _ _)
  · cases hchanged.symm.trans hchange
    exact requestsChange_creation hcall
  · cases hchanged.symm.trans hchange
    rw [TroveAction.populate, SendableLiquity.closeTrove_eq] at hcall
    cases hcall
    refine ⟨?_, rfl, rfl⟩
    rintro readAmount unitsPerOne _ value ⟨⟩
    simp [TroveChange.depositCollateral]
  · cases hchanged.symm.trans hchange
    exact requestsChange_adjustment (Trove.adjustmentTo_entries_ne_zero hdiffer _) hcall

/-- Equal changes are populated alike. -/
theorem TroveAction.populate_of_equals {change valid : TroveChange constants}
    (h : change.equals valid = true) :
    TroveAction.populate liquity change maxBorrowingRate =
      TroveAction.populate liquity valid maxBorrowingRate := by
  obtain ⟨htype, hborrow, hrepay, hdeposit, hwithdraw⟩ := TroveChange.equals_iff.mp h
  cases change with
  | invalidCreation trove error =>
      cases valid with
      | invalidCreation trove' error' => rfl
      | _ => simp [TroveChange.type] at htype
  | creation params =>
      cases valid with
      | creation params' =>
          have hsame : params = params' := congrArg₂ TroveCreationParams.mk
            (Option.some.inj hdeposit) (Option.some.inj hborrow)
          rw [hsame]
      | _ => simp [TroveChange.type] at htype
  | closure params =>
      cases valid with
      | closure params' => rfl
      | _ => simp [TroveChange.type] at htype
  | adjustment params setToZero =>
      cases valid with
      | adjustment params' setToZero' =>
          have hsame : params = params' := by
            simp only [TroveChange.depositCollateral, TroveChange.withdrawCollateral,
              TroveChange.borrowHCHF, TroveChange.repayHCHF] at hdeposit hwithdraw hborrow hrepay
            apply TroveAdjustmentParams.ext_amounts
            rw [TroveAdjustmentParams.amounts, TroveAdjustmentParams.amounts, hdeposit, hwithdraw,
              hborrow, hrepay]
          rw [TroveAction.populate, TroveAction.populate, hsame]
      | _ => simp [TroveChange.type] at htype

/-- It submits what the first one has shown. -/
example : (do
    let last ← TroveForm.adjusting.run (withdrawal 1000) [.effect, .render (withdrawal 2000)]
    return TroveForm.adjusting.shownAction last) =
      .ok (some (.submit
        (.adjustment (.collateral (.withdrawCollateral ⟨100000000000⟩)) none) ⟨1000000⟩)) := by
  decide +kernel

end Runs

end HLiquity
