import HLiquity.TroveRoundTrip
import HLiquity.TroveValidation

/-!
# Soundness of the validation

A change that passes is judged on the trove it really leads to. In normal mode
the trove and the system keep their ratios, in recovery mode no ratio is made
worse, and the amounts are covered by the balances.
-/

namespace HLiquity

open Decimal

section Soundness

variable {constants : Constants}

/-- What a valid change guarantees about the trove it results in. In recovery
mode a trove that exists already must not lose any of its ratio by borrowing;
an empty trove has no ratio to lose. -/
structure SoundChange (original resulting : Trove constants) (change : TroveChange constants)
    (state : TroveChangeValidationSelectedState constants) : Prop where
  possible : ∀ trove error, change ≠ .invalidCreation trove error
  normalTrove : state.total.collateralRatioIsBelowCritical state.price = false →
    resulting = Trove.empty ∨
      constants.minimumCollateralRatio ≤ resulting.collateralRatio state.price
  normalTotal : state.total.collateralRatioIsBelowCritical state.price = false →
    ∃ replaced : Trove constants, replaced.add original = state.total.add resulting ∧
      constants.criticalCollateralRatio ≤ replaced.collateralRatio state.price
  recoveryKind : state.total.collateralRatioIsBelowCritical state.price = true →
    (∀ params, change ≠ .closure params) ∧ change.withdrawCollateral = none
  recoveryOpening : state.total.collateralRatioIsBelowCritical state.price = true →
    ∀ params, change = .creation params →
      constants.criticalCollateralRatio ≤ resulting.collateralRatio state.price
  recoveryBorrowing : state.total.collateralRatioIsBelowCritical state.price = true →
    ∀ borrowHCHF, change.borrowHCHF = some borrowHCHF →
      constants.criticalCollateralRatio ≤ resulting.collateralRatio state.price ∧
        (original ≠ Trove.empty →
          original.collateralRatio state.price ≤ resulting.collateralRatio state.price)
  minimumDebt : resulting = Trove.empty ∨ constants.hchfMinimumDebt ≤ resulting.debt
  notLastTrove : ∀ params, change = .closure params → state.numberOfTroves ≠ 1
  coveredDeposit : ∀ depositCollateral, change.depositCollateral = some depositCollateral →
    depositCollateral ≤ state.accountBalance
  coveredRepayment : ∀ repayHCHF, change.repayHCHF = some repayHCHF →
    repayHCHF ≤ state.hchfBalance

/-- The system's total after the change, as the validation computes it. -/
def totalAfter (total original resulting : Trove constants) : Trove constants :=
  ⟨(Trove.monus total.collateral original.collateral).add resulting.collateral,
   (Trove.monus total.debt original.debt).add resulting.debt⟩

/-- Inside the total the saturating subtraction replaces the trove exactly. -/
theorem totalAfter_add {total original : Trove constants}
    (hcollateral : original.collateral ≤ total.collateral) (hdebt : original.debt ≤ total.debt)
    (resulting : Trove constants) :
    (totalAfter total original resulting).add original = total.add resulting := by
  have hc := le_def.mp hcollateral
  have hd := le_def.mp hdebt
  apply Trove.ext
  · ext
    simp only [Trove.add, totalAfter, add_bigNumber, Trove.monus_bigNumber]
    omega
  · ext
    simp only [Trove.add, totalAfter, add_bigNumber, Trove.monus_bigNumber]
    omega

/-- The context in which a change is validated. -/
def validationContext (original resulting : Trove constants)
    (state : TroveChangeValidationSelectedState constants) (hasConnection : Bool) :
    TroveChangeValidationContext constants :=
  { state with
    originalTrove := original
    resultingTrove := resulting
    recoveryMode := state.total.collateralRatioIsBelowCritical state.price
    wouldTriggerRecoveryMode :=
      (totalAfter state.total original resulting).collateralRatioIsBelowCritical state.price
    hasConnection := hasConnection }

/-- The validator of a change. -/
def validatorOf (change : TroveChange constants)
    (context : TroveChangeValidationContext constants) : Check constants :=
  match change with
  | .invalidCreation _ _ => rejectInvalidCreation
  | .creation params => validateTroveCreation params context
  | .closure params => validateTroveClosure params context
  | .adjustment params _ => validateTroveAdjustment params context

theorem rejectInvalidCreation_some (constants : Constants) :
    ∃ description, (rejectInvalidCreation : Check constants) = .ok (some description) := by
  obtain ⟨minimumDebt, hdebt⟩ := constants.hchfMinimumDebt.toString_none_ok
  rw [rejectInvalidCreation, hdebt]
  exact ⟨_, rfl⟩

theorem validatorOf_ok (change : TroveChange constants)
    (context : TroveChangeValidationContext constants) :
    ∃ verdict, validatorOf change context = .ok verdict := by
  cases change with
  | invalidCreation trove error =>
      obtain ⟨description, hd⟩ := rejectInvalidCreation_some constants
      exact ⟨_, hd⟩
  | creation params => exact validateTroveCreation_ok params context
  | closure params => exact validateTroveClosure_ok params context
  | adjustment params setToZero => exact validateTroveAdjustment_ok params context

/-- A difference that can be replayed is validated without a throw, and it is
valid exactly when its validator lets it pass. -/
theorem validateTroveChange_of_change {original adjusted resulting : Trove constants}
    {rate : Decimal} {change : TroveChange constants}
    (hchange : original.whatChanged adjusted (some rate) = .ok (some change))
    (happly : original.apply (some change) (some rate) = .ok resulting)
    (state : TroveChangeValidationSelectedState constants) (hasConnection : Bool) :
    ∃ valid description,
      validateTroveChange original adjusted rate state hasConnection = .ok (valid, description) ∧
      ∀ accepted, valid = some accepted → accepted = change ∧
        validatorOf change (validationContext original resulting state hasConnection) =
          .ok none := by
  obtain ⟨verdict, hverdict⟩ :=
    validatorOf_ok change (validationContext original resulting state hasConnection)
  have hrun : validateTroveChange original adjusted rate state hasConnection =
      .ok (verdict.elim (some change, some (.troveChangeDescription change))
        fun errorDescription => (none, some errorDescription)) := by
    rw [validateTroveChange, hchange, Result.ok_bind]
    simp only [happly, Result.ok_bind, Trove.subtract_eq]
    -- each kind of change is checked by its own validator
    cases change <;> refine Eq.trans (congrArg (· >>= _) hverdict) ?_ <;> cases verdict <;> rfl
  rw [hrun]
  cases verdict with
  | none =>
      refine ⟨_, _, rfl, ?_⟩
      rintro accepted ⟨⟩
      exact ⟨rfl, hverdict⟩
  | some description =>
      refine ⟨_, _, rfl, ?_⟩
      rintro accepted ⟨⟩

variable {original resulting : Trove constants}
  {state : TroveChangeValidationSelectedState constants} {hasConnection : Bool}

/-- A change that keeps the mode leaves the system above the critical ratio. -/
theorem total_of_keepsMode (hcollateral : original.collateral ≤ state.total.collateral)
    (hdebt : original.debt ≤ state.total.debt)
    (hkeeps : (validationContext original resulting state
      hasConnection).wouldTriggerRecoveryMode = false) :
    ∃ replaced : Trove constants, replaced.add original = state.total.add resulting ∧
      constants.criticalCollateralRatio ≤ replaced.collateralRatio state.price :=
  ⟨totalAfter state.total original resulting, totalAfter_add hcollateral hdebt resulting,
    lt_eq_false.mp hkeeps⟩

theorem sound_creation {params : TroveCreationParams Decimal}
    (hminimum : constants.hchfMinimumDebt =
      constants.hchfLiquidationReserve.add constants.hchfMinimumNetDebt)
    (hcollateral : original.collateral ≤ state.total.collateral)
    (hdebt : original.debt ≤ state.total.debt) (hempty : original = Trove.empty)
    (hresulting : constants.hchfLiquidationReserve.add params.borrowHCHF ≤ resulting.debt)
    (h : validateTroveCreation params (validationContext original resulting state
      hasConnection) = .ok none) :
    SoundChange original resulting (.creation params) state := by
  obtain ⟨hborrow, hnormal, hrecovery, hdeposit⟩ := validateTroveCreation_none h
  constructor
  · rintro _ _ ⟨⟩
  · intro hm
    exact .inr (hnormal hm).minimumRatio
  · intro hm
    exact total_of_keepsMode hcollateral hdebt (hnormal hm).keepsMode
  · intro _
    refine ⟨?_, rfl⟩
    rintro _ ⟨⟩
  · intro hm _ _
    exact hrecovery hm
  · intro hm _ _
    exact ⟨hrecovery hm, fun hne => absurd hempty hne⟩
  · right
    rw [hminimum]
    exact (Nat.add_le_add_left (le_def.mp hborrow) _).trans hresulting
  · rintro _ ⟨⟩
  · rintro _ ⟨⟩
    exact hdeposit
  · rintro _ ⟨⟩

theorem sound_closure {params : TroveClosureParams Decimal}
    (hcollateral : original.collateral ≤ state.total.collateral)
    (hdebt : original.debt ≤ state.total.debt) (hempty : resulting = Trove.empty)
    (h : validateTroveClosure params (validationContext original resulting state
      hasConnection) = .ok none) :
    SoundChange original resulting (.closure params) state := by
  obtain ⟨hnumber, hnormal, hrepay, hkeeps⟩ := validateTroveClosure_none h
  have hmode (hm : state.total.collateralRatioIsBelowCritical state.price = true) : False := by
    rw [show state.total.collateralRatioIsBelowCritical state.price = false from hnormal] at hm
    cases hm
  constructor
  · rintro _ _ ⟨⟩
  · intro _
    exact .inl hempty
  · intro _
    exact total_of_keepsMode hcollateral hdebt hkeeps
  · intro hm
    exact (hmode hm).elim
  · intro hm
    exact (hmode hm).elim
  · intro hm
    exact (hmode hm).elim
  · exact .inl hempty
  · intro _ _
    exact hnumber
  · rintro _ ⟨⟩
  · exact hrepay

theorem sound_adjustment {params : TroveAdjustmentParams Decimal} {setToZero : Option SetToZero}
    (hcollateral : original.collateral ≤ state.total.collateral)
    (hdebt : original.debt ≤ state.total.debt)
    (horiginal : constants.hchfMinimumDebt ≤ original.debt)
    (hincrease : params.repayHCHF = none → original.debt ≤ resulting.debt)
    (h : validateTroveAdjustment params (validationContext original resulting state
      hasConnection) = .ok none) :
    SoundChange original resulting (.adjustment params setToZero) state := by
  obtain ⟨hnormal, hrecovery, hrepay, hdeposit⟩ := validateTroveAdjustment_none h
  constructor
  · rintro _ _ ⟨⟩
  · intro hm
    exact .inr (hnormal hm).minimumRatio
  · intro hm
    exact total_of_keepsMode hcollateral hdebt (hnormal hm).keepsMode
  · intro hm
    refine ⟨?_, (hrecovery hm).1⟩
    rintro _ ⟨⟩
  · rintro _ _ ⟨⟩
  · intro hm borrowHCHF hborrow
    obtain ⟨hcritical, hratio⟩ := (hrecovery hm).2 borrowHCHF hborrow
    exact ⟨hcritical, fun _ => hratio⟩
  · right
    cases hr : params.repayHCHF with
    | none => exact horiginal.trans (hincrease hr)
    | some repayHCHF => exact (hrepay repayHCHF hr).1
  · rintro _ ⟨⟩
  · exact hdeposit
  · intro repayHCHF hr
    exact (hrepay repayHCHF hr).2

/-- Without a repayment the debt does not shrink. -/
theorem le_replayed_debt {a b : Trove constants} {rate : Decimal}
    (h : (a.adjustmentTo b rate).repayHCHF = none) : a.debt ≤ (a.replayed b rate).debt := by
  have hreplayed := Trove.adjustmentTo_debt a b rate
  rw [h, Option.getD_none, Trove.monus_zero] at hreplayed
  rw [← hreplayed]
  exact le_add _ _

/-- The validation never throws, and what it accepts is sound. -/
theorem validateTroveChange_sound
    (hminimum : constants.hchfMinimumDebt =
      constants.hchfLiquidationReserve.add constants.hchfMinimumNetDebt)
    (original adjusted : Trove constants) (rate : Decimal)
    (state : TroveChangeValidationSelectedState constants) (hasConnection : Bool)
    (horiginal : original.isEmpty = true ∨ constants.hchfMinimumDebt ≤ original.debt)
    (hcollateral : original.collateral ≤ state.total.collateral)
    (hdebt : original.debt ≤ state.total.debt) :
    ∃ valid description,
      validateTroveChange original adjusted rate state hasConnection = .ok (valid, description) ∧
      ∀ change, valid = some change → ∃ resulting,
        original.apply (some change) (some rate) = .ok resulting ∧
        SoundChange original resulting change state := by
  have hreserve : constants.hchfLiquidationReserve ≤ constants.hchfMinimumDebt := by
    rw [hminimum]
    exact le_add _ _
  rcases Trove.whatChanged_cases adjusted
      (horiginal.imp Trove.isEmpty_iff.mp hreserve.trans) (some rate) with
    ⟨rfl, hchange⟩ | ⟨rfl, _, _, hchange⟩ | ⟨rfl, _, _, hchange⟩ | ⟨hae, rfl, _, hchange⟩ |
    ⟨hae, hbe, hab, _, hchange⟩
  · refine ⟨none, none, ?_, ?_⟩
    · rw [validateTroveChange, hchange]
      rfl
    · rintro _ ⟨⟩
  · obtain ⟨valid, description, hrun, haccepted⟩ :=
      validateTroveChange_of_change hchange rfl state hasConnection
    refine ⟨valid, description, hrun, ?_⟩
    intro change hvalid
    obtain ⟨description, hd⟩ := rejectInvalidCreation_some constants
    have hpass := (haccepted change hvalid).2
    rw [validatorOf, hd] at hpass
    cases hpass
  · obtain ⟨valid, description, hrun, haccepted⟩ :=
      validateTroveChange_of_change hchange rfl state hasConnection
    refine ⟨valid, description, hrun, ?_⟩
    intro change hvalid
    obtain ⟨rfl, hpass⟩ := haccepted change hvalid
    exact ⟨_, rfl, sound_creation hminimum hcollateral hdebt rfl
      (Nat.add_le_add_left (le_def.mp (le_applyFee _ _)) _) hpass⟩
  · have happly (params : TroveClosureParams Decimal) :
        original.apply (some (.closure params)) (some rate) = .ok Trove.empty := by
      rw [Trove.apply, if_neg (by simpa using hae)]
    obtain ⟨valid, description, hrun, haccepted⟩ :=
      validateTroveChange_of_change hchange (happly _) state hasConnection
    refine ⟨valid, description, hrun, ?_⟩
    intro change hvalid
    obtain ⟨rfl, hpass⟩ := haccepted change hvalid
    exact ⟨_, happly _, sound_closure hcollateral hdebt rfl hpass⟩
  · have happly := Trove.apply_adjustmentTo original adjusted rate (.inr rfl)
    obtain ⟨valid, description, hrun, haccepted⟩ :=
      validateTroveChange_of_change hchange happly state hasConnection
    refine ⟨valid, description, hrun, ?_⟩
    intro change hvalid
    obtain ⟨rfl, hpass⟩ := haccepted change hvalid
    have hmin : constants.hchfMinimumDebt ≤ original.debt :=
      horiginal.resolve_left (by simpa using hae)
    exact ⟨_, happly, sound_adjustment hcollateral hdebt hmin le_replayed_debt hpass⟩

/-- A trove of 6000 HBAR and 1800 HCHF withdraws 1000 HBAR in a healthy system. -/
theorem validateTroveChange_sound_defaults :
    ∃ valid description,
      validateTroveChange (⟨⟨600000000000⟩, ⟨180000000000⟩⟩ : Trove defaults)
        ⟨⟨500000000000⟩, ⟨180000000000⟩⟩ ⟨500000⟩
        ⟨⟨100000000⟩, ⟨⟨6000000000000⟩, ⟨1800000000000⟩⟩, ⟨0⟩, ⟨0⟩, 10⟩ true =
        .ok (valid, description) ∧
      ∀ change, valid = some change → ∃ resulting,
        (⟨⟨600000000000⟩, ⟨180000000000⟩⟩ : Trove defaults).apply (some change)
          (some ⟨500000⟩) = .ok resulting ∧
        SoundChange ⟨⟨600000000000⟩, ⟨180000000000⟩⟩ resulting change
          ⟨⟨100000000⟩, ⟨⟨6000000000000⟩, ⟨1800000000000⟩⟩, ⟨0⟩, ⟨0⟩, 10⟩ :=
  validateTroveChange_sound rfl _ _ _ _ _ (.inr (by decide)) (by decide) (by decide)

end Soundness

/-- In recovery mode, with a system of 1500 HBAR and 1500 HCHF, a trove of 6000
HBAR may be opened. It borrows, and its finite ratio is below that of the empty
trove it replaces. -/
theorem opening_lowers_ratio :
    let state : TroveChangeValidationSelectedState defaults :=
      ⟨⟨100000000⟩, ⟨⟨150000000000⟩, ⟨150000000000⟩⟩, ⟨700000000000⟩, ⟨0⟩, 10⟩
    let change : TroveChange defaults :=
      .creation ⟨⟨600000000000⟩, ⟨199004975125⟩⟩
    state.total.collateralRatioIsBelowCritical state.price = true ∧
      (∃ description, validateTroveChange (Trove.empty : Trove defaults)
        ⟨⟨600000000000⟩, ⟨202000000000⟩⟩ ⟨500000⟩ state true =
          .ok (some change, description)) ∧
      change.borrowHCHF = some ⟨199004975125⟩ ∧
      ∃ resulting, Trove.empty.apply (some change) (some ⟨500000⟩) = .ok resulting ∧
        ¬ (Trove.empty : Trove defaults).collateralRatio state.price ≤
          resulting.collateralRatio state.price :=
  ⟨by decide, ⟨_, rfl⟩, rfl, _, rfl, by decide⟩

end HLiquity
