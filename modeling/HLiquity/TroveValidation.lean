import HLiquity.TroveDifference

/-!
# Validation of trove changes

The frontend offers a change only after it passes the checks of its kind. Each
check either lets the change pass or returns the description that is shown
instead, and the first description wins.
-/

namespace HLiquity

open Decimal

/-- `COLLATERAL_COIN` -/
def collateralCoin : String := "HBAR"

/-- `COIN` -/
def coin : String := "HCHF"

/-- A child of a description: plain text, or an `Amount`. -/
inductive Fragment where
  | text (content : String)
  | amount (content : String)
  deriving DecidableEq, Repr

/-- The elements that the validators return. -/
inductive Description (constants : Constants) where
  | errorDescription (children : List Fragment)
  | walletNotConnectedInfo
  | troveChangeDescription (change : TroveChange constants)
  deriving DecidableEq, Repr

/-- The outcome of a check: a description when it rejects. -/
abbrev Check (constants : Constants) := Result (Option (Description constants))

section Checks

variable {constants : Constants}

/-- Run checks in order up to the first rejection. -/
def firstRejection : List (Check constants) → Check constants
  | [] => .ok none
  | check :: rest => do
      match ← check with
      | some description => return some description
      | none => firstRejection rest

/-- A guarded early return. -/
def rejectIf (condition : Bool) (children : List Fragment) : Check constants :=
  .ok (if condition then some (.errorDescription children) else none)

/-- Reject an amount above a balance, naming the excess. -/
def rejectExcess (amount balance : Decimal) (before unit after : String) : Check constants :=
  if amount.gt balance then do
    let excess ← amount.sub balance
    let text ← excess.prettify none
    return some (.errorDescription
      [.text before, .amount (String.ofList text ++ " " ++ unit), .text after])
  else .ok none

/-- A list of checks passes exactly when each of them does. -/
theorem firstRejection_none_iff (checks : List (Check constants)) :
    firstRejection checks = .ok none ↔ ∀ check ∈ checks, check = .ok none := by
  induction checks with
  | nil => simp [firstRejection]
  | cons check rest ih =>
      rw [List.forall_mem_cons, ← ih]
      rcases check with e | (_ | description)
      · simp [firstRejection]
      · simp [firstRejection]
      · simp [firstRejection]

/-- Checks that never throw are run without a throw. -/
theorem firstRejection_ok {checks : List (Check constants)}
    (h : ∀ check ∈ checks, ∃ verdict, check = .ok verdict) :
    ∃ verdict, firstRejection checks = .ok verdict := by
  induction checks with
  | nil => exact ⟨none, rfl⟩
  | cons check rest ih =>
      rw [List.forall_mem_cons] at h
      obtain ⟨⟨verdict, rfl⟩, hrest⟩ := h
      cases verdict with
      | none => exact ih hrest
      | some description => exact ⟨some description, rfl⟩

@[simp] theorem rejectIf_none_iff {condition : Bool} {children : List Fragment} :
    (rejectIf condition children : Check constants) = .ok none ↔ condition = false := by
  cases condition <;> simp [rejectIf]

theorem rejectExcess_of_le {amount balance : Decimal} (h : amount ≤ balance)
    (before unit after : String) :
    (rejectExcess amount balance before unit after : Check constants) = .ok none := by
  rw [rejectExcess, if_neg (by simpa using h)]

/-- The subtraction behind an excess is guarded, so the rejection never throws. -/
theorem rejectExcess_of_lt (constants : Constants) {amount balance : Decimal} (h : balance < amount)
    (before unit after : String) :
    ∃ description,
      (rejectExcess amount balance before unit after : Check constants) =
        .ok (some description) := by
  obtain ⟨text, htext⟩ := prettify_none_ok ⟨amount.bigNumber - balance.bigNumber⟩
  rw [rejectExcess, if_pos (gt_iff.mpr h), sub_of_le h.le, Result.ok_bind, htext]
  exact ⟨_, rfl⟩

theorem rejectExcess_ok (amount balance : Decimal) (before unit after : String) :
    ∃ verdict, (rejectExcess amount balance before unit after : Check constants) = .ok verdict := by
  rcases le_or_gt amount balance with h | h
  · exact ⟨none, rejectExcess_of_le h before unit after⟩
  · obtain ⟨description, hd⟩ := rejectExcess_of_lt constants h before unit after
    exact ⟨some description, hd⟩

@[simp] theorem rejectExcess_none_iff {amount balance : Decimal} {before unit after : String} :
    (rejectExcess amount balance before unit after : Check constants) = .ok none ↔
      amount ≤ balance := by
  constructor
  · intro hpass
    by_contra h
    obtain ⟨description, hd⟩ :=
      rejectExcess_of_lt constants (not_le.mp h) before unit after
    rw [hpass] at hd
    cases hd
  · intro h
    exact rejectExcess_of_le h before unit after

end Checks

/-- The state selected for the validation. -/
structure TroveChangeValidationSelectedState (constants : Constants) where
  price : Decimal
  total : Trove constants
  accountBalance : Decimal
  hchfBalance : Decimal
  numberOfTroves : Nat
  deriving DecidableEq, Repr

/-- The selected state with what is derived from it and the change. -/
structure TroveChangeValidationContext (constants : Constants) extends
    TroveChangeValidationSelectedState constants where
  originalTrove : Trove constants
  resultingTrove : Trove constants
  recoveryMode : Bool
  wouldTriggerRecoveryMode : Bool
  /-- whether a wallet is currently connected -/
  hasConnection : Bool
  deriving DecidableEq, Repr

section Validators

variable {constants : Constants}

def validateTroveCreation (params : TroveCreationParams Decimal)
    (context : TroveChangeValidationContext constants) : Check constants := do
  let { depositCollateral, borrowHCHF } := params
  let minimumNetDebt ← constants.hchfMinimumNetDebt.toString none
  let ccrPercent ← percentToString constants.criticalCollateralRatio 0
  let mcrPercent ← percentToString constants.minimumCollateralRatio 0
  firstRejection <|
    [rejectIf (borrowHCHF.lt constants.hchfMinimumNetDebt)
      [.text "You must borrow at least ",
        .amount (String.ofList minimumNetDebt ++ " " ++ coin), .text "."]] ++
    (if context.recoveryMode then
      [rejectIf (!context.resultingTrove.isOpenableInRecoveryMode context.price)
        [.text "You're not allowed to open a Trove with less than ",
          .amount (String.ofList ccrPercent),
          .text (" Collateral Ratio during recovery mode. Please increase your Trove's " ++
            "Collateral Ratio.")]]
    else
      [rejectIf (context.resultingTrove.collateralRatioIsBelowMinimum context.price)
        [.text "Collateral ratio must be at least ",
          .amount (String.ofList mcrPercent), .text "."],
       rejectIf context.wouldTriggerRecoveryMode
        [.text ("You're not allowed to open a Trove that would cause the Total Collateral " ++
            "Ratio to fall below "),
          .amount (String.ofList ccrPercent),
          .text ". Please increase your Trove's Collateral Ratio."]]) ++
    [.ok (if context.hasConnection then none else some .walletNotConnectedInfo),
     rejectExcess depositCollateral context.accountBalance
      "The amount you're trying to deposit exceeds your balance by " collateralCoin "."]

def validateTroveAdjustment (params : TroveAdjustmentParams Decimal)
    (context : TroveChangeValidationContext constants) : Check constants := do
  let ccrPercent ← percentToString constants.criticalCollateralRatio 0
  let mcrPercent ← percentToString constants.minimumCollateralRatio 0
  let minimumDebt ← constants.hchfMinimumDebt.toString none
  firstRejection <|
    (if context.recoveryMode then
      [rejectIf params.withdrawCollateral.isSome
        [.text "You're not allowed to withdraw collateral during recovery mode."]] ++
      (if params.borrowHCHF.isSome then
        [rejectIf (context.resultingTrove.collateralRatioIsBelowCritical context.price)
          [.text "Your collateral ratio must be at least ",
            .amount (String.ofList ccrPercent),
            .text " to borrow during recovery mode. Please improve your collateral ratio."],
         rejectIf ((context.resultingTrove.collateralRatio context.price).lt
            (context.originalTrove.collateralRatio context.price))
          [.text "You're not allowed to decrease your collateral ratio during recovery mode."]]
      else [])
    else
      [rejectIf (context.resultingTrove.collateralRatioIsBelowMinimum context.price)
        [.text "Collateral ratio must be at least ",
          .amount (String.ofList mcrPercent), .text "."],
       rejectIf context.wouldTriggerRecoveryMode
        [.text ("The adjustment you're trying to make would cause the Total Collateral Ratio " ++
            "to fall below "),
          .amount (String.ofList ccrPercent),
          .text ". Please increase your Trove's Collateral Ratio."]]) ++
    (match params.repayHCHF with
    | some repayHCHF =>
      [rejectIf (context.resultingTrove.debt.lt constants.hchfMinimumDebt)
        [.text "Total debt must be at least ",
          .amount (String.ofList minimumDebt ++ " " ++ coin), .text "."],
       rejectExcess repayHCHF context.hchfBalance
        "The amount you're trying to repay exceeds your balance by " coin "."]
    | none => []) ++
    (match params.depositCollateral with
    | some depositCollateral =>
      [rejectExcess depositCollateral context.accountBalance
        "The amount you're trying to deposit exceeds your balance by " collateralCoin "."]
    | none => [])

def validateTroveClosure (params : TroveClosureParams Decimal)
    (context : TroveChangeValidationContext constants) : Check constants := do
  let ccrPercent ← percentToString constants.criticalCollateralRatio 0
  firstRejection <|
    [rejectIf (context.numberOfTroves == 1)
      [.text ("You're not allowed to close your Trove when there are no other Troves in the " ++
        "system.")],
     rejectIf context.recoveryMode
      [.text "You're not allowed to close your Trove during recovery mode."]] ++
    (match params.repayHCHF with
    | some repayHCHF =>
      [rejectExcess repayHCHF context.hchfBalance "You need " coin " more to close your Trove."]
    | none => []) ++
    [rejectIf context.wouldTriggerRecoveryMode
      [.text ("You're not allowed to close a Trove if it would cause the Total " ++
          "Collateralization Ratio to fall below "),
        .amount (String.ofList ccrPercent),
        .text ". Please wait until the Total Collateral Ratio increases."]]

/-- Trying to create a trove with negative net debt is always rejected. -/
def rejectInvalidCreation : Check constants := do
  let minimumDebt ← constants.hchfMinimumDebt.toString none
  return some (.errorDescription
    [.text "Total debt must be at least ",
      .amount (String.ofList minimumDebt ++ " " ++ coin), .text "."])

/-- The valid change, if any, and the description to show. -/
def validateTroveChange (originalTrove adjustedTrove : Trove constants) (borrowingRate : Decimal)
    (selectedState : TroveChangeValidationSelectedState constants) (hasConnection : Bool) :
    Result (Option (TroveChange constants) × Option (Description constants)) := do
  let { price, total, .. } := selectedState
  match ← originalTrove.whatChanged adjustedTrove (some borrowingRate) with
  | none => return (none, none)
  | some change =>
    let resultingTrove ← originalTrove.apply (some change) (some borrowingRate)
    let recoveryMode := total.collateralRatioIsBelowCritical price
    let remainder ← total.subtract originalTrove
    let wouldTriggerRecoveryMode :=
      (remainder.add resultingTrove).collateralRatioIsBelowCritical price
    let context : TroveChangeValidationContext constants :=
      { selectedState with
        originalTrove, resultingTrove, recoveryMode, wouldTriggerRecoveryMode, hasConnection }
    let errorDescription ←
      match change with
      | .invalidCreation _ _ => rejectInvalidCreation
      | .creation params => validateTroveCreation params context
      | .closure params => validateTroveClosure params context
      | .adjustment params _ => validateTroveAdjustment params context
    match errorDescription with
    | some errorDescription => return (none, some errorDescription)
    | none => return (some change, some (.troveChangeDescription change))

/-- What a change that passes in normal mode keeps. -/
structure NormalMode (context : TroveChangeValidationContext constants) : Prop where
  minimumRatio :
    constants.minimumCollateralRatio ≤ context.resultingTrove.collateralRatio context.price
  keepsMode : context.wouldTriggerRecoveryMode = false

theorem validateTroveCreation_ok (params : TroveCreationParams Decimal)
    (context : TroveChangeValidationContext constants) :
    ∃ verdict, validateTroveCreation params context = .ok verdict := by
  obtain ⟨minimumNetDebt, hnet⟩ := constants.hchfMinimumNetDebt.toString_none_ok
  obtain ⟨ccrPercent, hccr⟩ := percentToString_ok constants.criticalCollateralRatio (le_refl 0)
  obtain ⟨mcrPercent, hmcr⟩ := percentToString_ok constants.minimumCollateralRatio (le_refl 0)
  unfold validateTroveCreation
  rw [hnet, hccr, hmcr]
  apply firstRejection_ok
  cases context.recoveryMode with
  | false =>
      simp only [Bool.false_eq_true, if_false, List.forall_mem_append, List.forall_mem_cons,
        List.not_mem_nil, false_imp_iff, implies_true, and_true, rejectExcess_ok, rejectIf,
        Except.ok.injEq, exists_eq']
  | true =>
      simp only [if_true, List.forall_mem_append, List.forall_mem_cons, List.not_mem_nil,
        false_imp_iff, implies_true, and_true, rejectExcess_ok, rejectIf, Except.ok.injEq,
        exists_eq']

/-- What a passed creation guarantees. -/
theorem validateTroveCreation_none {params : TroveCreationParams Decimal}
    {context : TroveChangeValidationContext constants}
    (h : validateTroveCreation params context = .ok none) :
    constants.hchfMinimumNetDebt ≤ params.borrowHCHF ∧
      (context.recoveryMode = false → NormalMode context) ∧
      (context.recoveryMode = true → constants.criticalCollateralRatio ≤
        context.resultingTrove.collateralRatio context.price) ∧
      params.depositCollateral ≤ context.accountBalance := by
  obtain ⟨minimumNetDebt, hnet⟩ := constants.hchfMinimumNetDebt.toString_none_ok
  obtain ⟨ccrPercent, hccr⟩ := percentToString_ok constants.criticalCollateralRatio (le_refl 0)
  obtain ⟨mcrPercent, hmcr⟩ := percentToString_ok constants.minimumCollateralRatio (le_refl 0)
  unfold validateTroveCreation at h
  rw [hnet, hccr, hmcr] at h
  have hpass := (firstRejection_none_iff _).mp h
  simp only [List.forall_mem_append, List.forall_mem_cons, List.not_mem_nil, false_imp_iff,
    implies_true, and_true, rejectExcess_none_iff, rejectIf_none_iff, lt_eq_false] at hpass
  obtain ⟨⟨hborrow, hmode⟩, _, hdeposit⟩ := hpass
  refine ⟨hborrow, ?_, ?_, hdeposit⟩
  · intro hm
    simp only [hm, Bool.false_eq_true, if_false, List.forall_mem_cons, List.not_mem_nil,
      false_imp_iff, implies_true, and_true, rejectIf_none_iff] at hmode
    exact ⟨lt_eq_false.mp hmode.1, hmode.2⟩
  · intro hm
    simp only [hm, if_true, List.forall_mem_cons, List.not_mem_nil,
      false_imp_iff, implies_true, and_true, rejectIf_none_iff, Bool.not_eq_false'] at hmode
    exact gte_iff.mp hmode

theorem validateTroveAdjustment_ok (params : TroveAdjustmentParams Decimal)
    (context : TroveChangeValidationContext constants) :
    ∃ verdict, validateTroveAdjustment params context = .ok verdict := by
  obtain ⟨ccrPercent, hccr⟩ := percentToString_ok constants.criticalCollateralRatio (le_refl 0)
  obtain ⟨mcrPercent, hmcr⟩ := percentToString_ok constants.minimumCollateralRatio (le_refl 0)
  obtain ⟨minimumDebt, hdebt⟩ := constants.hchfMinimumDebt.toString_none_ok
  unfold validateTroveAdjustment
  rw [hccr, hmcr, hdebt]
  apply firstRejection_ok
  rw [List.forall_mem_append, List.forall_mem_append]
  refine ⟨⟨?_, ?_⟩, ?_⟩
  · cases context.recoveryMode <;> cases params.borrowHCHF <;>
      simp only [Bool.false_eq_true, if_false, if_true, Option.isSome_none, Option.isSome_some,
        List.forall_mem_append, List.forall_mem_cons, List.not_mem_nil, false_imp_iff,
        implies_true, and_true, rejectIf, Except.ok.injEq, exists_eq']
  · cases params.repayHCHF <;>
      simp only [List.forall_mem_cons, List.not_mem_nil, false_imp_iff, implies_true, and_true,
        rejectExcess_ok, rejectIf, Except.ok.injEq, exists_eq']
  · cases params.depositCollateral <;>
      simp only [List.forall_mem_cons, List.not_mem_nil, false_imp_iff, implies_true, and_true,
        rejectExcess_ok]

/-- What a passed adjustment guarantees. -/
theorem validateTroveAdjustment_none {params : TroveAdjustmentParams Decimal}
    {context : TroveChangeValidationContext constants}
    (h : validateTroveAdjustment params context = .ok none) :
    (context.recoveryMode = false → NormalMode context) ∧
      (context.recoveryMode = true → params.withdrawCollateral = none ∧
        ∀ borrowHCHF, params.borrowHCHF = some borrowHCHF →
          constants.criticalCollateralRatio ≤
              context.resultingTrove.collateralRatio context.price ∧
            context.originalTrove.collateralRatio context.price ≤
              context.resultingTrove.collateralRatio context.price) ∧
      (∀ repayHCHF, params.repayHCHF = some repayHCHF →
        constants.hchfMinimumDebt ≤ context.resultingTrove.debt ∧
          repayHCHF ≤ context.hchfBalance) ∧
      ∀ depositCollateral, params.depositCollateral = some depositCollateral →
        depositCollateral ≤ context.accountBalance := by
  obtain ⟨ccrPercent, hccr⟩ := percentToString_ok constants.criticalCollateralRatio (le_refl 0)
  obtain ⟨mcrPercent, hmcr⟩ := percentToString_ok constants.minimumCollateralRatio (le_refl 0)
  obtain ⟨minimumDebt, hdebt⟩ := constants.hchfMinimumDebt.toString_none_ok
  unfold validateTroveAdjustment at h
  rw [hccr, hmcr, hdebt] at h
  have hpass := (firstRejection_none_iff _).mp h
  rw [List.forall_mem_append, List.forall_mem_append] at hpass
  obtain ⟨⟨hmode, hrepay⟩, hdeposit⟩ := hpass
  refine ⟨?_, ?_, ?_, ?_⟩
  · intro hm
    simp only [hm, Bool.false_eq_true, if_false, List.forall_mem_cons, List.not_mem_nil,
      false_imp_iff, implies_true, and_true, rejectIf_none_iff] at hmode
    exact ⟨lt_eq_false.mp hmode.1, hmode.2⟩
  · intro hm
    simp only [hm, if_true, List.forall_mem_append, List.forall_mem_cons, List.not_mem_nil,
      false_imp_iff, implies_true, and_true, rejectIf_none_iff, Option.isSome_eq_false_iff,
      Option.isNone_iff_eq_none] at hmode
    refine ⟨hmode.1, ?_⟩
    intro borrowHCHF hborrow
    have hratio := hmode.2
    simp only [hborrow, Option.isSome_some, if_true, List.forall_mem_cons, List.not_mem_nil,
      false_imp_iff, implies_true, and_true, rejectIf_none_iff, lt_eq_false] at hratio
    exact ⟨lt_eq_false.mp hratio.1, hratio.2⟩
  · intro repayHCHF hr
    simpa only [hr, List.forall_mem_cons, List.not_mem_nil, false_imp_iff, implies_true,
      and_true, rejectIf_none_iff, rejectExcess_none_iff, lt_eq_false] using hrepay
  · intro depositCollateral hd
    simpa only [hd, List.forall_mem_cons, List.not_mem_nil, false_imp_iff, implies_true,
      and_true, rejectExcess_none_iff] using hdeposit

theorem validateTroveClosure_ok (params : TroveClosureParams Decimal)
    (context : TroveChangeValidationContext constants) :
    ∃ verdict, validateTroveClosure params context = .ok verdict := by
  obtain ⟨ccrPercent, hccr⟩ := percentToString_ok constants.criticalCollateralRatio (le_refl 0)
  unfold validateTroveClosure
  rw [hccr]
  apply firstRejection_ok
  cases params.repayHCHF <;>
    simp only [List.forall_mem_append, List.forall_mem_cons, List.not_mem_nil, false_imp_iff,
      implies_true, and_true, rejectExcess_ok, rejectIf, Except.ok.injEq, exists_eq']

/-- What a passed closure guarantees. -/
theorem validateTroveClosure_none {params : TroveClosureParams Decimal}
    {context : TroveChangeValidationContext constants}
    (h : validateTroveClosure params context = .ok none) :
    context.numberOfTroves ≠ 1 ∧ context.recoveryMode = false ∧
      (∀ repayHCHF, params.repayHCHF = some repayHCHF → repayHCHF ≤ context.hchfBalance) ∧
      context.wouldTriggerRecoveryMode = false := by
  obtain ⟨ccrPercent, hccr⟩ := percentToString_ok constants.criticalCollateralRatio (le_refl 0)
  unfold validateTroveClosure at h
  rw [hccr] at h
  have hpass := (firstRejection_none_iff _).mp h
  simp only [List.forall_mem_append, List.forall_mem_cons, List.not_mem_nil, false_imp_iff,
    implies_true, and_true, rejectIf_none_iff, beq_eq_false_iff_ne] at hpass
  obtain ⟨⟨⟨hnumber, hmode⟩, hrepay⟩, htrigger⟩ := hpass
  refine ⟨hnumber, hmode, ?_, htrigger⟩
  intro repayHCHF hr
  simpa only [hr, List.forall_mem_cons, List.not_mem_nil, false_imp_iff, implies_true, and_true,
    rejectExcess_none_iff] using hrepay

end Validators

end HLiquity
