import HLiquity.FeeRates
import HLiquity.Populate
import HLiquity.StoreEvents
import HLiquity.TroveDifference

/-!
# Details of trove transactions

The Hashgraph client reports a transaction from the store, which it refreshes
after the transaction. The fee that it reports is the borrowing rate at that
time and the debt that it reports as repaid is the gross debt at the time of the
population, while a transaction adds an amount of fee to the debt and repays the
net debt.
-/

namespace HLiquity

open Decimal

variable {constants : Constants} {E : ExtraState}

/-- `_TroveChangeWithFees` -/
structure TroveChangeWithFees (constants : Constants) (Params : Type) where
  params : Params
  newTrove : Trove constants
  fee : Decimal

/-- Details of an `openTrove` transaction. -/
abbrev TroveCreationDetails (constants : Constants) :=
  TroveChangeWithFees constants (TroveCreationParams Decimal)

/-- Details of an `adjustTrove` transaction. -/
abbrev TroveAdjustmentDetails (constants : Constants) :=
  TroveChangeWithFees constants (TroveAdjustmentParams Decimal)

/-- Details of a `closeTrove` transaction. -/
structure TroveClosureDetails where
  params : TroveClosureParams Decimal
  deriving DecidableEq, Repr

namespace HashgraphLiquity

/-- `getDetails` of `populateOpenTrove`, on the refreshed state of the store. -/
def openTroveDetails (params : ParamsRecord) (newStoreState : LiquityStoreState constants E) :
    Result (TroveCreationDetails constants) := do
  let normalized ← normalizeTroveCreation params
  let newTrove := newStoreState.derived.trove.value.toTrove
  let paidHchfBorrowingFee ← newStoreState.derived.fees.value.borrowingRate none
  return { params := normalized, fee := paidHchfBorrowingFee, newTrove }

/-- `getDetails` of `populateAdjustTrove`, on the refreshed state of the store. -/
def adjustTroveDetails (params : ParamsRecord) (newStoreState : LiquityStoreState constants E) :
    Result (TroveAdjustmentDetails constants) := do
  let normalized ← normalizeTroveAdjustment params
  let updatedTrove := newStoreState.derived.trove.value.toTrove
  let paidHchfBorrowingFee ← newStoreState.derived.fees.value.borrowingRate none
  return { params := normalized, fee := paidHchfBorrowingFee, newTrove := updatedTrove }

/-- `getDetails` of `populateCloseTrove`, on the state at the population. -/
def closeTroveDetails (state : LiquityStoreState constants E) : TroveClosureDetails :=
  let troveBeforeClosure := state.derived.trove.value.toTrove
  { params :=
      { withdrawCollateral := troveBeforeClosure.collateral
        repayHCHF := some troveBeforeClosure.debt } }

end HashgraphLiquity

/-- The HCHF amount added to the debt as borrowing fee. -/
def borrowingFee (borrowHCHF : Option Decimal) (borrowingRate : Decimal) : Decimal :=
  match borrowHCHF with
  | some borrowHCHF => borrowHCHF.mul borrowingRate
  | none => zero

/-- Applying a fee adds the borrowed amount times the rate. -/
theorem applyFee_eq_add_borrowingFee (rate borrowHCHF : Decimal) :
    applyFee rate borrowHCHF = borrowHCHF.add (borrowingFee (some borrowHCHF) rate) := by
  ext
  rw [applyFee_bigNumber, ScaledRounding.mulFloor_add_scale digits_pos, add_bigNumber,
    borrowingFee, mul_bigNumber]

/-- An adjustment adds what it borrows and its fee. -/
theorem debtIncrease_eq_add_borrowingFee (params : TroveAdjustmentParams Decimal)
    (rate : Decimal) :
    Trove.debtIncrease params rate =
      (params.borrowHCHF.getD zero).add (borrowingFee params.borrowHCHF rate) := by
  unfold Trove.debtIncrease
  cases params.borrowHCHF with
  | none => rfl
  | some borrowHCHF => exact applyFee_eq_add_borrowingFee rate borrowHCHF

/-- What was borrowed at a rate has a fee of the refreshed rate, read as an amount: at the same rate
one HCHF, up to the rounding of the fee, and at another one the quotient of the two. -/
def FitsAt (rateAfter rate : Decimal) : Option Decimal → Prop
  | none => rateAfter = zero
  | some borrowHCHF =>
      if rateAfter = rate then
        rate = zero ∨
          one ≤ borrowHCHF ∧ (borrowHCHF.bigNumber - digits) * rate.bigNumber < digits
      else
        borrowHCHF.bigNumber ∈ Set.Ico
          (ScaledRounding.divCeil digits rate.bigNumber rateAfter.bigNumber)
          (ScaledRounding.divCeil digits rate.bigNumber (rateAfter.bigNumber + 1))

/-- What was borrowed at a rate has a fee that the refreshed fees report: none in recovery mode, and
otherwise the rate at their base rate. -/
def FeeFits (refreshed : Fees constants) (rate : Decimal) (borrowHCHF : Option Decimal) : Prop :=
  if refreshed.recoveryMode then (borrowHCHF.getD zero).bigNumber * rate.bigNumber < digits
  else
    ∀ baseRate ∈ (refreshed.baseRate none).toOption,
      FitsAt (Fees.cappedBorrowingRate constants baseRate) rate borrowHCHF

instance (rateAfter rate : Decimal) (borrowHCHF : Option Decimal) :
    Decidable (FitsAt rateAfter rate borrowHCHF) := by
  unfold FitsAt
  cases borrowHCHF <;> exact inferInstance

instance (refreshed : Fees constants) (rate : Decimal) (borrowHCHF : Option Decimal) :
    Decidable (FeeFits refreshed rate borrowHCHF) := by
  unfold FeeFits
  exact inferInstance

/-- An amount is the fee of what is borrowed if it is the rounded product. -/
theorem eq_borrowingFee_iff {fee rate borrowHCHF : Decimal} :
    fee = borrowingFee (some borrowHCHF) rate ↔
      fee.bigNumber * digits ≤ borrowHCHF.bigNumber * rate.bigNumber ∧
        borrowHCHF.bigNumber * rate.bigNumber < (fee.bigNumber + 1) * digits := by
  rw [Decimal.ext_iff, eq_comm, borrowingFee, mul_bigNumber]
  exact ScaledRounding.mulFloor_eq_iff digits_pos _ _

theorem borrowingFee_zero (borrowHCHF : Option Decimal) : borrowingFee borrowHCHF zero = zero := by
  cases borrowHCHF with
  | none => rfl
  | some borrowHCHF =>
      exact (eq_borrowingFee_iff.mpr (by simp [zero_bigNumber, digits_pos])).symm

/-- With the default constants the fee of 10.000002 HCHF is larger than any rate. -/
theorem maximumRate_lt_fee {rate borrowHCHF : Decimal}
    (hrate : defaults.minimumBorrowingRate ≤ rate) (hborrow : ⟨1000000200⟩ ≤ borrowHCHF) :
    defaults.maximumBorrowingRate < borrowingFee (some borrowHCHF) rate := by
  rw [le_def] at hrate hborrow
  rw [lt_def, borrowingFee, mul_bigNumber]
  have hproduct : 1000000200 * 500000 ≤ borrowHCHF.bigNumber * rate.bigNumber :=
    Nat.mul_le_mul hborrow hrate
  have hdigits : digits = 100000000 := rfl
  simp only [ScaledRounding.mulFloor, hdigits, defaults]
  omega

/-- A debt of the default minimum is out of borrowing more than that. -/
theorem le_of_hchfMinimumDebt {rate borrowHCHF : Decimal}
    (hrate : rate ≤ defaults.maximumBorrowingRate)
    (hminimum : defaults.hchfMinimumDebt ≤
      defaults.hchfLiquidationReserve.add (applyFee rate borrowHCHF)) :
    ⟨1000000200⟩ ≤ borrowHCHF := by
  rw [le_def] at hrate hminimum ⊢
  rw [add_bigNumber, applyFee_bigNumber, ScaledRounding.mulFloor_add_scale digits_pos] at hminimum
  have hproduct : borrowHCHF.bigNumber * rate.bigNumber ≤ borrowHCHF.bigNumber * 5000000 :=
    Nat.mul_le_mul_left _ hrate
  have hdigits : digits = 100000000 := rfl
  simp only [ScaledRounding.mulFloor, hdigits, defaults, add_bigNumber] at hminimum ⊢
  omega

/-- A rate that is not zero is the fee of one HCHF, up to the rounding of the fee. -/
theorem eq_borrowingFee_self_iff {rate borrowHCHF : Decimal} (hrate : zero < rate) :
    rate = borrowingFee (some borrowHCHF) rate ↔
      one ≤ borrowHCHF ∧ (borrowHCHF.bigNumber - digits) * rate.bigNumber < digits := by
  have hpos : 0 < rate.bigNumber := lt_def.mp hrate
  have hcomm : rate.bigNumber * digits = digits * rate.bigNumber := Nat.mul_comm _ _
  have hlower : rate.bigNumber * digits ≤ borrowHCHF.bigNumber * rate.bigNumber ↔
      one ≤ borrowHCHF := by
    rw [hcomm, Nat.mul_le_mul_right_iff hpos, le_def, one_bigNumber]
  rw [eq_borrowingFee_iff, hlower, Nat.sub_mul, Nat.add_mul, Nat.one_mul]
  refine and_congr_right fun hle => ?_
  have := hlower.mpr hle
  omega

/-- No fee is charged at all, or for less than its last place. -/
theorem zero_eq_borrowingFee_iff {rate : Decimal} {borrowHCHF : Option Decimal} :
    zero = borrowingFee borrowHCHF rate ↔
      (borrowHCHF.getD zero).bigNumber * rate.bigNumber < digits := by
  cases borrowHCHF with
  | none =>
      rw [Option.getD_none, zero_bigNumber, Nat.zero_mul]
      exact iff_of_true rfl digits_pos
  | some borrowHCHF =>
      rw [eq_borrowingFee_iff, zero_bigNumber, Nat.zero_mul, Nat.zero_add, Nat.one_mul]
      exact and_iff_right (Nat.zero_le _)

/-- A fee is that of the amounts between the quotients. -/
theorem eq_borrowingFee_iff_mem {fee rate borrowHCHF : Decimal} (hrate : zero < rate) :
    fee = borrowingFee (some borrowHCHF) rate ↔
      borrowHCHF.bigNumber ∈ Set.Ico (ScaledRounding.divCeil digits rate.bigNumber fee.bigNumber)
        (ScaledRounding.divCeil digits rate.bigNumber (fee.bigNumber + 1)) := by
  have hle (quantity : Nat) :
      ScaledRounding.divCeil digits rate.bigNumber quantity ≤ borrowHCHF.bigNumber ↔
        quantity ≤ ScaledRounding.mulFloor digits rate.bigNumber borrowHCHF.bigNumber :=
    ScaledRounding.divCeil_le_iff digits_pos (lt_def.mp hrate) _ _
  rw [Set.mem_Ico, ← not_le, hle, hle, Decimal.ext_iff, borrowingFee, mul_bigNumber]
  omega

theorem fitsAt_iff {rateAfter rate : Decimal} {borrowHCHF : Option Decimal} :
    rateAfter = borrowingFee borrowHCHF rate ↔ FitsAt rateAfter rate borrowHCHF := by
  cases borrowHCHF with
  | none => exact Iff.rfl
  | some borrowHCHF =>
      rw [FitsAt]
      split
      · next hsame =>
          rw [hsame]
          by_cases hzero : rate = zero
          · refine iff_of_true ?_ (.inl hzero)
            rw [hzero, zero_eq_borrowingFee_iff, zero_bigNumber, Nat.mul_zero]
            exact digits_pos
          · have hpos : zero < rate := lt_of_le_of_ne (zero_le rate) (Ne.symm hzero)
            rw [eq_borrowingFee_self_iff hpos, or_iff_right hzero]
      · next hother =>
          by_cases hzero : rate = zero
          · -- without a rate there is no quotient, and no fee either
            rw [hzero] at hother ⊢
            rw [borrowingFee_zero]
            refine iff_of_false hother ?_
            simp [ScaledRounding.divCeil, zero_bigNumber]
          · exact eq_borrowingFee_iff_mem (lt_of_le_of_ne (zero_le rate) (Ne.symm hzero))

/-- The refreshed rate is the fee exactly if what was borrowed fits it. -/
theorem feeFits_iff {refreshed : Fees constants} {rate rateAfter : Decimal}
    {borrowHCHF : Option Decimal} (hafter : refreshed.borrowingRate none = .ok rateAfter) :
    rateAfter = borrowingFee borrowHCHF rate ↔ FeeFits refreshed rate borrowHCHF := by
  rw [FeeFits]
  rcases Fees.borrowingRate_cases hafter with ⟨hmode, rfl⟩ | ⟨hmode, baseRate, hbaseRate, rfl⟩
  · rw [hmode, if_pos rfl]
    exact zero_eq_borrowingFee_iff
  · rw [hmode, if_neg Bool.false_ne_true, hbaseRate, fitsAt_iff]
    simp [Except.toOption]

namespace HashgraphLiquity

variable {newStoreState : LiquityStoreState constants E} {rateAfter : Decimal}

/-- A creation is reported with the rate of the refreshed fees. -/
theorem openTroveDetails_eq {params : ParamsRecord} {normalized : TroveCreationParams Decimal}
    (hparams : normalizeTroveCreation params = .ok normalized)
    (hafter : newStoreState.derived.fees.value.borrowingRate none = .ok rateAfter) :
    openTroveDetails params newStoreState =
      .ok ⟨normalized, newStoreState.derived.trove.value.toTrove, rateAfter⟩ := by
  rw [openTroveDetails, hparams, Result.ok_bind, hafter]
  rfl

/-- An adjustment is reported with the rate of the refreshed fees. -/
theorem adjustTroveDetails_eq {params : ParamsRecord} {normalized : TroveAdjustmentParams Decimal}
    (hparams : normalizeTroveAdjustment params = .ok normalized)
    (hafter : newStoreState.derived.fees.value.borrowingRate none = .ok rateAfter) :
    adjustTroveDetails params newStoreState =
      .ok ⟨normalized, newStoreState.derived.trove.value.toTrove, rateAfter⟩ := by
  rw [adjustTroveDetails, hparams, Result.ok_bind, hafter]
  rfl

/-- A creation is reported with the fee that it adds to the debt exactly if what it
borrows fits the refreshed fees. -/
theorem openTroveDetails_fee_iff {params : ParamsRecord}
    {normalized : TroveCreationParams Decimal} {rate : Decimal} {newTrove : Trove constants}
    (hparams : normalizeTroveCreation params = .ok normalized)
    (hchain : (Trove.empty : Trove constants).apply (some (.creation normalized)) (some rate) =
      .ok newTrove)
    (hstate : newStoreState.derived.trove.value.toTrove = newTrove)
    (hafter : newStoreState.derived.fees.value.borrowingRate none = .ok rateAfter) :
    ∃ details, openTroveDetails params newStoreState = .ok details ∧
      details.newTrove.debt = constants.hchfLiquidationReserve.add
        (normalized.borrowHCHF.add (borrowingFee (some normalized.borrowHCHF) rate)) ∧
      (details.fee = borrowingFee (some normalized.borrowHCHF) rate ↔
        FeeFits newStoreState.derived.fees.value rate (some normalized.borrowHCHF)) := by
  refine ⟨_, openTroveDetails_eq hparams hafter, ?_, feeFits_iff hafter⟩
  cases hchain
  rw [hstate, ← applyFee_eq_add_borrowingFee]
  rfl

/-- An adjustment is reported with the fee that it adds to the debt exactly if what it
borrows fits the refreshed fees. -/
theorem adjustTroveDetails_fee_iff {params : ParamsRecord}
    {normalized : TroveAdjustmentParams Decimal} {rate : Decimal} {trove newTrove : Trove constants}
    (hparams : normalizeTroveAdjustment params = .ok normalized)
    (hchain : trove.apply (some (.adjustment normalized none)) (some rate) = .ok newTrove)
    (hstate : newStoreState.derived.trove.value.toTrove = newTrove)
    (hafter : newStoreState.derived.fees.value.borrowingRate none = .ok rateAfter) :
    ∃ details, adjustTroveDetails params newStoreState = .ok details ∧
      details.newTrove.debt = Trove.monus
        (trove.debt.add ((normalized.borrowHCHF.getD zero).add
          (borrowingFee normalized.borrowHCHF rate))) (normalized.repayHCHF.getD zero) ∧
      (details.fee = borrowingFee normalized.borrowHCHF rate ↔
        FeeFits newStoreState.derived.fees.value rate normalized.borrowHCHF) := by
  refine ⟨_, adjustTroveDetails_eq hparams hafter, ?_, feeFits_iff hafter⟩
  rw [Trove.apply_adjustment] at hchain
  cases hchain
  rw [hstate, ← debtIncrease_eq_add_borrowingFee]
  rfl

theorem borrowingRate_le_maximum {fees : Fees defaults} {rate : Decimal}
    (hrate : fees.borrowingRate none = .ok rate) : rate ≤ defaults.maximumBorrowingRate := by
  rcases Fees.borrowingRate_cases hrate with ⟨_, rfl⟩ | ⟨_, baseRate, _, rfl⟩
  · exact zero_le _
  · exact (Fees.cappedBorrowingRate_bounds (by decide) baseRate).2

/-- With the default constants more than 10.000002 HCHF fit only if there is no fee at all. -/
theorem feeFits_iff_recoveryMode {fees refreshed : Fees defaults} {rate borrowHCHF : Decimal}
    (hborrow : ⟨1000000200⟩ ≤ borrowHCHF) (hrate : fees.borrowingRate none = .ok rate)
    (hafter : refreshed.borrowingRate none = .ok rateAfter) :
    FeeFits refreshed rate (some borrowHCHF) ↔
      fees.recoveryMode = true ∧ refreshed.recoveryMode = true := by
  have hlimits : defaults.minimumBorrowingRate ≤ defaults.maximumBorrowingRate := by decide
  have hbounds := Fees.cappedBorrowingRate_bounds hlimits
  rw [← feeFits_iff hafter]
  rcases Fees.borrowingRate_cases hrate with ⟨hmode, rfl⟩ | ⟨hmode, baseRate, _, rfl⟩
  · rw [hmode, borrowingFee_zero]
    rcases Fees.borrowingRate_cases hafter with ⟨hmodeAfter, rfl⟩ | ⟨hmodeAfter, after, _, rfl⟩
    · exact iff_of_true rfl ⟨rfl, hmodeAfter⟩
    · have hpos : zero < Fees.cappedBorrowingRate defaults after :=
        lt_of_lt_of_le (by decide) (hbounds after).1
      refine iff_of_false hpos.ne' ?_
      rw [hmodeAfter]
      exact fun hboth => Bool.false_ne_true hboth.2
  · have hfee : defaults.maximumBorrowingRate < borrowingFee (some borrowHCHF)
        (Fees.cappedBorrowingRate defaults baseRate) :=
      maximumRate_lt_fee (hbounds baseRate).1 hborrow
    refine iff_of_false ((borrowingRate_le_maximum hafter).trans_lt hfee).ne ?_
    rw [hmode]
    exact fun hboth => Bool.false_ne_true hboth.1

/-- A closure is reported with the parameters of the difference exactly if there is debt
and no liquidation reserve. -/
theorem closeTroveDetails_params_iff {state : LiquityStoreState constants E}
    {trove : Trove constants} (hstate : state.derived.trove.value.toTrove = trove)
    (hopen : trove ≠ Trove.empty) (hreserve : constants.hchfLiquidationReserve ≤ trove.debt)
    (rate : Option Decimal) :
    ∃ params, trove.whatChanged Trove.empty rate = .ok (some (.closure params)) ∧
      ((closeTroveDetails state).params = params ↔
        constants.hchfLiquidationReserve = zero ∧ trove.debt ≠ zero) := by
  refine ⟨_, Trove.whatChanged_closure hopen hreserve rate, ?_⟩
  have hle : constants.hchfLiquidationReserve.bigNumber ≤ trove.debt.bigNumber :=
    le_def.mp hreserve
  rw [closeTroveDetails, hstate, TroveClosureParams.mk.injEq, nonZero]
  by_cases hnet : Trove.monus trove.debt constants.hchfLiquidationReserve = zero
  · have hdebt : trove.debt.bigNumber - constants.hchfLiquidationReserve.bigNumber = 0 :=
      congrArg Decimal.bigNumber hnet
    rw [if_pos (isZero_iff.mpr hnet)]
    refine iff_of_false (fun h => by cases h.2) ?_
    rintro ⟨hzero, hne⟩
    rw [hzero, zero_bigNumber] at hdebt
    exact hne (Decimal.ext hdebt)
  · rw [if_neg (by rwa [isZero_iff]), Option.some.injEq]
    constructor
    · rintro ⟨_, hgross⟩
      have hsame : trove.debt.bigNumber =
          trove.debt.bigNumber - constants.hchfLiquidationReserve.bigNumber :=
        congrArg Decimal.bigNumber hgross
      constructor
      · apply Decimal.ext
        rw [zero_bigNumber]
        omega
      · intro hzero
        apply hnet
        rw [← hgross, hzero]
    · rintro ⟨hzero, _⟩
      rw [hzero, Trove.monus_zero]
      exact ⟨rfl, rfl⟩

/-- The reported details match the transactions exactly if what is borrowed fits the refreshed fees,
and if a closed trove has debt and no liquidation reserve. With the default constants what an
opening borrows, and any amount from 10.000002 HCHF on, fits exactly if the fees are in recovery
mode before and after. -/
theorem details_match_iff :
    (∀ (params : ParamsRecord) (normalized : TroveCreationParams Decimal) (fees : Fees constants)
        (rate rateAfter : Decimal) (newTrove : Trove constants)
        (newStoreState : LiquityStoreState constants E),
      normalizeTroveCreation params = .ok normalized → fees.borrowingRate none = .ok rate →
      (Trove.empty : Trove constants).apply (some (.creation normalized)) (some rate) =
        .ok newTrove →
      newStoreState.derived.trove.value.toTrove = newTrove →
      newStoreState.derived.fees.value.borrowingRate none = .ok rateAfter →
      ∃ details, openTroveDetails params newStoreState = .ok details ∧
        details.newTrove.debt = constants.hchfLiquidationReserve.add
          (normalized.borrowHCHF.add (borrowingFee (some normalized.borrowHCHF) rate)) ∧
        (details.fee = borrowingFee (some normalized.borrowHCHF) rate ↔
          FeeFits newStoreState.derived.fees.value rate (some normalized.borrowHCHF))) ∧
    (∀ (params : ParamsRecord) (normalized : TroveAdjustmentParams Decimal) (fees : Fees constants)
        (rate rateAfter : Decimal) (trove newTrove : Trove constants)
        (newStoreState : LiquityStoreState constants E),
      normalizeTroveAdjustment params = .ok normalized → fees.borrowingRate none = .ok rate →
      trove.apply (some (.adjustment normalized none)) (some rate) = .ok newTrove →
      newStoreState.derived.trove.value.toTrove = newTrove →
      newStoreState.derived.fees.value.borrowingRate none = .ok rateAfter →
      ∃ details, adjustTroveDetails params newStoreState = .ok details ∧
        details.newTrove.debt = Trove.monus
          (trove.debt.add ((normalized.borrowHCHF.getD zero).add
            (borrowingFee normalized.borrowHCHF rate))) (normalized.repayHCHF.getD zero) ∧
        (details.fee = borrowingFee normalized.borrowHCHF rate ↔
          FeeFits newStoreState.derived.fees.value rate normalized.borrowHCHF)) ∧
    (∀ (fees refreshed : Fees defaults) (rate rateAfter : Decimal),
      fees.borrowingRate none = .ok rate → refreshed.borrowingRate none = .ok rateAfter →
      (∀ (normalized : TroveCreationParams Decimal) (newTrove : Trove defaults),
        (Trove.empty : Trove defaults).apply (some (.creation normalized)) (some rate) =
          .ok newTrove →
        defaults.hchfMinimumDebt ≤ newTrove.debt → ⟨1000000200⟩ ≤ normalized.borrowHCHF) ∧
      ∀ borrowHCHF, ⟨1000000200⟩ ≤ borrowHCHF →
        (FeeFits refreshed rate (some borrowHCHF) ↔
          fees.recoveryMode = true ∧ refreshed.recoveryMode = true)) ∧
    ∀ (state : LiquityStoreState constants E) (trove : Trove constants) (rate : Option Decimal),
      state.derived.trove.value.toTrove = trove → trove ≠ Trove.empty →
      constants.hchfLiquidationReserve ≤ trove.debt →
      ∃ params, trove.whatChanged Trove.empty rate = .ok (some (.closure params)) ∧
        ((closeTroveDetails state).params = params ↔
          constants.hchfLiquidationReserve = zero ∧ trove.debt ≠ zero) := by
  refine ⟨?_, ?_, ?_, ?_⟩
  · intro params normalized fees rate rateAfter newTrove newStoreState hparams _ hchain
    exact openTroveDetails_fee_iff hparams hchain
  · intro params normalized fees rate rateAfter trove newTrove newStoreState hparams _ hchain
    exact adjustTroveDetails_fee_iff hparams hchain
  · intro fees refreshed rate rateAfter hrate hafter
    refine ⟨?_, fun borrowHCHF hborrow => feeFits_iff_recoveryMode hborrow hrate hafter⟩
    intro normalized newTrove hchain hminimum
    cases hchain
    exact le_of_hchfMinimumDebt (borrowingRate_le_maximum hrate) hminimum
  · intro state trove rate hstate hopen hreserve
    exact closeTroveDetails_params_iff hstate hopen hreserve rate

/-- A loaded state with a trove of 3 HBAR and the given debt, and fees at the minimum rate. -/
def exampleState (debt : Decimal) : LiquityStoreState defaults (StoreImplementation.extra
    (HashgraphLiquity.implementation exampleOptions : StoreImplementation defaults)) :=
  ⟨defaultBaseState, { defaultDerivedState with
      trove := ⟨.placeholder, ⟨⟨⟨300000000⟩, debt⟩, "0xd", .open⟩⟩ }, some ⟨none, 0⟩⟩

/-- Borrowing one HCHF, which has its rate as its fee, is reported with its fee. -/
theorem details_match_iff_oneHCHF :
    ∃ details, adjustTroveDetails [("borrowHCHF", some (.decimal one))]
        (exampleState ⟨203100500000⟩) = .ok details ∧
      details.fee = borrowingFee (some one) ⟨500000⟩ := by
  obtain ⟨details, hdetails, _, hfee⟩ :=
    details_match_iff.2.1 [("borrowHCHF", some (.decimal one))] (.debt (.borrowHCHF one))
      (exampleState ⟨203100500000⟩).derived.fees.value ⟨500000⟩ ⟨500000⟩
      ⟨⟨300000000⟩, ⟨203000000000⟩⟩ ⟨⟨300000000⟩, ⟨203100500000⟩⟩ (exampleState ⟨203100500000⟩)
      rfl rfl rfl rfl rfl
  exact ⟨details, hdetails, hfee.mpr (by decide)⟩

/-- Borrowing 2000 HCHF adds 10 HCHF to the debt and is reported with a fee of 0.005, and
closing the trove repays 2010 HCHF and is reported with 2030. -/
theorem reported_details_differ :
    (Trove.empty : Trove defaults).apply (some (.creation ⟨⟨300000000⟩, ⟨200000000000⟩⟩))
        (some ⟨500000⟩) = .ok ⟨⟨300000000⟩, ⟨203000000000⟩⟩ ∧
      (∃ details, openTroveDetails
          [("depositCollateral", some (.decimal ⟨300000000⟩)),
            ("borrowHCHF", some (.decimal ⟨200000000000⟩))]
          (exampleState ⟨203000000000⟩) = .ok details ∧
        details.fee = ⟨500000⟩ ∧ borrowingFee (some ⟨200000000000⟩) ⟨500000⟩ = ⟨1000000000⟩) ∧
      (⟨⟨300000000⟩, ⟨203000000000⟩⟩ : Trove defaults).whatChanged Trove.empty none =
        .ok (some (.closure ⟨⟨300000000⟩, some ⟨201000000000⟩⟩)) ∧
      (closeTroveDetails (exampleState ⟨203000000000⟩)).params =
        ⟨⟨300000000⟩, some ⟨203000000000⟩⟩ := by
  refine ⟨rfl, ⟨_, rfl, rfl, rfl⟩, rfl, rfl⟩

end HashgraphLiquity

end HLiquity
