import HLiquity.TroveChange

/-!
# What differences and their replay compute

The source computes a change through guarded subtractions that could throw. On
the troves it is used with none of them does, and both directions have closed
forms: a difference names the saturated distance of each component, and a
replay moves each component by that distance unless it is set to zero.
-/

namespace HLiquity

open Decimal

/-- A borrowed amount, with its fee, as the rounded product by `1 + rate`. -/
@[simp] theorem applyFee_bigNumber (rate amount : Decimal) :
    (applyFee rate amount).bigNumber =
      ScaledRounding.mulFloor digits (digits + rate.bigNumber) amount.bigNumber := by
  simp [applyFee, mul_bigNumber]

theorem one_add_pos (rate : Decimal) : zero < one.add rate := by
  rw [lt_def, zero_bigNumber, add_bigNumber, one_bigNumber]
  have := digits_pos
  omega

/-- A debt increase, without its fee, as the rounded quotient by `1 + rate`. -/
@[simp] theorem unapplyFee_bigNumber (rate amount : Decimal) :
    (unapplyFee rate amount).bigNumber =
      ScaledRounding.divCeil digits (digits + rate.bigNumber) amount.bigNumber := by
  rw [unapplyFee, divCeil_bigNumber (one_add_pos rate), add_bigNumber, one_bigNumber]

private theorem factor_pos (rate : Decimal) : 0 < digits + rate.bigNumber :=
  Nat.add_pos_left digits_pos _

/-- Reapplying the fee never falls short of the requested increase. -/
theorem le_applyFee_unapplyFee (rate amount : Decimal) :
    amount ≤ applyFee rate (unapplyFee rate amount) := by
  rw [le_def, applyFee_bigNumber, unapplyFee_bigNumber]
  exact ScaledRounding.le_mulFloor_divCeil digits_pos (factor_pos rate) _

/-- Below a rate of one, reapplying the fee overshoots by at most one unit. -/
theorem applyFee_unapplyFee_le {rate : Decimal} (hrate : rate < one) (amount : Decimal) :
    (applyFee rate (unapplyFee rate amount)).bigNumber ≤ amount.bigNumber + 1 := by
  rw [applyFee_bigNumber, unapplyFee_bigNumber]
  have hlt : rate.bigNumber < digits := lt_def.mp hrate
  exact ScaledRounding.mulFloor_divCeil_le_succ (factor_pos rate) (by omega) _

/-- At every rate the overshoot is less than `1 + rate` units. -/
theorem applyFee_unapplyFee_mul_lt (rate amount : Decimal) :
    (applyFee rate (unapplyFee rate amount)).bigNumber * digits <
      amount.bigNumber * digits + (digits + rate.bigNumber) := by
  rw [applyFee_bigNumber, unapplyFee_bigNumber]
  exact ScaledRounding.mulFloor_divCeil_mul_lt (factor_pos rate) _

/-- Without a rate the increase is reached exactly. -/
@[simp] theorem applyFee_unapplyFee_zero (amount : Decimal) :
    applyFee zero (unapplyFee zero amount) = amount := by
  ext
  rw [applyFee_bigNumber, unapplyFee_bigNumber, zero_bigNumber, Nat.add_zero,
    ScaledRounding.mulFloor_self digits_pos]
  simpa using ScaledRounding.divCeil_mulFloor digits_pos (le_refl digits) amount.bigNumber

/-- At every rate the borrowed amount is recovered exactly from the increase. -/
@[simp] theorem unapplyFee_applyFee (rate amount : Decimal) :
    unapplyFee rate (applyFee rate amount) = amount := by
  ext
  rw [unapplyFee_bigNumber, applyFee_bigNumber]
  exact ScaledRounding.divCeil_mulFloor digits_pos (Nat.le_add_right _ _) _

/-- A fee never reduces the borrowed amount. -/
theorem le_applyFee (rate amount : Decimal) : amount ≤ applyFee rate amount := by
  rw [le_def, applyFee_bigNumber]
  exact ScaledRounding.le_mulFloor digits_pos (Nat.le_add_right _ _) _

/-- A positive increase needs a positive borrowed amount. -/
theorem unapplyFee_pos (rate : Decimal) {amount : Decimal} (h : zero < amount) :
    zero < unapplyFee rate amount := by
  rw [lt_def, zero_bigNumber, unapplyFee_bigNumber]
  exact ScaledRounding.divCeil_pos digits_pos (factor_pos rate) (lt_def.mp h)

namespace Trove

variable {constants : Constants}

/-- The change of the debt, as a distance. -/
def debtDistance (this that : Trove constants) (rate : Decimal) : DebtChange Decimal :=
  if this.debt < that.debt then .borrowHCHF (unapplyFee rate (monus that.debt this.debt))
  else .repayHCHF (monus this.debt that.debt)

/-- The change of the collateral, as a distance. -/
def collateralDistance (this that : Trove constants) : CollateralChange Decimal :=
  if this.collateral < that.collateral then
    .depositCollateral (monus that.collateral this.collateral)
  else .withdrawCollateral (monus this.collateral that.collateral)

@[simp] theorem debtChange_eq (a b : Trove constants) (rate : Decimal) :
    a.debtChange b rate = .ok (a.debtDistance b rate) := by
  unfold debtChange debtDistance
  by_cases h : a.debt < b.debt
  · rw [if_pos (Decimal.gt_iff.mpr h), if_pos h, Decimal.sub_of_le h.le]
    rfl
  · rw [if_neg (by simpa using h), if_neg h, Decimal.sub_of_le (not_lt.mp h)]
    rfl

@[simp] theorem collateralChange_eq (a b : Trove constants) :
    a.collateralChange b = .ok (a.collateralDistance b) := by
  unfold collateralChange collateralDistance
  by_cases h : a.collateral < b.collateral
  · rw [if_pos (Decimal.gt_iff.mpr h), if_pos h, Decimal.sub_of_le h.le]
    rfl
  · rw [if_neg (by simpa using h), if_neg h, Decimal.sub_of_le (not_lt.mp h)]
    rfl

/-- The parameters of the adjustment from one trove to another. -/
def adjustmentTo (this that : Trove constants) (rate : Decimal) : TroveAdjustmentParams Decimal :=
  if this.collateral = that.collateral then .debt (this.debtDistance that rate)
  else if this.debt = that.debt then .collateral (this.collateralDistance that)
  else .both (this.collateralDistance that) (this.debtDistance that rate)

/-- The zeroing marker of the adjustment from one trove to another: only a
component that changes is marked, the debt first. -/
def zeroedBy (this that : Trove constants) : Option SetToZero :=
  if that.debt = zero ∧ this.debt ≠ zero then some .debt
  else if that.collateral = zero ∧ this.collateral ≠ zero then some .collateral
  else none

theorem componentsDiffer {a b : Trove constants} (hab : a ≠ b) :
    (a.collateral.eq b.collateral && a.debt.eq b.debt) = false := by
  rw [Bool.eq_false_iff]
  intro h
  exact hab (equals_iff.mp h)

/-- Between two different non-empty troves the difference is an adjustment. -/
theorem whatChanged_adjustment {a b : Trove constants} (hab : a ≠ b) (ha : a ≠ empty)
    (hb : b ≠ empty) (rate : Option Decimal) :
    a.whatChanged b rate = .ok (some (.adjustment
      (a.adjustmentTo b (rate.getD constants.minimumBorrowingRate)) (a.zeroedBy b))) := by
  rw [whatChanged, componentsDiffer hab, isEmpty_eq_false.mpr ha, isEmpty_eq_false.mpr hb]
  simp only [Bool.false_eq_true, if_false, debtChange_eq, collateralChange_eq, Result.ok_bind,
    Result.pure_eq, Decimal.eq_iff, adjustmentTo, zeroedBy, Decimal.zero?, Decimal.isZero_iff]
  have hb' : ¬ (b.collateral = zero ∧ b.debt = zero) := by
    simpa [Trove.ext_iff] using hb
  by_cases hc : a.collateral = b.collateral
  · have hd : a.debt ≠ b.debt := fun h => hab (Trove.ext hc h)
    by_cases hz : b.debt = zero <;> grind
  · by_cases hd : a.debt = b.debt <;> by_cases hz : b.debt = zero <;>
      by_cases hz' : b.collateral = zero <;> grind

@[simp] theorem whatChanged_self (a : Trove constants) (rate : Option Decimal) :
    a.whatChanged a rate = .ok none := by
  simp [whatChanged, Decimal.eq]

/-- Below the liquidation reserve a trove cannot be created. -/
theorem whatChanged_invalidCreation {b : Trove constants} (hb : b ≠ empty)
    (hdebt : b.debt < constants.hchfLiquidationReserve) (rate : Option Decimal) :
    (empty : Trove constants).whatChanged b rate =
      .ok (some (.invalidCreation b .missingLiquidationReserve)) := by
  rw [whatChanged, componentsDiffer hb.symm, isEmpty_iff.mpr rfl, lt_iff.mpr hdebt]
  rfl

/-- The creation of a trove borrows what its net debt is worth without the fee. -/
theorem whatChanged_creation {b : Trove constants} (hb : b ≠ empty)
    (hdebt : constants.hchfLiquidationReserve ≤ b.debt) (rate : Option Decimal) :
    (empty : Trove constants).whatChanged b rate =
      .ok (some (.creation ⟨b.collateral,
        unapplyFee (rate.getD constants.minimumBorrowingRate)
          (monus b.debt constants.hchfLiquidationReserve)⟩)) := by
  rw [whatChanged, componentsDiffer hb.symm, isEmpty_iff.mpr rfl, lt_eq_false.mpr hdebt,
    netDebt_of_le hdebt]
  rfl

/-- The closure of a trove repays its net debt when there is any. -/
theorem whatChanged_closure {a : Trove constants} (ha : a ≠ empty)
    (hdebt : constants.hchfLiquidationReserve ≤ a.debt) (rate : Option Decimal) :
    a.whatChanged empty rate =
      .ok (some (.closure ⟨a.collateral,
        (monus a.debt constants.hchfLiquidationReserve).nonZero⟩)) := by
  rw [whatChanged, componentsDiffer ha, isEmpty_eq_false.mpr ha, isEmpty_iff.mpr rfl,
    netDebt_of_le hdebt]
  rfl

/-- Every difference of a trove that is empty or holds its reserve is one of the
five kinds, and none of them throws. -/
theorem whatChanged_cases {a : Trove constants} (b : Trove constants)
    (ha : a = empty ∨ constants.hchfLiquidationReserve ≤ a.debt) (rate : Option Decimal) :
    (a = b ∧ a.whatChanged b rate = .ok none) ∨
    (a = empty ∧ a ≠ b ∧ b.debt < constants.hchfLiquidationReserve ∧
      a.whatChanged b rate = .ok (some (.invalidCreation b .missingLiquidationReserve))) ∨
    (a = empty ∧ a ≠ b ∧ constants.hchfLiquidationReserve ≤ b.debt ∧
      a.whatChanged b rate = .ok (some (.creation ⟨b.collateral,
        unapplyFee (rate.getD constants.minimumBorrowingRate)
          (monus b.debt constants.hchfLiquidationReserve)⟩))) ∨
    (a ≠ empty ∧ b = empty ∧ constants.hchfLiquidationReserve ≤ a.debt ∧
      a.whatChanged b rate = .ok (some (.closure ⟨a.collateral,
        (monus a.debt constants.hchfLiquidationReserve).nonZero⟩))) ∨
    (a ≠ empty ∧ b ≠ empty ∧ a ≠ b ∧ constants.hchfLiquidationReserve ≤ a.debt ∧
      a.whatChanged b rate = .ok (some (.adjustment
        (a.adjustmentTo b (rate.getD constants.minimumBorrowingRate)) (a.zeroedBy b)))) := by
  by_cases hab : a = b
  · subst hab
    exact .inl ⟨rfl, whatChanged_self a rate⟩
  by_cases hae : a = empty
  · subst hae
    have hb : b ≠ empty := fun h => hab h.symm
    rcases lt_or_ge b.debt constants.hchfLiquidationReserve with h | h
    · exact .inr (.inl ⟨rfl, hab, h, whatChanged_invalidCreation hb h rate⟩)
    · exact .inr (.inr (.inl ⟨rfl, hab, h, whatChanged_creation hb h rate⟩))
  have hreserve := ha.resolve_left hae
  by_cases hbe : b = empty
  · subst hbe
    exact .inr (.inr (.inr (.inl ⟨hae, rfl, hreserve, whatChanged_closure hae hreserve rate⟩)))
  · exact .inr (.inr (.inr (.inr
      ⟨hae, hbe, hab, hreserve, whatChanged_adjustment hab hae hbe rate⟩)))

/-- The increase of the debt that an adjustment causes, its fee included. -/
def debtIncrease (params : TroveAdjustmentParams Decimal) (rate : Decimal) : Decimal :=
  match params.borrowHCHF with
  | some borrowHCHF => applyFee rate borrowHCHF
  | none => zero

/-- An adjustment moves each component by its amounts unless it sets it to zero. -/
theorem apply_adjustment (a : Trove constants) (params : TroveAdjustmentParams Decimal)
    (setToZero : Option SetToZero) (rate : Option Decimal) :
    a.apply (some (.adjustment params setToZero)) rate = .ok
      ⟨if setToZero = some .collateral then zero
        else monus (a.collateral.add (params.depositCollateral.getD zero))
          (params.withdrawCollateral.getD zero),
       if setToZero = some .debt then zero
        else monus (a.debt.add (debtIncrease params (rate.getD constants.minimumBorrowingRate)))
          (params.repayHCHF.getD zero)⟩ := by
  rcases setToZero with _ | _ | _
  · simp [apply, Trove.add]
    rfl
  · simp [apply, setCollateral, addDebt]
    rfl
  · simp [apply, setDebt, addCollateral]

/-- Replaying the collateral distance reaches the collateral exactly. -/
theorem collateral_of_collateralDistance (a b : Trove constants)
    {params : TroveAdjustmentParams Decimal}
    (h : params.collateralChange = some (a.collateralDistance b)) :
    monus (a.collateral.add (params.depositCollateral.getD zero))
      (params.withdrawCollateral.getD zero) = b.collateral := by
  unfold TroveAdjustmentParams.depositCollateral TroveAdjustmentParams.withdrawCollateral
  rw [h, collateralDistance]
  by_cases hlt : a.collateral < b.collateral
  · rw [if_pos hlt]
    have := lt_def.mp hlt
    ext
    simp only [Option.getD_some, Option.getD_none, monus_bigNumber, add_bigNumber, zero_bigNumber]
    omega
  · rw [if_neg hlt]
    have := le_def.mp (not_lt.mp hlt)
    ext
    simp only [Option.getD_some, Option.getD_none, monus_bigNumber, add_bigNumber, zero_bigNumber]
    omega

/-- Replaying the debt distance reaches the debt, plus the rounding of the fee
when the debt increases. -/
theorem debt_of_debtDistance (a b : Trove constants) {params : TroveAdjustmentParams Decimal}
    {rate : Decimal} (h : params.debtChange = some (a.debtDistance b rate)) :
    monus (a.debt.add (debtIncrease params rate)) (params.repayHCHF.getD zero) =
      if a.debt < b.debt then
        a.debt.add (applyFee rate (unapplyFee rate (monus b.debt a.debt)))
      else b.debt := by
  unfold debtIncrease TroveAdjustmentParams.borrowHCHF TroveAdjustmentParams.repayHCHF
  rw [h, debtDistance]
  by_cases hlt : a.debt < b.debt
  · simp only [if_pos hlt, Option.getD_none, monus_zero]
  · have := le_def.mp (not_lt.mp hlt)
    simp only [if_neg hlt, Option.getD_some, Decimal.add_zero]
    ext
    simp only [monus_bigNumber]
    omega

end Trove

end HLiquity
