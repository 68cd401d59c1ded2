import HLiquity.TroveChange

/-!
# Hooks for the debt of a trove

One hook computes the borrowing fee of a debt, one the trove for a collateral and
a net debt, and one the largest net debt that a collateral allows. The last one
charges the fee on the largest total debt, which is at least the fee of the trove
that has the resulting net debt.
-/

namespace HLiquity

open Decimal

variable {constants : Constants}

def getFee (borrowingRate totalDebt previousTotalDebt : Decimal) : Result Decimal :=
  if totalDebt.lte previousTotalDebt then .ok Decimal.zero
  else do
    let debtIncrease ← totalDebt.sub previousTotalDebt
    return debtIncrease.mul borrowingRate

/-- `useFee`, with the borrowing rate that it selects. -/
def useFee (borrowingRate totalDebt : Decimal) (previousTotalDebt : Option Decimal) :
    Result Decimal :=
  getFee borrowingRate totalDebt (previousTotalDebt.getD Decimal.zero)

/-- `useTrove`, with the borrowing rate that its fee selects. -/
def useTrove (borrowingRate collateral netDebt : Decimal)
    (previousTrove : Option (Trove constants)) : Result (Trove constants) := do
  let debtWithReserve := netDebt.add constants.hchfLiquidationReserve
  let fee ← useFee borrowingRate debtWithReserve (previousTrove.map (·.debt))
  return ⟨collateral, debtWithReserve.add fee⟩

/-- `useMaxNetDebt`, with the price and the borrowing rate that it selects. -/
def useMaxNetDebt (constants : Constants) (price borrowingRate collateral : Decimal)
    (previousDebt : Option Decimal) : Result Decimal := do
  let maxTotalDebt := (collateral.mul price).div constants.minimumCollateralRatio
  let fee ← useFee borrowingRate maxTotalDebt (some (previousDebt.getD Decimal.zero))
  if maxTotalDebt.lt (constants.hchfLiquidationReserve.add fee) then return Decimal.zero
  else do
    let withoutReserve ← maxTotalDebt.sub constants.hchfLiquidationReserve
    withoutReserve.sub fee

/-- The fee of a debt in units, which is zero up to the previous debt. -/
def feeUnits (borrowingRate totalDebt previousTotalDebt : Nat) : Nat :=
  ScaledRounding.mulFloor Decimal.digits borrowingRate (totalDebt - previousTotalDebt)

theorem feeUnits_mono (borrowingRate previousTotalDebt : Nat) {totalDebt more : Nat}
    (h : totalDebt ≤ more) :
    feeUnits borrowingRate totalDebt previousTotalDebt ≤
      feeUnits borrowingRate more previousTotalDebt :=
  ScaledRounding.mulFloor_mono (Nat.sub_le_sub_right h previousTotalDebt)

theorem getFee_eq (borrowingRate totalDebt previousTotalDebt : Decimal) :
    getFee borrowingRate totalDebt previousTotalDebt =
      .ok ⟨feeUnits borrowingRate.bigNumber totalDebt.bigNumber previousTotalDebt.bigNumber⟩ := by
  by_cases h : totalDebt.lte previousTotalDebt = true
  · have hle : totalDebt.bigNumber ≤ previousTotalDebt.bigNumber :=
      Decimal.le_def.mp (Decimal.lte_iff.mp h)
    rw [getFee, if_pos h, feeUnits, Nat.sub_eq_zero_of_le hle, ScaledRounding.mulFloor_zero]
    rfl
  · have hle : previousTotalDebt ≤ totalDebt := by
      rw [Decimal.lte_iff, not_le] at h
      exact h.le
    rw [getFee, if_neg h, Decimal.sub_of_le hle]
    rfl

theorem useTrove_eq (borrowingRate collateral netDebt : Decimal)
    (previousTrove : Option (Trove constants)) :
    useTrove borrowingRate collateral netDebt previousTrove =
      .ok ⟨collateral, (netDebt.add constants.hchfLiquidationReserve).add
        ⟨feeUnits borrowingRate.bigNumber
          (netDebt.bigNumber + constants.hchfLiquidationReserve.bigNumber)
          ((previousTrove.map (·.debt)).getD Decimal.zero).bigNumber⟩⟩ := by
  rw [useTrove, useFee, getFee_eq]
  rfl

/-- The debt whose minimum collateral ratio the collateral is worth, rounded down. -/
def maxTotalDebt (constants : Constants) (price collateral : Decimal) : Nat :=
  ((collateral.mul price).div constants.minimumCollateralRatio).bigNumber

/-- The collateral is worth that debt at the minimum ratio. -/
theorem maxTotalDebt_mul_le (hratio : Decimal.zero < constants.minimumCollateralRatio)
    (price collateral : Decimal) :
    constants.minimumCollateralRatio.bigNumber * maxTotalDebt constants price collateral ≤
      collateral.bigNumber * price.bigNumber :=
  mul_div_mul_le collateral price hratio

/-- The net debt is what is left of the largest total debt, and zero if nothing is. -/
theorem useMaxNetDebt_eq (price borrowingRate collateral : Decimal)
    (previousDebt : Option Decimal) :
    useMaxNetDebt constants price borrowingRate collateral previousDebt =
      .ok ⟨maxTotalDebt constants price collateral -
        constants.hchfLiquidationReserve.bigNumber -
        feeUnits borrowingRate.bigNumber (maxTotalDebt constants price collateral)
          (previousDebt.getD Decimal.zero).bigNumber⟩ := by
  rw [useMaxNetDebt, useFee, getFee_eq]
  simp only [Result.ok_bind, Option.getD_some]
  split_ifs with hlt
  · have hless := Decimal.lt_def.mp (Decimal.lt_iff.mp hlt)
    simp only [Decimal.add_bigNumber] at hless
    simp only [Result.pure_eq, Except.ok.injEq]
    apply Decimal.ext
    simp only [maxTotalDebt, Decimal.zero_bigNumber]
    omega
  · rw [Decimal.lt_iff, not_lt, Decimal.le_def, Decimal.add_bigNumber] at hlt
    exact sub_sub_of_le hlt

/-- A trove with that net debt has no more than the largest total debt. -/
theorem debt_le_maxTotalDebt {price borrowingRate collateral : Decimal} {previous : Nat}
    {netDebt : Nat} (hpos : 0 < netDebt)
    (h : netDebt = maxTotalDebt constants price collateral -
      constants.hchfLiquidationReserve.bigNumber -
      feeUnits borrowingRate.bigNumber (maxTotalDebt constants price collateral) previous) :
    netDebt + constants.hchfLiquidationReserve.bigNumber +
      feeUnits borrowingRate.bigNumber
        (netDebt + constants.hchfLiquidationReserve.bigNumber) previous ≤
      maxTotalDebt constants price collateral := by
  have hle : netDebt + constants.hchfLiquidationReserve.bigNumber ≤
      maxTotalDebt constants price collateral := by omega
  have hfee := feeUnits_mono borrowingRate.bigNumber previous hle
  omega

/-- A net debt other than zero leaves the trove, with its fee, at the minimum collateral ratio
or above. -/
theorem useMaxNetDebt_safe (hratio : Decimal.zero < constants.minimumCollateralRatio)
    (price borrowingRate collateral : Decimal) (previousTrove : Option (Trove constants)) :
    ∃ netDebt trove,
      useMaxNetDebt constants price borrowingRate collateral (previousTrove.map (·.debt)) =
        .ok netDebt ∧
      useTrove borrowingRate collateral netDebt previousTrove = .ok trove ∧
      (netDebt ≠ Decimal.zero →
        constants.minimumCollateralRatio ≤ trove.collateralRatio price) := by
  refine ⟨_, _, useMaxNetDebt_eq price borrowingRate collateral _, useTrove_eq _ _ _ _, ?_⟩
  intro hne
  have hpos := Decimal.lt_def.mp (Decimal.ne_zero_iff.mp hne)
  have hdebt := debt_le_maxTotalDebt hpos rfl
  rw [Trove.le_collateralRatio_iff]
  · exact (Nat.mul_le_mul_left _ hdebt).trans (maxTotalDebt_mul_le hratio price collateral)
  · apply Decimal.ne_zero_iff.mpr
    rw [Decimal.lt_def]
    exact hpos.trans_le ((Nat.le_add_right _ _).trans (Nat.le_add_right _ _))

/-- The largest net debt of 50000 HBAR at a price of 0.07, with nothing borrowed before. -/
theorem useMaxNetDebt_safe_opening :
    ∃ netDebt trove,
      useMaxNetDebt defaults ⟨7000000⟩ ⟨500000⟩ ⟨5000000000000⟩ none = .ok netDebt ∧
      useTrove ⟨500000⟩ ⟨5000000000000⟩ netDebt (none : Option (Trove defaults)) = .ok trove ∧
      defaults.minimumCollateralRatio ≤ trove.collateralRatio ⟨7000000⟩ := by
  obtain ⟨netDebt, trove, hnetDebt, htrove, hsafe⟩ :=
    useMaxNetDebt_safe (by decide : Decimal.zero < defaults.minimumCollateralRatio)
      ⟨7000000⟩ ⟨500000⟩ ⟨5000000000000⟩ none
  refine ⟨netDebt, trove, hnetDebt, htrove, hsafe ?_⟩
  rintro rfl
  exact absurd hnetDebt (by decide)

end HLiquity
