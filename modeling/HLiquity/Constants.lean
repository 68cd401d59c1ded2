import HLiquity.Decimal

/-!
# Protocol constants

Every trove, fee calculator and store of a deployment is built with the same
constants object, so these are a parameter of the types that use them.
-/

namespace HLiquity

/-- The configurable constants of a deployment. -/
structure Constants where
  criticalCollateralRatio : Decimal
  minimumCollateralRatio : Decimal
  hchfLiquidationReserve : Decimal
  hchfMinimumNetDebt : Decimal
  hchfMinimumDebt : Decimal
  minimumBorrowingRate : Decimal
  maximumBorrowingRate : Decimal
  minimumRedemptionRate : Decimal
  minuteDecayFactor : Decimal
  beta : Decimal
  deriving DecidableEq, Repr

/-- The default values, in units of the eighth decimal place. -/
def defaults : Constants where
  criticalCollateralRatio := ⟨150000000⟩
  minimumCollateralRatio := ⟨110000000⟩
  hchfLiquidationReserve := ⟨2000000000⟩
  hchfMinimumNetDebt := ⟨178000000000⟩
  hchfMinimumDebt := Decimal.add ⟨2000000000⟩ ⟨178000000000⟩
  minimumBorrowingRate := ⟨500000⟩
  maximumBorrowingRate := ⟨5000000⟩
  minimumRedemptionRate := ⟨500000⟩
  minuteDecayFactor := ⟨99903775⟩
  beta := ⟨200000000⟩

end HLiquity
