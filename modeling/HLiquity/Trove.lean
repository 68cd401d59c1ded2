import HLiquity.Constants
import HLiquity.DecimalText

/-!
# Troves

A trove is a collateral and a debt under the constants of its deployment. All
operations build new troves; the subtractions saturate at zero and never throw.
-/

namespace HLiquity

/-- A combination of collateral and debt. -/
structure Trove (constants : Constants) where
  collateral : Decimal
  debt : Decimal
  deriving DecidableEq, Repr

namespace Trove

variable {constants : Constants}

@[ext] theorem ext {a b : Trove constants} (hc : a.collateral = b.collateral)
    (hd : a.debt = b.debt) : a = b := by
  cases a
  cases b
  simp_all

/-- `new Trove(constants)` -/
def empty : Trove constants := ⟨Decimal.zero, Decimal.zero⟩

@[simp] theorem empty_collateral : (empty : Trove constants).collateral = Decimal.zero := rfl

@[simp] theorem empty_debt : (empty : Trove constants).debt = Decimal.zero := rfl

def isEmpty (this : Trove constants) : Bool := this.collateral.isZero && this.debt.isZero

/-- Amount of HCHF that must be repaid to close this trove. -/
def netDebt (this : Trove constants) : Result Decimal :=
  if this.debt.lt constants.hchfLiquidationReserve then do
    let reserve ← constants.hchfLiquidationReserve.toString none
    throw (.error ("netDebt should not be used when debt < " ++ String.ofList reserve))
  else this.debt.sub constants.hchfLiquidationReserve

/-- `NOMINAL_COLLATERAL_RATIO_PRECISION` -/
def nominalCollateralRatioPrecision : Decimal := ⟨100 * Decimal.digits⟩

/-- `_nominalCollateralRatio` -/
def nominalCollateralRatio (this : Trove constants) : Decimal :=
  this.collateral.mulDiv nominalCollateralRatioPrecision this.debt

def collateralRatio (this : Trove constants) (price : Decimal) : Decimal :=
  this.collateral.mulDiv price this.debt

def collateralRatioIsBelowMinimum (this : Trove constants) (price : Decimal) : Bool :=
  (this.collateralRatio price).lt constants.minimumCollateralRatio

def collateralRatioIsBelowCritical (this : Trove constants) (price : Decimal) : Bool :=
  (this.collateralRatio price).lt constants.criticalCollateralRatio

def isOpenableInRecoveryMode (this : Trove constants) (price : Decimal) : Bool :=
  (this.collateralRatio price).gte constants.criticalCollateralRatio

def equals (this that : Trove constants) : Bool :=
  this.collateral.eq that.collateral && this.debt.eq that.debt

def add (this that : Trove constants) : Trove constants :=
  ⟨this.collateral.add that.collateral, this.debt.add that.debt⟩

def addCollateral (this : Trove constants) (collateral : Decimal) : Trove constants :=
  ⟨this.collateral.add collateral, this.debt⟩

def addDebt (this : Trove constants) (debt : Decimal) : Trove constants :=
  ⟨this.collateral, this.debt.add debt⟩

/-- The saturating subtraction written out in `subtract` and its variants. -/
def subtractOrZero (minuend subtrahend : Decimal) : Result Decimal :=
  if minuend.gt subtrahend then minuend.sub subtrahend else .ok Decimal.zero

def subtract (this that : Trove constants) : Result (Trove constants) := do
  let collateral ← subtractOrZero this.collateral that.collateral
  let debt ← subtractOrZero this.debt that.debt
  return ⟨collateral, debt⟩

def subtractCollateral (this : Trove constants) (collateral : Decimal) :
    Result (Trove constants) := do
  let collateral ← subtractOrZero this.collateral collateral
  return ⟨collateral, this.debt⟩

def subtractDebt (this : Trove constants) (debt : Decimal) : Result (Trove constants) := do
  let debt ← subtractOrZero this.debt debt
  return ⟨this.collateral, debt⟩

def multiply (this : Trove constants) (multiplier : Decimal) : Trove constants :=
  ⟨this.collateral.mul multiplier, this.debt.mul multiplier⟩

def setCollateral (this : Trove constants) (collateral : Decimal) : Trove constants :=
  ⟨collateral, this.debt⟩

def setDebt (this : Trove constants) (debt : Decimal) : Trove constants :=
  ⟨this.collateral, debt⟩

/-- Saturating subtraction of the counts of units. -/
def monus (a b : Decimal) : Decimal := ⟨a.bigNumber - b.bigNumber⟩

@[simp] theorem monus_bigNumber (a b : Decimal) :
    (monus a b).bigNumber = a.bigNumber - b.bigNumber := rfl

@[simp] theorem monus_zero (a : Decimal) : monus a Decimal.zero = a := rfl

@[simp] theorem monus_self (a : Decimal) : monus a a = Decimal.zero := by
  ext
  simp

theorem monus_of_le {a b : Decimal} (h : a ≤ b) : monus a b = Decimal.zero := by
  ext
  exact Nat.sub_eq_zero_of_le (Decimal.le_def.mp h)

/-- The guarded subtraction always returns the saturated difference. -/
@[simp] theorem subtractOrZero_eq (a b : Decimal) : subtractOrZero a b = .ok (monus a b) := by
  unfold subtractOrZero
  by_cases h : a.gt b = true
  · rw [if_pos h, Decimal.sub_of_le (Decimal.gt_iff.mp h).le]
    rfl
  · have hle : a ≤ b := Decimal.gt_eq_false.mp (Bool.eq_false_iff.mpr h)
    rw [if_neg h, monus_of_le hle]

@[simp] theorem subtract_eq (a b : Trove constants) :
    a.subtract b = .ok ⟨monus a.collateral b.collateral, monus a.debt b.debt⟩ := by
  simp [subtract]

@[simp] theorem subtractCollateral_eq (a : Trove constants) (c : Decimal) :
    a.subtractCollateral c = .ok ⟨monus a.collateral c, a.debt⟩ := by
  simp [subtractCollateral]

@[simp] theorem subtractDebt_eq (a : Trove constants) (d : Decimal) :
    a.subtractDebt d = .ok ⟨a.collateral, monus a.debt d⟩ := by
  simp [subtractDebt]

@[simp] theorem isEmpty_iff {a : Trove constants} : a.isEmpty = true ↔ a = empty := by
  simp [isEmpty, Trove.ext_iff]

@[simp] theorem isEmpty_eq_false {a : Trove constants} : a.isEmpty = false ↔ a ≠ empty := by
  rw [← Bool.not_eq_true, isEmpty_iff]

@[simp] theorem equals_iff {a b : Trove constants} : a.equals b = true ↔ a = b := by
  simp [equals, Trove.ext_iff]

/-- The net debt is defined from the liquidation reserve on. -/
theorem netDebt_of_le {a : Trove constants} (h : constants.hchfLiquidationReserve ≤ a.debt) :
    a.netDebt = .ok (monus a.debt constants.hchfLiquidationReserve) := by
  rw [netDebt, if_neg (by simpa using h), Decimal.sub_of_le h]
  rfl

/-- A trove without debt has an infinite collateral ratio. -/
@[simp] theorem collateralRatio_of_debt_zero {a : Trove constants} (h : a.debt = Decimal.zero)
    (price : Decimal) : a.collateralRatio price = Decimal.infinity := by
  rw [collateralRatio, h, Decimal.mulDiv_zero]

/-- A trove with debt has a ratio exactly if its collateral is worth it. -/
theorem le_collateralRatio_iff {a : Trove constants} (h : a.debt ≠ Decimal.zero)
    (ratio price : Decimal) :
    ratio ≤ a.collateralRatio price ↔
      ratio.bigNumber * a.debt.bigNumber ≤ a.collateral.bigNumber * price.bigNumber := by
  have hdebt : 0 < a.debt.bigNumber := Decimal.lt_def.mp (Decimal.ne_zero_iff.mp h)
  rw [collateralRatio, Decimal.mulDiv, Decimal.isZero_eq_false.mpr h]
  exact Nat.le_div_iff_mul_le hdebt

end Trove

end HLiquity
