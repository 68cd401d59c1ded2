import HLiquity.Constants

/-!
# Fees

The calculator of the current rates. Dates are counted in milliseconds since
the epoch. The constructor asserts that the decay factor is below one, so every
calculator carries that fact.
-/

namespace HLiquity

/-- Calculator for fees. -/
structure Fees (constants : Constants) where
  baseRateWithoutDecay : Decimal
  minuteDecayFactor : Decimal
  beta : Decimal
  lastFeeOperation : Int
  timeOfLatestBlock : Int
  recoveryMode : Bool
  decays : minuteDecayFactor < Decimal.one
  deriving DecidableEq

namespace Fees

variable {constants : Constants}

/-- The constructor. -/
def new (baseRateWithoutDecay minuteDecayFactor beta : Decimal)
    (lastFeeOperation timeOfLatestBlock : Int) (recoveryMode : Bool) : Result (Fees constants) :=
  if h : minuteDecayFactor < Decimal.one then
    .ok ⟨baseRateWithoutDecay, minuteDecayFactor, beta, lastFeeOperation, timeOfLatestBlock,
      recoveryMode, h⟩
  else .error (.assertion "this._minuteDecayFactor.lt(1)")

/-- `_setRecoveryMode` -/
def setRecoveryMode (this : Fees constants) (recoveryMode : Bool) : Result (Fees constants) :=
  new this.baseRateWithoutDecay this.minuteDecayFactor this.beta this.lastFeeOperation
    this.timeOfLatestBlock recoveryMode

def equals (this that : Fees constants) : Bool :=
  this.baseRateWithoutDecay.eq that.baseRateWithoutDecay &&
  this.minuteDecayFactor.eq that.minuteDecayFactor &&
  this.beta.eq that.beta &&
  this.lastFeeOperation == that.lastFeeOperation &&
  this.timeOfLatestBlock == that.timeOfLatestBlock &&
  this.recoveryMode == that.recoveryMode

/-- The whole minutes since the last fee operation, not negative. -/
def minutesSinceLastFeeOperation (this : Fees constants) (time : Int) : Nat :=
  (max (time - this.lastFeeOperation) 0 / 60000).toNat

/-- Without a date the rate is the one at the latest block. -/
def baseRate (this : Fees constants) (time : Option Int) : Result Decimal := do
  let time := time.getD this.timeOfLatestBlock
  let decay ← this.minuteDecayFactor.pow (this.minutesSinceLastFeeOperation time)
  return decay.mul this.baseRateWithoutDecay

def borrowingRate (this : Fees constants) (time : Option Int) : Result Decimal :=
  if this.recoveryMode then .ok Decimal.zero
  else do
    let baseRate ← this.baseRate time
    return Decimal.min (constants.minimumBorrowingRate.add baseRate) constants.maximumBorrowingRate

/-- The redeemed fraction of the supply defaults to zero. -/
def redemptionRate (this : Fees constants) (redeemedFractionOfSupply : Decimal)
    (time : Option Int) : Result Decimal := do
  let baseRate ← this.baseRate time
  let baseRate :=
    if redeemedFractionOfSupply.nonZero.isSome then
      (redeemedFractionOfSupply.div this.beta).add baseRate
    else baseRate
  return Decimal.min (constants.minimumRedemptionRate.add baseRate) Decimal.one

/-- Resetting the mode never fails the constructor's assertion. -/
@[simp] theorem setRecoveryMode_eq (this : Fees constants) (recoveryMode : Bool) :
    this.setRecoveryMode recoveryMode = .ok { this with recoveryMode } := by
  rw [setRecoveryMode, new, dif_pos this.decays]

/-- Setting the mode is constructing with it. -/
theorem setRecoveryMode_of_new {baseRateWithoutDecay minuteDecayFactor beta : Decimal}
    {lastFeeOperation timeOfLatestBlock : Int} {before : Bool} {fees : Fees constants}
    (h : new baseRateWithoutDecay minuteDecayFactor beta lastFeeOperation timeOfLatestBlock
      before = .ok fees) (recoveryMode : Bool) :
    fees.setRecoveryMode recoveryMode =
      new baseRateWithoutDecay minuteDecayFactor beta lastFeeOperation timeOfLatestBlock
        recoveryMode := by
  rw [new] at h
  split at h
  · cases h
    rfl
  · cases h

@[simp] theorem equals_iff {a b : Fees constants} : a.equals b = true ↔ a = b := by
  cases a
  cases b
  simp [equals, and_assoc]

/-- The dates of the calculator are close enough for the decay to be computed. -/
def WithinPow (this : Fees constants) : Prop :=
  this.minutesSinceLastFeeOperation this.timeOfLatestBlock ≤ 0xffffffff

instance (this : Fees constants) : Decidable this.WithinPow :=
  inferInstanceAs (Decidable (_ ≤ _))

theorem baseRate_ok_iff {this : Fees constants} :
    (∃ rate, this.baseRate none = .ok rate) ↔ this.WithinPow := by
  rw [WithinPow, ← Decimal.pow_ok_iff this.minuteDecayFactor]
  constructor
  · rintro ⟨rate, hrate⟩
    obtain ⟨decay, hdecay, _⟩ := Result.bind_eq_ok.mp hrate
    exact ⟨decay, hdecay⟩
  · rintro ⟨decay, hdecay⟩
    refine ⟨decay.mul this.baseRateWithoutDecay, ?_⟩
    rw [baseRate, Option.getD_none, hdecay]
    rfl

/-- The redemption rate is computed exactly when the decay is. -/
theorem redemptionRate_ok_iff {this : Fees constants} (fraction : Decimal) :
    (∃ rate, this.redemptionRate fraction none = .ok rate) ↔ this.WithinPow := by
  rw [← baseRate_ok_iff]
  constructor
  · rintro ⟨rate, hrate⟩
    obtain ⟨baseRate, hbase, _⟩ := Result.bind_eq_ok.mp hrate
    exact ⟨baseRate, hbase⟩
  · rintro ⟨baseRate, hbase⟩
    rw [redemptionRate, hbase, Result.ok_bind]
    exact ⟨_, rfl⟩

/-- The borrowing rate is computed whenever the decay is. -/
theorem borrowingRate_ok {this : Fees constants} (h : this.WithinPow) :
    ∃ rate, this.borrowingRate none = .ok rate := by
  obtain ⟨baseRate, hbase⟩ := baseRate_ok_iff.mpr h
  rw [borrowingRate, hbase]
  split
  · exact ⟨_, rfl⟩
  · exact ⟨_, rfl⟩

theorem eq_powAssertion_of_baseRate {this : Fees constants} {time : Option Int}
    {failure : Failure} (h : this.baseRate time = .error failure) :
    failure = Decimal.powAssertion := by
  rcases Result.bind_eq_error.mp h with h | ⟨decay, _, h⟩
  · exact Decimal.eq_powAssertion_of_pow h
  · cases h

/-- The rates throw nothing but the assertion on the exponent of the decay. -/
theorem eq_powAssertion_of_borrowingRate {this : Fees constants} {time : Option Int}
    {failure : Failure} (h : this.borrowingRate time = .error failure) :
    failure = Decimal.powAssertion := by
  rw [borrowingRate] at h
  split at h
  · cases h
  · rcases Result.bind_eq_error.mp h with h | ⟨baseRate, _, h⟩
    · exact eq_powAssertion_of_baseRate h
    · cases h

theorem eq_powAssertion_of_redemptionRate {this : Fees constants} {fraction : Decimal}
    {time : Option Int} {failure : Failure}
    (h : this.redemptionRate fraction time = .error failure) : failure = Decimal.powAssertion := by
  rcases Result.bind_eq_error.mp h with h | ⟨baseRate, _, h⟩
  · exact eq_powAssertion_of_baseRate h
  · cases h

end Fees

end HLiquity
