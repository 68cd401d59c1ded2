import HLiquity.DecimalPower
import HLiquity.Fees

/-!
# Bounds and monotonicity of the rates

The base rate decays with the whole minutes since the last fee operation, and
the power it is computed with decreases in its exponent. Both rates are floors
and caps of the base rate, so they inherit its monotonicity and stay within the
floor and the cap. Dates at most 32 bits of minutes away never fail the assertion
on the exponent.
-/

namespace HLiquity

namespace Decimal

/-- `Decimal.min` is the minimum of the order. -/
theorem min_eq (a b : Decimal) : Decimal.min a b = a ⊓ b := by
  unfold Decimal.min
  by_cases h : a < b
  · rw [if_pos (lt_iff.mpr h), inf_eq_left.mpr h.le]
  · rw [if_neg (by rwa [lt_iff]), inf_eq_right.mpr (not_lt.mp h)]

theorem add_le_add {a a' b b' : Decimal} (ha : a ≤ a') (hb : b ≤ b') : a.add b ≤ a'.add b' :=
  le_def.mpr (Nat.add_le_add (le_def.mp ha) (le_def.mp hb))

theorem mul_le_mul_right {a a' : Decimal} (ha : a ≤ a') (b : Decimal) : a.mul b ≤ a'.mul b :=
  le_def.mpr (Nat.div_le_div_right (Nat.mul_le_mul_right _ (le_def.mp ha)))

/-- Quotients increase in the dividend, also by zero. -/
theorem div_le_div_right {a a' : Decimal} (ha : a ≤ a') (b : Decimal) : a.div b ≤ a'.div b := by
  unfold div
  split
  · exact le_refl infinity
  · exact le_def.mpr (Nat.div_le_div_right (Nat.mul_le_mul_right _ (le_def.mp ha)))

end Decimal

namespace Fees

open Decimal

variable {constants : Constants} {this : Fees constants}

/-- The date that an optional argument stands for. -/
def date (this : Fees constants) (time : Option Int) : Int := time.getD this.timeOfLatestBlock

/-- A date at most 32 bits of minutes away from the last fee operation. -/
def Near (this : Fees constants) (time : Option Int) : Prop :=
  |this.date time - this.lastFeeOperation| ≤ 0xffffffff * 60000

instance (this : Fees constants) (time : Option Int) : Decidable (this.Near time) :=
  inferInstanceAs (Decidable (_ ≤ _))

theorem minutes_le_of_near {time : Option Int} (h : this.Near time) :
    this.minutesSinceLastFeeOperation (this.date time) ≤ 0xffffffff := by
  have hle : this.date time - this.lastFeeOperation ≤ 0xffffffff * 60000 := (abs_le.mp h).2
  unfold minutesSinceLastFeeOperation
  omega

theorem minutes_mono {time later : Int} (h : time ≤ later) :
    this.minutesSinceLastFeeOperation time ≤ this.minutesSinceLastFeeOperation later := by
  unfold minutesSinceLastFeeOperation
  omega

/-- The base rate exists near the last fee operation and decays with time. -/
theorem baseRate_decays {time later : Option Int} (hlater : this.Near later)
    (hle : this.date time ≤ this.date later) :
    ∃ rate decayed, this.baseRate time = .ok rate ∧ this.baseRate later = .ok decayed ∧
      decayed ≤ rate := by
  obtain ⟨power, decayedPower, hpower, hdecayed, hpowers, _⟩ :=
    pow_antitone this.minuteDecayFactor this.decays.le (minutes_mono hle)
      (minutes_le_of_near hlater)
  have hrate : this.baseRate time = .ok (power.mul this.baseRateWithoutDecay) := by
    rw [baseRate, ← date, hpower]
    rfl
  have hdecayedRate : this.baseRate later = .ok (decayedPower.mul this.baseRateWithoutDecay) := by
    rw [baseRate, ← date, hdecayed]
    rfl
  exact ⟨_, _, hrate, hdecayedRate, mul_le_mul_right hpowers _⟩

/-- The borrowing rate out of a base rate. -/
def cappedBorrowingRate (constants : Constants) (baseRate : Decimal) : Decimal :=
  Decimal.min (constants.minimumBorrowingRate.add baseRate) constants.maximumBorrowingRate

/-- What a redeemed fraction adds to a base rate. -/
def redeemedBaseRate (this : Fees constants) (fraction baseRate : Decimal) : Decimal :=
  if fraction.nonZero.isSome then (fraction.div this.beta).add baseRate else baseRate

/-- The redemption rate out of a base rate. -/
def cappedRedemptionRate (this : Fees constants) (fraction baseRate : Decimal) : Decimal :=
  Decimal.min (constants.minimumRedemptionRate.add (this.redeemedBaseRate fraction baseRate))
    Decimal.one

theorem borrowingRate_of_baseRate {time : Option Int} {rate : Decimal}
    (hrecovery : this.recoveryMode = false) (h : this.baseRate time = .ok rate) :
    this.borrowingRate time = .ok (cappedBorrowingRate constants rate) := by
  rw [borrowingRate, hrecovery, h]
  rfl

theorem redemptionRate_of_baseRate {time : Option Int} {rate : Decimal} (fraction : Decimal)
    (h : this.baseRate time = .ok rate) :
    this.redemptionRate fraction time = .ok (this.cappedRedemptionRate fraction rate) := by
  rw [redemptionRate, h]
  rfl

theorem cappedBorrowingRate_mono {a b : Decimal} (h : a ≤ b) :
    cappedBorrowingRate constants a ≤ cappedBorrowingRate constants b := by
  simp only [cappedBorrowingRate, min_eq]
  exact inf_le_inf_right _ (add_le_add (le_refl _) h)

theorem cappedBorrowingRate_bounds
    (h : constants.minimumBorrowingRate ≤ constants.maximumBorrowingRate) (rate : Decimal) :
    constants.minimumBorrowingRate ≤ cappedBorrowingRate constants rate ∧
      cappedBorrowingRate constants rate ≤ constants.maximumBorrowingRate := by
  simp only [cappedBorrowingRate, min_eq]
  exact ⟨le_inf (le_add _ _) h, inf_le_right⟩

/-- The borrowing rate is zero in recovery mode, and otherwise out of the base rate. -/
theorem borrowingRate_cases {time : Option Int} {rate : Decimal}
    (h : this.borrowingRate time = .ok rate) :
    (this.recoveryMode = true ∧ rate = zero) ∨
      this.recoveryMode = false ∧ ∃ baseRate, this.baseRate time = .ok baseRate ∧
        rate = cappedBorrowingRate constants baseRate := by
  unfold borrowingRate at h
  cases hmode : this.recoveryMode with
  | true =>
      rw [hmode, if_pos rfl] at h
      exact .inl ⟨rfl, (Except.ok.inj h).symm⟩
  | false =>
      rw [hmode, if_neg Bool.false_ne_true] at h
      obtain ⟨baseRate, hbaseRate, h⟩ := Result.bind_eq_ok.mp h
      exact .inr ⟨rfl, baseRate, hbaseRate, (Except.ok.inj h).symm⟩

/-- A zero fraction adds nothing, and a larger fraction never adds less. -/
theorem redeemedBaseRate_mono {f f' a b : Decimal} (hf : f ≤ f') (h : a ≤ b) :
    this.redeemedBaseRate f a ≤ this.redeemedBaseRate f' b := by
  unfold redeemedBaseRate
  by_cases hzero : f = zero
  · have hnone : f.nonZero.isSome = false := by simp [nonZero, hzero, isZero]
    rw [hnone, if_neg (by decide)]
    split
    · exact h.trans (le_def.mpr (Nat.le_add_left _ _))
    · exact h
  · have hf' : f' ≠ zero := ne_zero_iff.mpr ((ne_zero_iff.mp hzero).trans_le hf)
    have hsome : f.nonZero.isSome = true := by simp [nonZero, isZero_eq_false.mpr hzero]
    have hsome' : f'.nonZero.isSome = true := by simp [nonZero, isZero_eq_false.mpr hf']
    rw [hsome, hsome', if_pos rfl, if_pos rfl]
    exact add_le_add (div_le_div_right hf _) h

theorem cappedRedemptionRate_mono {f f' a b : Decimal} (hf : f ≤ f') (h : a ≤ b) :
    this.cappedRedemptionRate f a ≤ this.cappedRedemptionRate f' b := by
  simp only [cappedRedemptionRate, min_eq]
  exact inf_le_inf_right _ (add_le_add (le_refl _) (redeemedBaseRate_mono hf h))

theorem cappedRedemptionRate_bounds (fraction rate : Decimal) :
    Decimal.min constants.minimumRedemptionRate one ≤ this.cappedRedemptionRate fraction rate ∧
      this.cappedRedemptionRate fraction rate ≤ one := by
  simp only [cappedRedemptionRate, min_eq]
  exact ⟨inf_le_inf_right _ (le_add _ _), inf_le_right⟩

theorem baseRate_ok {time : Option Int} (h : this.Near time) :
    ∃ rate, this.baseRate time = .ok rate := by
  obtain ⟨rate, _, hrate, _⟩ := baseRate_decays h (le_refl (this.date time))
  exact ⟨rate, hrate⟩

/-- The borrowing rate never increases with time, in either mode. -/
theorem borrowingRate_decays {time later : Option Int} (hlater : this.Near later)
    (hle : this.date time ≤ this.date later) :
    ∃ rate decayed, this.borrowingRate time = .ok rate ∧
      this.borrowingRate later = .ok decayed ∧ decayed ≤ rate := by
  cases hrecovery : this.recoveryMode with
  | true =>
      have hzero (date : Option Int) : this.borrowingRate date = .ok zero := by
        rw [borrowingRate, hrecovery, if_pos rfl]
      exact ⟨zero, zero, hzero time, hzero later, le_refl zero⟩
  | false =>
      obtain ⟨rate, decayed, hrate, hdecayed, hrates⟩ := baseRate_decays hlater hle
      exact ⟨_, _, borrowingRate_of_baseRate hrecovery hrate,
        borrowingRate_of_baseRate hrecovery hdecayed, cappedBorrowingRate_mono hrates⟩

/-- Near the last fee operation no rate fails, the rates stay within their
bounds, neither increases with time, and a larger redeemed fraction never gives
a smaller redemption rate. -/
theorem rates_bounded_monotone (fees : Fees constants)
    (hlimits : constants.minimumBorrowingRate ≤ constants.maximumBorrowingRate) :
    (∀ time, fees.Near time →
      (∃ rate, fees.baseRate time = .ok rate) ∧
      (fees.recoveryMode = true → fees.borrowingRate time = .ok zero) ∧
      (fees.recoveryMode = false → ∃ rate, fees.borrowingRate time = .ok rate ∧
        constants.minimumBorrowingRate ≤ rate ∧ rate ≤ constants.maximumBorrowingRate) ∧
      ∀ fraction, ∃ rate, fees.redemptionRate fraction time = .ok rate ∧
        Decimal.min constants.minimumRedemptionRate one ≤ rate ∧ rate ≤ one) ∧
    (∀ time later, fees.Near time → fees.Near later → fees.date time ≤ fees.date later →
      (∃ rate decayed, fees.borrowingRate time = .ok rate ∧
        fees.borrowingRate later = .ok decayed ∧ decayed ≤ rate) ∧
      ∀ fraction, ∃ rate decayed, fees.redemptionRate fraction time = .ok rate ∧
        fees.redemptionRate fraction later = .ok decayed ∧ decayed ≤ rate) ∧
    ∀ time, fees.Near time → ∀ fraction more : Decimal, fraction ≤ more →
      ∃ rate increased, fees.redemptionRate fraction time = .ok rate ∧
        fees.redemptionRate more time = .ok increased ∧ rate ≤ increased := by
  refine ⟨?_, ?_, ?_⟩
  · intro time htime
    obtain ⟨rate, hrate⟩ := baseRate_ok htime
    refine ⟨⟨rate, hrate⟩, ?_, ?_, ?_⟩
    · intro hrecovery
      rw [borrowingRate, hrecovery, if_pos rfl]
    · intro hrecovery
      exact ⟨_, borrowingRate_of_baseRate hrecovery hrate, cappedBorrowingRate_bounds hlimits rate⟩
    · intro fraction
      exact ⟨_, redemptionRate_of_baseRate fraction hrate,
        cappedRedemptionRate_bounds fraction rate⟩
  · intro time later _ hlater hle
    refine ⟨borrowingRate_decays hlater hle, ?_⟩
    intro fraction
    obtain ⟨rate, decayed, hrate, hdecayed, hrates⟩ := baseRate_decays hlater hle
    exact ⟨_, _, redemptionRate_of_baseRate fraction hrate,
      redemptionRate_of_baseRate fraction hdecayed,
      cappedRedemptionRate_mono (le_refl fraction) hrates⟩
  · intro time htime fraction more hle
    obtain ⟨rate, hrate⟩ := baseRate_ok htime
    exact ⟨_, _, redemptionRate_of_baseRate fraction hrate, redemptionRate_of_baseRate more hrate,
      cappedRedemptionRate_mono hle (le_refl rate)⟩

/-- Fees after an operation at the epoch, asked for one day later. -/
def dayAfterEpoch : Fees defaults :=
  ⟨⟨1000000⟩, ⟨99903775⟩, zero, 0, 86400000, false, by decide⟩

/-- The rates of that day with no beta to divide by. -/
theorem rates_bounded_monotone_day :
    (∃ rate, dayAfterEpoch.borrowingRate none = .ok rate ∧
      defaults.minimumBorrowingRate ≤ rate ∧ rate ≤ defaults.maximumBorrowingRate) ∧
    (∃ rate decayed, dayAfterEpoch.borrowingRate (some 0) = .ok rate ∧
      dayAfterEpoch.borrowingRate none = .ok decayed ∧ decayed ≤ rate) ∧
    ∃ rate increased, dayAfterEpoch.redemptionRate zero none = .ok rate ∧
      dayAfterEpoch.redemptionRate one none = .ok increased ∧ rate ≤ increased := by
  obtain ⟨hbounds, htime, hfraction⟩ := rates_bounded_monotone dayAfterEpoch (by decide)
  refine ⟨(hbounds none (by decide)).2.2.1 rfl, ?_, ?_⟩
  · exact (htime (some 0) none (by decide) (by decide) (by decide)).1
  · exact hfraction none (by decide) zero one (by decide)

end Fees

end HLiquity
