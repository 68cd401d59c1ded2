import HLiquity.TroveRoundTrip

/-!
# The editor of an open trove

The editor computes the fee of the typed debt increase, adds it to the debt and
submits the difference to the resulting trove. That difference borrows the fee as
well, so the fee that it is charged is the fee of a larger increase.
-/

namespace HLiquity

open Decimal

variable {constants : Constants}

/-- No change but a creation or an adjustment has an amount to borrow. -/
def feeFrom (original edited : Trove constants) (borrowingRate : Decimal) : Result Decimal := do
  let change ← original.whatChanged edited (some borrowingRate)
  match change.bind TroveChange.borrowHCHF with
  | some borrowHCHF => return borrowHCHF.mul borrowingRate
  | none => return zero

/-- What the editor shows and what it submits the difference to. -/
structure AdjustingRender (constants : Constants) where
  fee : Decimal
  totalDebt : Decimal
  updatedTrove : Trove constants
  deriving DecidableEq

/-- One render of `Adjusting`, from the edited amounts and the borrowing rate. -/
def adjusting (trove : Trove constants) (collateral netDebt borrowingRate : Decimal) :
    Result (AdjustingRender constants) := do
  let troveNetDebt ← trove.netDebt
  let isDirty := !collateral.eq trove.collateral || !netDebt.eq troveNetDebt
  let isDebtIncrease := netDebt.gt troveNetDebt
  let debtIncreaseAmount ← if isDebtIncrease then netDebt.sub troveNetDebt else .ok zero
  let fee ←
    if isDebtIncrease then
      feeFrom trove ⟨trove.collateral, trove.debt.add debtIncreaseAmount⟩ borrowingRate
    else .ok zero
  let totalDebt := (netDebt.add constants.hchfLiquidationReserve).add fee
  return ⟨fee, totalDebt, if isDirty then ⟨collateral, totalDebt⟩ else trove⟩

/-- The units that `unapplyFee` borrows for an increase of the debt. -/
def borrowedUnits (borrowingRate debtIncrease : Nat) : Nat :=
  ScaledRounding.divCeil digits (digits + borrowingRate) debtIncrease

/-- The fee on what is borrowed for an increase of the debt, in units. -/
def increaseFee (borrowingRate debtIncrease : Nat) : Nat :=
  ScaledRounding.mulFloor digits borrowingRate (borrowedUnits borrowingRate debtIncrease)

@[simp] theorem borrowedUnits_zero (borrowingRate : Nat) : borrowedUnits borrowingRate 0 = 0 := by
  simp [borrowedUnits, ScaledRounding.divCeil]

@[simp] theorem increaseFee_zero (borrowingRate : Nat) : increaseFee borrowingRate 0 = 0 := by
  simp [increaseFee]

/-- A non-empty trove changes by what `unapplyFee` borrows for the increase of its debt. -/
theorem whatChanged_borrows {trove : Trove constants} (hopen : trove ≠ .empty)
    (hreserve : constants.hchfLiquidationReserve ≤ trove.debt) (edited : Trove constants)
    (rate : Decimal) :
    ∃ change, trove.whatChanged edited (some rate) = .ok change ∧
      (change.bind TroveChange.borrowHCHF).getD zero =
        unapplyFee rate (Trove.monus edited.debt trove.debt) ∧
      trove.apply change (some rate) = .ok (trove.replayed edited rate) := by
  rcases Trove.whatChanged_cases edited (.inr hreserve) (some rate) with
    ⟨rfl, hchange⟩ | ⟨hempty, _⟩ | ⟨hempty, _⟩ | ⟨_, rfl, _, hchange⟩ |
    ⟨_, hedited, hne, _, hchange⟩
  · refine ⟨none, hchange, ?_, ?_⟩
    · rw [Trove.monus_self, Trove.unapplyFee_zero]
      rfl
    · rw [Trove.replayed_of_le le_rfl]
      rfl
  · exact absurd hempty hopen
  · exact absurd hempty hopen
  · refine ⟨_, hchange, ?_, ?_⟩
    · rw [Trove.empty_debt, Trove.monus_of_le (Decimal.zero_le _), Trove.unapplyFee_zero]
      rfl
    · rw [Trove.replayed_of_le (Decimal.zero_le _), Trove.apply,
        if_neg (by simpa using hopen)]
  · refine ⟨_, hchange, ?_, ?_⟩
    · exact (Trove.adjustmentTo_debtAmounts trove edited rate).1
    · exact Trove.apply_adjustmentTo trove edited rate (.inr rfl)

/-- The fee of a change is that of the increase of the debt. -/
theorem feeFrom_eq {trove : Trove constants} (hopen : trove ≠ .empty)
    (hreserve : constants.hchfLiquidationReserve ≤ trove.debt) (edited : Trove constants)
    (rate : Decimal) :
    feeFrom trove edited rate = .ok ⟨increaseFee rate.bigNumber
      (edited.debt.bigNumber - trove.debt.bigNumber)⟩ := by
  obtain ⟨change, hchange, hborrow, _⟩ := whatChanged_borrows hopen hreserve edited rate
  have hfee : feeFrom trove edited rate =
      .ok (((change.bind TroveChange.borrowHCHF).getD zero).mul rate) := by
    rw [feeFrom, hchange, Result.ok_bind]
    cases change.bind TroveChange.borrowHCHF with
    | none => simp [mul, zero]
    | some borrowHCHF => rfl
  rw [hfee, hborrow]
  congr 1
  ext
  rw [mul_bigNumber, unapplyFee_bigNumber, Trove.monus_bigNumber]
  rfl

/-- What a render shows: the fee of the typed increase, which it adds to the debt of the
trove that it submits. -/
theorem adjusting_eq {trove : Trove constants} (hopen : trove ≠ .empty)
    (hreserve : constants.hchfLiquidationReserve ≤ trove.debt)
    (collateral netDebt rate : Decimal) :
    adjusting trove collateral netDebt rate =
      let fee : Decimal := ⟨increaseFee rate.bigNumber
        (netDebt.bigNumber + constants.hchfLiquidationReserve.bigNumber - trove.debt.bigNumber)⟩
      let totalDebt := (netDebt.add constants.hchfLiquidationReserve).add fee
      .ok ⟨fee, totalDebt, ⟨collateral, totalDebt⟩⟩ := by
  have hle := le_def.mp hreserve
  rw [adjusting, Trove.netDebt_of_le hreserve, Result.ok_bind]
  by_cases hgt : netDebt.gt (Trove.monus trove.debt constants.hchfLiquidationReserve) = true
  · have hlt := lt_def.mp (gt_iff.mp hgt)
    rw [Trove.monus_bigNumber] at hlt
    have hne : netDebt.eq (Trove.monus trove.debt constants.hchfLiquidationReserve) = false := by
      rw [eq_eq_false]
      exact (gt_iff.mp hgt).ne'
    have hdebt : trove.debt.bigNumber + (netDebt.bigNumber -
          (trove.debt.bigNumber - constants.hchfLiquidationReserve.bigNumber)) -
        trove.debt.bigNumber =
        netDebt.bigNumber + constants.hchfLiquidationReserve.bigNumber - trove.debt.bigNumber := by
      omega
    simp only [hgt, hne, if_true, sub_of_le (gt_iff.mp hgt).le, Result.ok_bind,
      feeFrom_eq hopen hreserve, Result.pure_eq, add_bigNumber, Trove.monus_bigNumber, hdebt,
      Bool.not_false, Bool.or_true]
  · have hnot := le_def.mp (gt_eq_false.mp (Bool.eq_false_iff.mpr hgt))
    rw [Trove.monus_bigNumber] at hnot
    have hzero : netDebt.bigNumber + constants.hchfLiquidationReserve.bigNumber -
        trove.debt.bigNumber = 0 := by omega
    simp only [if_neg hgt, Result.ok_bind, Result.pure_eq, hzero, increaseFee_zero]
    split_ifs with hdirty
    · rfl
    · simp only [Bool.or_eq_true, Bool.not_eq_true', eq_eq_false, not_or, not_not] at hdirty
      obtain ⟨rfl, hnet⟩ := hdirty
      have hsum : netDebt.add constants.hchfLiquidationReserve = trove.debt := by
        ext
        rw [hnet, add_bigNumber, Trove.monus_bigNumber, Nat.sub_add_cancel hle]
      rw [hsum]
      rfl

/-- The units that a change borrows for the shown fee, which was added to the debt. -/
def borrowedForFee (borrowingRate debtIncrease : Nat) : Nat :=
  (increaseFee borrowingRate debtIncrease * digits -
    ScaledRounding.excess digits (digits + borrowingRate) debtIncrease) ⌈/⌉
      (digits + borrowingRate)

/-- The fee on the units borrowed for the fee, with the fraction of a unit that the shown
fee leaves off, is less than two units. -/
def FeeOnFeeFits (borrowingRate debtIncrease : Nat) : Prop :=
  borrowedForFee borrowingRate debtIncrease * borrowingRate +
    borrowedUnits borrowingRate debtIncrease * borrowingRate % digits < 2 * digits

instance (borrowingRate debtIncrease : Nat) :
    Decidable (FeeOnFeeFits borrowingRate debtIncrease) :=
  inferInstanceAs (Decidable (_ < _))

/-- The charged fee exceeds the shown one by the whole units of the fee on the fee. -/
theorem increaseFee_add_fee (rate increase : Nat) :
    increaseFee rate (increase + increaseFee rate increase) =
      increaseFee rate increase + (borrowedForFee rate increase * rate +
        borrowedUnits rate increase * rate % digits) / digits := by
  have hborrowed : borrowedUnits rate (increase + increaseFee rate increase) =
      borrowedUnits rate increase + borrowedForFee rate increase :=
    ScaledRounding.divCeil_add (Nat.add_pos_left digits_pos rate) _ _
  rw [increaseFee, hborrowed, ScaledRounding.mulFloor_add digits_pos]
  rfl

theorem increaseFee_add_fee_le_iff (rate increase : Nat) :
    increaseFee rate (increase + increaseFee rate increase) ≤ increaseFee rate increase + 1 ↔
      FeeOnFeeFits rate increase := by
  rw [increaseFee_add_fee, Nat.add_le_add_iff_left, ← Nat.lt_succ_iff,
    Nat.div_lt_iff_lt_mul digits_pos]
  rfl

/-- No increase fits from three times the squared factor of the borrowed amount on, in units
of the squared rate. -/
theorem not_feeOnFeeFits {rate increase : Nat}
    (h : 3 * (digits + rate) ^ 2 ≤ increase * rate ^ 2) : ¬ FeeOnFeeFits rate increase := by
  intro hfits
  have hpos : 0 < digits + rate := Nat.add_pos_left digits_pos rate
  have hexcess := @ScaledRounding.mul_add_excess digits (digits + rate) hpos increase
  have hfee : digits * increaseFee rate increase +
      borrowedUnits rate increase * rate % digits = borrowedUnits rate increase * rate :=
    Nat.div_add_mod _ _
  have hceil : increaseFee rate increase * digits -
      ScaledRounding.excess digits (digits + rate) increase ≤
        (digits + rate) * borrowedForFee rate increase :=
    (ceilDiv_le_iff_le_mul hpos).mp (le_refl (borrowedForFee rate increase))
  have hclose : borrowedUnits rate increase * (digits + rate) <
      increase * digits + (digits + rate) :=
    ScaledRounding.divCeil_mul_lt hpos increase
  have hborrowed : increase * digits ≤ (digits + rate) * borrowedForFee rate increase +
      borrowedUnits rate increase * digits + borrowedUnits rate increase * rate % digits := by
    have hsplit : borrowedUnits rate increase * (digits + rate) =
        borrowedUnits rate increase * digits + borrowedUnits rate increase * rate :=
      Nat.mul_add _ _ _
    have hexcess' : increase * digits + ScaledRounding.excess digits (digits + rate) increase =
        borrowedUnits rate increase * (digits + rate) := hexcess
    rw [Nat.mul_comm digits] at hfee
    omega
  rw [FeeOnFeeFits] at hfits
  generalize borrowedForFee rate increase = more at *
  generalize borrowedUnits rate increase = borrowed at *
  generalize borrowed * rate % digits = rest at *
  have hmul : increase * rate ≤ 2 * (digits + rate) + borrowed * rate := by
    apply Nat.le_of_mul_le_mul_right _ digits_pos
    nlinarith
  nlinarith

/-- At most what is increased is borrowed. -/
theorem borrowedUnits_le (rate increase : Nat) : borrowedUnits rate increase ≤ increase := by
  rw [borrowedUnits, ScaledRounding.divCeil_le_iff digits_pos (Nat.add_pos_left digits_pos rate)]
  exact ScaledRounding.le_mulFloor digits_pos (Nat.le_add_right _ _) _

/-- Small increases fit: those whose product with the squared rate is below the square of the
unit. -/
theorem feeOnFeeFits_of_le {rate increase : Nat}
    (h : (increase + 1) * rate ^ 2 ≤ digits * (digits + rate)) : FeeOnFeeFits rate increase := by
  have hpos : 0 < digits + rate := Nat.add_pos_left digits_pos rate
  have hfee : digits * increaseFee rate increase +
      borrowedUnits rate increase * rate % digits = borrowedUnits rate increase * rate :=
    Nat.div_add_mod _ _
  have hrest : borrowedUnits rate increase * rate % digits < digits := Nat.mod_lt _ digits_pos
  have hmore : borrowedForFee rate increase * (digits + rate) ≤
      increaseFee rate increase * digits + (digits + rate) := by
    rw [borrowedForFee, Nat.ceilDiv_eq_add_pred_div]
    refine (Nat.div_mul_le_self _ _).trans ?_
    omega
  have hsquare : borrowedUnits rate increase * rate ^ 2 + rate ^ 2 ≤ digits * (digits + rate) :=
    calc borrowedUnits rate increase * rate ^ 2 + rate ^ 2
        = (borrowedUnits rate increase + 1) * rate ^ 2 := (Nat.succ_mul _ _).symm
      _ ≤ (increase + 1) * rate ^ 2 :=
          Nat.mul_le_mul_right _ (Nat.succ_le_succ (borrowedUnits_le rate increase))
      _ ≤ digits * (digits + rate) := h
  rw [FeeOnFeeFits]
  generalize borrowedForFee rate increase = more at *
  generalize borrowedUnits rate increase = borrowed at *
  generalize increaseFee rate increase = fee at *
  generalize borrowed * rate % digits = rest at *
  -- both sides times the factor of the borrowed amount
  apply Nat.lt_of_mul_lt_mul_right (a := digits + rate)
  calc (more * rate + rest) * (digits + rate)
      = more * (digits + rate) * rate + rest * (digits + rate) := by ring
    _ ≤ (fee * digits + (digits + rate)) * rate + rest * (digits + rate) :=
        Nat.add_le_add_right (Nat.mul_le_mul_right rate hmore) _
    _ = (digits * fee + rest) * rate + (digits + rate) * rate + rest * digits := by ring
    _ = borrowed * rate ^ 2 + rate ^ 2 + digits * rate + rest * digits := by rw [hfee]; ring
    _ ≤ digits * (digits + rate) + digits * rate + rest * digits := by omega
    _ < digits * (digits + rate) + digits * rate + digits * digits :=
        Nat.add_lt_add_left (Nat.mul_lt_mul_of_pos_right hrest digits_pos) _
    _ = 2 * digits * (digits + rate) := by ring

/-- What a change borrows is at most the increase that was typed, and less than it by at
most what the charged fee exceeds the shown one. -/
theorem borrowedUnits_add_fee_bounds (rate increase : Nat) :
    borrowedUnits rate (increase + increaseFee rate increase) ≤ increase ∧
      increase + increaseFee rate increase ≤
        borrowedUnits rate (increase + increaseFee rate increase) +
          increaseFee rate (increase + increaseFee rate increase) := by
  have hpos : 0 < digits + rate := Nat.add_pos_left digits_pos rate
  constructor
  · have hself := borrowedUnits_le rate increase
    rw [borrowedUnits, ScaledRounding.divCeil_le_iff digits_pos hpos,
      ScaledRounding.mulFloor_add_scale digits_pos]
    exact Nat.add_le_add_left (ScaledRounding.mulFloor_mono hself) _
  · have hback := @ScaledRounding.le_mulFloor_divCeil digits (digits + rate) digits_pos hpos
      (increase + increaseFee rate increase)
    rwa [ScaledRounding.mulFloor_add_scale digits_pos] at hback

/-- The fee that the editor shows is, up to one unit, that of the change which it submits,
and the debt after that change is, up to one unit, the typed net debt with the reserve and
that fee. -/
def ChargesShownFee (trove : Trove constants) (collateral netDebt borrowingRate : Decimal) :
    Prop :=
  ∃ render change charged after,
    adjusting trove collateral netDebt borrowingRate = .ok render ∧
    trove.whatChanged render.updatedTrove (some borrowingRate) = .ok change ∧
    feeFrom trove render.updatedTrove borrowingRate = .ok charged ∧
    trove.apply change (some borrowingRate) = .ok after ∧
    |(render.fee.bigNumber - charged.bigNumber : ℤ)| ≤ 1 ∧
    |(after.debt.bigNumber - charged.bigNumber - constants.hchfLiquidationReserve.bigNumber -
      netDebt.bigNumber : ℤ)| ≤ 1

/-- The distance from the trove to the one that a render submits. -/
theorem submitted_distance (rate : Nat) (debt sum : Nat) :
    sum + increaseFee rate (sum - debt) - debt =
      sum - debt + increaseFee rate (sum - debt) := by
  rcases Nat.le_total sum debt with hle | hle
  · rw [Nat.sub_eq_zero_of_le hle, increaseFee_zero]
    omega
  · omega

/-- The debt after the submitted change, by what that change borrows for the typed increase
with its shown fee, and by the fee on that. -/
theorem submitted_debt (trove : Trove constants) (collateral totalDebt rate : Decimal)
    {sum increase : Nat} (hincrease : increase = sum - trove.debt.bigNumber)
    (htotal : totalDebt.bigNumber = sum + increaseFee rate.bigNumber increase) :
    (trove.replayed ⟨collateral, totalDebt⟩ rate).debt.bigNumber + increase =
      sum + borrowedUnits rate.bigNumber (increase + increaseFee rate.bigNumber increase) +
        increaseFee rate.bigNumber (increase + increaseFee rate.bigNumber increase) := by
  rcases Nat.eq_zero_or_pos increase with hzero | hpos
  · rw [hzero, increaseFee_zero] at htotal
    have hle : totalDebt ≤ trove.debt := le_def.mpr (by omega)
    rw [hzero, increaseFee_zero, borrowedUnits_zero, increaseFee_zero,
      @Trove.replayed_of_le constants trove ⟨collateral, totalDebt⟩ hle]
    exact htotal
  · have hdistance : totalDebt.bigNumber - trove.debt.bigNumber =
        increase + increaseFee rate.bigNumber increase := by omega
    have hle : trove.debt ≤ totalDebt := le_def.mpr (by omega)
    rw [@Trove.replayed_of_ge constants trove ⟨collateral, totalDebt⟩ hle]
    simp only [add_bigNumber, applyFee_bigNumber, unapplyFee_bigNumber, Trove.monus_bigNumber,
      hdistance, ScaledRounding.mulFloor_add_scale digits_pos, borrowedUnits, increaseFee]
    omega

/-- A render, the change it submits, the fee of that change and the trove after it. -/
theorem submission {trove : Trove constants} (hopen : trove ≠ .empty)
    (hreserve : constants.hchfLiquidationReserve ≤ trove.debt)
    (collateral netDebt rate : Decimal) {sum increase : Nat}
    (hsum : sum = netDebt.bigNumber + constants.hchfLiquidationReserve.bigNumber)
    (hincrease : increase = sum - trove.debt.bigNumber) :
    ∃ render change charged after,
      adjusting trove collateral netDebt rate = .ok render ∧
      trove.whatChanged render.updatedTrove (some rate) = .ok change ∧
      feeFrom trove render.updatedTrove rate = .ok charged ∧
      trove.apply change (some rate) = .ok after ∧
      render.fee.bigNumber = increaseFee rate.bigNumber increase ∧
      charged.bigNumber =
        increaseFee rate.bigNumber (increase + increaseFee rate.bigNumber increase) ∧
      after.debt.bigNumber + increase =
        sum + borrowedUnits rate.bigNumber (increase + increaseFee rate.bigNumber increase) +
          increaseFee rate.bigNumber (increase + increaseFee rate.bigNumber increase) := by
  subst hsum
  have hrender := adjusting_eq hopen hreserve collateral netDebt rate
  rw [← hincrease] at hrender
  obtain ⟨change, hchange, _, happly⟩ := whatChanged_borrows hopen hreserve
    ⟨collateral, (netDebt.add constants.hchfLiquidationReserve).add
      ⟨increaseFee rate.bigNumber increase⟩⟩ rate
  refine ⟨_, change, _, _, hrender, hchange, feeFrom_eq hopen hreserve _ rate, happly, rfl, ?_,
    submitted_debt trove collateral _ rate hincrease rfl⟩
  rw [hincrease]
  exact congrArg (increaseFee rate.bigNumber) (submitted_distance rate.bigNumber _ _)

/-- The shown fee is charged exactly when the fee on that fee fits the tolerance. -/
theorem chargesShownFee_iff {trove : Trove constants} (hopen : trove ≠ .empty)
    (hreserve : constants.hchfLiquidationReserve ≤ trove.debt)
    (collateral netDebt borrowingRate : Decimal) :
    ChargesShownFee trove collateral netDebt borrowingRate ↔
      FeeOnFeeFits borrowingRate.bigNumber (netDebt.bigNumber +
        constants.hchfLiquidationReserve.bigNumber - trove.debt.bigNumber) := by
  rw [← increaseFee_add_fee_le_iff]
  generalize hincrease : netDebt.bigNumber + constants.hchfLiquidationReserve.bigNumber -
    trove.debt.bigNumber = increase
  obtain ⟨hborrowed, hcovered⟩ := borrowedUnits_add_fee_bounds borrowingRate.bigNumber increase
  have hmore := increaseFee_add_fee borrowingRate.bigNumber increase
  obtain ⟨render, change, charged, after, hrender, hchange, hcharged, happly, hfee, hnext, hdebt⟩ :=
    submission hopen hreserve collateral netDebt borrowingRate rfl hincrease.symm
  constructor
  · rintro ⟨render', change', charged', after', hrender', hchange', hcharged', happly', hclose, _⟩
    cases hrender.symm.trans hrender'
    cases hcharged.symm.trans hcharged'
    rw [abs_le] at hclose
    omega
  · intro hle
    refine ⟨render, change, charged, after, hrender, hchange, hcharged, happly, ?_, ?_⟩
    · rw [abs_le]
      omega
    · rw [abs_le]
      omega

/-- A trove of 100000 HBAR and 2000 HCHF whose net debt is edited to 1980.0007 HCHF. -/
theorem chargesShownFee_small :
    ChargesShownFee (⟨⟨10000000000000⟩, ⟨200000000000⟩⟩ : Trove defaults) ⟨10000000000000⟩
      ⟨198000070000⟩ ⟨500000⟩ :=
  (chargesShownFee_iff (by decide) (by decide) _ _ _).mpr (by decide)

/-- At the minimum rate an increase of 1000 HCHF shows a smaller fee than it is charged. -/
theorem shownFee_not_charged :
    ¬ ChargesShownFee (⟨⟨10000000000000⟩, ⟨200000000000⟩⟩ : Trove defaults) ⟨10000000000000⟩
      ⟨298000000000⟩ ⟨500000⟩ := by
  rintro ⟨render, change, charged, after, hrender, _, hcharged, _, hclose, _⟩
  have hshown : adjusting (⟨⟨10000000000000⟩, ⟨200000000000⟩⟩ : Trove defaults)
      ⟨10000000000000⟩ ⟨298000000000⟩ ⟨500000⟩ = .ok ⟨⟨497512437⟩, ⟨300497512437⟩,
        ⟨⟨10000000000000⟩, ⟨300497512437⟩⟩⟩ := by decide
  have hfee : feeFrom (⟨⟨10000000000000⟩, ⟨200000000000⟩⟩ : Trove defaults)
      ⟨⟨10000000000000⟩, ⟨300497512437⟩⟩ ⟨500000⟩ = .ok ⟨499987624⟩ := by decide
  cases hshown.symm.trans hrender
  cases hfee.symm.trans hcharged
  exact absurd hclose (by decide)

end HLiquity
