import HLiquity.Adjusting

/-!
# The automatic ratio of the trove editors

With the option switched on, typing one amount of a trove changes the other one so that
the collateral ratio stays at 150 %. The handlers use the fee of the last render, subtract
the reserve and the fee from what the collateral covers, and round down.
-/

namespace HLiquity

open Decimal

variable {constants : Constants}

/-- The two amounts that an editor holds. -/
structure EditedAmounts where
  collateral : Decimal
  netDebt : Decimal
  deriving DecidableEq, Repr

/-- `Decimal.from(1.5)` -/
def automaticRatio : Decimal := ⟨150000000⟩

structure OpeningRender (constants : Constants) where
  fee : Decimal
  totalDebt : Decimal
  trove : Trove constants
  deriving DecidableEq

/-- One render of `Opening`. -/
def opening (constants : Constants) (borrowingRate : Decimal) (edited : EditedAmounts) :
    OpeningRender constants :=
  let fee := edited.netDebt.mul borrowingRate
  let totalDebt := (edited.netDebt.add constants.hchfLiquidationReserve).add fee
  let isDirty := !edited.collateral.isZero || !edited.netDebt.isZero
  ⟨fee, totalDebt, if isDirty then ⟨edited.collateral, totalDebt⟩ else .empty⟩

namespace Opening

/-- The effect that gives a trove with collateral only the minimum debt. -/
def addMinimumDebt (constants : Constants) (edited : EditedAmounts) : EditedAmounts :=
  if !edited.collateral.isZero && edited.netDebt.isZero then
    { edited with netDebt := constants.hchfMinimumNetDebt }
  else edited

/-- The handler of the collateral. It sets the collateral before it can throw. -/
def collateralHandler (constants : Constants) (auto : Bool) (price borrowingRate : Decimal)
    (edited : EditedAmounts) (amount : Text) : Result Unit × EditedAmounts :=
  match Decimal.from (.string amount) with
  | .error failure => (.error failure, edited)
  | .ok newCol =>
      let collRat := (newCol.mul price).div (opening constants borrowingRate edited).totalDebt
      if auto && collRat.lt automaticRatio then
        match ((newCol.mul price).div automaticRatio).sub constants.hchfLiquidationReserve with
        | .error failure => (.error failure, { edited with collateral := newCol })
        | .ok withoutReserve =>
            let newNetDebt := withoutReserve.div (borrowingRate.add one)
            (.ok (), ⟨newCol, if newNetDebt.isZero then zero else newNetDebt⟩)
      else (.ok (), { edited with collateral := newCol })

def netDebtHandler (constants : Constants) (auto : Bool) (price borrowingRate : Decimal)
    (edited : EditedAmounts) (amount : Text) : Result Unit × EditedAmounts :=
  match Decimal.from (.string amount) with
  | .error failure => (.error failure, edited)
  | .ok newDebt =>
      let newTotalDebt :=
        (newDebt.add constants.hchfLiquidationReserve).add (newDebt.mul borrowingRate)
      let collRat := (edited.collateral.mul price).div newTotalDebt
      if auto && collRat.lt automaticRatio then
        let newCol := (newTotalDebt.mul automaticRatio).div price
        (.ok (), ⟨newCol, newDebt⟩)
      else (.ok (), { edited with netDebt := newDebt })

end Opening

namespace Adjusting

/-- The outcome of a handler that sets the amounts at its end. -/
def setAtEnd (edited : EditedAmounts) : Result EditedAmounts → Result Unit × EditedAmounts
  | .error failure => (.error failure, edited)
  | .ok next => (.ok (), next)

/-- The handler of the collateral, with the debt and the fee of the render it belongs to. -/
def collateralHandler (trove : Trove constants) (auto : Bool) (price borrowingRate : Decimal)
    (edited : EditedAmounts) (amount : Text) : Result Unit × EditedAmounts :=
  setAtEnd edited do
    let render ← adjusting trove edited.collateral edited.netDebt borrowingRate
    let newCol ← Decimal.from (.string amount)
    let collRat := (newCol.mul price).div render.totalDebt
    if auto && collRat.lt automaticRatio then
      let withoutReserve ←
        ((newCol.mul price).div automaticRatio).sub constants.hchfLiquidationReserve
      let newNetDebt ← withoutReserve.sub render.fee
      return ⟨newCol, if newNetDebt.isZero then zero else newNetDebt⟩
    else return { edited with collateral := newCol }

/-- The handler of the net debt, with the fee of the render it belongs to. -/
def netDebtHandler (trove : Trove constants) (auto : Bool) (price borrowingRate : Decimal)
    (edited : EditedAmounts) (amount : Text) : Result Unit × EditedAmounts :=
  setAtEnd edited do
    let render ← adjusting trove edited.collateral edited.netDebt borrowingRate
    let newDebt ← Decimal.from (.string amount)
    let newTotalDebt := (newDebt.add constants.hchfLiquidationReserve).add render.fee
    let collRat := (edited.collateral.mul price).div newTotalDebt
    if auto && collRat.lt automaticRatio then
      return ⟨(newTotalDebt.mul automaticRatio).div price, newDebt⟩
    else return { edited with netDebt := newDebt }

end Adjusting

/-- A debt of which the collateral is worth 150 %. -/
def Covers (price collateral : Decimal) (debt : Nat) : Prop :=
  automaticRatio.bigNumber * debt ≤ collateral.bigNumber * price.bigNumber

instance (price collateral : Decimal) (debt : Nat) : Decidable (Covers price collateral debt) :=
  inferInstanceAs (Decidable (_ ≤ _))

/-- The debt that the handlers compute for a collateral. -/
def coveredDebt (price collateral : Decimal) : Nat :=
  ((collateral.mul price).div automaticRatio).bigNumber

/-- The collateral that the handlers compute for a debt. -/
def coveringCollateral (price : Decimal) (debt : Nat) : Decimal :=
  ((⟨debt⟩ : Decimal).mul automaticRatio).div price

theorem automaticRatio_pos : zero < automaticRatio := by decide

theorem Covers.mono {price collateral : Decimal} {debt less : Nat}
    (h : Covers price collateral debt) (hle : less ≤ debt) : Covers price collateral less :=
  (Nat.mul_le_mul_left _ hle).trans h

/-- A trove has the ratio exactly if its collateral covers its debt. -/
theorem automaticRatio_le_iff (trove : Trove constants) (price : Decimal) :
    automaticRatio ≤ trove.collateralRatio price ↔
      Covers price trove.collateral trove.debt.bigNumber := by
  by_cases hzero : trove.debt = zero
  · rw [Trove.collateralRatio_of_debt_zero hzero, Covers, hzero]
    exact iff_of_true (by decide) (Nat.zero_le _)
  · exact Trove.le_collateralRatio_iff hzero automaticRatio price

/-- The handlers adjust exactly if the debt exceeds the one they compute. -/
theorem collRat_lt_iff (price collateral totalDebt : Decimal) :
    ((collateral.mul price).div totalDebt).lt automaticRatio = true ↔
      coveredDebt price collateral < totalDebt.bigNumber := by
  rw [lt_iff, div_lt_comm _ _ automaticRatio_pos (by decide)]
  rfl

theorem covers_of_le_coveredDebt {price collateral : Decimal} {debt : Nat}
    (h : debt ≤ coveredDebt price collateral) : Covers price collateral debt :=
  (Nat.mul_le_mul_left _ h).trans (mul_div_mul_le collateral price automaticRatio_pos)

/-- What 150 % of a debt is worth, in the units that the price divides. -/
def worth (debt : Nat) : Nat := debt * automaticRatio.bigNumber / digits * digits

theorem covers_coveringCollateral_iff {price : Decimal} (hprice : zero < price)
    (debt after : Nat) :
    Covers price (coveringCollateral price debt) after ↔
      automaticRatio.bigNumber * after ≤ worth debt - worth debt % price.bigNumber := by
  have hmul : (coveringCollateral price debt).bigNumber * price.bigNumber =
      worth debt / price.bigNumber * price.bigNumber := by
    rw [coveringCollateral, div_bigNumber hprice]
    rfl
  have hsplit := Nat.div_add_mod' (worth debt) price.bigNumber
  rw [Covers, hmul]
  omega

/-- The collateral computed for a debt covers that debt only if nothing is rounded off. -/
theorem covers_coveringCollateral_self_iff {price : Decimal} (hprice : zero < price)
    (debt : Nat) :
    Covers price (coveringCollateral price debt) debt ↔
      2 ∣ debt ∧ price.bigNumber ∣ worth debt := by
  have hworth : worth debt = debt * 150000000 / 100000000 * 100000000 := rfl
  rw [covers_coveringCollateral_iff hprice, Nat.dvd_iff_mod_eq_zero,
    Nat.dvd_iff_mod_eq_zero (n := worth debt)]
  have hle := Nat.mod_le (worth debt) price.bigNumber
  generalize worth debt % price.bigNumber = rest at hle ⊢
  simp only [automaticRatio]
  omega

/-- The handlers write a zero amount as the constant. -/
theorem ite_isZero (amount : Decimal) : (if amount.isZero then zero else amount) = amount := by
  split_ifs with hzero
  · exact (isZero_iff.mp hzero).symm
  · rfl

/-- The handler has returned, and the trove shown for the amounts that it leaves has the
ratio, or else its net debt is zero and no net debt gives the ratio. -/
def RestoresRatio (shown : EditedAmounts → Result (Trove constants)) (price : Decimal)
    (outcome : Result Unit × EditedAmounts) : Prop :=
  outcome.1 = .ok () ∧ ∃ trove, shown outcome.2 = .ok trove ∧
    (automaticRatio ≤ trove.collateralRatio price ∨
      outcome.2.netDebt = zero ∧ ∀ netDebt other,
        shown ⟨outcome.2.collateral, netDebt⟩ = .ok other →
          other.collateralRatio price < automaticRatio)

theorem not_restoresRatio_of_error {shown : EditedAmounts → Result (Trove constants)}
    {price : Decimal} {failure : Failure} {edited : EditedAmounts} :
    ¬ RestoresRatio shown price (.error failure, edited) := by
  rintro ⟨hreturned, _⟩
  cases hreturned

namespace Opening

/-- The trove that `Opening` shows. -/
def shown (constants : Constants) (borrowingRate : Decimal) (edited : EditedAmounts) :
    Result (Trove constants) :=
  .ok (opening constants borrowingRate edited).trove

/-- The outcome of a handler once the effect has run. -/
def settled (constants : Constants) (outcome : Result Unit × EditedAmounts) :
    Result Unit × EditedAmounts :=
  (outcome.1, addMinimumDebt constants outcome.2)

/-- The total debt of a net debt, in units. -/
def totalDebt (constants : Constants) (borrowingRate : Decimal) (netDebt : Decimal) : Nat :=
  netDebt.bigNumber + constants.hchfLiquidationReserve.bigNumber +
    ScaledRounding.mulFloor digits borrowingRate.bigNumber netDebt.bigNumber

@[simp] theorem totalDebt_zero (rate : Decimal) :
    totalDebt constants rate zero = constants.hchfLiquidationReserve.bigNumber := by
  simp [totalDebt]

theorem reserve_le_totalDebt (rate netDebt : Decimal) :
    constants.hchfLiquidationReserve.bigNumber ≤ totalDebt constants rate netDebt := by
  unfold totalDebt
  omega

theorem opening_totalDebt (rate : Decimal) (edited : EditedAmounts) :
    (opening constants rate edited).totalDebt.bigNumber =
      totalDebt constants rate edited.netDebt := rfl

/-- With any amount typed the trove has both amounts and the fee. -/
theorem opening_trove {rate : Decimal} {edited : EditedAmounts}
    (h : edited.collateral ≠ zero ∨ edited.netDebt ≠ zero) :
    (opening constants rate edited).trove =
      ⟨edited.collateral, ⟨totalDebt constants rate edited.netDebt⟩⟩ := by
  have hdirty : (!edited.collateral.isZero || !edited.netDebt.isZero) = true := by
    simpa using h
  simp only [opening, hdirty, if_true]
  rfl

/-- A zero net debt has the ratio or no net debt has it; any other one has to be covered. -/
theorem restoresRatio_iff (price rate : Decimal) (edited : EditedAmounts) :
    RestoresRatio (shown constants rate) price (.ok (), edited) ↔
      edited.netDebt = zero ∨
        Covers price edited.collateral (totalDebt constants rate edited.netDebt) := by
  by_cases hdirty : edited.collateral ≠ zero ∨ edited.netDebt ≠ zero
  · have hiff := automaticRatio_le_iff (opening constants rate edited).trove price
    rw [opening_trove hdirty] at hiff
    constructor
    · rintro ⟨_, trove, htrove, hratio | ⟨hzero, _⟩⟩
      · cases htrove
        rw [opening_trove hdirty] at hratio
        exact .inr (hiff.mp hratio)
      · exact .inl hzero
    · intro h
      refine ⟨rfl, _, rfl, ?_⟩
      rw [opening_trove hdirty, hiff]
      by_cases hcovers : Covers price edited.collateral (totalDebt constants rate edited.netDebt)
      · exact .inl hcovers
      · have hzero := h.resolve_right hcovers
        have hcollateral := hdirty.resolve_right (not_not.mpr hzero)
        refine .inr ⟨hzero, ?_⟩
        rintro netDebt other ⟨⟩
        have hshown := @opening_trove constants rate ⟨edited.collateral, netDebt⟩ (.inl hcollateral)
        rw [← not_le, automaticRatio_le_iff, hshown]
        intro hother
        apply hcovers
        rw [hzero, totalDebt_zero]
        exact hother.mono (reserve_le_totalDebt rate netDebt)
  · simp only [ne_eq, not_or, not_not] at hdirty
    have hempty : (opening constants rate edited).trove = .empty := by
      simp [opening, hdirty.1, hdirty.2, isZero]
    refine iff_of_true ⟨rfl, _, rfl, .inl ?_⟩ (.inl hdirty.2)
    rw [hempty, automaticRatio_le_iff]
    exact Nat.zero_le _

/-- What the effect gives the collateral is covered. -/
def MinimumFits (constants : Constants) (price rate collateral : Decimal) : Prop :=
  collateral = zero ∨ constants.hchfMinimumNetDebt = zero ∨
    Covers price collateral (totalDebt constants rate constants.hchfMinimumNetDebt)

instance (constants : Constants) (price rate collateral : Decimal) :
    Decidable (MinimumFits constants price rate collateral) :=
  inferInstanceAs (Decidable (_ ∨ _))

/-- Where the effect gives the minimum debt to the collateral, that debt has to be covered. -/
theorem restoresRatio_settled_iff (price rate : Decimal) (edited : EditedAmounts) :
    RestoresRatio (shown constants rate) price (settled constants (.ok (), edited)) ↔
      if edited.netDebt = zero then MinimumFits constants price rate edited.collateral
      else Covers price edited.collateral (totalDebt constants rate edited.netDebt) := by
  rw [settled, restoresRatio_iff]
  simp only [addMinimumDebt, MinimumFits]
  split_ifs with hadd hzero hzero
  · simp only [Bool.and_eq_true, Bool.not_eq_true', isZero_eq_false, isZero_iff] at hadd
    simp [hadd.1]
  · simp only [Bool.and_eq_true, isZero_iff] at hadd
    exact absurd hadd.2 hzero
  · simp only [Bool.and_eq_true, Bool.not_eq_true', isZero_eq_false, isZero_iff, not_and] at hadd
    have hcollateral : edited.collateral = zero := by
      by_contra hne
      exact hadd hne hzero
    simp [hzero, hcollateral]
  · simp [hzero]

/-- The collateral covers the reserve, and if the net debt ends at zero, which the effect
replaces, it covers the minimum debt. -/
def CollateralFits (constants : Constants) (price rate : Decimal) (edited : EditedAmounts)
    (newCol : Decimal) : Prop :=
  constants.hchfLiquidationReserve.bigNumber ≤ coveredDebt price newCol ∧
    (edited.netDebt = zero ∨
        coveredDebt price newCol < totalDebt constants rate edited.netDebt ∧
        (coveredDebt price newCol - constants.hchfLiquidationReserve.bigNumber) * digits <
          digits + rate.bigNumber →
      MinimumFits constants price rate newCol)

instance (constants : Constants) (price rate : Decimal) (edited : EditedAmounts)
    (newCol : Decimal) : Decidable (CollateralFits constants price rate edited newCol) :=
  inferInstanceAs (Decidable (_ ∧ _))

theorem div_rate_bigNumber (rate : Decimal) (left : Nat) :
    (div ⟨left⟩ (rate.add one)).bigNumber = left * digits / (digits + rate.bigNumber) := by
  have hpos : zero < rate.add one := by
    rw [lt_def, add_bigNumber, zero_bigNumber, one_bigNumber]
    exact Nat.add_pos_right _ digits_pos
  rw [div_bigNumber hpos, add_bigNumber, one_bigNumber, Nat.add_comm rate.bigNumber]

/-- The computed net debt, with its fee and the reserve, stays below what is covered. -/
theorem totalDebt_div_le {rate : Decimal} {covered : Nat}
    (h : constants.hchfLiquidationReserve.bigNumber ≤ covered) :
    totalDebt constants rate (div ⟨covered - constants.hchfLiquidationReserve.bigNumber⟩
      (rate.add one)) ≤ covered := by
  have hquotient : ScaledRounding.mulFloor digits (digits + rate.bigNumber)
      (div ⟨covered - constants.hchfLiquidationReserve.bigNumber⟩ (rate.add one)).bigNumber ≤
        covered - constants.hchfLiquidationReserve.bigNumber := by
    apply Nat.div_le_of_le_mul
    rw [div_rate_bigNumber, Nat.mul_comm digits]
    exact Nat.div_mul_le_self _ _
  rw [ScaledRounding.mulFloor_add_scale digits_pos] at hquotient
  rw [totalDebt]
  omega

/-- The computed net debt is zero exactly if less than one unit with its fee is covered. -/
theorem div_rate_eq_zero_iff (rate : Decimal) (left : Nat) :
    div ⟨left⟩ (rate.add one) = zero ↔ left * digits < digits + rate.bigNumber := by
  have := digits_pos
  rw [Decimal.ext_iff, div_rate_bigNumber, zero_bigNumber, Nat.div_eq_zero_iff]
  omega

theorem collateralHandler_iff {price rate newCol : Decimal} {edited : EditedAmounts}
    {amount : Text} (hamount : Decimal.from (.string amount) = .ok newCol) :
    RestoresRatio (shown constants rate) price
        (settled constants (collateralHandler constants true price rate edited amount)) ↔
      CollateralFits constants price rate edited newCol := by
  rw [collateralHandler, hamount]
  simp only [Bool.true_and, collRat_lt_iff, opening_totalDebt, ite_isZero]
  by_cases hlt : coveredDebt price newCol < totalDebt constants rate edited.netDebt
  · rw [if_pos hlt]
    by_cases hreserve :
        constants.hchfLiquidationReserve.bigNumber ≤ coveredDebt price newCol
    · have hsub := sub_of_le (a := (newCol.mul price).div automaticRatio) (le_def.mpr hreserve)
      simp only [hsub, restoresRatio_settled_iff]
      by_cases hzero : div ⟨((newCol.mul price).div automaticRatio).bigNumber -
          constants.hchfLiquidationReserve.bigNumber⟩ (rate.add one) = zero
      · rw [if_pos hzero]
        exact ⟨fun h => ⟨hreserve, fun _ => h⟩,
          fun h => h.2 (.inr ⟨hlt, (div_rate_eq_zero_iff _ _).mp hzero⟩)⟩
      · rw [if_neg hzero]
        refine iff_of_true (covers_of_le_coveredDebt (totalDebt_div_le hreserve)) ⟨hreserve, ?_⟩
        rintro (hnet | ⟨_, hfraction⟩)
        · rw [hnet, totalDebt_zero] at hlt
          exact absurd hreserve (not_le.mpr hlt)
        · exact absurd ((div_rate_eq_zero_iff _ _).mpr hfraction) hzero
    · have hsub := sub_of_lt (a := (newCol.mul price).div automaticRatio)
        (lt_def.mpr (not_le.mp hreserve))
      simp only [hsub]
      exact iff_of_false not_restoresRatio_of_error fun h => hreserve h.1
  · rw [if_neg hlt, restoresRatio_settled_iff]
    have hreserve := (reserve_le_totalDebt rate edited.netDebt).trans (not_lt.mp hlt)
    by_cases hzero : edited.netDebt = zero
    · simp only [if_pos hzero]
      exact ⟨fun h => ⟨hreserve, fun _ => h⟩, fun h => h.2 (.inl hzero)⟩
    · simp only [if_neg hzero]
      refine iff_of_true (covers_of_le_coveredDebt (not_lt.mp hlt)) ⟨hreserve, ?_⟩
      rintro (hnet | ⟨hless, _⟩)
      · exact absurd hnet hzero
      · exact absurd hless hlt

/-- The debt is covered by the collateral, or by the computed one without a fraction of a
unit. A zero net debt leaves the minimum debt to be covered, unless the collateral that is
computed for the reserve is zero too. -/
def NetDebtFits (constants : Constants) (price rate : Decimal) (edited : EditedAmounts)
    (newDebt : Decimal) : Prop :=
  if newDebt = zero then
    if constants.hchfLiquidationReserve.bigNumber ≤ coveredDebt price edited.collateral then
      MinimumFits constants price rate edited.collateral
    else constants.hchfMinimumNetDebt = zero ∨
      worth constants.hchfLiquidationReserve.bigNumber < price.bigNumber
  else totalDebt constants rate newDebt ≤ coveredDebt price edited.collateral ∨
    2 ∣ totalDebt constants rate newDebt ∧
      price.bigNumber ∣ worth (totalDebt constants rate newDebt)

instance (constants : Constants) (price rate : Decimal) (edited : EditedAmounts)
    (newDebt : Decimal) : Decidable (NetDebtFits constants price rate edited newDebt) :=
  inferInstanceAs (Decidable (ite ..))

/-- The collateral computed for the reserve covers no larger debt. -/
theorem minimumFits_coveringCollateral_iff {price : Decimal} (hprice : zero < price)
    (rate : Decimal) :
    MinimumFits constants price rate
        (coveringCollateral price constants.hchfLiquidationReserve.bigNumber) ↔
      constants.hchfMinimumNetDebt = zero ∨
        worth constants.hchfLiquidationReserve.bigNumber < price.bigNumber := by
  have hpos : 0 < price.bigNumber := lt_def.mp hprice
  have hzero : coveringCollateral price constants.hchfLiquidationReserve.bigNumber = zero ↔
      worth constants.hchfLiquidationReserve.bigNumber < price.bigNumber := by
    rw [Decimal.ext_iff, coveringCollateral, div_bigNumber hprice, zero_bigNumber,
      Nat.div_eq_zero_iff, or_iff_right hpos.ne']
    rfl
  rw [MinimumFits, hzero]
  constructor
  · rintro (hworth | hminimum | hcovers)
    · exact .inr hworth
    · exact .inl hminimum
    · left
      rw [covers_coveringCollateral_iff hprice] at hcovers
      have hworth := Nat.div_mul_le_self
        (constants.hchfLiquidationReserve.bigNumber * automaticRatio.bigNumber) digits
      rw [← worth, Nat.mul_comm] at hworth
      have hle : totalDebt constants rate constants.hchfMinimumNetDebt ≤
          constants.hchfLiquidationReserve.bigNumber := by
        apply Nat.le_of_mul_le_mul_left _ (lt_def.mp automaticRatio_pos)
        exact (hcovers.trans (Nat.sub_le _ _)).trans hworth
      ext
      rw [totalDebt] at hle
      rw [zero_bigNumber]
      omega
  · rintro (hminimum | hworth)
    · exact .inr (.inl hminimum)
    · exact .inl hworth

theorem netDebtHandler_iff {price rate newDebt : Decimal} (hprice : zero < price)
    {edited : EditedAmounts} {amount : Text}
    (hamount : Decimal.from (.string amount) = .ok newDebt) :
    RestoresRatio (shown constants rate) price
        (settled constants (netDebtHandler constants true price rate edited amount)) ↔
      NetDebtFits constants price rate edited newDebt := by
  have htotal : ((newDebt.add constants.hchfLiquidationReserve).add
      (newDebt.mul rate)).bigNumber = totalDebt constants rate newDebt := rfl
  rw [netDebtHandler, hamount, NetDebtFits]
  simp only [Bool.true_and, collRat_lt_iff, htotal]
  by_cases hlt : coveredDebt price edited.collateral < totalDebt constants rate newDebt
  · rw [if_pos hlt, restoresRatio_settled_iff]
    have hcollateral : (((newDebt.add constants.hchfLiquidationReserve).add
        (newDebt.mul rate)).mul automaticRatio).div price =
        coveringCollateral price (totalDebt constants rate newDebt) := rfl
    simp only [hcollateral]
    split_ifs with hzero hreserve
    · rw [hzero, totalDebt_zero] at hlt
      exact absurd hreserve (not_le.mpr hlt)
    · rw [hzero, totalDebt_zero]
      exact minimumFits_coveringCollateral_iff hprice rate
    · rw [covers_coveringCollateral_self_iff hprice, or_iff_right (not_le.mpr hlt)]
  · rw [if_neg hlt, restoresRatio_settled_iff]
    have hle := not_lt.mp hlt
    split_ifs with hzero hreserve
    · rfl
    · have hnet : newDebt = zero := hzero
      rw [hnet, totalDebt_zero] at hle
      exact absurd hle hreserve
    · exact iff_of_true (covers_of_le_coveredDebt hle) (.inl hle)

end Opening

namespace Adjusting

/-- The trove that `Adjusting` shows. -/
def shown (trove : Trove constants) (borrowingRate : Decimal) (edited : EditedAmounts) :
    Result (Trove constants) := do
  let render ← adjusting trove edited.collateral edited.netDebt borrowingRate
  return render.updatedTrove

/-- The fee that is shown for a net debt, in units. -/
def shownFee (trove : Trove constants) (borrowingRate netDebt : Decimal) : Nat :=
  increaseFee borrowingRate.bigNumber
    (netDebt.bigNumber + constants.hchfLiquidationReserve.bigNumber - trove.debt.bigNumber)

section Open

variable {trove : Trove constants} (hopen : trove ≠ .empty)
  (hreserve : constants.hchfLiquidationReserve ≤ trove.debt)

include hreserve in
/-- A net debt of zero owes no fee. -/
theorem shownFee_zero (rate : Decimal) : shownFee trove rate zero = 0 := by
  have hle := le_def.mp hreserve
  rw [shownFee, zero_bigNumber, Nat.zero_add, Nat.sub_eq_zero_of_le hle, increaseFee_zero]

include hopen hreserve

theorem rendered (rate : Decimal) (edited : EditedAmounts) :
    ∃ render, adjusting trove edited.collateral edited.netDebt rate = .ok render ∧
      render.fee.bigNumber = shownFee trove rate edited.netDebt ∧
      render.totalDebt.bigNumber = edited.netDebt.bigNumber +
        constants.hchfLiquidationReserve.bigNumber + shownFee trove rate edited.netDebt ∧
      render.updatedTrove = ⟨edited.collateral, render.totalDebt⟩ :=
  ⟨_, adjusting_eq hopen hreserve _ _ rate, rfl, rfl, rfl⟩

theorem shown_eq (rate : Decimal) (edited : EditedAmounts) :
    shown trove rate edited = .ok ⟨edited.collateral, ⟨edited.netDebt.bigNumber +
      constants.hchfLiquidationReserve.bigNumber + shownFee trove rate edited.netDebt⟩⟩ := by
  obtain ⟨render, hrender, _, htotal, htrove⟩ := rendered hopen hreserve rate edited
  rw [shown, hrender, Result.ok_bind, Result.pure_eq, htrove, ← htotal]

/-- A zero net debt has the ratio or no net debt has it; any other one has to be covered. -/
theorem restoresRatio_iff (price rate : Decimal) (edited : EditedAmounts) :
    RestoresRatio (shown trove rate) price (.ok (), edited) ↔
      edited.netDebt = zero ∨
        Covers price edited.collateral (edited.netDebt.bigNumber +
          constants.hchfLiquidationReserve.bigNumber + shownFee trove rate edited.netDebt) := by
  have hshown := shown_eq hopen hreserve rate
  constructor
  · rintro ⟨_, shown, htrove, hratio | ⟨hzero, _⟩⟩
    · rw [hshown] at htrove
      cases htrove
      exact .inr ((automaticRatio_le_iff _ price).mp hratio)
    · exact .inl hzero
  · intro h
    refine ⟨rfl, _, hshown edited, ?_⟩
    rw [automaticRatio_le_iff]
    by_cases hcovers : Covers price edited.collateral (edited.netDebt.bigNumber +
        constants.hchfLiquidationReserve.bigNumber + shownFee trove rate edited.netDebt)
    · exact .inl hcovers
    · have hzero := h.resolve_right hcovers
      refine .inr ⟨hzero, ?_⟩
      intro netDebt other hother
      rw [hshown] at hother
      cases hother
      rw [← not_le, automaticRatio_le_iff]
      intro hmore
      apply hcovers
      apply hmore.mono
      rw [hzero, shownFee_zero hreserve, zero_bigNumber, Nat.zero_add]
      exact (Nat.le_add_left _ _).trans (Nat.le_add_right _ _)

/-- The collateral covers the reserve and the fee that is shown before the amount is typed. -/
def CollateralFits (trove : Trove constants) (price rate : Decimal) (edited : EditedAmounts)
    (newCol : Decimal) : Prop :=
  constants.hchfLiquidationReserve.bigNumber + shownFee trove rate edited.netDebt ≤
    coveredDebt price newCol

omit hopen hreserve in
theorem shownFee_mono (rate : Decimal) {less more : Decimal} (h : less ≤ more) :
    shownFee trove rate less ≤ shownFee trove rate more := by
  apply ScaledRounding.mulFloor_mono
  apply (ScaledRounding.gc_divCeil_mulFloor digits_pos
    (Nat.add_pos_left digits_pos rate.bigNumber)).monotone_l
  have hle := le_def.mp h
  omega

theorem collateralHandler_iff {price rate newCol : Decimal} {edited : EditedAmounts}
    {amount : Text} (hamount : Decimal.from (.string amount) = .ok newCol) :
    RestoresRatio (shown trove rate) price
        (collateralHandler trove true price rate edited amount) ↔
      CollateralFits trove price rate edited newCol := by
  obtain ⟨render, hrender, hfee, htotal, _⟩ := rendered hopen hreserve rate edited
  have hadjust := collRat_lt_iff price newCol render.totalDebt
  rw [collateralHandler, hrender, hamount, CollateralFits]
  simp only [Result.ok_bind, Bool.true_and, ite_isZero, Result.pure_eq]
  generalize hcovered : coveredDebt price newCol = covered at hadjust ⊢
  have hworth : ((newCol.mul price).div automaticRatio).bigNumber = covered := hcovered
  by_cases hlt : covered < render.totalDebt.bigNumber
  · rw [if_pos (hadjust.mpr hlt)]
    rw [htotal] at hlt
    by_cases hfits : constants.hchfLiquidationReserve.bigNumber +
        shownFee trove rate edited.netDebt ≤ covered
    · rw [← bind_assoc, sub_sub_of_le, Result.ok_bind, setAtEnd, restoresRatio_iff hopen hreserve,
        hworth, hfee]
      · refine iff_of_true (.inr (covers_of_le_coveredDebt ?_)) hfits
        have hnext := @shownFee_mono constants trove rate
          ⟨covered - constants.hchfLiquidationReserve.bigNumber -
            shownFee trove rate edited.netDebt⟩ edited.netDebt (le_def.mpr (by simp only; omega))
        rw [hcovered]
        simp only
        omega
      · rw [hworth, hfee]
        exact hfits
    · rw [← bind_assoc, sub_sub_of_lt, Result.error_bind, setAtEnd]
      · exact iff_of_false not_restoresRatio_of_error hfits
      · rw [hworth, hfee]
        exact not_le.mp hfits
  · rw [if_neg (mt hadjust.mp hlt), setAtEnd, restoresRatio_iff hopen hreserve]
    rw [htotal] at hlt
    refine iff_of_true (.inr ?_) (by omega)
    exact covers_of_le_coveredDebt (hcovered ▸ not_lt.mp hlt)

/-- The debt is zero, or with its own fee it is covered by the collateral, or by what is
computed for the debt with the fee that is shown before. -/
def NetDebtFits (trove : Trove constants) (price rate : Decimal) (edited : EditedAmounts)
    (newDebt : Decimal) : Prop :=
  let debtWithReserve := newDebt.bigNumber + constants.hchfLiquidationReserve.bigNumber
  let before := debtWithReserve + shownFee trove rate edited.netDebt
  let after := debtWithReserve + shownFee trove rate newDebt
  newDebt = zero ∨
    if before ≤ coveredDebt price edited.collateral then Covers price edited.collateral after
    else automaticRatio.bigNumber * after ≤ worth before - worth before % price.bigNumber

theorem netDebtHandler_iff {price rate newDebt : Decimal} (hprice : zero < price)
    {edited : EditedAmounts} {amount : Text}
    (hamount : Decimal.from (.string amount) = .ok newDebt) :
    RestoresRatio (shown trove rate) price
        (netDebtHandler trove true price rate edited amount) ↔
      NetDebtFits trove price rate edited newDebt := by
  obtain ⟨render, hrender, hfee, _, _⟩ := rendered hopen hreserve rate edited
  have htotal : (newDebt.add constants.hchfLiquidationReserve).add render.fee =
      ⟨newDebt.bigNumber + constants.hchfLiquidationReserve.bigNumber +
        shownFee trove rate edited.netDebt⟩ := by
    ext
    rw [add_bigNumber, add_bigNumber, hfee]
  rw [netDebtHandler, hrender, hamount, NetDebtFits]
  simp only [Result.ok_bind, Bool.true_and, Result.pure_eq, htotal]
  generalize newDebt.bigNumber + constants.hchfLiquidationReserve.bigNumber +
    shownFee trove rate edited.netDebt = before
  have hadjust := collRat_lt_iff price edited.collateral ⟨before⟩
  by_cases hlt : coveredDebt price edited.collateral < before
  · rw [if_pos (hadjust.mpr hlt), setAtEnd, restoresRatio_iff hopen hreserve,
      if_neg (not_le.mpr hlt), ← covers_coveringCollateral_iff hprice]
    rfl
  · rw [if_neg (mt hadjust.mp hlt), setAtEnd, restoresRatio_iff hopen hreserve,
      if_pos (not_lt.mp hlt)]

end Open

end Adjusting

/-- With the automatic ratio on, each handler restores the ratio exactly under its own
condition on the amounts, the price and the rate. -/
theorem automaticRatio_iff {trove : Trove constants} (hopen : trove ≠ .empty)
    (hreserve : constants.hchfLiquidationReserve ≤ trove.debt) {price : Decimal}
    (hprice : zero < price) (rate : Decimal) (edited : EditedAmounts) {amount : Text}
    {typed : Decimal} (hamount : Decimal.from (.string amount) = .ok typed) :
    (RestoresRatio (Opening.shown constants rate) price (Opening.settled constants
        (Opening.collateralHandler constants true price rate edited amount)) ↔
      Opening.CollateralFits constants price rate edited typed) ∧
    (RestoresRatio (Opening.shown constants rate) price (Opening.settled constants
        (Opening.netDebtHandler constants true price rate edited amount)) ↔
      Opening.NetDebtFits constants price rate edited typed) ∧
    (RestoresRatio (Adjusting.shown trove rate) price
        (Adjusting.collateralHandler trove true price rate edited amount) ↔
      Adjusting.CollateralFits trove price rate edited typed) ∧
    (RestoresRatio (Adjusting.shown trove rate) price
        (Adjusting.netDebtHandler trove true price rate edited amount) ↔
      Adjusting.NetDebtFits trove price rate edited typed) := by
  refine ⟨?_, ?_, ?_, ?_⟩
  · exact Opening.collateralHandler_iff hamount
  · exact Opening.netDebtHandler_iff hprice hamount
  · exact Adjusting.collateralHandler_iff hopen hreserve hamount
  · exact Adjusting.netDebtHandler_iff hopen hreserve hprice hamount

/-- A collateral of 100000 HBAR at a price of 0.07, typed while 1780 HCHF are borrowed. -/
theorem automaticRatio_restored :
    RestoresRatio (Opening.shown defaults ⟨500000⟩) ⟨7000000⟩ (Opening.settled defaults
      (Opening.collateralHandler defaults true ⟨7000000⟩ ⟨500000⟩ ⟨zero, ⟨178000000000⟩⟩
        ['1', '0', '0', '0', '0', '0'])) :=
  (automaticRatio_iff
    (by decide : (⟨⟨10000000000000⟩, ⟨200000000000⟩⟩ : Trove defaults) ≠ .empty)
    (by decide) (by decide) ⟨500000⟩ ⟨zero, ⟨178000000000⟩⟩
    (by decide : Decimal.from (.string ['1', '0', '0', '0', '0', '0']) =
      .ok ⟨10000000000000⟩)).1.mpr (by decide)

/-- A collateral of 100 HBAR at a price of 0.07 covers less than the reserve. -/
theorem automaticRatio_throws :
    ¬ RestoresRatio (Opening.shown defaults ⟨500000⟩) ⟨7000000⟩ (Opening.settled defaults
      (Opening.collateralHandler defaults true ⟨7000000⟩ ⟨500000⟩ ⟨zero, zero⟩
        ['1', '0', '0'])) := by
  rintro ⟨hreturned, _⟩
  exact absurd hreturned (by decide)

end HLiquity
