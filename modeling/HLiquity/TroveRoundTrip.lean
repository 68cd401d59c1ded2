import HLiquity.TroveDifference

/-!
# Round trips of differences, creations and adjustments

Replaying a difference reaches the target trove up to one unit of debt, which
is the compensation of the two roundings of the fee. Creation parameters are
recovered exactly from the trove they create.
-/

namespace HLiquity

open Decimal

/-- Decimal entries pass the conversion unchanged. -/
theorem mapM_decimalize (entries : List (String × Decimal)) :
    (entries.map fun entry => (entry.1, Decimalish.decimal entry.2)).mapM decimalize =
      .ok entries := by
  induction entries with
  | nil => rfl
  | cons entry rest ih =>
      simp only [List.map_cons, List.mapM_cons, ih]
      rfl

def CollateralChange.entry : CollateralChange Decimal → String × Decimal
  | .depositCollateral amount => ("depositCollateral", amount)
  | .withdrawCollateral amount => ("withdrawCollateral", amount)

def DebtChange.entry : DebtChange Decimal → String × Decimal
  | .borrowHCHF amount => ("borrowHCHF", amount)
  | .repayHCHF amount => ("repayHCHF", amount)

/-- The entries of adjustment parameters, in insertion order. -/
def TroveAdjustmentParams.entries : TroveAdjustmentParams Decimal → List (String × Decimal)
  | .collateral c => [c.entry]
  | .debt d => [d.entry]
  | .both c d => [c.entry, d.entry]

theorem definedEntries_ofDecimal (params : TroveAdjustmentParams Decimal) :
    definedEntries params.ofDecimal.record =
      params.entries.map fun entry => (entry.1, Decimalish.decimal entry.2) := by
  rcases params with (_ | _) | (_ | _) | ⟨_ | _, _ | _⟩ <;> rfl

theorem checkAllowedTroveAdjustmentKeys_ofDecimal (params : TroveAdjustmentParams Decimal) :
    checkAllowedTroveAdjustmentKeys (definedEntries params.ofDecimal.record) = .ok () := by
  rcases params with (_ | _) | (_ | _) | ⟨_ | _, _ | _⟩ <;> rfl

/-- Adjustment parameters are read back from their entries. -/
theorem troveAdjustmentParamsFromEntries_entries (params : TroveAdjustmentParams Decimal) :
    troveAdjustmentParamsFromEntries params.entries = .ok params := by
  rcases params with (_ | _) | (_ | _) | ⟨_ | _, _ | _⟩ <;> rfl

/-- Adjustment parameters without a zero amount are their own normal form. -/
theorem normalizeTroveAdjustment_ofDecimal {params : TroveAdjustmentParams Decimal}
    (h : ∀ entry ∈ params.entries, entry.2 ≠ zero) :
    normalizeTroveAdjustment params.ofDecimal.record = .ok params := by
  have hfilter : (params.entries.filter fun entry => !entry.2.isZero) = params.entries := by
    rw [List.filter_eq_self]
    intro entry hentry
    simpa using h entry hentry
  rw [normalizeTroveAdjustment, checkAllowedTroveAdjustmentKeys_ofDecimal,
    definedEntries_ofDecimal, mapM_decimalize]
  simp only [Result.ok_bind, hfilter, troveAdjustmentParamsFromEntries_entries]

namespace Trove

variable {constants : Constants}

/-- The target with the debt that an increase through the fee really reaches. -/
def replayed (this that : Trove constants) (rate : Decimal) : Trove constants :=
  ⟨that.collateral,
   if this.debt < that.debt then
     this.debt.add (applyFee rate (unapplyFee rate (monus that.debt this.debt)))
   else that.debt⟩

theorem replayed_of_le {a b : Trove constants} (h : b.debt ≤ a.debt) (rate : Decimal) :
    a.replayed b rate = b := by
  simp [replayed, h.not_gt]

@[simp] theorem applyFee_zero (rate : Decimal) : applyFee rate zero = zero := by
  ext
  simp

@[simp] theorem unapplyFee_zero (rate : Decimal) : unapplyFee rate zero = zero := by
  rw [← applyFee_zero rate, unapplyFee_applyFee, applyFee_zero]

/-- Up to the target the debt is the increase, reapplied with its fee. -/
theorem replayed_of_ge {a b : Trove constants} (h : a.debt ≤ b.debt) (rate : Decimal) :
    a.replayed b rate =
      ⟨b.collateral, a.debt.add (applyFee rate (unapplyFee rate (monus b.debt a.debt)))⟩ := by
  rcases h.lt_or_eq with hlt | heq
  · rw [replayed, if_pos hlt]
  · rw [replayed_of_le heq.ge, heq, monus_self, unapplyFee_zero, applyFee_zero,
      Decimal.add_zero]

/-- Without a rate the target is reached exactly. -/
theorem replayed_zero (a b : Trove constants) : a.replayed b zero = b := by
  by_cases h : a.debt < b.debt
  · have hlt : a.debt.bigNumber < b.debt.bigNumber := lt_def.mp h
    apply Trove.ext
    · rfl
    · simp only [replayed, if_pos h, applyFee_unapplyFee_zero]
      ext
      simp only [add_bigNumber, monus_bigNumber]
      omega
  · exact replayed_of_le (not_lt.mp h) zero

/-- The reached debt never falls short and overshoots by at most one unit. -/
theorem replayed_debt (a b : Trove constants) {rate : Decimal} (hrate : rate < one) :
    (a.replayed b rate).debt = b.debt ∨
      (a.replayed b rate).debt.bigNumber = b.debt.bigNumber + 1 := by
  by_cases h : a.debt < b.debt
  · have hlt : a.debt.bigNumber < b.debt.bigNumber := lt_def.mp h
    have hle := applyFee_unapplyFee_le hrate (monus b.debt a.debt)
    have hge := le_def.mp (le_applyFee_unapplyFee rate (monus b.debt a.debt))
    rw [monus_bigNumber] at hle hge
    simp only [replayed, if_pos h, Decimal.ext_iff, add_bigNumber]
    omega
  · left
    rw [replayed_of_le (not_lt.mp h)]

/-- The amounts of an adjustment move the collateral to the target. -/
theorem adjustmentTo_collateral (a b : Trove constants) (rate : Decimal) :
    monus (a.collateral.add ((a.adjustmentTo b rate).depositCollateral.getD zero))
      ((a.adjustmentTo b rate).withdrawCollateral.getD zero) = b.collateral := by
  by_cases hc : a.collateral = b.collateral
  · simp [adjustmentTo, hc, TroveAdjustmentParams.depositCollateral,
      TroveAdjustmentParams.withdrawCollateral, TroveAdjustmentParams.collateralChange]
  · apply collateral_of_collateralDistance
    by_cases hd : a.debt = b.debt <;>
      simp [adjustmentTo, hc, hd, TroveAdjustmentParams.collateralChange]

/-- An adjustment borrows the distance of the debts without its fee, or repays it. -/
theorem adjustmentTo_debtAmounts (a b : Trove constants) (rate : Decimal) :
    (a.adjustmentTo b rate).borrowHCHF.getD zero = unapplyFee rate (monus b.debt a.debt) ∧
      (a.adjustmentTo b rate).repayHCHF.getD zero = monus a.debt b.debt := by
  unfold TroveAdjustmentParams.borrowHCHF TroveAdjustmentParams.repayHCHF
  by_cases hd : a.debt = b.debt ∧ a.collateral ≠ b.collateral
  · simp [adjustmentTo, hd.1, hd.2, TroveAdjustmentParams.debtChange]
  · have hchange : (a.adjustmentTo b rate).debtChange = some (a.debtDistance b rate) := by
      by_cases hc : a.collateral = b.collateral
      · simp [adjustmentTo, hc, TroveAdjustmentParams.debtChange]
      · have hne : a.debt ≠ b.debt := fun heq => hd ⟨heq, hc⟩
        simp [adjustmentTo, hc, hne, TroveAdjustmentParams.debtChange]
    rw [hchange, debtDistance]
    by_cases hlt : a.debt < b.debt
    · rw [if_pos hlt]
      exact ⟨rfl, (monus_of_le hlt.le).symm⟩
    · rw [if_neg hlt, monus_of_le (not_lt.mp hlt), unapplyFee_zero]
      exact ⟨rfl, rfl⟩

/-- The amounts of an adjustment move the debt to the target, up to the fee. -/
theorem adjustmentTo_debt (a b : Trove constants) (rate : Decimal) :
    monus (a.debt.add (debtIncrease (a.adjustmentTo b rate) rate))
      ((a.adjustmentTo b rate).repayHCHF.getD zero) = (a.replayed b rate).debt := by
  by_cases hc : a.collateral = b.collateral
  · apply debt_of_debtDistance
    simp [adjustmentTo, hc, TroveAdjustmentParams.debtChange]
  · by_cases hd : a.debt = b.debt
    · rw [replayed_of_le hd.ge]
      simp [adjustmentTo, hc, hd, debtIncrease, TroveAdjustmentParams.borrowHCHF,
        TroveAdjustmentParams.repayHCHF, TroveAdjustmentParams.debtChange]
    · apply debt_of_debtDistance
      simp [adjustmentTo, hc, hd, TroveAdjustmentParams.debtChange]

/-- A marked component is zero in the target. -/
theorem eq_zero_of_zeroedBy {a b : Trove constants} {marked : SetToZero}
    (h : a.zeroedBy b = some marked) :
    match marked with
    | .collateral => b.collateral = zero
    | .debt => b.debt = zero := by
  unfold zeroedBy at h
  split_ifs at h with hd hc
  · cases h
    exact hd.1
  · cases h
    exact hc.1

/-- Replaying an adjustment reaches the same trove with and without its marker. -/
theorem apply_adjustmentTo (a b : Trove constants) (rate : Decimal)
    {setToZero : Option SetToZero} (hmark : setToZero = none ∨ setToZero = a.zeroedBy b) :
    a.apply (some (.adjustment (a.adjustmentTo b rate) setToZero)) (some rate) =
      .ok (a.replayed b rate) := by
  rw [apply_adjustment, Option.getD_some, adjustmentTo_collateral, adjustmentTo_debt]
  have hzero (marked : SetToZero) (hm : setToZero = some marked) : a.zeroedBy b = some marked := by
    rcases hmark with rfl | rfl
    · cases hm
    · exact hm
  congr 1
  apply Trove.ext
  · by_cases hm : setToZero = some .collateral
    · simp only [if_pos hm]
      exact (eq_zero_of_zeroedBy (hzero _ hm)).symm
    · simp only [if_neg hm]
      rfl
  · by_cases hm : setToZero = some .debt
    · have hb : b.debt = zero := eq_zero_of_zeroedBy (hzero _ hm)
      have hle : b.debt ≤ a.debt := hb ▸ Decimal.zero_le _
      simp only [if_pos hm, replayed_of_le hle, hb]
    · simp only [if_neg hm]

theorem monus_ne_zero {a b : Decimal} (h : b < a) : monus a b ≠ zero := by
  have hlt : b.bigNumber < a.bigNumber := lt_def.mp h
  rw [ne_zero_iff, lt_def, zero_bigNumber, monus_bigNumber]
  omega

theorem collateralDistance_ne_zero {a b : Trove constants} (h : a.collateral ≠ b.collateral) :
    (a.collateralDistance b).entry.2 ≠ zero := by
  unfold collateralDistance
  by_cases hlt : a.collateral < b.collateral
  · rw [if_pos hlt]
    exact monus_ne_zero hlt
  · rw [if_neg hlt]
    exact monus_ne_zero (lt_of_le_of_ne (not_lt.mp hlt) h.symm)

theorem debtDistance_ne_zero {a b : Trove constants} (h : a.debt ≠ b.debt) (rate : Decimal) :
    (a.debtDistance b rate).entry.2 ≠ zero := by
  unfold debtDistance
  by_cases hlt : a.debt < b.debt
  · rw [if_pos hlt]
    exact ne_zero_iff.mpr (unapplyFee_pos rate (ne_zero_iff.mp (monus_ne_zero hlt)))
  · rw [if_neg hlt]
    exact monus_ne_zero (lt_of_le_of_ne (not_lt.mp hlt) h.symm)

/-- An adjustment between different troves has no zero amount. -/
theorem adjustmentTo_entries_ne_zero {a b : Trove constants} (hab : a ≠ b) (rate : Decimal) :
    ∀ entry ∈ (a.adjustmentTo b rate).entries, entry.2 ≠ zero := by
  intro entry hentry
  unfold adjustmentTo at hentry
  by_cases hc : a.collateral = b.collateral
  · have hd : a.debt ≠ b.debt := fun hd => hab (Trove.ext hc hd)
    rw [if_pos hc, TroveAdjustmentParams.entries, List.mem_singleton] at hentry
    exact hentry ▸ debtDistance_ne_zero hd rate
  · by_cases hd : a.debt = b.debt
    · rw [if_neg hc, if_pos hd, TroveAdjustmentParams.entries, List.mem_singleton] at hentry
      exact hentry ▸ collateralDistance_ne_zero hc
    · rw [if_neg hc, if_neg hd, TroveAdjustmentParams.entries, List.mem_pair] at hentry
      rcases hentry with rfl | rfl
      · exact collateralDistance_ne_zero hc
      · exact debtDistance_ne_zero hd rate

/-- How a replay reaches its target: the collateral exactly, the debt up to one
unit above, and the whole trove exactly when no fee is charged. -/
structure Reaches (rate : Decimal) (start target reached : Trove constants) : Prop where
  collateral : reached.collateral = target.collateral
  debt : reached.debt = target.debt ∨ reached.debt.bigNumber = target.debt.bigNumber + 1
  withoutFee : rate = zero ∨ target.debt ≤ start.debt → reached = target

theorem Reaches.refl (rate : Decimal) (start target : Trove constants) :
    Reaches rate start target target :=
  ⟨rfl, .inl rfl, fun _ => rfl⟩

theorem reaches_replayed (a b : Trove constants) {rate : Decimal} (hrate : rate < one) :
    Reaches rate a b (a.replayed b rate) := by
  refine ⟨rfl, replayed_debt a b hrate, ?_⟩
  rintro (rfl | hle)
  · exact replayed_zero a b
  · exact replayed_of_le hle rate

/-- A creation is the replay from a trove that holds the reserve only. -/
theorem reaches_creation {b : Trove constants} (hdebt : constants.hchfLiquidationReserve ≤ b.debt)
    {rate : Decimal} (hrate : rate < one) :
    Reaches rate empty b ⟨b.collateral, constants.hchfLiquidationReserve.add
      (applyFee rate (unapplyFee rate (monus b.debt constants.hchfLiquidationReserve)))⟩ := by
  let start : Trove constants := ⟨zero, constants.hchfLiquidationReserve⟩
  have h : Reaches rate start b (start.replayed b rate) := reaches_replayed start b hrate
  rw [replayed_of_ge hdebt] at h
  refine ⟨h.collateral, h.debt, ?_⟩
  intro hfee
  apply h.withoutFee
  exact hfee.imp_right fun hle => hle.trans (Decimal.zero_le _)

/-- Replaying an adjustment through `adjustTo` and `adjust`, which drop the
marker and normalize the amounts, reaches the same trove. -/
theorem adjust_adjustTo {a b : Trove constants} (hab : a ≠ b) (ha : a ≠ empty) (hb : b ≠ empty)
    (rate : Decimal) :
    a.adjustTo b (some rate) = .ok (a.adjustmentTo b rate) ∧
      a.adjust (a.adjustmentTo b rate).ofDecimal (some rate) = .ok (a.replayed b rate) := by
  constructor
  · rw [adjustTo, whatChanged_adjustment hab ha hb]
    rfl
  · rw [adjust, normalizeTroveAdjustment_ofDecimal (adjustmentTo_entries_ne_zero hab rate),
      Result.ok_bind]
    exact apply_adjustmentTo a b rate (.inl rfl)

/-- Replaying a difference never throws and reaches its target, with the debt
at most one unit above it; an adjustment does so without its marker as well. -/
theorem apply_whatChanged (a b : Trove constants) (rate : Decimal)
    (ha : a.isEmpty = true ∨ constants.hchfLiquidationReserve ≤ a.debt) (hrate : rate < one) :
    ∃ change reached, a.whatChanged b (some rate) = .ok change ∧
      a.apply change (some rate) = .ok reached ∧ Reaches rate a b reached ∧
      ((∃ trove error, change = some (.invalidCreation trove error)) ∨
        (∃ params, change = some (.closure params)) → reached = b) ∧
      ∀ params setToZero, change = some (.adjustment params setToZero) →
        a.adjustTo b (some rate) = .ok params ∧
        ∃ adjusted, a.adjust params.ofDecimal (some rate) = .ok adjusted ∧
          Reaches rate a b adjusted := by
  rcases whatChanged_cases b (ha.imp_left isEmpty_iff.mp) (some rate) with
    ⟨rfl, hchange⟩ | ⟨rfl, _, _, hchange⟩ | ⟨rfl, _, hdebt, hchange⟩ | ⟨hae, rfl, _, hchange⟩ |
    ⟨hae, hbe, hab, _, hchange⟩
  · refine ⟨_, a, hchange, rfl, .refl _ _ _, fun _ => rfl, ?_⟩
    rintro _ _ ⟨⟩
  · refine ⟨_, b, hchange, rfl, .refl _ _ _, fun _ => rfl, ?_⟩
    rintro _ _ ⟨⟩
  · refine ⟨_, _, hchange, rfl, reaches_creation hdebt hrate, ?_, ?_⟩
    · rintro (⟨_, _, ⟨⟩⟩ | ⟨_, ⟨⟩⟩)
    · rintro _ _ ⟨⟩
  · refine ⟨_, empty, hchange, ?_, .refl _ _ _, fun _ => rfl, ?_⟩
    · rw [apply, if_neg (by simpa using hae)]
    · rintro _ _ ⟨⟩
  · refine ⟨_, a.replayed b rate, hchange, apply_adjustmentTo a b rate (.inr rfl),
      reaches_replayed a b hrate, ?_, ?_⟩
    · rintro (⟨_, _, ⟨⟩⟩ | ⟨_, ⟨⟩⟩)
    · rintro params setToZero ⟨⟩
      obtain ⟨hadjustTo, hadjust⟩ := adjust_adjustTo hab hae hbe rate
      exact ⟨hadjustTo, _, hadjust, reaches_replayed a b hrate⟩

/-- A trove of 3 HBAR and 1800 HCHF edited to 1 HBAR and 2000 HCHF at the
default minimum rate. -/
theorem apply_whatChanged_defaults :
    ∃ change reached,
      (⟨⟨300000000⟩, ⟨180000000000⟩⟩ : Trove defaults).whatChanged
        ⟨⟨100000000⟩, ⟨200000000000⟩⟩ (some ⟨500000⟩) = .ok change ∧
      (⟨⟨300000000⟩, ⟨180000000000⟩⟩ : Trove defaults).apply change (some ⟨500000⟩) =
        .ok reached ∧
      reached.collateral = ⟨100000000⟩ := by
  obtain ⟨change, reached, hchange, happly, hreaches, _⟩ :=
    apply_whatChanged (⟨⟨300000000⟩, ⟨180000000000⟩⟩ : Trove defaults)
      ⟨⟨100000000⟩, ⟨200000000000⟩⟩ ⟨500000⟩ (.inr (by decide)) (by decide)
  exact ⟨change, reached, hchange, happly, hreaches.collateral⟩

theorem create_ofDecimal (params : TroveCreationParams Decimal) (rate : Decimal) :
    (create params.ofDecimal (some rate) : Result (Trove constants)) =
      .ok ⟨params.depositCollateral,
        constants.hchfLiquidationReserve.add (applyFee rate params.borrowHCHF)⟩ := rfl

/-- A trove that holds a positive reserve is recreated by its net debt. -/
theorem recreate_of_le {t : Trove constants} (hreserve : zero < constants.hchfLiquidationReserve)
    (ht : constants.hchfLiquidationReserve ≤ t.debt) (rate : Decimal) :
    t.recreate (some rate) = .ok ⟨t.collateral,
      unapplyFee rate (monus t.debt constants.hchfLiquidationReserve)⟩ := by
  have hne : t ≠ empty := by
    rintro rfl
    exact absurd (hreserve.trans_le ht) (lt_irrefl _)
  rw [recreate, whatChanged_creation hne ht]
  rfl

@[simp] theorem monus_add (a b : Decimal) : monus (a.add b) a = b := by
  ext
  simp

/-- The debt of a recreated trove overshoots by the rounding of its fee only. -/
theorem recreated_debt {reserve debt : Decimal} (h : reserve ≤ debt) (rate : Decimal) :
    let recreated := reserve.add (applyFee rate (unapplyFee rate (monus debt reserve)))
    debt ≤ recreated ∧
      (recreated.bigNumber - debt.bigNumber) * digits < digits + rate.bigNumber := by
  have hge := le_def.mp (le_applyFee_unapplyFee rate (monus debt reserve))
  have hlt := applyFee_unapplyFee_mul_lt rate (monus debt reserve)
  have hle : reserve.bigNumber ≤ debt.bigNumber := le_def.mp h
  rw [monus_bigNumber] at hge hlt
  constructor
  · rw [le_def, add_bigNumber]
    omega
  · have hsub : reserve.bigNumber +
          (applyFee rate (unapplyFee rate (monus debt reserve))).bigNumber - debt.bigNumber =
        (applyFee rate (unapplyFee rate (monus debt reserve))).bigNumber -
          (debt.bigNumber - reserve.bigNumber) := by omega
    have hpos := digits_pos
    rw [add_bigNumber, hsub, Nat.sub_mul]
    omega

/-- Recreating a created trove returns its parameters, and creating a recreated
trove overshoots its debt by less than `1 + rate` units. -/
theorem create_recreate (hreserve : zero < constants.hchfLiquidationReserve) :
    (∀ (params : TroveCreationParams Decimal) (rate : Decimal),
      ∃ created : Trove constants, create params.ofDecimal (some rate) = .ok created ∧
        created.recreate (some rate) = .ok params) ∧
    ∀ (t : Trove constants) (rate : Decimal), constants.hchfLiquidationReserve ≤ t.debt →
      ∃ params, ∃ created : Trove constants, t.recreate (some rate) = .ok params ∧
        create params.ofDecimal (some rate) = .ok created ∧
        created.collateral = t.collateral ∧ t.debt ≤ created.debt ∧
        (created.debt.bigNumber - t.debt.bigNumber) * digits < digits + rate.bigNumber := by
  constructor
  · intro params rate
    refine ⟨_, create_ofDecimal params rate, ?_⟩
    rw [recreate_of_le hreserve (Decimal.le_add _ _), monus_add, unapplyFee_applyFee]
  · intro t rate ht
    obtain ⟨hge, hlt⟩ := recreated_debt ht rate
    exact ⟨_, _, recreate_of_le hreserve ht rate, create_ofDecimal _ rate, rfl, hge, hlt⟩

/-- Recreating the trove created with 5 HBAR and 1780 HCHF at the default
minimum rate. -/
theorem create_recreate_defaults :
    ∃ created : Trove defaults,
      create (TroveCreationParams.ofDecimal ⟨⟨500000000⟩, ⟨178000000000⟩⟩) (some ⟨500000⟩) =
        .ok created ∧
      created.recreate (some ⟨500000⟩) = .ok ⟨⟨500000000⟩, ⟨178000000000⟩⟩ :=
  (create_recreate (show Decimal.zero < defaults.hchfLiquidationReserve by decide)).1 _ _

end Trove

end HLiquity
