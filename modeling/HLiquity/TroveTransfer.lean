import HLiquity.TroveReplay

/-!
# Differences applied to other troves

A difference computed between two troves is applied to a third one that need
not resemble either. A component that the difference empties is empty in the
result whatever the third trove holds, and an adjustment between non-empty
troves names the components that differ, each in one direction and by an amount
above zero.
-/

namespace HLiquity

open Decimal

namespace TroveAdjustmentParams

/-- The amounts that adjustment parameters name, in the order of their declaration. -/
def amounts (params : TroveAdjustmentParams Decimal) : List (Option Decimal) :=
  [params.depositCollateral, params.withdrawCollateral, params.borrowHCHF, params.repayHCHF]

/-- The named amounts are the ones of the entries. -/
theorem mem_amounts_iff {params : TroveAdjustmentParams Decimal} {amount : Decimal} :
    some amount ∈ params.amounts ↔ ∃ entry ∈ params.entries, entry.2 = amount := by
  rcases params with (_ | _) | (_ | _) | ⟨_ | _, _ | _⟩ <;>
    simp [amounts, entries, depositCollateral, withdrawCollateral, borrowHCHF, repayHCHF,
      collateralChange, debtChange, CollateralChange.entry, DebtChange.entry, eq_comm]

/-- A collateral change is either a deposit or a withdrawal. -/
theorem deposit_or_withdraw (params : TroveAdjustmentParams Decimal) :
    (params.depositCollateral.isSome = true ∨ params.withdrawCollateral.isSome = true ↔
      params.collateralChange.isSome = true) ∧
    ¬ (params.depositCollateral.isSome = true ∧ params.withdrawCollateral.isSome = true) := by
  unfold depositCollateral withdrawCollateral
  rcases params.collateralChange with _ | _ | _ <;> simp

/-- A debt change is either a borrowing or a repayment. -/
theorem borrow_or_repay (params : TroveAdjustmentParams Decimal) :
    (params.borrowHCHF.isSome = true ∨ params.repayHCHF.isSome = true ↔
      params.debtChange.isSome = true) ∧
    ¬ (params.borrowHCHF.isSome = true ∧ params.repayHCHF.isSome = true) := by
  unfold borrowHCHF repayHCHF
  rcases params.debtChange with _ | _ | _ <;> simp

end TroveAdjustmentParams

namespace Trove

variable {constants : Constants}

/-- What an adjustment between different non-empty troves holds: no zero amount,
exactly the components that differ, and each of them in one direction. -/
structure Names (source target : Trove constants) (params : TroveAdjustmentParams Decimal) :
    Prop where
  ne_zero : ∀ amount, some amount ∈ params.amounts → amount ≠ zero
  collateral : params.depositCollateral.isSome = true ∨ params.withdrawCollateral.isSome = true ↔
    source.collateral ≠ target.collateral
  debt : params.borrowHCHF.isSome = true ∨ params.repayHCHF.isSome = true ↔
    source.debt ≠ target.debt
  oneCollateral :
    ¬ (params.depositCollateral.isSome = true ∧ params.withdrawCollateral.isSome = true)
  oneDebt : ¬ (params.borrowHCHF.isSome = true ∧ params.repayHCHF.isSome = true)

theorem adjustmentTo_collateralChange (b c : Trove constants) (rate : Decimal) :
    (b.adjustmentTo c rate).collateralChange.isSome = true ↔ b.collateral ≠ c.collateral := by
  unfold adjustmentTo
  by_cases hc : b.collateral = c.collateral
  · rw [if_pos hc]
    simp [TroveAdjustmentParams.collateralChange, hc]
  · rw [if_neg hc]
    split <;> simp [TroveAdjustmentParams.collateralChange, hc]

theorem adjustmentTo_debtChange {b c : Trove constants} (hbc : b ≠ c) (rate : Decimal) :
    (b.adjustmentTo c rate).debtChange.isSome = true ↔ b.debt ≠ c.debt := by
  unfold adjustmentTo
  by_cases hc : b.collateral = c.collateral
  · have hd : b.debt ≠ c.debt := fun hd => hbc (Trove.ext hc hd)
    rw [if_pos hc]
    simp [TroveAdjustmentParams.debtChange, hd]
  · rw [if_neg hc]
    by_cases hd : b.debt = c.debt
    · simp [TroveAdjustmentParams.debtChange, hd]
    · simp [TroveAdjustmentParams.debtChange, hd]

theorem names_adjustmentTo {b c : Trove constants} (hbc : b ≠ c) (rate : Decimal) :
    Names b c (b.adjustmentTo c rate) where
  ne_zero := by
    intro amount hamount
    obtain ⟨entry, hentry, rfl⟩ := TroveAdjustmentParams.mem_amounts_iff.mp hamount
    exact adjustmentTo_entries_ne_zero hbc rate entry hentry
  collateral := (TroveAdjustmentParams.deposit_or_withdraw _).1.trans
    (adjustmentTo_collateralChange b c rate)
  debt := (TroveAdjustmentParams.borrow_or_repay _).1.trans (adjustmentTo_debtChange hbc rate)
  oneCollateral := (TroveAdjustmentParams.deposit_or_withdraw _).2
  oneDebt := (TroveAdjustmentParams.borrow_or_repay _).2

/-- An adjustment applies to every trove. -/
theorem apply_adjustment_ok (a : Trove constants) (params : TroveAdjustmentParams Decimal)
    (setToZero : Option SetToZero) (rate : Option Decimal) :
    ∃ reached, a.apply (some (.adjustment params setToZero)) rate = .ok reached :=
  ⟨_, apply_adjustment a params setToZero rate⟩

/-- A marked component is zero in the result. -/
theorem apply_zeroed (a : Trove constants) (params : TroveAdjustmentParams Decimal)
    (component : SetToZero) (rate : Option Decimal) :
    ∃ reached, a.apply (some (.adjustment params (some component))) rate = .ok reached ∧
      reached.component component = zero := by
  refine ⟨_, apply_adjustment a params (some component) rate, ?_⟩
  cases component with
  | collateral => rfl
  | debt => rfl

/-- Emptying one component of a trove that holds both empties it in any trove
that the difference is applied to. -/
theorem apply_whatChanged_zeroed (a : Trove constants) {b c : Trove constants}
    {component : SetToZero} (hheld : b.component component ≠ zero)
    (hemptied : c.component component = zero) (hc : c ≠ empty) (rate rate' : Option Decimal) :
    ∃ change reached, b.whatChanged c rate = .ok change ∧ a.apply change rate' = .ok reached ∧
      reached.component component = zero := by
  have hbc : b ≠ c := by
    rintro rfl
    exact hheld hemptied
  have hb : b ≠ empty := by
    rintro rfl
    exact hheld (component_empty component)
  have hzeroed : b.zeroedBy c = some component :=
    (zeroedBy_eq_some_iff hc component).mpr ⟨hemptied, hheld⟩
  obtain ⟨reached, happly, hzero⟩ :=
    apply_zeroed a (b.adjustmentTo c (rate.getD constants.minimumBorrowingRate)) component rate'
  refine ⟨_, reached, whatChanged_adjustment hbc hb hc rate, ?_, hzero⟩
  rw [hzeroed]
  exact happly

/-- A difference and its replay on any trove: a component that only the source
holds is emptied, and between different non-empty troves the difference is an
adjustment that names what differs and applies everywhere. -/
theorem apply_whatChanged_transfer (a b c : Trove constants) (rate rate' : Option Decimal) :
    (b.collateral ≠ zero → b.debt ≠ zero →
      (c.collateral ≠ zero → c.debt = zero → ∃ change reached,
        b.whatChanged c rate = .ok change ∧ a.apply change rate' = .ok reached ∧
          reached.debt = zero) ∧
      (c.debt ≠ zero → c.collateral = zero → ∃ change reached,
        b.whatChanged c rate = .ok change ∧ a.apply change rate' = .ok reached ∧
          reached.collateral = zero)) ∧
    (b.isEmpty = false → c.isEmpty = false → b.equals c = false →
      ∃ params setToZero,
        b.whatChanged c rate = .ok (some (.adjustment params setToZero)) ∧ Names b c params ∧
        ∃ reached, a.apply (some (.adjustment params setToZero)) rate' = .ok reached ∧
          zero ≤ reached.collateral ∧ zero ≤ reached.debt) := by
  constructor
  · intro hcollateral hdebt
    constructor
    · intro hc hemptied
      have hne : c ≠ empty := by
        rintro rfl
        exact hc rfl
      exact @apply_whatChanged_zeroed _ a b c .debt hdebt hemptied hne rate rate'
    · intro hc hemptied
      have hne : c ≠ empty := by
        rintro rfl
        exact hc rfl
      exact @apply_whatChanged_zeroed _ a b c .collateral hcollateral hemptied hne rate rate'
  · intro hb hc hdiffer
    have hbc : b ≠ c := fun h => Bool.eq_false_iff.mp hdiffer (equals_iff.mpr h)
    obtain ⟨reached, happly⟩ := apply_adjustment_ok a
      (b.adjustmentTo c (rate.getD constants.minimumBorrowingRate)) (b.zeroedBy c) rate'
    refine ⟨_, _, whatChanged_adjustment hbc (isEmpty_eq_false.mp hb) (isEmpty_eq_false.mp hc) rate,
      names_adjustmentTo hbc _, reached, happly, ?_, ?_⟩
    · exact Decimal.zero_le _
    · exact Decimal.zero_le _

/-- Emptying the debt of one trove empties a larger one, and an adjustment of
one trove applies to another that holds less. -/
theorem apply_whatChanged_transfer_defaults :
    (∃ change reached,
      (⟨⟨300000000⟩, ⟨180000000000⟩⟩ : Trove defaults).whatChanged ⟨⟨100000000⟩, zero⟩ none =
        .ok change ∧
      (⟨⟨300000000⟩, ⟨500000000000⟩⟩ : Trove defaults).apply change none = .ok reached ∧
      reached.debt = zero) ∧
    ∃ params setToZero,
      (⟨⟨300000000⟩, ⟨180000000000⟩⟩ : Trove defaults).whatChanged ⟨⟨100000000⟩, zero⟩ none =
        .ok (some (.adjustment params setToZero)) ∧
      Names (⟨⟨300000000⟩, ⟨180000000000⟩⟩ : Trove defaults) ⟨⟨100000000⟩, zero⟩ params ∧
      ∃ reached, (⟨⟨300000000⟩, ⟨500000000000⟩⟩ : Trove defaults).apply
          (some (.adjustment params setToZero)) none = .ok reached ∧
        zero ≤ reached.collateral ∧ zero ≤ reached.debt :=
  have h := apply_whatChanged_transfer (⟨⟨300000000⟩, ⟨500000000000⟩⟩ : Trove defaults)
    ⟨⟨300000000⟩, ⟨180000000000⟩⟩ ⟨⟨100000000⟩, zero⟩ none none
  ⟨(h.1 (by decide) (by decide)).1 (by decide) rfl, h.2 rfl rfl rfl⟩

end Trove

end HLiquity
