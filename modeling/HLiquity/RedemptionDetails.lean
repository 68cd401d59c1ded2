import HLiquity.Library.ScaledRounding
import HLiquity.TroveReplay
import Mathlib.Algebra.Order.BigOperators.Group.List

/-!
# Details of a redemption

A redemption pays off the debt of troves in order until the redeemed amount is
used up. What it pays off in each trove is one list of payments: their sum is
what was redeemed, and what is received for them is each payment divided by the
price, rounded down.
-/

namespace HLiquity

open Decimal

variable {constants : Constants}

/-- A ratio in percent. -/
structure Percent where
  percent : Decimal
  deriving DecidableEq, Repr

/-- The constructor, which keeps an infinite ratio. -/
def Percent.new (ratio : Decimal) : Percent :=
  ⟨ratio.infinite.getD (ratio.mul ⟨100 * digits⟩)⟩

/-- The options of `getRedemptionDetails`. -/
structure RedemptionOptions (constants : Constants) where
  sortedTroves : List (Trove constants)
  totalHchf : Decimal
  totalHbar : Decimal
  redeemedHchf : Decimal
  redemptionFee : Decimal
  price : Decimal

structure RedemptionDetails where
  redeemedHchf : Decimal
  receivedHbar : Decimal
  redemptionFeeInHbar : Decimal
  slippage : Percent
  deriving DecidableEq, Repr

/-- The variables of the loop. -/
structure RedemptionState where
  remainingHchfWithWhichToPayOffTroveDebt : Decimal
  receivedHbarBeforeFee : Decimal
  redeemedHchf : Decimal
  deriving DecidableEq, Repr

/-- The body of the loop: a trove is consumed entirely or partially. -/
def redeemTrove (price : Decimal) (state : RedemptionState) (trove : Trove constants) :
    Result RedemptionState := do
  let usableTroveDebt ← trove.debt.sub constants.hchfLiquidationReserve
  let usableTroveCollateral := usableTroveDebt.div price
  if usableTroveDebt.lte state.remainingHchfWithWhichToPayOffTroveDebt then do
    let remaining ← state.remainingHchfWithWhichToPayOffTroveDebt.sub usableTroveDebt
    return ⟨remaining, state.receivedHbarBeforeFee.add usableTroveCollateral,
      state.redeemedHchf.add usableTroveDebt⟩
  else
    let paidOfDebtInCollateralCurrency := state.remainingHchfWithWhichToPayOffTroveDebt.div price
    return ⟨zero, state.receivedHbarBeforeFee.add paidOfDebtInCollateralCurrency,
      state.redeemedHchf.add state.remainingHchfWithWhichToPayOffTroveDebt⟩

/-- The loop, which stops once everything is redeemed. -/
def redeemTroves (price : Decimal) (state : RedemptionState) :
    List (Trove constants) → Result RedemptionState
  | [] => .ok state
  | trove :: rest =>
      if state.remainingHchfWithWhichToPayOffTroveDebt.isZero then .ok state
      else do
        let state ← redeemTrove price state trove
        redeemTroves price state rest

/-- The fee and the slippage. A price better than the average gives no details. -/
def getRedemptionDetails (options : RedemptionOptions constants) :
    Result (Option RedemptionDetails) := do
  let state ← redeemTroves options.price ⟨options.redeemedHchf, zero, zero⟩ options.sortedTroves
  let redemptionFeeInHbar := state.receivedHbarBeforeFee.mul options.redemptionFee
  let receivedHbarAfterFee ← state.receivedHbarBeforeFee.sub redemptionFeeInHbar
  let receivedHbarPerHchf := receivedHbarAfterFee.div state.redeemedHchf
  let targetHbarPerHchf := options.totalHbar.div options.totalHchf
  let recievedToTargetHbarPerHchfRatio := receivedHbarPerHchf.div targetHbarPerHchf
  if one.lt recievedToTargetHbarPerHchfRatio then
    return none
  else do
    let ratio ← one.sub recievedToTargetHbarPerHchfRatio
    return some ⟨state.redeemedHchf, receivedHbarAfterFee, redemptionFeeInHbar, Percent.new ratio⟩

/-- The debt of a trove that can be redeemed, in units. -/
def usableDebt (trove : Trove constants) : Nat :=
  trove.debt.bigNumber - constants.hchfLiquidationReserve.bigNumber

/-- The troves that the loop touches, each with what it pays off in it. -/
def payments (remaining : Nat) : List (Trove constants) → List (Trove constants × Nat)
  | [] => []
  | trove :: rest =>
      if remaining = 0 then []
      else (trove, min (usableDebt trove) remaining) ::
        payments (remaining - usableDebt trove) rest

/-- What a payment buys at a price, rounded down. -/
def bought (price : Decimal) (payment : Trove constants × Nat) : Nat :=
  ScaledRounding.mulFloor price.bigNumber digits payment.2

/-- The state of the loop after payments. -/
def RedemptionState.paid (state : RedemptionState) (price : Decimal)
    (payments : List (Trove constants × Nat)) : RedemptionState where
  remainingHchfWithWhichToPayOffTroveDebt :=
    ⟨state.remainingHchfWithWhichToPayOffTroveDebt.bigNumber - (payments.map Prod.snd).sum⟩
  receivedHbarBeforeFee :=
    ⟨state.receivedHbarBeforeFee.bigNumber + (payments.map (bought price)).sum⟩
  redeemedHchf := ⟨state.redeemedHchf.bigNumber + (payments.map Prod.snd).sum⟩

theorem RedemptionState.paid_nil (state : RedemptionState) (price : Decimal) :
    state.paid price ([] : List (Trove constants × Nat)) = state := rfl

theorem RedemptionState.paid_cons (state : RedemptionState) (price : Decimal)
    (payment : Trove constants × Nat) (rest : List (Trove constants × Nat)) :
    state.paid price (payment :: rest) = (state.paid price [payment]).paid price rest := by
  simp [paid, Nat.add_assoc, Nat.sub_sub]

/-- The quotient by a positive price is the rounded product of the library. -/
theorem div_eq_mulFloor {price : Decimal} (hprice : zero < price) (amount : Decimal) :
    amount.div price = ⟨ScaledRounding.mulFloor price.bigNumber digits amount.bigNumber⟩ := by
  have hz : price.isZero = false := isZero_eq_false.mpr (ne_zero_iff.mpr hprice)
  rw [div, hz]
  rfl

/-- The body of the loop makes one payment. -/
theorem redeemTrove_eq {price : Decimal} (hprice : zero < price) (state : RedemptionState)
    {trove : Trove constants} (htrove : constants.hchfLiquidationReserve ≤ trove.debt) :
    redeemTrove price state trove = .ok (state.paid price
      [(trove,
        min (usableDebt trove) state.remainingHchfWithWhichToPayOffTroveDebt.bigNumber)]) := by
  rw [redeemTrove, sub_of_le htrove, Result.ok_bind]
  simp only [div_eq_mulFloor hprice]
  split_ifs with hlte
  · have hle : usableDebt trove ≤ state.remainingHchfWithWhichToPayOffTroveDebt.bigNumber :=
      le_def.mp (lte_iff.mp hlte)
    rw [sub_of_le (lte_iff.mp hlte), Nat.min_eq_left hle]
    simp [RedemptionState.paid, bought, usableDebt, add]
  · have hlt : state.remainingHchfWithWhichToPayOffTroveDebt.bigNumber < usableDebt trove := by
      rw [lte_iff, not_le, lt_def] at hlte
      exact hlte
    rw [Nat.min_eq_right hlt.le]
    simp [RedemptionState.paid, bought, add, zero]

/-- The loop makes all payments. -/
theorem redeemTroves_eq {price : Decimal} (hprice : zero < price)
    {troves : List (Trove constants)}
    (htroves : ∀ trove ∈ troves, constants.hchfLiquidationReserve ≤ trove.debt)
    (state : RedemptionState) :
    redeemTroves price state troves = .ok (state.paid price
      (payments state.remainingHchfWithWhichToPayOffTroveDebt.bigNumber troves)) := by
  induction troves generalizing state with
  | nil => rfl
  | cons trove rest ih =>
      rw [List.forall_mem_cons] at htroves
      rw [redeemTroves, payments]
      by_cases hzero : state.remainingHchfWithWhichToPayOffTroveDebt.bigNumber = 0
      · have hz : state.remainingHchfWithWhichToPayOffTroveDebt.isZero = true :=
          beq_iff_eq.mpr hzero
        rw [if_pos hz, if_pos hzero, RedemptionState.paid_nil]
      · have hz : ¬ state.remainingHchfWithWhichToPayOffTroveDebt.isZero = true :=
          fun h => hzero (beq_iff_eq.mp h)
        obtain ⟨paid, hpaid⟩ : ∃ paid, paid =
            min (usableDebt trove) state.remainingHchfWithWhichToPayOffTroveDebt.bigNumber :=
          ⟨_, rfl⟩
        have hremaining :
            (state.paid price [(trove, paid)]).remainingHchfWithWhichToPayOffTroveDebt.bigNumber =
              state.remainingHchfWithWhichToPayOffTroveDebt.bigNumber - usableDebt trove := by
          simp only [RedemptionState.paid, List.map_cons, List.map_nil, List.sum_cons,
            List.sum_nil]
          omega
        rw [if_neg hz, if_neg hzero, redeemTrove_eq hprice state htroves.1, Result.ok_bind,
          ih htroves.2, ← hpaid, hremaining, ← RedemptionState.paid_cons]

/-- The payments add up to what is redeemed: the requested amount, capped by the
debt that can be redeemed. -/
theorem sum_payments (remaining : Nat) (troves : List (Trove constants)) :
    ((payments remaining troves).map Prod.snd).sum =
      min remaining (troves.map usableDebt).sum := by
  induction troves generalizing remaining with
  | nil => simp [payments]
  | cons trove rest ih =>
      rw [payments]
      split_ifs with hzero
      · simp [hzero]
      · simp only [List.map_cons, List.sum_cons, ih]
        omega

/-- No payment exceeds the debt of its trove that can be redeemed. -/
theorem payment_le (remaining : Nat) (troves : List (Trove constants)) :
    ∀ payment ∈ payments remaining troves,
      payment.1 ∈ troves ∧ payment.2 ≤ usableDebt payment.1 := by
  induction troves generalizing remaining with
  | nil => simp [payments]
  | cons trove rest ih =>
      intro payment hmem
      rw [payments] at hmem
      split_ifs at hmem with hzero
      · exact absurd hmem List.not_mem_nil
      · rcases List.mem_cons.mp hmem with rfl | hmem
        · exact ⟨List.mem_cons_self, Nat.min_le_left _ _⟩
        · obtain ⟨hrest, hle⟩ := ih _ payment hmem
          exact ⟨List.mem_cons_of_mem _ hrest, hle⟩

/-- At full collateralization a payment buys no more than its trove holds. -/
theorem bought_le_collateral {price : Decimal} (hprice : zero < price)
    {payment : Trove constants × Nat} (hpayment : payment.2 ≤ usableDebt payment.1)
    (hratio : one ≤ payment.1.collateralRatio price) :
    bought price payment ≤ payment.1.collateral.bigNumber := by
  obtain ⟨trove, paid⟩ := payment
  have hpaid : paid ≤ trove.debt.bigNumber := hpayment.trans (Nat.sub_le _ _)
  have hpos : 0 < price.bigNumber := lt_def.mp hprice
  apply Nat.div_le_of_le_mul
  by_cases hdebt : trove.debt = zero
  · have hzero : paid = 0 := by
      rw [hdebt, zero_bigNumber] at hpaid
      omega
    simp [hzero]
  · have hle : digits * trove.debt.bigNumber ≤ trove.collateral.bigNumber * price.bigNumber :=
      (Trove.le_collateralRatio_iff hdebt one price).mp hratio
    calc
      paid * digits ≤ trove.debt.bigNumber * digits := Nat.mul_le_mul_right _ hpaid
      _ = digits * trove.debt.bigNumber := Nat.mul_comm _ _
      _ ≤ trove.collateral.bigNumber * price.bigNumber := hle
      _ = price.bigNumber * trove.collateral.bigNumber := Nat.mul_comm _ _

/-- The sum of the debts that can be redeemed. -/
def totalUsableDebt (troves : List (Trove constants)) : Decimal :=
  ⟨(troves.map usableDebt).sum⟩

/-- The troves that the loop touches. -/
def touchedTroves (options : RedemptionOptions constants) : List (Trove constants) :=
  (payments options.redeemedHchf.bigNumber options.sortedTroves).map Prod.fst

/-- The sum of the collateral of troves. -/
def totalCollateral (troves : List (Trove constants)) : Decimal :=
  ⟨(troves.map fun trove => trove.collateral.bigNumber).sum⟩

/-- Options that the accounting is about. -/
structure RedemptionOptions.Valid (options : RedemptionOptions constants) : Prop where
  reserve : ∀ trove ∈ options.sortedTroves, constants.hchfLiquidationReserve ≤ trove.debt
  price : zero < options.price
  fee : options.redemptionFee ≤ one

/-- The collateral that the payments buy, before the fee. -/
def grossHbar (options : RedemptionOptions constants) : Decimal :=
  ⟨((payments options.redeemedHchf.bigNumber options.sortedTroves).map
    (bought options.price)).sum⟩

/-- What is received and the fee add up to what the payments buy. -/
structure Accounts (options : RedemptionOptions constants) (details : RedemptionDetails) :
    Prop where
  redeemed : details.redeemedHchf = Decimal.min options.redeemedHchf
    (totalUsableDebt options.sortedTroves)
  gross : details.receivedHbar.add details.redemptionFeeInHbar = grossHbar options
  fee_le : details.redemptionFeeInHbar ≤ grossHbar options

theorem min_bigNumber (a b : Decimal) :
    (Decimal.min a b).bigNumber = Nat.min a.bigNumber b.bigNumber := by
  unfold Decimal.min
  split_ifs with h
  · exact (Nat.min_eq_left (lt_def.mp (lt_iff.mp h)).le).symm
  · rw [lt_iff, not_lt] at h
    exact (Nat.min_eq_right (le_def.mp h)).symm

/-- A product by at most one never exceeds the other factor. -/
theorem mul_le_of_le_one (a : Decimal) {b : Decimal} (h : b ≤ one) : a.mul b ≤ a := by
  rw [le_def, mul]
  apply Nat.div_le_of_le_mul
  rw [Nat.mul_comm]
  exact Nat.mul_le_mul_right _ (le_def.mp h)

/-- With a fee up to one the source returns details that account for everything,
or none. -/
theorem getRedemptionDetails_ok {options : RedemptionOptions constants} (h : options.Valid) :
    ∃ outcome, getRedemptionDetails options = .ok outcome ∧
      ∀ details, outcome = some details → Accounts options details := by
  have hpaid := redeemTroves_eq h.price h.reserve ⟨options.redeemedHchf, zero, zero⟩
  obtain ⟨state, hstate⟩ : ∃ state : RedemptionState, state =
      RedemptionState.paid ⟨options.redeemedHchf, zero, zero⟩ options.price
        (payments options.redeemedHchf.bigNumber options.sortedTroves) := ⟨_, rfl⟩
  have hgross : state.receivedHbarBeforeFee = grossHbar options := by
    rw [hstate]
    simp [RedemptionState.paid, grossHbar]
  have hredeemed : state.redeemedHchf = Decimal.min options.redeemedHchf
      (totalUsableDebt options.sortedTroves) := by
    apply Decimal.ext
    rw [hstate, min_bigNumber]
    simp only [RedemptionState.paid, zero_bigNumber, Nat.zero_add]
    exact sum_payments options.redeemedHchf.bigNumber options.sortedTroves
  have hfee : state.receivedHbarBeforeFee.mul options.redemptionFee ≤
      state.receivedHbarBeforeFee := mul_le_of_le_one _ h.fee
  obtain ⟨received, hreceived⟩ : ∃ received, state.receivedHbarBeforeFee.sub
      (state.receivedHbarBeforeFee.mul options.redemptionFee) = .ok received :=
    ⟨_, sub_of_le hfee⟩
  have hsum : received.add (state.receivedHbarBeforeFee.mul options.redemptionFee) =
      state.receivedHbarBeforeFee := by
    rw [sub_of_le hfee] at hreceived
    cases hreceived
    apply Decimal.ext
    exact Nat.sub_add_cancel (le_def.mp hfee)
  rw [getRedemptionDetails, hpaid, Result.ok_bind, ← hstate]
  simp only [hreceived, Result.ok_bind]
  split_ifs with hratio
  · exact ⟨none, rfl, fun details hdetails => by cases hdetails⟩
  · rw [lt_iff, not_lt] at hratio
    rw [sub_of_le hratio]
    refine ⟨_, rfl, ?_⟩
    intro details hdetails
    cases hdetails
    exact ⟨hredeemed, hsum.trans hgross, hgross ▸ hfee⟩

/-- What is received before the fee never exceeds the redeemed amount at the
price, and falls short of it by less than one unit for each touched trove. -/
theorem grossHbar_bounds {options : RedemptionOptions constants} (h : options.Valid) :
    let redeemed := Decimal.min options.redeemedHchf (totalUsableDebt options.sortedTroves)
    (grossHbar options).bigNumber * options.price.bigNumber ≤ redeemed.bigNumber * digits ∧
      redeemed.bigNumber * digits ≤
        (grossHbar options).bigNumber * options.price.bigNumber +
          (touchedTroves options).length * (options.price.bigNumber - 1) := by
  have hbounds := @ScaledRounding.sum_mulFloor_bounds options.price.bigNumber digits
    (lt_def.mp h.price)
    ((payments options.redeemedHchf.bigNumber options.sortedTroves).map Prod.snd)
  rw [List.map_map, sum_payments, List.length_map] at hbounds
  simp only [min_bigNumber, touchedTroves, List.length_map]
  exact hbounds

/-- At full collateralization it does not exceed the collateral of the touched troves. -/
theorem grossHbar_le_collateral {options : RedemptionOptions constants} (h : options.Valid)
    (hratio : ∀ trove ∈ options.sortedTroves, one ≤ trove.collateralRatio options.price) :
    grossHbar options ≤ totalCollateral (touchedTroves options) := by
  rw [le_def, grossHbar, totalCollateral, touchedTroves, List.map_map]
  apply List.sum_le_sum
  intro payment hmem
  obtain ⟨hlisted, hle⟩ := payment_le _ _ payment hmem
  exact bought_le_collateral h.price hle (hratio payment.1 hlisted)

theorem totalUsableDebt_perm {troves troves' : List (Trove constants)}
    (h : troves.Perm troves') : totalUsableDebt troves = totalUsableDebt troves' := by
  rw [totalUsableDebt, totalUsableDebt, (h.map usableDebt).sum_eq]

/-- A redemption accounts exactly: it never throws; its details redeem the
requested amount capped by the debt that can be redeemed, in whatever order the
troves stand; and what is received with the fee is what was redeemed at the
price, rounded down once for each touched trove. -/
theorem getRedemptionDetails_accounts (options : RedemptionOptions constants)
    (h : options.Valid) :
    (∃ outcome, getRedemptionDetails options = .ok outcome) ∧
    ∀ details, getRedemptionDetails options = .ok (some details) →
      details.redeemedHchf =
        Decimal.min options.redeemedHchf (totalUsableDebt options.sortedTroves) ∧
      (∀ troves details', options.sortedTroves.Perm troves →
        getRedemptionDetails { options with sortedTroves := troves } = .ok (some details') →
        details'.redeemedHchf = details.redeemedHchf) ∧
      (details.receivedHbar.add details.redemptionFeeInHbar).bigNumber *
        options.price.bigNumber ≤ details.redeemedHchf.bigNumber * digits ∧
      details.redeemedHchf.bigNumber * digits ≤
        (details.receivedHbar.add details.redemptionFeeInHbar).bigNumber *
            options.price.bigNumber +
          (touchedTroves options).length * (options.price.bigNumber - 1) ∧
      details.redemptionFeeInHbar ≤ details.receivedHbar.add details.redemptionFeeInHbar ∧
      ((∀ trove ∈ options.sortedTroves, one ≤ trove.collateralRatio options.price) →
        details.receivedHbar.add details.redemptionFeeInHbar ≤
          totalCollateral (touchedTroves options)) := by
  obtain ⟨outcome, houtcome, haccounts⟩ := getRedemptionDetails_ok h
  refine ⟨⟨outcome, houtcome⟩, ?_⟩
  intro details hdetails
  have hsome : outcome = some details := Except.ok.inj (houtcome.symm.trans hdetails)
  obtain ⟨hredeemed, hgross, hfee⟩ := haccounts details hsome
  have hbounds := grossHbar_bounds h
  rw [hgross, hredeemed]
  refine ⟨rfl, ?_, hbounds.1, hbounds.2, hfee, grossHbar_le_collateral h⟩
  intro troves details' hperm hdetails'
  have hvalid : RedemptionOptions.Valid { options with sortedTroves := troves } :=
    ⟨fun trove hmem => h.reserve trove (hperm.mem_iff.mpr hmem), h.price, h.fee⟩
  obtain ⟨outcome', houtcome', haccounts'⟩ := getRedemptionDetails_ok hvalid
  have hsome' : outcome' = some details' :=
    Except.ok.inj (houtcome'.symm.trans hdetails')
  rw [(haccounts' details' hsome').redeemed, totalUsableDebt_perm hperm]

/-- A redemption of 2000 HCHF that consumes one trove and part of a second one. -/
def twoTroves : RedemptionOptions defaults where
  sortedTroves := [⟨⟨3000000000000⟩, ⟨180000000000⟩⟩, ⟨⟨9000000000000⟩, ⟨280000000000⟩⟩,
    ⟨⟨9000000000000⟩, ⟨180000000000⟩⟩]
  totalHchf := ⟨640000000000⟩
  totalHbar := ⟨21000000000000⟩
  redeemedHchf := ⟨200000000000⟩
  redemptionFee := ⟨1000000⟩
  price := ⟨7000000⟩

theorem getRedemptionDetails_accounts_twoTroves :
    ∃ details, getRedemptionDetails twoTroves = .ok (some details) ∧
      details.redeemedHchf = ⟨200000000000⟩ ∧
      details.receivedHbar.add details.redemptionFeeInHbar ≤
        totalCollateral (touchedTroves twoTroves) := by
  obtain ⟨_, hdetails⟩ := getRedemptionDetails_accounts twoTroves
    ⟨by decide, by decide, by decide⟩
  obtain ⟨hredeemed, _, _, _, _, hcollateral⟩ := hdetails _ rfl
  exact ⟨_, rfl, hredeemed, hcollateral (by decide)⟩

end HLiquity
