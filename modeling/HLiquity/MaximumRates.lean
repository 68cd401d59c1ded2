import HLiquity.Populate

/-!
# Maximum rates

A caller may limit the rate of an operation. The limit that reaches the
contract is compared with the one that was supplied: the Ethers client tests
whether it is undefined, while the Hashgraph client partly tests whether a
condition takes it, and partly has no place for it.
-/

namespace HLiquity

variable {constants : Constants}

/-- The operations of the populatable interface that take a maximum rate. The
last one increases a redemption that was populated with its own limit. -/
inductive RatedOperation where
  | openTrove (params : ParamsRecord)
  | adjustTrove (params : ParamsRecord)
  | borrowHCHF (amount : Decimalish)
  | redeemHCHF (amount : Decimalish)
  | increaseAmountByMinimumNetDebt (amount : Decimalish) (original : Option Decimalish)

/-- The position of the maximum rate among the arguments. -/
def RatedOperation.rateIndex : RatedOperation → Nat
  | .openTrove _ => 0
  | .adjustTrove _ => 0
  | .borrowHCHF _ => 0
  | .redeemHCHF _ => 6
  | .increaseAmountByMinimumNetDebt _ _ => 6

/-- The maximum rate that a call encodes. -/
def RatedOperation.encodedRate (operation : RatedOperation) (call : ContractCall) : Option Nat :=
  match call.arguments[operation.rateIndex]? with
  | some (Argument.uint256 rate) => some rate
  | _ => none

theorem RatedOperation.encodedRate_eq {operation : RatedOperation} {call : ContractCall}
    {rate : Nat} (h : call.arguments[operation.rateIndex]? = some (.uint256 rate)) :
    operation.encodedRate call = some rate := by
  rw [encodedRate, h]

/-- A rate in the place of the options, which has no property `from`. -/
def Decimalish.asOptions (_ : Decimalish) : TransactionOptions := ⟨none⟩

/-- `asPopulatable`. The method behind `borrowHCHF` takes its options where the
interface has the rate. -/
def asPopulatable (this : HashgraphLiquity constants) (operation : RatedOperation)
    (maxRate : Option Decimalish) : Result ContractCall :=
  match operation with
  | .openTrove params => this.populateOpenTrove params maxRate
  | .adjustTrove params => this.populateAdjustTrove params maxRate none
  | .borrowHCHF amount => this.populateBorrowHCHF amount (maxRate.map Decimalish.asOptions)
  | .redeemHCHF amount => do
      let redemption ← this.populateRedeemHCHF amount maxRate
      return redemption.rawPopulatedTransaction
  | .increaseAmountByMinimumNetDebt amount original => do
      let redemption ← this.populateRedeemHCHF amount original
      let increased ← HashgraphLiquity.increaseAmountByMinimumNetDebt redemption maxRate
      return increased.rawPopulatedTransaction

/-- The same operations of the Ethers client. -/
def PopulatableEthersLiquity.populate (this : PopulatableEthersLiquity constants)
    (operation : RatedOperation) (maxRate : Option Decimalish) : Result ContractCall :=
  match operation with
  | .openTrove params => this.openTrove params maxRate
  | .adjustTrove params => this.adjustTrove params maxRate none
  | .borrowHCHF amount => this.borrowHCHF amount maxRate none
  | .redeemHCHF amount => do
      let redemption ← this.redeemHCHF amount maxRate
      return redemption.rawPopulatedTransaction
  | .increaseAmountByMinimumNetDebt amount original => do
      let redemption ← this.redeemHCHF amount original
      let increased ← increaseAmountByMinimumNetDebt redemption maxRate
      return increased.rawPopulatedTransaction

namespace Population

variable (this : Population constants)

/-- The current borrowing rate plus the tolerance. -/
def currentBorrowingLimit : Result Decimal := do
  let fees ← this.readable.getFees
  let borrowingRate ← fees.borrowingRate none
  return borrowingRate.add defaultBorrowingRateSlippageTolerance

/-- The current redemption rate of an amount plus the tolerance, at most one. -/
def currentRedemptionLimit (amount : Decimal) : Result Decimal := do
  let fees ← this.readable.getFees
  let redemptionRate ← fees.redemptionRate (amount.div this.readable.getTotal.debt) none
  return Decimal.min (redemptionRate.add defaultRedemptionRateSlippageTolerance) Decimal.one

/-- The amount that a redemption is truncated to. -/
def redeemableAmount (amount : Decimalish) : Result Decimal := do
  let attempted ← Decimal.from amount
  return decimalify (this.hintContracts.getRedemptionHints
    ⟨attempted.bigNumber, this.readable.getPrice.bigNumber,
      redeemMaxIterations⟩).truncatedHCHFamount

/-- The limit of an increased redemption whose original has none. -/
def increasedRedemptionLimit (amount : Decimalish) : Result Decimal := do
  let redeemable ← this.redeemableAmount amount
  this.currentRedemptionLimit (redeemable.add constants.hchfMinimumNetDebt)

/-- The limit when none is supplied. An adjustment that borrows nothing has no
borrowing rate to limit and encodes zero. -/
def documentedDefault (operation : RatedOperation) : Result Decimal :=
  match operation with
  | .openTrove _ => this.currentBorrowingLimit
  | .adjustTrove params => do
      let normalized ← normalizeTroveAdjustment params
      if normalized.borrowHCHF.isSome then this.currentBorrowingLimit else return Decimal.zero
  | .borrowHCHF _ => this.currentBorrowingLimit
  | .redeemHCHF amount => do
      let redeemable ← this.redeemableAmount amount
      this.currentRedemptionLimit redeemable
  | .increaseAmountByMinimumNetDebt amount original =>
      limitOr original (this.increasedRedemptionLimit amount)

/-- The limit that a call has to encode. -/
def documentedLimit (operation : RatedOperation) (maxRate : Option Decimalish) : Result Decimal :=
  limitOr maxRate (this.documentedDefault operation)

/-- The limit that the Hashgraph client encodes. -/
def hashgraphLimit (operation : RatedOperation) (maxRate : Option Decimalish) : Result Decimal :=
  match operation with
  | .openTrove _ => limitOr maxRate (this.documentedDefault operation)
  | .adjustTrove _ => limitOr (truthyRate maxRate) (this.documentedDefault operation)
  | .borrowHCHF _ => this.documentedDefault operation
  | .redeemHCHF _ => limitOr (truthyRate maxRate) (this.documentedDefault operation)
  | .increaseAmountByMinimumNetDebt amount original =>
      limitOr (truthyRate maxRate)
        (limitOr (truthyRate original) (this.increasedRedemptionLimit amount))

/-- The call encodes the supplied limit, or the default when none is supplied. -/
def KeepsLimit (operation : RatedOperation) (maxRate : Option Decimalish) (call : ContractCall) :
    Prop :=
  ∃ limit, this.documentedLimit operation maxRate = .ok limit ∧
    operation.encodedRate call = some limit.bigNumber

/-- When the limit reaches the contract through the Hashgraph client. -/
def LimitReaches (operation : RatedOperation) (maxRate : Option Decimalish) : Prop :=
  match operation with
  | .openTrove _ => True
  | .adjustTrove params => ∀ rate ∈ maxRate, rate.truthy = true ∨
      (Decimal.from rate = .ok Decimal.zero ∧
        ∀ normalized, normalizeTroveAdjustment params = .ok normalized →
          normalized.borrowHCHF = none)
  | .borrowHCHF _ => ∀ rate ∈ maxRate, Decimal.from rate = this.currentBorrowingLimit
  | .redeemHCHF _ => ∀ rate ∈ maxRate, rate.truthy = true
  | .increaseAmountByMinimumNetDebt _ original =>
      match maxRate with
      | some rate => rate.truthy = true ∨
          (Decimal.from rate = .ok Decimal.zero ∧
            ∃ first ∈ original, first.truthy = true ∧ Decimal.from first = .ok Decimal.zero)
      | none => ∀ first ∈ original, first.truthy = true

end Population

theorem limitOr_orElse (a b : Option Decimalish) (default : Result Decimal) :
    limitOr (a <|> b) default = limitOr a (limitOr b default) := by
  cases a <;> rfl

/-- A limit that was converted beforehand is the same limit. -/
theorem limitOr_map_decimal {rate : Option Decimalish} {converted : Option Decimal}
    (h : rate.mapM Decimal.from = .ok converted) (default : Result Decimal) :
    limitOr (converted.map .decimal) default = limitOr rate default := by
  cases rate with
  | none =>
      cases h
      rfl
  | some rate =>
      obtain ⟨limit, hlimit, h⟩ := Result.bind_eq_ok.mp h
      cases h
      exact hlimit.symm

/-- A redemption of an amount holds the amount that it is truncated to and what
its default limits are computed from. -/
def Population.Redeems (this : Population constants) (amount : Decimalish) {Rate : Type}
    (redemption : PopulatedRedemption constants Rate) : Prop :=
  this.redeemableAmount amount = .ok redemption.redeemableHCHFAmount ∧
    ∀ redeemed, redemption.context.defaultMaxRedemptionRate redeemed =
      this.currentRedemptionLimit redeemed

/-- Adjusting by a borrowed amount borrows. -/
theorem normalizeTroveAdjustment_borrowHCHF {amount : Decimalish}
    {normalized : TroveAdjustmentParams Decimal}
    (h : normalizeTroveAdjustment [("borrowHCHF", some amount)] = .ok normalized) :
    normalized.borrowHCHF.isSome = true := by
  have hkeys : checkAllowedTroveAdjustmentKeys [("borrowHCHF", amount)] = .ok () := rfl
  simp only [normalizeTroveAdjustment, definedEntries, List.filterMap_cons, Option.map_some,
    List.filterMap_nil, hkeys, Result.ok_bind] at h
  obtain ⟨decimals, hdecimals, h⟩ := Result.bind_eq_ok.mp h
  obtain ⟨value, hvalue, hdecimals⟩ : ∃ value, Decimal.from amount = .ok value ∧
      decimals = [("borrowHCHF", value)] := by
    cases hfrom : Decimal.from amount with
    | error failure => simp [decimalize, hfrom] at hdecimals
    | ok value =>
        simp [decimalize, hfrom] at hdecimals
        exact ⟨value, rfl, hdecimals.symm⟩
  subst hdecimals
  have hborrow : troveAdjustmentParamsFromEntries [("borrowHCHF", value)] =
      .ok (.debt (.borrowHCHF value)) := rfl
  have hnothing : troveAdjustmentParamsFromEntries [] = .error
      (.error "TroveAdjustmentParams: must include at least one non-zero parameter") := rfl
  by_cases hzero : value.isZero = true
  · simp only [List.filter_cons, List.filter_nil, hzero, Bool.not_true, Bool.false_eq_true,
      if_false, hnothing] at h
    cases h
  · simp only [List.filter_cons, List.filter_nil, hzero, Bool.not_false, if_true, hborrow] at h
    cases h
    rfl

/-- The default limit of an adjustment, from the rate that it fetched. -/
theorem Population.documentedDefault_adjustTrove {this : Population constants}
    {params : ParamsRecord} {normalized : TroveAdjustmentParams Decimal}
    {fees : Option (Fees constants)} {borrowingRate : Option Decimal}
    (hnormalized : normalizeTroveAdjustment params = .ok normalized)
    (hfees : normalized.borrowHCHF.mapM (fun _ => this.readable.getFees) = .ok fees)
    (hrate : fees.mapM (·.borrowingRate none) = .ok borrowingRate) :
    this.documentedDefault (.adjustTrove params) =
      .ok ((borrowingRate.map (·.add defaultBorrowingRateSlippageTolerance)).getD
        Decimal.zero) := by
  simp only [documentedDefault, hnormalized, Result.ok_bind]
  cases hborrow : normalized.borrowHCHF with
  | none =>
      rw [hborrow] at hfees
      cases hfees
      cases hrate
      rfl
  | some borrowHCHF =>
      rw [hborrow] at hfees
      obtain ⟨fetched, hfetched, hfees⟩ := Result.bind_eq_ok.mp hfees
      cases hfees
      obtain ⟨rate, hborrowingRate, hrate⟩ := Result.bind_eq_ok.mp hrate
      cases hrate
      simp [currentBorrowingLimit, hfetched, hborrowingRate]

namespace HashgraphLiquity

variable {this : HashgraphLiquity constants}

/-- A populated redemption keeps its limit, and encodes it or the default of its
redeemable amount. -/
theorem populateRedemption_encodes {context : RedemptionContext constants}
    {attemptedHCHFAmount truncatedAmount partialRedemptionHintNICR : Decimal}
    {maxRedemptionRate : Option Decimal}
    {partialRedemptionUpperHint partialRedemptionLowerHint : String}
    {redemption : PopulatedRedemption constants Decimal}
    (h : populateRedemption context attemptedHCHFAmount maxRedemptionRate truncatedAmount
      partialRedemptionUpperHint partialRedemptionLowerHint partialRedemptionHintNICR =
        .ok redemption) :
    redemption.context = context ∧ redemption.redeemableHCHFAmount = truncatedAmount ∧
      redemption.maxRedemptionRate = maxRedemptionRate ∧
      ∃ limit, limitOr (maxRedemptionRate.map .decimal)
          (context.defaultMaxRedemptionRate truncatedAmount) = .ok limit ∧
        redemption.rawPopulatedTransaction.arguments[6]? = some (.uint256 limit.bigNumber) := by
  unfold populateRedemption at h
  obtain ⟨limit, hlimit, h⟩ := Result.bind_eq_ok.mp h
  obtain ⟨maxIterations, _, h⟩ := Result.bind_eq_ok.mp h
  cases h
  exact ⟨rfl, rfl, rfl, limit, hlimit, rfl⟩

theorem populateRedeemHCHF_encodes {amount : Decimalish} {maxRedemptionRate : Option Decimalish}
    {redemption : PopulatedRedemption constants Decimal}
    (h : this.populateRedeemHCHF amount maxRedemptionRate = .ok redemption) :
    this.Redeems amount redemption ∧
      (truthyRate maxRedemptionRate).mapM Decimal.from = .ok redemption.maxRedemptionRate ∧
      ∃ limit, limitOr (truthyRate maxRedemptionRate)
          (this.currentRedemptionLimit redemption.redeemableHCHFAmount) = .ok limit ∧
        redemption.rawPopulatedTransaction.arguments[6]? = some (.uint256 limit.bigNumber) := by
  unfold populateRedeemHCHF at h
  obtain ⟨attempted, hattempted, h⟩ := Result.bind_eq_ok.mp h
  obtain ⟨fees, hfees, h⟩ := Result.bind_eq_ok.mp h
  dsimp only at h
  split at h
  · obtain ⟨text, _, h⟩ := Result.bind_eq_ok.mp h
    cases h
  · obtain ⟨converted, hconverted, h⟩ := Result.bind_eq_ok.mp h
    obtain ⟨hcontext, hredeemable, hmax, limit, hlimit, hargument⟩ :=
      populateRedemption_encodes h
    have hdefault : ∀ redeemed, redemption.context.defaultMaxRedemptionRate redeemed =
        this.currentRedemptionLimit redeemed := by
      intro redeemed
      rw [hcontext, Population.currentRedemptionLimit, hfees]
      rfl
    refine ⟨⟨?_, hdefault⟩, hmax ▸ hconverted, limit, ?_, hargument⟩
    · rw [Population.redeemableAmount, hattempted, hredeemable]
      rfl
    · rw [← limitOr_map_decimal hconverted, ← hdefault, hredeemable, hcontext]
      exact hlimit

theorem increaseAmountByMinimumNetDebt_encodes {amount : Decimalish}
    {original newMaxRedemptionRate : Option Decimalish}
    {redemption increased : PopulatedRedemption constants Decimal}
    (hredemption : this.populateRedeemHCHF amount original = .ok redemption)
    (h : increaseAmountByMinimumNetDebt redemption newMaxRedemptionRate = .ok increased) :
    ∃ limit, limitOr (truthyRate newMaxRedemptionRate) (limitOr (truthyRate original)
        (this.increasedRedemptionLimit amount)) = .ok limit ∧
      increased.rawPopulatedTransaction.arguments[6]? = some (.uint256 limit.bigNumber) := by
  obtain ⟨⟨hredeemable, hdefault⟩, hmax, _⟩ := populateRedeemHCHF_encodes hredemption
  unfold increaseAmountByMinimumNetDebt at h
  split at h
  · obtain ⟨converted, hconverted, h⟩ := Result.bind_eq_ok.mp h
    obtain ⟨_, _, _, limit, hlimit, hargument⟩ := populateRedemption_encodes h
    refine ⟨limit, ?_, hargument⟩
    have hlater : (converted <|> redemption.maxRedemptionRate).map Decimalish.decimal =
        (converted.map .decimal <|> redemption.maxRedemptionRate.map .decimal) := by
      cases converted <;> rfl
    rw [hlater, limitOr_orElse, limitOr_map_decimal hconverted, limitOr_map_decimal hmax,
      hdefault] at hlimit
    rw [Population.increasedRedemptionLimit, hredeemable]
    exact hlimit
  · cases h

theorem populateOpenTrove_encodes {params : ParamsRecord} {maxBorrowingRate : Option Decimalish}
    {call : ContractCall} (h : this.populateOpenTrove params maxBorrowingRate = .ok call) :
    ∃ limit, limitOr maxBorrowingRate this.currentBorrowingLimit = .ok limit ∧
      call.arguments[0]? = some (.uint256 limit.bigNumber) := by
  unfold populateOpenTrove at h
  obtain ⟨normalized, _, h⟩ := Result.bind_eq_ok.mp h
  obtain ⟨fees, hfees, h⟩ := Result.bind_eq_ok.mp h
  obtain ⟨borrowingRate, hrate, h⟩ := Result.bind_eq_ok.mp h
  obtain ⟨newTrove, _, h⟩ := Result.bind_eq_ok.mp h
  obtain ⟨limit, hlimit, h⟩ := Result.bind_eq_ok.mp h
  obtain ⟨hbar, _, h⟩ := Result.bind_eq_ok.mp h
  cases h
  refine ⟨limit, ?_, rfl⟩
  rw [Population.currentBorrowingLimit, hfees, Result.ok_bind, hrate]
  exact hlimit

theorem populateAdjustTrove_encodes {params : ParamsRecord}
    {maxBorrowingRate : Option Decimalish} {options : Option TransactionOptions}
    {call : ContractCall}
    (h : this.populateAdjustTrove params maxBorrowingRate options = .ok call) :
    ∃ limit, limitOr (truthyRate maxBorrowingRate)
        (this.documentedDefault (.adjustTrove params)) = .ok limit ∧
      call.arguments[0]? = some (.uint256 limit.bigNumber) := by
  unfold populateAdjustTrove at h
  obtain ⟨normalized, hnormalized, h⟩ := Result.bind_eq_ok.mp h
  obtain ⟨trove, _, h⟩ := Result.bind_eq_ok.mp h
  obtain ⟨fees, hfees, h⟩ := Result.bind_eq_ok.mp h
  obtain ⟨borrowingRate, hrate, h⟩ := Result.bind_eq_ok.mp h
  obtain ⟨finalTrove, _, h⟩ := Result.bind_eq_ok.mp h
  obtain ⟨limit, hlimit, h⟩ := Result.bind_eq_ok.mp h
  obtain ⟨hbar, _, h⟩ := Result.bind_eq_ok.mp h
  cases h
  refine ⟨limit, ?_, rfl⟩
  rw [Population.documentedDefault_adjustTrove hnormalized hfees hrate, ← hlimit]
  cases borrowingRate <;> rfl

/-- Borrowing populates an adjustment without a limit. -/
theorem populateBorrowHCHF_encodes {amount : Decimalish} {options : Option TransactionOptions}
    {call : ContractCall} (h : this.populateBorrowHCHF amount options = .ok call) :
    ∃ limit, this.currentBorrowingLimit = .ok limit ∧
      call.arguments[0]? = some (.uint256 limit.bigNumber) := by
  unfold populateBorrowHCHF at h
  obtain ⟨limit, hlimit, hargument⟩ := populateAdjustTrove_encodes h
  refine ⟨limit, ?_, hargument⟩
  cases hnormalized : normalizeTroveAdjustment [("borrowHCHF", some amount)] with
  | error failure =>
      rw [truthyRate, Population.documentedDefault, hnormalized] at hlimit
      cases hlimit
  | ok normalized =>
      simp only [truthyRate, Population.documentedDefault, hnormalized, Result.ok_bind,
        normalizeTroveAdjustment_borrowHCHF hnormalized, if_true] at hlimit
      exact hlimit

/-- Every call through `asPopulatable` encodes the limit of the client. -/
theorem asPopulatable_encodes {operation : RatedOperation} {maxRate : Option Decimalish}
    {call : ContractCall} (h : asPopulatable this operation maxRate = .ok call) :
    ∃ limit, this.hashgraphLimit operation maxRate = .ok limit ∧
      operation.encodedRate call = some limit.bigNumber := by
  cases operation with
  | openTrove params =>
      obtain ⟨limit, hlimit, hargument⟩ := populateOpenTrove_encodes h
      exact ⟨limit, hlimit, RatedOperation.encodedRate_eq hargument⟩
  | adjustTrove params =>
      obtain ⟨limit, hlimit, hargument⟩ := populateAdjustTrove_encodes h
      exact ⟨limit, hlimit, RatedOperation.encodedRate_eq hargument⟩
  | borrowHCHF amount =>
      obtain ⟨limit, hlimit, hargument⟩ := populateBorrowHCHF_encodes h
      exact ⟨limit, hlimit, RatedOperation.encodedRate_eq hargument⟩
  | redeemHCHF amount =>
      obtain ⟨redemption, hredemption, h⟩ := Result.bind_eq_ok.mp h
      cases h
      obtain ⟨⟨hredeemable, _⟩, _, limit, hlimit, hargument⟩ :=
        populateRedeemHCHF_encodes hredemption
      refine ⟨limit, ?_, RatedOperation.encodedRate_eq hargument⟩
      rw [← hlimit, Population.hashgraphLimit, Population.documentedDefault, hredeemable]
      rfl
  | increaseAmountByMinimumNetDebt amount original =>
      obtain ⟨redemption, hredemption, h⟩ := Result.bind_eq_ok.mp h
      obtain ⟨increased, hincreased, h⟩ := Result.bind_eq_ok.mp h
      cases h
      obtain ⟨limit, hlimit, hargument⟩ :=
        increaseAmountByMinimumNetDebt_encodes hredemption hincreased
      exact ⟨limit, hlimit, RatedOperation.encodedRate_eq hargument⟩

end HashgraphLiquity

namespace PopulatableEthersLiquity

variable {this : PopulatableEthersLiquity constants}

theorem populateRedemption_encodes {context : RedemptionContext constants}
    {attemptedHCHFAmount truncatedAmount : Decimal} {maxRedemptionRate : Option Decimalish}
    {partialHints : String × String × Nat}
    {redemption : PopulatedRedemption constants Decimalish}
    (h : populateRedemption context attemptedHCHFAmount maxRedemptionRate truncatedAmount
      partialHints = .ok redemption) :
    redemption.context = context ∧ redemption.redeemableHCHFAmount = truncatedAmount ∧
      redemption.maxRedemptionRate = maxRedemptionRate ∧
      ∃ limit, limitOr maxRedemptionRate
          (context.defaultMaxRedemptionRate truncatedAmount) = .ok limit ∧
        redemption.rawPopulatedTransaction.arguments[6]? = some (.uint256 limit.bigNumber) := by
  unfold populateRedemption at h
  obtain ⟨limit, hlimit, h⟩ := Result.bind_eq_ok.mp h
  cases h
  exact ⟨rfl, rfl, rfl, limit, hlimit, rfl⟩

theorem redeemHCHF_encodes {amount : Decimalish} {maxRedemptionRate : Option Decimalish}
    {redemption : PopulatedRedemption constants Decimalish}
    (h : this.redeemHCHF amount maxRedemptionRate = .ok redemption) :
    this.Redeems amount redemption ∧ redemption.maxRedemptionRate = maxRedemptionRate ∧
      ∃ limit, limitOr maxRedemptionRate
          (this.currentRedemptionLimit redemption.redeemableHCHFAmount) = .ok limit ∧
        redemption.rawPopulatedTransaction.arguments[6]? = some (.uint256 limit.bigNumber) := by
  unfold redeemHCHF at h
  obtain ⟨attempted, hattempted, h⟩ := Result.bind_eq_ok.mp h
  obtain ⟨fees, hfees, h⟩ := Result.bind_eq_ok.mp h
  dsimp only at h
  split at h
  · obtain ⟨text, _, h⟩ := Result.bind_eq_ok.mp h
    cases h
  · obtain ⟨hcontext, hredeemable, hmax, limit, hlimit, hargument⟩ :=
      populateRedemption_encodes h
    have hdefault : ∀ redeemed, redemption.context.defaultMaxRedemptionRate redeemed =
        this.currentRedemptionLimit redeemed := by
      intro redeemed
      rw [hcontext, Population.currentRedemptionLimit, hfees]
      rfl
    refine ⟨⟨?_, hdefault⟩, hmax, limit, ?_, hargument⟩
    · rw [Population.redeemableAmount, hattempted, hredeemable]
      rfl
    · rw [← hdefault, hredeemable, hcontext]
      exact hlimit

theorem increaseAmountByMinimumNetDebt_encodes {amount : Decimalish}
    {original newMaxRedemptionRate : Option Decimalish}
    {redemption increased : PopulatedRedemption constants Decimalish}
    (hredemption : this.redeemHCHF amount original = .ok redemption)
    (h : increaseAmountByMinimumNetDebt redemption newMaxRedemptionRate = .ok increased) :
    ∃ limit, limitOr newMaxRedemptionRate (limitOr original
        (this.increasedRedemptionLimit amount)) = .ok limit ∧
      increased.rawPopulatedTransaction.arguments[6]? = some (.uint256 limit.bigNumber) := by
  obtain ⟨⟨hredeemable, hdefault⟩, hmax, _⟩ := redeemHCHF_encodes hredemption
  unfold increaseAmountByMinimumNetDebt at h
  split at h
  · obtain ⟨_, _, _, limit, hlimit, hargument⟩ := populateRedemption_encodes h
    refine ⟨limit, ?_, hargument⟩
    rw [limitOr_orElse, hmax, hdefault] at hlimit
    rw [Population.increasedRedemptionLimit, hredeemable]
    exact hlimit
  · cases h

theorem openTrove_encodes {params : ParamsRecord} {maxBorrowingRate : Option Decimalish}
    {call : ContractCall} (h : this.openTrove params maxBorrowingRate = .ok call) :
    ∃ limit, limitOr maxBorrowingRate this.currentBorrowingLimit = .ok limit ∧
      call.arguments[0]? = some (.uint256 limit.bigNumber) := by
  unfold openTrove at h
  obtain ⟨normalized, _, h⟩ := Result.bind_eq_ok.mp h
  obtain ⟨fees, hfees, h⟩ := Result.bind_eq_ok.mp h
  obtain ⟨borrowingRate, hrate, h⟩ := Result.bind_eq_ok.mp h
  obtain ⟨newTrove, _, h⟩ := Result.bind_eq_ok.mp h
  obtain ⟨limit, hlimit, h⟩ := Result.bind_eq_ok.mp h
  obtain ⟨value, _, h⟩ := Result.bind_eq_ok.mp h
  cases h
  refine ⟨limit, ?_, rfl⟩
  rw [Population.currentBorrowingLimit, hfees, Result.ok_bind, hrate]
  exact hlimit

theorem adjustTrove_encodes {params : ParamsRecord} {maxBorrowingRate : Option Decimalish}
    {overrides : Option EthersTransactionOverrides} {call : ContractCall}
    (h : this.adjustTrove params maxBorrowingRate overrides = .ok call) :
    ∃ limit, limitOr maxBorrowingRate (this.documentedDefault (.adjustTrove params)) = .ok limit ∧
      (∃ normalized, normalizeTroveAdjustment params = .ok normalized) ∧
      call.arguments[0]? = some (.uint256 limit.bigNumber) := by
  unfold adjustTrove at h
  obtain ⟨address, _, h⟩ := Result.bind_eq_ok.mp h
  obtain ⟨normalized, hnormalized, h⟩ := Result.bind_eq_ok.mp h
  obtain ⟨trove, _, h⟩ := Result.bind_eq_ok.mp h
  obtain ⟨fees, hfees, h⟩ := Result.bind_eq_ok.mp h
  obtain ⟨borrowingRate, hrate, h⟩ := Result.bind_eq_ok.mp h
  obtain ⟨finalTrove, _, h⟩ := Result.bind_eq_ok.mp h
  obtain ⟨limit, hlimit, h⟩ := Result.bind_eq_ok.mp h
  obtain ⟨value, _, h⟩ := Result.bind_eq_ok.mp h
  cases h
  refine ⟨limit, ?_, ⟨normalized, hnormalized⟩, rfl⟩
  rw [Population.documentedDefault_adjustTrove hnormalized hfees hrate]
  exact hlimit

/-- Every call of the client encodes the documented limit. -/
theorem populate_encodes {operation : RatedOperation} {maxRate : Option Decimalish}
    {call : ContractCall} (h : this.populate operation maxRate = .ok call) :
    this.KeepsLimit operation maxRate call := by
  cases operation with
  | openTrove params =>
      obtain ⟨limit, hlimit, hargument⟩ := openTrove_encodes h
      exact ⟨limit, hlimit, RatedOperation.encodedRate_eq hargument⟩
  | adjustTrove params =>
      obtain ⟨limit, hlimit, _, hargument⟩ := adjustTrove_encodes h
      exact ⟨limit, hlimit, RatedOperation.encodedRate_eq hargument⟩
  | borrowHCHF amount =>
      obtain ⟨limit, hlimit, ⟨normalized, hnormalized⟩, hargument⟩ := adjustTrove_encodes h
      refine ⟨limit, ?_, RatedOperation.encodedRate_eq hargument⟩
      rw [← hlimit, Population.documentedLimit, Population.documentedDefault,
        Population.documentedDefault, hnormalized, Result.ok_bind,
        if_pos (normalizeTroveAdjustment_borrowHCHF hnormalized)]
  | redeemHCHF amount =>
      obtain ⟨redemption, hredemption, h⟩ := Result.bind_eq_ok.mp h
      cases h
      obtain ⟨⟨hredeemable, _⟩, _, limit, hlimit, hargument⟩ := redeemHCHF_encodes hredemption
      refine ⟨limit, ?_, RatedOperation.encodedRate_eq hargument⟩
      rw [← hlimit, Population.documentedLimit, Population.documentedDefault, hredeemable]
      rfl
  | increaseAmountByMinimumNetDebt amount original =>
      obtain ⟨redemption, hredemption, h⟩ := Result.bind_eq_ok.mp h
      obtain ⟨increased, hincreased, h⟩ := Result.bind_eq_ok.mp h
      cases h
      obtain ⟨limit, hlimit, hargument⟩ :=
        increaseAmountByMinimumNetDebt_encodes hredemption hincreased
      exact ⟨limit, hlimit, RatedOperation.encodedRate_eq hargument⟩

end PopulatableEthersLiquity

namespace Population

variable {this : Population constants}

theorem truthyRate_of_truthy {rate : Decimalish} (h : rate.truthy = true) :
    truthyRate (some rate) = some rate := by
  simp [truthyRate, h]

theorem truthyRate_of_falsy {rate : Decimalish} (h : rate.truthy = false) :
    truthyRate (some rate) = none := by
  simp [truthyRate, h]

/-- What a condition does not take is zero or no decimal at all. -/
theorem eq_zero_of_falsy {rate : Decimalish} (h : rate.truthy = false) {limit : Decimal}
    (hlimit : Decimal.from rate = .ok limit) : limit = Decimal.zero := by
  cases rate with
  | decimal d => cases h
  | number text =>
      have htext : text = ['0'] ∨ text = ['N', 'a', 'N'] := by
        simpa [Decimalish.truthy, Classical.or_iff_not_imp_left] using h
      have hzero : Decimal.from (.number ['0']) = .ok Decimal.zero := by decide
      rcases htext with rfl | rfl
      · rw [hzero] at hlimit
        cases hlimit
        rfl
      · cases hlimit
  | string text =>
      have htext : text = [] := by simpa [Decimalish.truthy] using h
      subst htext
      cases hlimit

theorem currentBorrowingLimit_ne_zero {limit : Decimal}
    (h : this.currentBorrowingLimit = .ok limit) : limit ≠ Decimal.zero := by
  obtain ⟨fees, _, h⟩ := Result.bind_eq_ok.mp h
  obtain ⟨borrowingRate, _, h⟩ := Result.bind_eq_ok.mp h
  cases h
  rw [Decimal.ne_zero_iff, Decimal.lt_def]
  simp [defaultBorrowingRateSlippageTolerance]

theorem zero_lt_min {a b : Decimal} (ha : Decimal.zero < a) (hb : Decimal.zero < b) :
    Decimal.zero < Decimal.min a b := by
  rw [Decimal.min]
  split
  · exact ha
  · exact hb

theorem currentRedemptionLimit_ne_zero {amount limit : Decimal}
    (h : this.currentRedemptionLimit amount = .ok limit) : limit ≠ Decimal.zero := by
  obtain ⟨fees, _, h⟩ := Result.bind_eq_ok.mp h
  obtain ⟨redemptionRate, _, h⟩ := Result.bind_eq_ok.mp h
  rw [← Except.ok.inj h]
  have hpos : Decimal.zero < redemptionRate.add defaultRedemptionRateSlippageTolerance := by
    rw [Decimal.lt_def]
    simp [defaultRedemptionRateSlippageTolerance]
  have hone : Decimal.zero < Decimal.one := Nat.succ_pos _
  rw [Decimal.ne_zero_iff]
  exact zero_lt_min hpos hone

theorem increasedRedemptionLimit_ne_zero {amount : Decimalish} {limit : Decimal}
    (h : this.increasedRedemptionLimit amount = .ok limit) : limit ≠ Decimal.zero := by
  obtain ⟨redeemable, _, h⟩ := Result.bind_eq_ok.mp h
  exact currentRedemptionLimit_ne_zero h

/-- A dropped limit is not the one that is encoded in its place, unless that is
zero. -/
theorem not_falsy_of_ne_zero {rate : Decimalish} (h : rate.truthy = false) {limit : Decimal}
    (hlimit : limit ≠ Decimal.zero) : Decimal.from rate ≠ .ok limit :=
  fun hrate => hlimit (eq_zero_of_falsy h hrate)

/-- An adjustment encodes a dropped zero exactly when it borrows nothing. -/
theorem adjustTrove_reaches_iff {params : ParamsRecord} {rate : Decimalish}
    (hfalsy : rate.truthy = false) {limit : Decimal}
    (h : this.documentedDefault (.adjustTrove params) = .ok limit) :
    Decimal.from rate = .ok limit ↔ Decimal.from rate = .ok Decimal.zero ∧
      ∀ normalized, normalizeTroveAdjustment params = .ok normalized →
        normalized.borrowHCHF = none := by
  obtain ⟨normalized, hnormalized, hlimit⟩ := Result.bind_eq_ok.mp h
  constructor
  · intro hrate
    obtain rfl := eq_zero_of_falsy hfalsy hrate
    refine ⟨hrate, fun again hagain => ?_⟩
    rw [hnormalized] at hagain
    cases hagain
    by_contra hborrow
    rw [if_pos (Option.isSome_iff_ne_none.mpr hborrow)] at hlimit
    exact currentBorrowingLimit_ne_zero hlimit rfl
  · rintro ⟨hrate, hborrow⟩
    rw [hborrow normalized hnormalized] at hlimit
    cases hlimit
    exact hrate

/-- An increase encodes a dropped zero exactly when the limit of the original
redemption is zero, too. -/
theorem increase_reaches_iff {amount rate : Decimalish} {original : Option Decimalish}
    (hfalsy : rate.truthy = false) {limit : Decimal}
    (h : limitOr (truthyRate original) (this.increasedRedemptionLimit amount) = .ok limit) :
    Decimal.from rate = .ok limit ↔ Decimal.from rate = .ok Decimal.zero ∧
      ∃ first ∈ original, first.truthy = true ∧ Decimal.from first = .ok Decimal.zero := by
  constructor
  · intro hrate
    obtain rfl := eq_zero_of_falsy hfalsy hrate
    refine ⟨hrate, ?_⟩
    cases original with
    | none => exact absurd rfl (increasedRedemptionLimit_ne_zero h)
    | some first =>
        cases hfirst : first.truthy with
        | true =>
            rw [truthyRate_of_truthy hfirst] at h
            exact ⟨first, rfl, hfirst, h⟩
        | false =>
            rw [truthyRate_of_falsy hfirst] at h
            exact absurd rfl (increasedRedemptionLimit_ne_zero h)
  · rintro ⟨hrate, first, ⟨⟩, hfirst, hzero⟩
    rw [truthyRate_of_truthy hfirst, limitOr, hzero] at h
    cases h
    exact hrate

/-- The limit of the Hashgraph client is the documented one exactly when the
supplied limit reaches the contract. -/
theorem documentedLimit_iff {operation : RatedOperation} {maxRate : Option Decimalish}
    {limit : Decimal} (h : this.hashgraphLimit operation maxRate = .ok limit) :
    this.documentedLimit operation maxRate = .ok limit ↔ this.LimitReaches operation maxRate := by
  cases operation with
  | openTrove params => exact ⟨fun _ => trivial, fun _ => h⟩
  | adjustTrove params =>
      cases maxRate with
      | none => exact ⟨fun _ => by simp [LimitReaches], fun _ => h⟩
      | some rate =>
          cases hrate : rate.truthy with
          | true =>
              rw [hashgraphLimit, truthyRate_of_truthy hrate] at h
              exact ⟨fun _ => by simp [LimitReaches, hrate], fun _ => h⟩
          | false =>
              rw [hashgraphLimit, truthyRate_of_falsy hrate] at h
              simpa [LimitReaches, hrate, documentedLimit, limitOr] using
                adjustTrove_reaches_iff hrate h
  | borrowHCHF amount =>
      have hcurrent : this.currentBorrowingLimit = .ok limit := h
      cases maxRate with
      | none => exact ⟨fun _ => by simp [LimitReaches], fun _ => h⟩
      | some rate => simp [LimitReaches, documentedLimit, limitOr, hcurrent]
  | redeemHCHF amount =>
      cases maxRate with
      | none => exact ⟨fun _ => by simp [LimitReaches], fun _ => h⟩
      | some rate =>
          cases hrate : rate.truthy with
          | true =>
              rw [hashgraphLimit, truthyRate_of_truthy hrate] at h
              exact ⟨fun _ => by simp [LimitReaches, hrate], fun _ => h⟩
          | false =>
              rw [hashgraphLimit, truthyRate_of_falsy hrate] at h
              obtain ⟨redeemable, _, hlimit⟩ := Result.bind_eq_ok.mp h
              have hne := not_falsy_of_ne_zero hrate (currentRedemptionLimit_ne_zero hlimit)
              simpa [LimitReaches, hrate, documentedLimit, limitOr] using hne
  | increaseAmountByMinimumNetDebt amount original =>
      cases maxRate with
      | none =>
          cases original with
          | none => exact ⟨fun _ => by simp [LimitReaches], fun _ => h⟩
          | some first =>
              cases hfirst : first.truthy with
              | true =>
                  rw [hashgraphLimit, truthyRate_of_truthy hfirst] at h
                  exact ⟨fun _ => by simp [LimitReaches, hfirst], fun _ => h⟩
              | false =>
                  rw [hashgraphLimit, truthyRate_of_falsy hfirst] at h
                  have hne := not_falsy_of_ne_zero hfirst (increasedRedemptionLimit_ne_zero h)
                  simpa [LimitReaches, hfirst, documentedLimit, documentedDefault, limitOr]
                    using hne
      | some rate =>
          cases hrate : rate.truthy with
          | true =>
              rw [hashgraphLimit, truthyRate_of_truthy hrate] at h
              exact ⟨fun _ => by simp [LimitReaches, hrate], fun _ => h⟩
          | false =>
              rw [hashgraphLimit, truthyRate_of_falsy hrate] at h
              simpa [LimitReaches, hrate, documentedLimit, limitOr] using
                increase_reaches_iff hrate h

/-- A call that encodes a limit keeps the documented one when the two agree. -/
theorem keepsLimit_iff {operation : RatedOperation} {maxRate : Option Decimalish}
    {call : ContractCall} {limit : Decimal}
    (h : operation.encodedRate call = some limit.bigNumber) :
    this.KeepsLimit operation maxRate call ↔
      this.documentedLimit operation maxRate = .ok limit := by
  constructor
  · rintro ⟨documented, hdocumented, hencoded⟩
    rw [h] at hencoded
    obtain rfl : limit = documented := Decimal.ext (Option.some.inj hencoded)
    exact hdocumented
  · intro hdocumented
    exact ⟨limit, hdocumented, h⟩

end Population

/-- Every call of the Ethers client encodes the documented limit. A call of the
Hashgraph client does, and encodes the same limit, exactly when the supplied
limit reaches the contract. -/
theorem maximumRate_kept_iff (population : Population constants) (userAccountAddress : String)
    (userAddress : Option String) (operation : RatedOperation) (maxRate : Option Decimalish) :
    (∀ call, PopulatableEthersLiquity.populate ⟨population, userAddress⟩ operation maxRate =
      .ok call → population.KeepsLimit operation maxRate call) ∧
    ∀ call, asPopulatable ⟨population, userAccountAddress⟩ operation maxRate = .ok call →
      (population.KeepsLimit operation maxRate call ↔
        population.LimitReaches operation maxRate) ∧
      ∀ ethersCall, PopulatableEthersLiquity.populate ⟨population, userAddress⟩ operation maxRate =
          .ok ethersCall →
        (operation.encodedRate call = operation.encodedRate ethersCall ↔
          population.LimitReaches operation maxRate) := by
  refine ⟨fun call h => PopulatableEthersLiquity.populate_encodes h, ?_⟩
  intro call h
  obtain ⟨limit, hlimit, hencoded⟩ := HashgraphLiquity.asPopulatable_encodes h
  have hagree := Population.documentedLimit_iff hlimit
  refine ⟨(Population.keepsLimit_iff hencoded).trans hagree, ?_⟩
  intro ethersCall hethers
  obtain ⟨documented, hdocumented, hethersEncoded⟩ :=
    PopulatableEthersLiquity.populate_encodes hethers
  rw [← hagree, hencoded, hethersEncoded]
  constructor
  · intro heq
    obtain rfl : limit = documented := Decimal.ext (Option.some.inj heq)
    exact hdocumented
  · intro hlimit
    obtain rfl : documented = limit := Except.ok.inj (hdocumented.symm.trans hlimit)
    rfl

/-- What is read from the empty chain, with hints that answer every redemption in full. -/
def genesisPopulation : Population defaults where
  readable := genesisChain.readable defaults
  hintContracts := {
    getFirst := addressZero
    getApproxHint := fun _ _ inputRandomSeed => ⟨addressZero, Decimal.zero, inputRandomSeed⟩
    findInsertPosition := fun _ prevId nextId => (prevId, nextId)
    getRedemptionHints := fun query => ⟨addressZero, 0, query.attemptedHCHFAmount⟩ }
  randomInteger := 0

/-- An adjustment that borrows 100 HCHF. -/
def borrowHundred : RatedOperation :=
  .adjustTrove [("borrowHCHF", some (.string ['1', '0', '0']))]

/-- A limit of two percent, where the default is one, reaches the contract with an
adjustment. -/
theorem maximumRate_kept_twoPercent :
    ∃ call, asPopulatable ⟨genesisPopulation, "0xd"⟩ borrowHundred
        (some (.string ['0', '.', '0', '2'])) = .ok call ∧
      borrowHundred.encodedRate call = some 2000000 ∧
      genesisPopulation.KeepsLimit borrowHundred (some (.string ['0', '.', '0', '2'])) call :=
  ⟨_, rfl, rfl, (((maximumRate_kept_iff genesisPopulation "0xd" none borrowHundred
    (some (.string ['0', '.', '0', '2']))).2 _ rfl).1.mpr fun rate hrate => by
      cases hrate
      exact .inl rfl)⟩

/-- A limit of zero is dropped by an adjustment, and a limit of 0.75 % by a loan:
both encode one percent. -/
theorem maximumRate_dropped :
    (∃ call, asPopulatable ⟨genesisPopulation, "0xd"⟩ borrowHundred (some (.number ['0'])) =
        .ok call ∧ borrowHundred.encodedRate call = some 1000000 ∧
      ¬ genesisPopulation.KeepsLimit borrowHundred (some (.number ['0'])) call) ∧
    ∃ call, asPopulatable ⟨genesisPopulation, "0xd"⟩ (.borrowHCHF (.string ['1', '0', '0']))
        (some (.string ['0', '.', '0', '0', '7', '5'])) = .ok call ∧
      RatedOperation.encodedRate (.borrowHCHF (.string ['1', '0', '0'])) call = some 1000000 ∧
      ¬ genesisPopulation.KeepsLimit (.borrowHCHF (.string ['1', '0', '0']))
        (some (.string ['0', '.', '0', '0', '7', '5'])) call := by
  refine ⟨⟨_, rfl, by decide, ?_⟩, _, rfl, by decide, ?_⟩
  · rintro ⟨limit, hlimit, hencoded⟩
    have hsupplied : Decimal.from (.number ['0']) = .ok Decimal.zero := by decide
    obtain rfl : Decimal.zero = limit := Except.ok.inj (hsupplied.symm.trans hlimit)
    revert hencoded
    decide
  · rintro ⟨limit, hlimit, hencoded⟩
    have hsupplied : Decimal.from (.string ['0', '.', '0', '0', '7', '5']) = .ok ⟨750000⟩ := by
      decide
    obtain rfl : ⟨750000⟩ = limit := Except.ok.inj (hsupplied.symm.trans hlimit)
    revert hencoded
    decide

end HLiquity
