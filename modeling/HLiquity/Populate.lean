import HLiquity.Population
import HLiquity.StoreFetch
import HLiquity.TroveChange

/-!
# Populating transactions

The two clients implement one interface. The Hashgraph client is exposed
through `asPopulatable`, which binds each method to its place in the interface
without regard to the positions of its optional parameters.
-/

namespace HLiquity

variable {constants : Constants}

/-- The client with its account. -/
structure HashgraphLiquity (constants : Constants) extends Population constants where
  userAccountAddress : String

structure TransactionOptions where
  «from» : Option String

namespace HashgraphLiquity

variable (this : HashgraphLiquity constants)

/-- `getAddressOrUserAddress` -/
def getAddressOrUserAddress (address : Option String) : String :=
  (configured address).getD this.userAccountAddress

def findHintsForNominalCollateralRatio (nominalCollateralRatio : Decimal) : String × String :=
  this.toPopulation.findHintsForNominalCollateralRatio latestRandomSeed nominalCollateralRatio

def populateOpenTrove (params : ParamsRecord) (maxBorrowingRate : Option Decimalish) :
    Result ContractCall := do
  let normalized ← normalizeTroveCreation params
  let fees ← this.readable.getFees
  let borrowingRate ← fees.borrowingRate none
  let newTrove : Trove constants ← Trove.create normalized.ofDecimal (some borrowingRate)
  let finalMaxBorrowingRate ←
    limitOr maxBorrowingRate (.ok (borrowingRate.add defaultBorrowingRateSlippageTolerance))
  let hints := this.findHintsForNominalCollateralRatio newTrove.nominalCollateralRatio
  let hbar ← normalized.depositCollateral.toString none
  return {
    contract := .borrowerOperations
    functionName := "openTrove"
    arguments := [.uint256 finalMaxBorrowingRate.bigNumber,
      .uint256 normalized.borrowHCHF.bigNumber, .address hints.1, .address hints.2]
    value := some hbar }

/-- The rate is fetched only to borrow. The adjusted trove is never one with
pending redistribution, which the source rejects here. -/
def populateAdjustTrove (params : ParamsRecord) (maxBorrowingRate : Option Decimalish)
    (options : Option TransactionOptions) : Result ContractCall := do
  let address := this.getAddressOrUserAddress (options.bind (·.from))
  let normalized ← normalizeTroveAdjustment params
  let trove ← this.readable.getTrove address
  let fees ← normalized.borrowHCHF.mapM fun _ => this.readable.getFees
  let borrowingRate ← fees.mapM (·.borrowingRate none)
  let finalTrove ← trove.toTrove.adjust normalized.ofDecimal borrowingRate
  let finalMaxBorrowingRate ← limitOr (truthyRate maxBorrowingRate)
    (match borrowingRate with
      | some borrowingRate => .ok (borrowingRate.add defaultBorrowingRateSlippageTolerance)
      | none => .ok Decimal.zero)
  let hints := this.findHintsForNominalCollateralRatio finalTrove.nominalCollateralRatio
  let hbar ← normalized.depositCollateral.mapM (·.toString none)
  return {
    contract := .borrowerOperations
    functionName := "adjustTrove"
    arguments := [.uint256 finalMaxBorrowingRate.bigNumber,
      .uint256 (normalized.withdrawCollateral.getD Decimal.zero).bigNumber,
      .uint256 ((normalized.borrowHCHF <|> normalized.repayHCHF).getD Decimal.zero).bigNumber,
      .bool normalized.borrowHCHF.isSome, .address hints.1, .address hints.2]
    value := hbar }

def populateBorrowHCHF (amount : Decimalish) (options : Option TransactionOptions) :
    Result ContractCall :=
  this.populateAdjustTrove [("borrowHCHF", some amount)] none options

/-- The count is passed through `Decimal.from`. -/
def populateLiquidateUpTo (maximumNumberOfTrovesToLiquidate : Nat) : Result ContractCall := do
  let maximum ← Decimal.from (.number (numberText maximumNumberOfTrovesToLiquidate))
  return {
    contract := .troveManager
    functionName := "liquidateTroves"
    arguments := [.uint256 maximum.bigNumber]
    value := none }

/-- The inner `populateRedemption`. The number of iterations is passed through
`Decimal.from`. -/
def populateRedemption (context : RedemptionContext constants) (attemptedHCHFAmount : Decimal)
    (maxRedemptionRate : Option Decimal) (truncatedAmount : Decimal)
    (partialRedemptionUpperHint partialRedemptionLowerHint : String)
    (partialRedemptionHintNICR : Decimal) : Result (PopulatedRedemption constants Decimal) := do
  let maxRedemptionRateOrDefault ← limitOr (maxRedemptionRate.map .decimal)
    (context.defaultMaxRedemptionRate truncatedAmount)
  let maxIterations ← Decimal.from (.number (numberText redeemMaxIterations))
  return {
    context, attemptedHCHFAmount, maxRedemptionRate
    rawPopulatedTransaction := {
      contract := .troveManager
      functionName := "redeemCollateral"
      arguments := [.uint256 truncatedAmount.bigNumber, .address context.firstRedemptionHint,
        .address partialRedemptionUpperHint, .address partialRedemptionLowerHint,
        .uint256 partialRedemptionHintNICR.bigNumber, .uint256 maxIterations.bigNumber,
        .uint256 maxRedemptionRateOrDefault.bigNumber]
      value := none }
    redeemableHCHFAmount := truncatedAmount }

def populateRedeemHCHF (amount : Decimalish) (maxRedemptionRate : Option Decimalish) :
    Result (PopulatedRedemption constants Decimal) := do
  let attemptedHCHFAmount ← Decimal.from amount
  let fees ← this.readable.getFees
  let query : RedemptionHintsQuery :=
    ⟨attemptedHCHFAmount.bigNumber, this.readable.getPrice.bigNumber, redeemMaxIterations⟩
  let redemptionHints := this.hintContracts.getRedemptionHints query
  let partialRedemptionHintNICR := decimalify redemptionHints.partialRedemptionHintNICR
  let partialHints :=
    this.findPartialRedemptionHints latestRandomSeed partialRedemptionHintNICR
  let truncatedAmount := decimalify redemptionHints.truncatedHCHFamount
  if truncatedAmount.isZero then amountTooLow constants
  else
    let maxRedemptionRate ← (truthyRate maxRedemptionRate).mapM Decimal.from
    populateRedemption
      ⟨fees, this.readable.getTotal, query, redemptionHints.firstRedemptionHint⟩
      attemptedHCHFAmount maxRedemptionRate truncatedAmount partialHints.1 partialHints.2
      partialRedemptionHintNICR

/-- `increaseAmountByMinimumNetDebt` of a populated redemption. -/
def increaseAmountByMinimumNetDebt (this : PopulatedRedemption constants Decimal)
    (newMaxRedemptionRate : Option Decimalish) :
    Result (PopulatedRedemption constants Decimal) :=
  if this.isTruncated then do
    let newMaxRedemptionRate ← (truthyRate newMaxRedemptionRate).mapM Decimal.from
    let increasedAmount := this.redeemableHCHFAmount.add constants.hchfMinimumNetDebt
    populateRedemption this.context increasedAmount
      (newMaxRedemptionRate <|> this.maxRedemptionRate) increasedAmount addressZero addressZero
      Decimal.zero
  else
    .error (.error ("PopulatedRedemption: increaseAmountByMinimumNetDebt() can only be called " ++
      "when amount is truncated"))

end HashgraphLiquity

/-- The client with the address of its connection. -/
structure PopulatableEthersLiquity (constants : Constants) extends Population constants where
  userAddress : Option String

structure EthersTransactionOverrides where
  «from» : Option String

namespace PopulatableEthersLiquity

variable (this : PopulatableEthersLiquity constants)

/-- `_requireAddress` -/
def requireAddress (overrides : Option EthersTransactionOverrides) : Result String :=
  match overrides.bind (·.from) <|> this.userAddress with
  | some address => .ok address
  | none => .error (.error "A user address is required")

/-- `_findHintsForNominalCollateralRatio` -/
def findHintsForNominalCollateralRatio (nominalCollateralRatio : Decimal) : String × String :=
  this.toPopulation.findHintsForNominalCollateralRatio latestRandomSeed nominalCollateralRatio

def openTrove (params : ParamsRecord) (maxBorrowingRate : Option Decimalish) :
    Result ContractCall := do
  let normalized ← normalizeTroveCreation params
  let fees ← this.readable.getFees
  let borrowingRate ← fees.borrowingRate none
  let newTrove : Trove constants ← Trove.create normalized.ofDecimal (some borrowingRate)
  let maxBorrowingRate ←
    limitOr maxBorrowingRate (.ok (borrowingRate.add defaultBorrowingRateSlippageTolerance))
  let hints := this.findHintsForNominalCollateralRatio newTrove.nominalCollateralRatio
  let value ← normalized.depositCollateral.toString none
  return {
    contract := .borrowerOperations
    functionName := "openTrove"
    arguments := [.uint256 maxBorrowingRate.bigNumber, .uint256 normalized.borrowHCHF.bigNumber,
      .address hints.1, .address hints.2]
    value := some value }

def adjustTrove (params : ParamsRecord) (maxBorrowingRate : Option Decimalish)
    (overrides : Option EthersTransactionOverrides) : Result ContractCall := do
  let address ← this.requireAddress overrides
  let normalized ← normalizeTroveAdjustment params
  let trove ← this.readable.getTrove address
  let fees ← normalized.borrowHCHF.mapM fun _ => this.readable.getFees
  let borrowingRate ← fees.mapM (·.borrowingRate none)
  let finalTrove ← trove.toTrove.adjust normalized.ofDecimal borrowingRate
  let maxBorrowingRate ← limitOr maxBorrowingRate
    (.ok ((borrowingRate.map (·.add defaultBorrowingRateSlippageTolerance)).getD Decimal.zero))
  let hints := this.findHintsForNominalCollateralRatio finalTrove.nominalCollateralRatio
  let value ← normalized.depositCollateral.mapM (·.toString none)
  return {
    contract := .borrowerOperations
    functionName := "adjustTrove"
    arguments := [.uint256 maxBorrowingRate.bigNumber,
      .uint256 (normalized.withdrawCollateral.getD Decimal.zero).bigNumber,
      .uint256 ((normalized.borrowHCHF <|> normalized.repayHCHF).getD Decimal.zero).bigNumber,
      .bool normalized.borrowHCHF.isSome, .address hints.1, .address hints.2]
    value }

def borrowHCHF (amount : Decimalish) (maxBorrowingRate : Option Decimalish)
    (overrides : Option EthersTransactionOverrides) : Result ContractCall :=
  this.adjustTrove [("borrowHCHF", some amount)] maxBorrowingRate overrides

/-- The count is passed as it is. -/
def liquidateUpTo (maximumNumberOfTrovesToLiquidate : Nat) : ContractCall where
  contract := .troveManager
  functionName := "liquidateTroves"
  arguments := [.uint256 maximumNumberOfTrovesToLiquidate]
  value := none

/-- The inner `populateRedemption`. -/
def populateRedemption (context : RedemptionContext constants) (attemptedHCHFAmount : Decimal)
    (maxRedemptionRate : Option Decimalish) (truncatedAmount : Decimal)
    (partialHints : String × String × Nat) : Result (PopulatedRedemption constants Decimalish) := do
  let maxRedemptionRateOrDefault ←
    limitOr maxRedemptionRate (context.defaultMaxRedemptionRate truncatedAmount)
  return {
    context, attemptedHCHFAmount, maxRedemptionRate
    rawPopulatedTransaction := {
      contract := .troveManager
      functionName := "redeemCollateral"
      arguments := [.uint256 truncatedAmount.bigNumber, .address context.firstRedemptionHint,
        .address partialHints.1, .address partialHints.2.1, .uint256 partialHints.2.2,
        .uint256 redeemMaxIterations, .uint256 maxRedemptionRateOrDefault.bigNumber]
      value := none }
    redeemableHCHFAmount := truncatedAmount }

/-- `redeemHCHF`, with `_findRedemptionHints` in its place. -/
def redeemHCHF (amount : Decimalish) (maxRedemptionRate : Option Decimalish) :
    Result (PopulatedRedemption constants Decimalish) := do
  let attemptedHCHFAmount ← Decimal.from amount
  let fees ← this.readable.getFees
  let query : RedemptionHintsQuery :=
    ⟨attemptedHCHFAmount.bigNumber, this.readable.getPrice.bigNumber, redeemMaxIterations⟩
  let redemptionHints := this.hintContracts.getRedemptionHints query
  let partialHints := this.findPartialRedemptionHints latestRandomSeed
    (decimalify redemptionHints.partialRedemptionHintNICR)
  let truncatedAmount := decimalify redemptionHints.truncatedHCHFamount
  if truncatedAmount.isZero then amountTooLow constants
  else
    populateRedemption
      ⟨fees, this.readable.getTotal, query, redemptionHints.firstRedemptionHint⟩
      attemptedHCHFAmount maxRedemptionRate truncatedAmount
      (partialHints.1, partialHints.2, redemptionHints.partialRedemptionHintNICR)

/-- `increaseAmountByMinimumNetDebt` of a populated redemption. -/
def increaseAmountByMinimumNetDebt (this : PopulatedRedemption constants Decimalish)
    (newMaxRedemptionRate : Option Decimalish) :
    Result (PopulatedRedemption constants Decimalish) :=
  if this.isTruncated then
    let increasedAmount := this.redeemableHCHFAmount.add constants.hchfMinimumNetDebt
    populateRedemption this.context increasedAmount
      (newMaxRedemptionRate <|> this.maxRedemptionRate) increasedAmount
      (addressZero, addressZero, 0)
  else
    .error (.error ("PopulatedEthersRedemption: increaseAmountByMinimumNetDebt() can only be " ++
      "called when amount is truncated"))

end PopulatableEthersLiquity

end HLiquity
