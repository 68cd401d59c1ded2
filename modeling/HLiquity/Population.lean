import HLiquity.Chain
import HLiquity.Library.SignificantBits
import HLiquity.NumberText

/-!
# What a transaction is populated from

Both clients populate a transaction from the same getters and search their
hints in the same contracts. A populated transaction is kept as its contract
call, with the texts and numbers that stand for integers read as those
integers. No argument depends on the gas, which is left out.
-/

namespace HLiquity

/-- An argument of a contract call. -/
inductive Argument where
  | uint256 (value : Nat)
  | address (address : String)
  | bool (value : Bool)
  deriving DecidableEq, Repr

inductive LiquityContract where
  | borrowerOperations
  | troveManager
  deriving DecidableEq, Repr

/-- The call of a raw populated transaction, and the text of the amount that is
sent along with it, if any. -/
structure ContractCall where
  contract : LiquityContract
  functionName : String
  arguments : List Argument
  value : Option Text
  deriving DecidableEq, Repr

/-- The getters that are read. -/
structure ReadableLiquity (constants : Constants) where
  getFees : Result (Fees constants)
  getTrove : String → Result (UserTrove constants)
  getTotal : Trove constants
  getPrice : Decimal
  getNumberOfTroves : Nat

/-- The getters at a chain state. -/
def ChainState.readable (constants : Constants) (chain : ChainState) :
    ReadableLiquity constants where
  getFees := Fees.new (decimalify chain.troveManager.baseRate) constants.minuteDecayFactor
    constants.beta (convertToDate chain.troveManager.lastFeeOperationTime)
    (convertToDate chain.blockTimestamp)
    ((chain.getTotal constants).collateralRatioIsBelowCritical chain.getPrice)
  getTrove address := (chain.getTroveBeforeRedistribution constants address).applyRedistribution
    (chain.getTotalRedistributed constants)
  getTotal := chain.getTotal constants
  getPrice := chain.getPrice
  getNumberOfTroves := chain.getNumberOfTroves

/-- The answer of `getApproxHint`. -/
structure ApproxHint where
  hintAddress : String
  diff : Decimal
  latestRandomSeed : Nat
  deriving DecidableEq, Repr

/-- The arguments of `getRedemptionHints`. -/
structure RedemptionHintsQuery where
  attemptedHCHFAmount : Nat
  price : Nat
  maxIterations : Nat
  deriving DecidableEq, Repr

/-- The answer of `getRedemptionHints`. -/
structure RedemptionHints where
  firstRedemptionHint : String
  partialRedemptionHintNICR : Nat
  truncatedHCHFamount : Nat
  deriving DecidableEq, Repr

/-- The contracts that hints are searched in. -/
structure HintContracts where
  getFirst : String
  getApproxHint : (nominalCollateralRatio numTrials inputRandomSeed : Nat) → ApproxHint
  findInsertPosition : (nominalCollateralRatio : Nat) → (prevId nextId : String) → String × String
  getRedemptionHints : RedemptionHintsQuery → RedemptionHints

/-- What both clients populate from. -/
structure Population (constants : Constants) where
  readable : ReadableLiquity constants
  hintContracts : HintContracts
  randomInteger : Nat

def maxNumberOfTrialsAtOnce : Nat := 2500

/-- `generateTrials` -/
def generateTrials (totalNumberOfTrials : Nat) : List Nat :=
  if totalNumberOfTrials = 0 then []
  else
    let numberOfTrials := min totalNumberOfTrials maxNumberOfTrialsAtOnce
    numberOfTrials :: generateTrials (totalNumberOfTrials - numberOfTrials)
  termination_by totalNumberOfTrials
  decreasing_by
    simp only [maxNumberOfTrialsAtOnce]
    omega

/-- `parseInt` of a text of digits: a number of 53 significant bits. -/
def parseInt (text : Text) : Nat := SignificantBits.nearest 53 (Decimal.bigNumberFrom text)

/-- The Hashgraph client reads a returned seed as a number. -/
def HashgraphLiquity.latestRandomSeed (latestRandomSeed : Nat) : Nat :=
  parseInt (Nat.toDigits 10 latestRandomSeed)

/-- The Ethers client passes a returned seed on. -/
def PopulatableEthersLiquity.latestRandomSeed (latestRandomSeed : Nat) : Nat := latestRandomSeed

/-- `Math.ceil(10 * Math.sqrt(numberOfTroves))` -/
def totalNumberOfTrials (numberOfTroves : Nat) : Nat :=
  let root := Nat.sqrt (100 * numberOfTroves)
  if root * root = 100 * numberOfTroves then root else root + 1

namespace Population

variable {constants : Constants} (this : Population constants)

section Hints

variable (latestRandomSeed : Nat → Nat)

/-- `collectApproxHint`, on the latest seed and the results so far. -/
def collectApproxHint (nominalCollateralRatio : Decimal) (state : Nat × List ApproxHint)
    (numberOfTrials : Nat) : Nat × List ApproxHint :=
  let result := this.hintContracts.getApproxHint nominalCollateralRatio.bigNumber numberOfTrials
    state.1
  (latestRandomSeed result.latestRandomSeed, state.2 ++ [result])

/-- The reduction to the result that is closest. -/
def closer (a b : ApproxHint) : ApproxHint := if a.diff.lt b.diff then a else b

/-- `findHintsForNominalCollateralRatio`, with what a client reads of a seed. There is a trial as
soon as there is a trove, so the reduction has a result to start from. -/
def findHintsForNominalCollateralRatio (nominalCollateralRatio : Decimal) : String × String :=
  if this.readable.getNumberOfTroves = 0 then (addressZero, addressZero)
  else if nominalCollateralRatio.infinite.isSome then (addressZero, this.hintContracts.getFirst)
  else
    let trials := generateTrials (totalNumberOfTrials this.readable.getNumberOfTroves)
    let (_, results) :=
      trials.foldl (this.collectApproxHint latestRandomSeed nominalCollateralRatio)
        (this.randomInteger, [])
    match results with
    | [] => (addressZero, addressZero)
    | first :: rest =>
        let hintAddress := (rest.foldl closer first).hintAddress
        this.hintContracts.findInsertPosition nominalCollateralRatio.bigNumber hintAddress
          hintAddress

/-- The hints of a partial redemption, if there is one. -/
def findPartialRedemptionHints (partialRedemptionHintNICR : Decimal) : String × String :=
  if partialRedemptionHintNICR.eq Decimal.zero then (addressZero, addressZero)
  else this.findHintsForNominalCollateralRatio latestRandomSeed partialRedemptionHintNICR

end Hints

end Population

/-- `defaultBorrowingRateSlippageTolerance` -/
def defaultBorrowingRateSlippageTolerance : Decimal := ⟨500000⟩

/-- `defaultRedemptionRateSlippageTolerance` -/
def defaultRedemptionRateSlippageTolerance : Decimal := ⟨100000⟩

/-- `redeemMaxIterations` -/
def redeemMaxIterations : Nat := 70

/-- An optional rate as a condition of the language takes it. -/
def truthyRate (rate : Option Decimalish) : Option Decimalish := rate.filter Decimalish.truthy

/-- The limit that is asked for, or else the default one. -/
def limitOr (rate : Option Decimalish) (default : Result Decimal) : Result Decimal :=
  match rate with
  | some rate => Decimal.from rate
  | none => default

/-- What a population of a redemption has read, and the query that its hints
answer. -/
structure RedemptionContext (constants : Constants) where
  fees : Fees constants
  total : Trove constants
  query : RedemptionHintsQuery
  firstRedemptionHint : String

/-- A populated redemption with the limit it was asked for. -/
structure PopulatedRedemption (constants : Constants) (Rate : Type) where
  context : RedemptionContext constants
  rawPopulatedTransaction : ContractCall
  attemptedHCHFAmount : Decimal
  maxRedemptionRate : Option Rate
  redeemableHCHFAmount : Decimal

/-- `isTruncated` -/
def PopulatedRedemption.isTruncated {constants : Constants} {Rate : Type}
    (this : PopulatedRedemption constants Rate) : Bool :=
  this.redeemableHCHFAmount.lt this.attemptedHCHFAmount

/-- `defaultMaxRedemptionRate` -/
def RedemptionContext.defaultMaxRedemptionRate {constants : Constants}
    (this : RedemptionContext constants) (amount : Decimal) : Result Decimal := do
  let redemptionRate ← this.fees.redemptionRate (amount.div this.total.debt) none
  return Decimal.min (redemptionRate.add defaultRedemptionRateSlippageTolerance) Decimal.one

/-- The throw of an amount that is too low to redeem. -/
def amountTooLow {α : Type} (constants : Constants) : Result α := do
  let text ← constants.hchfMinimumNetDebt.toString none
  throw (.error
    ("redeemHCHF: amount too low to redeem (try at least " ++ String.ofList text ++ ")"))

end HLiquity
