import HLiquity.HintTrials
import HLiquity.IterationCounts
import HLiquity.MaximumRates
import HLiquity.TroveRoundTrip

/-!
# The agreement of the two clients

Both clients implement every operation of one interface. Populated from the same state for the same
user they make the same call, up to the limits and the counts that only one of them passes on. The
seeds of a hint search, which only one of them reads as numbers, can lead them to different hints.
-/

namespace HLiquity

variable {constants : Constants}

inductive ClientContract where
  | liquity (contract : LiquityContract)
  | stabilityPool
  | hlqtStaking
  | saucerSwapPool
  | uniToken
  | priceFeed
  deriving DecidableEq, Repr

inductive ClientArgument where
  | single (argument : Argument)
  | addresses (addresses : List String)
  deriving DecidableEq, Repr

structure ClientCall where
  contract : ClientContract
  functionName : String
  arguments : List ClientArgument
  value : Option Text
  deriving DecidableEq, Repr

def ContractCall.asClientCall (call : ContractCall) : ClientCall :=
  ⟨.liquity call.contract, call.functionName, call.arguments.map .single, call.value⟩

/-- A call that sends no amount along. -/
def plainCall (contract : ClientContract) (functionName : String)
    (arguments : List ClientArgument) : ClientCall :=
  ⟨contract, functionName, arguments, none⟩

/-- A call with one amount as its argument. -/
def amountCall (contract : ClientContract) (functionName : String) (amount : Decimalish) :
    Result ClientCall := do
  let amount ← Decimal.from amount
  return plainCall contract functionName [.single (.uint256 amount.bigNumber)]

/-- What the application gives to either client. -/
structure ClientState (constants : Constants) extends Population constants where
  getStabilityDeposit : String → Result StabilityDeposit
  userAddress : String
  frontendTag : String
  saucerSwapPoolAddress : String
  priceFeedIsTestnet : Bool

/-- The operations of the interface. A list of addresses is liquidated at once. -/
inductive LiquityOperation where
  | rated (operation : RatedOperation) (maxRate : Option Decimalish)
  | closeTrove
  | depositCollateral (amount : Decimalish)
  | withdrawCollateral (amount : Decimalish)
  | repayHCHF (amount : Decimalish)
  | setPrice (price : Decimalish)
  | claimCollateralSurplus
  | liquidate (address : String)
  | batchLiquidate (addresses : List String)
  | liquidateUpTo (maximumNumberOfTrovesToLiquidate : Nat)
  | depositHCHFInStabilityPool (amount : Decimalish) (frontendTag : Option String)
  | withdrawHCHFFromStabilityPool (amount : Decimalish)
  | withdrawGainsFromStabilityPool
  | transferCollateralGainToTrove
  | stakeHLQT (amount : Decimalish)
  | unstakeHLQT (amount : Decimalish)
  | withdrawGainsFromStaking
  | registerFrontend (kickbackRate : Decimalish)
  | approveUniTokens (allowance : Option Decimalish)
  | stakeUniTokens (amount : Decimalish)
  | unstakeUniTokens (amount : Decimalish)
  | withdrawHLQTRewardFromLiquidityMining
  | exitLiquidityMining

namespace HashgraphLiquity

variable (this : HashgraphLiquity constants)

def populateCloseTrove : ContractCall where
  contract := .borrowerOperations
  functionName := "closeTrove"
  arguments := []
  value := none

def populateDepositCollateral (amount : Decimalish) (options : Option TransactionOptions) :
    Result ContractCall :=
  this.populateAdjustTrove [("depositCollateral", some amount)] none options

def populateWithdrawCollateral (amount : Decimalish) (options : Option TransactionOptions) :
    Result ContractCall :=
  this.populateAdjustTrove [("withdrawCollateral", some amount)] none options

def populateRepayHCHF (amount : Decimalish) (options : Option TransactionOptions) :
    Result ContractCall :=
  this.populateAdjustTrove [("repayHCHF", some amount)] none options

/-- The price cannot be set at all. -/
def populateSetPrice (_ : Decimalish) : Result ClientCall :=
  .error (.error ("setPrice() is not implemented. amend HashgraphLiquity::populateSetPrice to " ++
    "implement it."))

def populateClaimCollateralSurplus : ClientCall :=
  plainCall (.liquity .borrowerOperations) "claimCollateral" []

/-- `populateLiquidate` of one address. -/
def populateLiquidate (address : String) : ClientCall :=
  plainCall (.liquity .troveManager) "liquidate" [.single (.address address)]

/-- `populateLiquidate` of an array of addresses. -/
def populateBatchLiquidate (addresses : List String) : ClientCall :=
  plainCall (.liquity .troveManager) "batchLiquidateTroves" [.addresses addresses]

def populateDepositHCHFInStabilityPool (frontendAddress : String) (amount : Decimalish)
    (frontendTag : Option String) : Result ClientCall := do
  let amount ← Decimal.from amount
  return plainCall .stabilityPool "provideToSP"
    [.single (.uint256 amount.bigNumber), .single (.address (frontendTag.getD frontendAddress))]

def populateWithdrawHCHFFromStabilityPool (amount : Decimalish) : Result ClientCall :=
  amountCall .stabilityPool "withdrawFromSP" amount

/-- The number zero is passed through `Decimal.from`. -/
def populateWithdrawGainsFromStabilityPool : Result ClientCall :=
  amountCall .stabilityPool "withdrawFromSP" (.number ['0'])

/-- The trove is never one with pending redistribution, which the source rejects here. -/
def populateTransferCollateralGainToTrove
    (getStabilityDeposit : String → Result StabilityDeposit)
    (options : Option TransactionOptions) : Result ClientCall := do
  let address := this.getAddressOrUserAddress (options.bind (·.from))
  let initialTrove ← this.readable.getTrove address
  let stabilityDeposit ← getStabilityDeposit address
  let finalTrove := initialTrove.toTrove.addCollateral stabilityDeposit.collateralGain
  let hints := this.findHintsForNominalCollateralRatio finalTrove.nominalCollateralRatio
  return plainCall .stabilityPool "withdrawETHGainToTrove"
    [.single (.address hints.1), .single (.address hints.2)]

def populateStakeHLQT (amount : Decimalish) : Result ClientCall :=
  amountCall .hlqtStaking "stake" amount

def populateUnstakeHLQT (amount : Decimalish) : Result ClientCall :=
  amountCall .hlqtStaking "unstake" amount

def populateWithdrawGainsFromStaking : Result ClientCall :=
  populateUnstakeHLQT (.decimal Decimal.zero)

def populateRegisterFrontend (kickbackRate : Decimalish) : Result ClientCall :=
  amountCall .stabilityPool "registerFrontEnd" kickbackRate

/-- An allowance that is not truthy is rejected. -/
def populateApproveUniTokens (saucerSwapPoolAddress : String) (allowance : Option Decimalish) :
    Result ClientCall :=
  match truthyRate allowance with
  | none =>
      .error (.error "infinite approvals are disallowed. pass an allowance value to approve.")
  | some allowance => do
      let allowance ← Decimal.from allowance
      return plainCall .uniToken "approve"
        [.single (.address saucerSwapPoolAddress), .single (.uint256 allowance.bigNumber)]

def populateStakeUniTokens (amount : Decimalish) : Result ClientCall :=
  amountCall .saucerSwapPool "stake" amount

def populateUnstakeUniTokens (amount : Decimalish) : Result ClientCall :=
  amountCall .saucerSwapPool "withdraw" amount

def populateWithdrawHLQTRewardFromLiquidityMining : ClientCall :=
  plainCall .saucerSwapPool "claimReward" []

def populateExitLiquidityMining : ClientCall :=
  plainCall .saucerSwapPool "withdrawAndClaim" []

end HashgraphLiquity

namespace PopulatableEthersLiquity

variable (this : PopulatableEthersLiquity constants)

def closeTrove : ContractCall where
  contract := .borrowerOperations
  functionName := "closeTrove"
  arguments := []
  value := none

def depositCollateral (amount : Decimalish) (overrides : Option EthersTransactionOverrides) :
    Result ContractCall :=
  this.adjustTrove [("depositCollateral", some amount)] none overrides

def withdrawCollateral (amount : Decimalish) (overrides : Option EthersTransactionOverrides) :
    Result ContractCall :=
  this.adjustTrove [("withdrawCollateral", some amount)] none overrides

def repayHCHF (amount : Decimalish) (overrides : Option EthersTransactionOverrides) :
    Result ContractCall :=
  this.adjustTrove [("repayHCHF", some amount)] none overrides

def setPrice (priceFeedIsTestnet : Bool) (price : Decimalish) : Result ClientCall :=
  if priceFeedIsTestnet then amountCall .priceFeed "setPrice" price
  else .error (.error "setPrice() unavailable on this deployment of Liquity")

def claimCollateralSurplus : ClientCall :=
  plainCall (.liquity .borrowerOperations) "claimCollateral" []

/-- `liquidate` of one address. -/
def liquidate (address : String) : ClientCall :=
  plainCall (.liquity .troveManager) "liquidate" [.single (.address address)]

/-- `liquidate` of an array of addresses. -/
def batchLiquidate (addresses : List String) : ClientCall :=
  plainCall (.liquity .troveManager) "batchLiquidateTroves" [.addresses addresses]

def depositHCHFInStabilityPool (connectionFrontendTag : String) (amount : Decimalish)
    (frontendTag : Option String) : Result ClientCall := do
  let depositHCHF ← Decimal.from amount
  return plainCall .stabilityPool "provideToSP" [.single (.uint256 depositHCHF.bigNumber),
    .single (.address (frontendTag.getD connectionFrontendTag))]

def withdrawHCHFFromStabilityPool (amount : Decimalish) : Result ClientCall :=
  amountCall .stabilityPool "withdrawFromSP" amount

def withdrawGainsFromStabilityPool : ClientCall :=
  plainCall .stabilityPool "withdrawFromSP" [.single (.uint256 Decimal.zero.bigNumber)]

def transferCollateralGainToTrove (getStabilityDeposit : String → Result StabilityDeposit)
    (overrides : Option EthersTransactionOverrides) : Result ClientCall := do
  let address ← this.requireAddress overrides
  let initialTrove ← this.readable.getTrove address
  let stabilityDeposit ← getStabilityDeposit address
  let finalTrove := initialTrove.toTrove.addCollateral stabilityDeposit.collateralGain
  let hints := this.findHintsForNominalCollateralRatio finalTrove.nominalCollateralRatio
  return plainCall .stabilityPool "withdrawETHGainToTrove"
    [.single (.address hints.1), .single (.address hints.2)]

def stakeHLQT (amount : Decimalish) : Result ClientCall :=
  amountCall .hlqtStaking "stake" amount

def unstakeHLQT (amount : Decimalish) : Result ClientCall :=
  amountCall .hlqtStaking "unstake" amount

def withdrawGainsFromStaking : Result ClientCall := unstakeHLQT (.decimal Decimal.zero)

def registerFrontend (kickbackRate : Decimalish) : Result ClientCall :=
  amountCall .stabilityPool "registerFrontEnd" kickbackRate

/-- Without an allowance, the whole balance is approved. -/
def approveUniTokens (saucerSwapPoolAddress : String) (allowance : Option Decimalish) :
    Result ClientCall := do
  let allowance ← Decimal.from (allowance.getD (.decimal Decimal.infinity))
  return plainCall .uniToken "approve"
    [.single (.address saucerSwapPoolAddress), .single (.uint256 allowance.bigNumber)]

def stakeUniTokens (amount : Decimalish) : Result ClientCall :=
  amountCall .saucerSwapPool "stake" amount

def unstakeUniTokens (amount : Decimalish) : Result ClientCall :=
  amountCall .saucerSwapPool "withdraw" amount

def withdrawHLQTRewardFromLiquidityMining : ClientCall :=
  plainCall .saucerSwapPool "claimReward" []

def exitLiquidityMining : ClientCall := plainCall .saucerSwapPool "withdrawAndClaim" []

end PopulatableEthersLiquity

namespace ClientState

variable (this : ClientState constants)

/-- The operation through `asPopulatable` of the Hashgraph client. -/
def hashgraphCall (operation : LiquityOperation) : Result ClientCall :=
  let client : HashgraphLiquity constants := ⟨this.toPopulation, this.userAddress⟩
  match operation with
  | .rated operation maxRate =>
      return (← HLiquity.asPopulatable client operation maxRate).asClientCall
  | .closeTrove => return HashgraphLiquity.populateCloseTrove.asClientCall
  | .depositCollateral amount =>
      return (← client.populateDepositCollateral amount none).asClientCall
  | .withdrawCollateral amount =>
      return (← client.populateWithdrawCollateral amount none).asClientCall
  | .repayHCHF amount => return (← client.populateRepayHCHF amount none).asClientCall
  | .setPrice price => HashgraphLiquity.populateSetPrice price
  | .claimCollateralSurplus => return HashgraphLiquity.populateClaimCollateralSurplus
  | .liquidate address => return HashgraphLiquity.populateLiquidate address
  | .batchLiquidate addresses => return HashgraphLiquity.populateBatchLiquidate addresses
  | .liquidateUpTo maximum =>
      return (← HashgraphLiquity.populateLiquidateUpTo maximum).asClientCall
  | .depositHCHFInStabilityPool amount frontendTag =>
      HashgraphLiquity.populateDepositHCHFInStabilityPool this.frontendTag amount frontendTag
  | .withdrawHCHFFromStabilityPool amount =>
      HashgraphLiquity.populateWithdrawHCHFFromStabilityPool amount
  | .withdrawGainsFromStabilityPool => HashgraphLiquity.populateWithdrawGainsFromStabilityPool
  | .transferCollateralGainToTrove =>
      client.populateTransferCollateralGainToTrove this.getStabilityDeposit none
  | .stakeHLQT amount => HashgraphLiquity.populateStakeHLQT amount
  | .unstakeHLQT amount => HashgraphLiquity.populateUnstakeHLQT amount
  | .withdrawGainsFromStaking => HashgraphLiquity.populateWithdrawGainsFromStaking
  | .registerFrontend kickbackRate => HashgraphLiquity.populateRegisterFrontend kickbackRate
  | .approveUniTokens allowance =>
      HashgraphLiquity.populateApproveUniTokens this.saucerSwapPoolAddress allowance
  | .stakeUniTokens amount => HashgraphLiquity.populateStakeUniTokens amount
  | .unstakeUniTokens amount => HashgraphLiquity.populateUnstakeUniTokens amount
  | .withdrawHLQTRewardFromLiquidityMining =>
      return HashgraphLiquity.populateWithdrawHLQTRewardFromLiquidityMining
  | .exitLiquidityMining => return HashgraphLiquity.populateExitLiquidityMining

/-- The operation of the Ethers client. -/
def ethersCall (operation : LiquityOperation) : Result ClientCall :=
  let client : PopulatableEthersLiquity constants := ⟨this.toPopulation, some this.userAddress⟩
  match operation with
  | .rated operation maxRate => return (← client.populate operation maxRate).asClientCall
  | .closeTrove => return PopulatableEthersLiquity.closeTrove.asClientCall
  | .depositCollateral amount => return (← client.depositCollateral amount none).asClientCall
  | .withdrawCollateral amount => return (← client.withdrawCollateral amount none).asClientCall
  | .repayHCHF amount => return (← client.repayHCHF amount none).asClientCall
  | .setPrice price => PopulatableEthersLiquity.setPrice this.priceFeedIsTestnet price
  | .claimCollateralSurplus => return PopulatableEthersLiquity.claimCollateralSurplus
  | .liquidate address => return PopulatableEthersLiquity.liquidate address
  | .batchLiquidate addresses => return PopulatableEthersLiquity.batchLiquidate addresses
  | .liquidateUpTo maximum => return (PopulatableEthersLiquity.liquidateUpTo maximum).asClientCall
  | .depositHCHFInStabilityPool amount frontendTag =>
      PopulatableEthersLiquity.depositHCHFInStabilityPool this.frontendTag amount frontendTag
  | .withdrawHCHFFromStabilityPool amount =>
      PopulatableEthersLiquity.withdrawHCHFFromStabilityPool amount
  | .withdrawGainsFromStabilityPool =>
      return PopulatableEthersLiquity.withdrawGainsFromStabilityPool
  | .transferCollateralGainToTrove =>
      client.transferCollateralGainToTrove this.getStabilityDeposit none
  | .stakeHLQT amount => PopulatableEthersLiquity.stakeHLQT amount
  | .unstakeHLQT amount => PopulatableEthersLiquity.unstakeHLQT amount
  | .withdrawGainsFromStaking => PopulatableEthersLiquity.withdrawGainsFromStaking
  | .registerFrontend kickbackRate => PopulatableEthersLiquity.registerFrontend kickbackRate
  | .approveUniTokens allowance =>
      PopulatableEthersLiquity.approveUniTokens this.saucerSwapPoolAddress allowance
  | .stakeUniTokens amount => PopulatableEthersLiquity.stakeUniTokens amount
  | .unstakeUniTokens amount => PopulatableEthersLiquity.unstakeUniTokens amount
  | .withdrawHLQTRewardFromLiquidityMining =>
      return PopulatableEthersLiquity.withdrawHLQTRewardFromLiquidityMining
  | .exitLiquidityMining => return PopulatableEthersLiquity.exitLiquidityMining

end ClientState

/-- When the clients make the same call: the limit reaches the contract through both, no count but
zero is passed on, an allowance is given and no price is set. -/
def LiquityOperation.Agrees (population : Population constants) : LiquityOperation → Prop
  | .rated (.redeemHCHF _) _ => False
  | .rated (.increaseAmountByMinimumNetDebt _ _) _ => False
  | .rated operation maxRate => population.LimitReaches operation maxRate
  | .setPrice _ => False
  | .liquidateUpTo maximum => maximum = 0
  | .approveUniTokens allowance => (truthyRate allowance).isSome = true
  | _ => True

namespace Population

variable (this : Population constants)

/-- Both clients find the same hints. -/
def HintsAgree : Prop :=
  ∀ nominalCollateralRatio,
    this.findHintsForNominalCollateralRatio HashgraphLiquity.latestRandomSeed
        nominalCollateralRatio =
      this.findHintsForNominalCollateralRatio PopulatableEthersLiquity.latestRandomSeed
        nominalCollateralRatio

variable {this} in
/-- Seeds that are numbers lead both clients to the same hints. -/
theorem hintsAgree_of_isNumber
    (h : ∀ nominalCollateralRatio numTrials inputRandomSeed,
      IsNumber (this.hintContracts.getApproxHint nominalCollateralRatio numTrials
        inputRandomSeed).latestRandomSeed) : this.HintsAgree := by
  intro nominalCollateralRatio
  have hcollect : this.collectApproxHint HashgraphLiquity.latestRandomSeed nominalCollateralRatio =
      this.collectApproxHint PopulatableEthersLiquity.latestRandomSeed nominalCollateralRatio := by
    funext state numberOfTrials
    have hseed := (HashgraphLiquity.latestRandomSeed_eq_iff _).mpr
      (h nominalCollateralRatio.bigNumber numberOfTrials state.1)
    rw [collectApproxHint, hseed]
    rfl
  rw [findHintsForNominalCollateralRatio, hcollect]
  rfl

/-- A few trials are one chunk. -/
theorem generateTrials_of_le {total : Nat} (hne : total ≠ 0)
    (hle : total ≤ maxNumberOfTrialsAtOnce) : generateTrials total = [total] := by
  rw [generateTrials, if_neg hne]
  simp only [min_eq_left hle, Nat.sub_self]
  rw [generateTrials, if_pos rfl]

theorem totalNumberOfTrials_le {numberOfTroves : Nat} (h : numberOfTroves ≤ 62500) :
    totalNumberOfTrials numberOfTroves ≤ maxNumberOfTrialsAtOnce := by
  have hsqrt : Nat.sqrt (100 * numberOfTroves) ≤ 2500 := by
    rw [show 2500 = Nat.sqrt (2500 * 2500) from (Nat.sqrt_eq 2500).symm]
    exact Nat.sqrt_le_sqrt (by omega)
  rw [totalNumberOfTrials]
  split
  · exact hsqrt
  · next hrest =>
      have hle := Nat.sqrt_le (100 * numberOfTroves)
      have hne : Nat.sqrt (100 * numberOfTroves) ≠ 2500 := by
        intro hroot
        rw [hroot] at hrest hle
        omega
      exact Nat.succ_le_of_lt (lt_of_le_of_ne hsqrt hne)

variable {this} in
/-- No seed is asked with again as long as there are few troves. -/
theorem hintsAgree_of_few (h : this.readable.getNumberOfTroves ≤ 62500) : this.HintsAgree := by
  intro nominalCollateralRatio
  have hle := totalNumberOfTrials_le h
  rw [findHintsForNominalCollateralRatio, findHintsForNominalCollateralRatio]
  by_cases hnone : totalNumberOfTrials this.readable.getNumberOfTroves = 0
  · rw [hnone, generateTrials, if_pos rfl]
    rfl
  · rw [generateTrials_of_le hnone hle]
    rfl

/-- More troves than that, and contracts that return one seed that is no number and another hint
when they are asked with it. -/
def oddSeeds : Population defaults where
  readable := { genesisChain.readable defaults with getNumberOfTroves := 62501 }
  hintContracts := { genesisPopulation.hintContracts with
    getApproxHint := fun _ _ inputRandomSeed =>
      ⟨if inputRandomSeed = 2 ^ 53 + 1 then "0x01" else "0x02", Decimal.zero, 2 ^ 53 + 1⟩ }
  randomInteger := 0

/-- There the clients find different hints. -/
theorem not_hintsAgree_oddSeeds : ¬ oddSeeds.HintsAgree := by
  have htotal : totalNumberOfTrials oddSeeds.readable.getNumberOfTroves = 2501 := by
    have hroot : Nat.sqrt (100 * 62501) = 2500 := (Nat.eq_sqrt.mpr (by decide)).symm
    change totalNumberOfTrials 62501 = 2501
    rw [totalNumberOfTrials]
    simp only [hroot]
    rfl
  have htrials : generateTrials 2501 = [2500, 1] := by
    rw [generateTrials, if_neg (by decide)]
    exact congrArg (2500 :: ·) (generateTrials_of_le (by decide) (by decide))
  intro hagree
  have hsame := hagree Decimal.one
  rw [findHintsForNominalCollateralRatio, findHintsForNominalCollateralRatio, htotal,
    htrials] at hsame
  revert hsame
  decide +kernel

end Population

section Rated

variable {population : Population constants} {address : String}

theorem bind_congr_ok {α β : Type} {x : Result α} {f g : α → Result β}
    (h : ∀ a, x = .ok a → f a = g a) : (x >>= f) = (x >>= g) := by
  cases x with
  | error failure => rfl
  | ok a => exact h a rfl

theorem findHints_agree (hhints : population.HintsAgree) (nominalCollateralRatio : Decimal) :
    (⟨population, address⟩ : HashgraphLiquity constants).findHintsForNominalCollateralRatio
        nominalCollateralRatio =
      (⟨population, some address⟩ : PopulatableEthersLiquity
        constants).findHintsForNominalCollateralRatio nominalCollateralRatio :=
  hhints nominalCollateralRatio

theorem openTrove_agree (hhints : population.HintsAgree) (params : ParamsRecord)
    (maxRate : Option Decimalish) :
    (⟨population, address⟩ : HashgraphLiquity constants).populateOpenTrove params maxRate =
      (⟨population, some address⟩ : PopulatableEthersLiquity constants).openTrove params
        maxRate := by
  rw [HashgraphLiquity.populateOpenTrove, PopulatableEthersLiquity.openTrove]
  simp only [findHints_agree hhints]

theorem transferCollateralGainToTrove_agree (hhints : population.HintsAgree)
    (getStabilityDeposit : String → Result StabilityDeposit) :
    (⟨population, address⟩ : HashgraphLiquity constants).populateTransferCollateralGainToTrove
        getStabilityDeposit none =
      (⟨population, some address⟩ : PopulatableEthersLiquity
        constants).transferCollateralGainToTrove getStabilityDeposit none := by
  rw [HashgraphLiquity.populateTransferCollateralGainToTrove,
    PopulatableEthersLiquity.transferCollateralGainToTrove]
  simp only [findHints_agree hhints]
  rfl

/-- The clients adjust a trove alike if they encode the same limit. -/
theorem adjustTrove_agree (hhints : population.HintsAgree) {params : ParamsRecord}
    {maxRate ethersMaxRate : Option Decimalish}
    (hlimit : ∀ limit, population.documentedDefault (.adjustTrove params) = .ok limit →
      limitOr (truthyRate maxRate) (.ok limit) = limitOr ethersMaxRate (.ok limit)) :
    (⟨population, address⟩ : HashgraphLiquity constants).populateAdjustTrove params maxRate none =
      (⟨population, some address⟩ : PopulatableEthersLiquity constants).adjustTrove params
        ethersMaxRate none := by
  rw [HashgraphLiquity.populateAdjustTrove, PopulatableEthersLiquity.adjustTrove,
    PopulatableEthersLiquity.requireAddress]
  simp only [Option.bind_none]
  refine bind_congr_ok fun normalized hnormalized => ?_
  refine bind_congr_ok fun trove _ => ?_
  refine bind_congr_ok fun fees hfees => ?_
  refine bind_congr_ok fun borrowingRate hrate => ?_
  refine bind_congr_ok fun finalTrove _ => ?_
  have hsame := hlimit _ (Population.documentedDefault_adjustTrove hnormalized hfees hrate)
  simp only [findHints_agree hhints]
  cases borrowingRate with
  | none => exact congrArg (· >>= _) hsame
  | some borrowingRate => exact congrArg (· >>= _) hsame

/-- A limit that reaches the contract is encoded by both clients. -/
theorem adjustTrove_agree_of_reaches (hhints : population.HintsAgree) {params : ParamsRecord}
    {maxRate : Option Decimalish} (h : population.LimitReaches (.adjustTrove params) maxRate) :
    (⟨population, address⟩ : HashgraphLiquity constants).populateAdjustTrove params maxRate none =
      (⟨population, some address⟩ : PopulatableEthersLiquity constants).adjustTrove params
        maxRate none := by
  apply adjustTrove_agree hhints
  intro limit hlimit
  cases maxRate with
  | none => rfl
  | some rate =>
      rcases h rate rfl with hrate | ⟨hzero, hborrow⟩
      · rw [Population.truthyRate_of_truthy hrate]
      · obtain ⟨normalized, hnormalized, hdefault⟩ := Result.bind_eq_ok.mp hlimit
        rw [hborrow normalized hnormalized] at hdefault
        cases hdefault
        cases hrate : rate.truthy with
        | true => rw [Population.truthyRate_of_truthy hrate]
        | false =>
            rw [Population.truthyRate_of_falsy hrate]
            exact hzero.symm

theorem borrowHCHF_agree_of_reaches (hhints : population.HintsAgree) {amount : Decimalish}
    {maxRate : Option Decimalish} (h : population.LimitReaches (.borrowHCHF amount) maxRate) :
    (⟨population, address⟩ : HashgraphLiquity constants).populateBorrowHCHF amount
        (maxRate.map Decimalish.asOptions) =
      (⟨population, some address⟩ : PopulatableEthersLiquity constants).borrowHCHF amount
        maxRate none := by
  have hoptions : (⟨population, address⟩ : HashgraphLiquity constants).populateBorrowHCHF amount
      (maxRate.map Decimalish.asOptions) =
        (⟨population, address⟩ : HashgraphLiquity constants).populateAdjustTrove
          [("borrowHCHF", some amount)] none none := by
    cases maxRate <;> rfl
  rw [hoptions]
  apply adjustTrove_agree hhints
  intro limit hlimit
  cases maxRate with
  | none => rfl
  | some rate =>
      obtain ⟨normalized, hnormalized, hdefault⟩ := Result.bind_eq_ok.mp hlimit
      rw [if_pos (normalizeTroveAdjustment_borrowHCHF hnormalized)] at hdefault
      exact hdefault.symm.trans (h rate rfl).symm

/-- Calls of both clients that encode the same limit encode one that reaches the contract. -/
theorem reaches_of_encodedRate_eq {operation : RatedOperation} {maxRate : Option Decimalish}
    {call ethersCall : ContractCall}
    (h : HLiquity.asPopulatable ⟨population, address⟩ operation maxRate = .ok call)
    (hethers : PopulatableEthersLiquity.populate ⟨population, some address⟩ operation maxRate =
      .ok ethersCall)
    (hsame : operation.encodedRate call = operation.encodedRate ethersCall) :
    population.LimitReaches operation maxRate := by
  obtain ⟨limit, hlimit, hencoded⟩ := HashgraphLiquity.asPopulatable_encodes h
  obtain ⟨documented, hdocumented, hethersEncoded⟩ :=
    PopulatableEthersLiquity.populate_encodes hethers
  rw [hencoded, hethersEncoded] at hsame
  obtain rfl : limit = documented := Decimal.ext (Option.some.inj hsame)
  exact (Population.documentedLimit_iff hlimit).mp hdocumented

/-- The clients never encode the same iterations of a redemption. -/
theorem redeemed_ne {client : HashgraphLiquity constants}
    {ethers : PopulatableEthersLiquity constants}
    {redemption : PopulatedRedemption constants Decimal}
    {ethersRedemption : PopulatedRedemption constants Decimalish}
    (h : Redeemed client.populateRedeemHCHF HashgraphLiquity.increaseAmountByMinimumNetDebt
      redemption)
    (hethers : Redeemed ethers.redeemHCHF
      PopulatableEthersLiquity.increaseAmountByMinimumNetDebt ethersRedemption) :
    redemption.rawPopulatedTransaction ≠ ethersRedemption.rawPopulatedTransaction := by
  intro hsame
  have hscaled := (HashgraphLiquity.redeemed_iterates h).2
  have hplain := (PopulatableEthersLiquity.redeemed_iterates hethers).2
  rw [PopulatedRedemption.encodedMaxIterations, hsame,
    ← PopulatedRedemption.encodedMaxIterations, hplain] at hscaled
  revert hscaled
  decide

end Rated

theorem ContractCall.asClientCall_injective {call other : ContractCall}
    (h : call.asClientCall = other.asClientCall) : call = other := by
  cases call
  cases other
  simp only [ContractCall.asClientCall, ClientCall.mk.injEq, ClientContract.liquity.injEq] at h
  obtain ⟨rfl, rfl, harguments, rfl⟩ := h
  have hsingle : Function.Injective ClientArgument.single := fun _ _ h => by cases h; rfl
  rw [List.map_injective_iff.mpr hsingle harguments]

namespace ClientState

variable (this : ClientState constants)

variable {this} in
/-- Where the clients agree, they populate the same call, or fail alike. -/
theorem hashgraphCall_eq_of_agrees (hhints : this.HintsAgree) {operation : LiquityOperation}
    (h : operation.Agrees this.toPopulation) :
    this.hashgraphCall operation = this.ethersCall operation := by
  cases operation with
  | rated operation maxRate =>
      cases operation with
      | openTrove params => exact congrArg (· >>= _) (openTrove_agree hhints params maxRate)
      | adjustTrove params => exact congrArg (· >>= _) (adjustTrove_agree_of_reaches hhints h)
      | borrowHCHF amount => exact congrArg (· >>= _) (borrowHCHF_agree_of_reaches hhints h)
      | redeemHCHF amount => exact h.elim
      | increaseAmountByMinimumNetDebt amount original => exact h.elim
  | depositCollateral amount =>
      exact congrArg (· >>= _) (adjustTrove_agree hhints fun _ _ => rfl)
  | withdrawCollateral amount =>
      exact congrArg (· >>= _) (adjustTrove_agree hhints fun _ _ => rfl)
  | repayHCHF amount =>
      exact congrArg (· >>= _) (adjustTrove_agree hhints fun _ _ => rfl)
  | setPrice price => exact h.elim
  | liquidateUpTo maximum =>
      cases h
      rfl
  | transferCollateralGainToTrove => exact transferCollateralGainToTrove_agree hhints _
  | approveUniTokens allowance =>
      cases allowance with
      | none => simp [LiquityOperation.Agrees, truthyRate] at h
      | some allowance =>
          cases htruthy : allowance.truthy with
          | false => simp [LiquityOperation.Agrees, truthyRate, htruthy] at h
          | true =>
              simp only [hashgraphCall, ethersCall, HashgraphLiquity.populateApproveUniTokens,
                PopulatableEthersLiquity.approveUniTokens,
                Population.truthyRate_of_truthy htruthy, Option.getD_some]
  | _ => rfl

theorem agrees_of_same_call {operation : LiquityOperation} {call : ClientCall}
    (h : this.hashgraphCall operation = .ok call) (hethers : this.ethersCall operation = .ok call) :
    operation.Agrees this.toPopulation := by
  cases operation with
  | rated operation maxRate =>
      obtain ⟨raw, hraw, hcall⟩ := Result.bind_eq_ok.mp h
      obtain ⟨ethersRaw, hethersRaw, hethersCall⟩ := Result.bind_eq_ok.mp hethers
      obtain rfl : raw = ethersRaw :=
        ContractCall.asClientCall_injective (Except.ok.inj (hcall.trans hethersCall.symm))
      cases operation with
      | openTrove params => trivial
      | adjustTrove params => exact reaches_of_encodedRate_eq hraw hethersRaw rfl
      | borrowHCHF amount => exact reaches_of_encodedRate_eq hraw hethersRaw rfl
      | redeemHCHF amount =>
          obtain ⟨redemption, hredemption, hraw⟩ := Result.bind_eq_ok.mp hraw
          obtain ⟨ethersRedemption, hethersRedemption, hethersRaw⟩ :=
            Result.bind_eq_ok.mp hethersRaw
          exact redeemed_ne (.populated hredemption) (.populated hethersRedemption)
            (Except.ok.inj (hraw.trans hethersRaw.symm))
      | increaseAmountByMinimumNetDebt amount original =>
          obtain ⟨redemption, hredemption, hraw⟩ := Result.bind_eq_ok.mp hraw
          obtain ⟨increased, hincreased, hraw⟩ := Result.bind_eq_ok.mp hraw
          obtain ⟨ethersRedemption, hethersRedemption, hethersRaw⟩ :=
            Result.bind_eq_ok.mp hethersRaw
          obtain ⟨ethersIncreased, hethersIncreased, hethersRaw⟩ :=
            Result.bind_eq_ok.mp hethersRaw
          exact redeemed_ne (.increased (.populated hredemption) hincreased)
            (.increased (.populated hethersRedemption) hethersIncreased)
            (Except.ok.inj (hraw.trans hethersRaw.symm))
  | setPrice price => cases h
  | liquidateUpTo maximum =>
      obtain ⟨raw, hraw, hcall⟩ := Result.bind_eq_ok.mp h
      obtain rfl : raw = PopulatableEthersLiquity.liquidateUpTo maximum :=
        ContractCall.asClientCall_injective (Except.ok.inj (hcall.trans hethers.symm))
      exact (HashgraphLiquity.populateLiquidateUpTo_iff maximum).mp ⟨_, hraw, rfl⟩
  | approveUniTokens allowance =>
      simp only [hashgraphCall, HashgraphLiquity.populateApproveUniTokens] at h
      split at h
      · cases h
      · next htruthy => simp [LiquityOperation.Agrees, htruthy]
  | _ => trivial

/-- Where both clients find the same hints, they populate the same call exactly if they agree on the
operation. -/
theorem clients_agree_iff (hhints : this.HintsAgree) (operation : LiquityOperation) :
    (operation.Agrees this.toPopulation →
      this.hashgraphCall operation = this.ethersCall operation) ∧
    ∀ call ethersCall, this.hashgraphCall operation = .ok call →
      this.ethersCall operation = .ok ethersCall →
        (call = ethersCall ↔ operation.Agrees this.toPopulation) := by
  refine ⟨hashgraphCall_eq_of_agrees hhints, ?_⟩
  intro call ethersCall hcall hethers
  constructor
  · rintro rfl
    exact this.agrees_of_same_call hcall hethers
  · intro hagrees
    rw [hashgraphCall_eq_of_agrees hhints hagrees] at hcall
    exact Except.ok.inj (hcall.symm.trans hethers)

/-- Both clients on the empty chain. -/
def genesis : ClientState defaults where
  toPopulation := genesisPopulation
  getStabilityDeposit _ := StabilityDeposit.new Decimal.zero Decimal.zero Decimal.zero Decimal.zero
    addressZero
  userAddress := "0xd"
  frontendTag := addressZero
  saucerSwapPoolAddress := "0xe"
  priceFeedIsTestnet := true

/-- A deposit is populated alike, and so is a limit of two percent. -/
theorem clients_agree_iff_genesis :
    genesis.hashgraphCall (.depositCollateral (.string ['1'])) =
      genesis.ethersCall (.depositCollateral (.string ['1'])) ∧
    genesis.hashgraphCall (.rated borrowHundred (some (.string ['0', '.', '0', '2']))) =
      genesis.ethersCall (.rated borrowHundred (some (.string ['0', '.', '0', '2']))) := by
  have hhints : genesis.HintsAgree := Population.hintsAgree_of_few (Nat.zero_le _)
  constructor
  · exact (clients_agree_iff genesis hhints (.depositCollateral (.string ['1']))).1 trivial
  · apply (clients_agree_iff genesis hhints (.rated borrowHundred _)).1
    rintro rate ⟨⟩
    exact .inl rfl

end ClientState

end HLiquity
