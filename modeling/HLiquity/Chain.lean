import HLiquity.StoreState

/-!
# The chain and what is read from it

A chain state is what the contracts answer at one block. The two read clients
ask the same contract functions and convert the answers in the same way, so
each getter is stated once. Counts and times are safe integers.
-/

namespace HLiquity

/-- `AddressZero` -/
def addressZero : String := "0x0000000000000000000000000000000000000000"

/-- The trove status as the trove manager counts it. -/
inductive BackendTroveStatus where
  | nonExistent
  | active
  | closedByOwner
  | closedByLiquidation
  | closedByRedemption
  deriving DecidableEq, Repr

/-- An entry of `Troves`. -/
structure BackendTrove where
  status : BackendTroveStatus
  coll : Nat
  debt : Nat
  stake : Nat
  deriving DecidableEq, Repr

/-- An entry of `rewardSnapshots`. -/
structure RewardSnapshot where
  eth : Nat
  hchfDebt : Nat
  deriving DecidableEq, Repr

/-- An entry of the list that the multi-trove getter returns. -/
structure CombinedTroveData where
  owner : String
  coll : Nat
  debt : Nat
  stake : Nat
  snapshotETH : Nat
  snapshotHCHFDebt : Nat
  deriving DecidableEq, Repr

structure TroveManagerState where
  lastFeeOperationTime : Nat
  baseRate : Nat
  lETH : Nat
  lHCHFDebt : Nat
  troves : String → BackendTrove
  rewardSnapshots : String → RewardSnapshot
  troveOwnersCount : Nat

/-- The active or the default pool. -/
structure PoolState where
  eth : Nat
  hchfDebt : Nat

structure StabilityPoolState where
  initialValue : String → Nat
  frontEndTag : String → String
  compoundedHCHFDeposit : String → Nat
  depositorETHGain : String → Nat
  depositorHLQTGain : String → Nat
  totalHCHFDeposits : Nat
  frontEnds : String → Bool × Nat

/-- The contract of one of the protocol's tokens. -/
structure TokenContractState where
  tokenAddress : String
  getTokenAddress : String
  balanceOf : String → Nat

/-- The token contracts by their addresses. -/
structure ERC20State where
  balanceOf : (token owner : String) → Nat
  allowance : (token owner spender : String) → Nat

structure SaucerSwapPoolState where
  uniToken : String
  totalSupply : Nat
  rewardRate : Nat
  periodFinish : Nat
  lastUpdateTime : Nat
  balanceOf : String → Nat
  earned : String → Nat

structure HLQTStakingState where
  stakes : String → Nat
  pendingETHGain : String → Nat
  pendingHCHFGain : String → Nat
  totalHLQTStaked : Nat

/-- What is read at one block. The sorted troves are all open ones, from the lowest to the highest
collateral ratio; what the multi-trove getter answers of them is its own. A failed request to the
mirror node answers `none`. -/
structure ChainState where
  blockTimestamp : Nat
  troveManager : TroveManagerState
  fetchPrice : Nat
  activePool : PoolState
  defaultPool : PoolState
  stabilityPool : StabilityPoolState
  totalHLQTIssued : Nat
  surplusCollateral : String → Nat
  hchfToken : TokenContractState
  hlqtToken : TokenContractState
  erc20 : ERC20State
  saucerSwapPool : SaucerSwapPoolState
  hlqtStaking : HLQTStakingState
  sortedTroves : List CombinedTroveData
  getMultipleSortedTroves : (startIdx : Int) → (count : Nat) → List CombinedTroveData
  balance : String → Nat
  associatedTokens : Option (List String)

def userTroveStatusFrom : BackendTroveStatus → UserTroveStatus
  | .nonExistent => .nonExistent
  | .active => .open
  | .closedByOwner => .closedByOwner
  | .closedByLiquidation => .closedByLiquidation
  | .closedByRedemption => .closedByRedemption

/-- A count of units read from a contract. -/
def decimalify (bigNumber : Nat) : Decimal := ⟨bigNumber⟩

/-- `Decimal.fromBigNumberStringWithPrecision` -/
def Decimal.fromBigNumberStringWithPrecision (bigNumber precision : Nat) : Decimal :=
  ⟨bigNumber * Decimal.digits / 10 ^ precision⟩

/-- The milliseconds of a count of seconds. -/
def convertToDate (timestamp : Nat) : Int := timestamp * 1000

inductive TroveSorting where
  | ascendingCollateralRatio
  | descendingCollateralRatio
  deriving DecidableEq, Repr

structure TroveListingParams where
  first : Nat
  sortedBy : TroveSorting
  startingAt : Option Nat
  deriving DecidableEq, Repr

namespace ChainState

variable (constants : Constants) (chain : ChainState)

def getCollateralSurplusBalance (address : String) : Decimal :=
  decimalify (chain.surplusCollateral address)

def getTotalRedistributed : Trove constants :=
  ⟨decimalify chain.troveManager.lETH, decimalify chain.troveManager.lHCHFDebt⟩

def getTroveBeforeRedistribution (address : String) : TroveWithPendingRedistribution constants :=
  let trove := chain.troveManager.troves address
  let snapshot := chain.troveManager.rewardSnapshots address
  if trove.status = .active then
    ⟨⟨⟨decimalify trove.coll, decimalify trove.debt⟩, address, userTroveStatusFrom trove.status⟩,
      decimalify trove.stake, ⟨decimalify snapshot.eth, decimalify snapshot.hchfDebt⟩⟩
  else .empty address (userTroveStatusFrom trove.status)

def getNumberOfTroves : Nat := chain.troveManager.troveOwnersCount

def getPrice : Decimal := decimalify chain.fetchPrice

def getTotal : Trove constants :=
  Trove.add ⟨decimalify chain.activePool.eth, decimalify chain.activePool.hchfDebt⟩
    ⟨decimalify chain.defaultPool.eth, decimalify chain.defaultPool.hchfDebt⟩

def getStabilityDeposit (address : String) : Result StabilityDeposit :=
  StabilityDeposit.new (decimalify (chain.stabilityPool.initialValue address))
    (decimalify (chain.stabilityPool.compoundedHCHFDeposit address))
    (decimalify (chain.stabilityPool.depositorETHGain address))
    (decimalify (chain.stabilityPool.depositorHLQTGain address))
    (chain.stabilityPool.frontEndTag address)

def getRemainingStabilityPoolHLQTReward (issuanceCap : Decimal) : Result Decimal :=
  issuanceCap.sub (decimalify chain.totalHLQTIssued)

def getHCHFInStabilityPool : Decimal := decimalify chain.stabilityPool.totalHCHFDeposits

def getHCHFBalance (address : String) : Decimal := decimalify (chain.hchfToken.balanceOf address)

def getHCHFTokenAddress : String := chain.hchfToken.getTokenAddress

def getHLQTTokenAddress : String := chain.hlqtToken.getTokenAddress

def getHLQTBalance (address : String) : Decimal := decimalify (chain.hlqtToken.balanceOf address)

/-- The allowance of a spender on a token. -/
def getAllowance (token address spender : String) : Decimal :=
  decimalify (chain.erc20.allowance token address spender)

def getHchfTokenAllowanceOfHchfContract (hchfContract address : String) : Decimal :=
  chain.getAllowance chain.getHCHFTokenAddress address hchfContract

def getHlqtTokenAllowanceOfHlqtContract (hlqtContract address : String) : Decimal :=
  chain.getAllowance chain.getHLQTTokenAddress address hlqtContract

def getUniTokenBalance (uniToken address : String) : Decimal :=
  decimalify (chain.erc20.balanceOf uniToken address)

def getUniTokenAllowance (uniToken saucerSwapPool address : String) : Decimal :=
  chain.getAllowance uniToken address saucerSwapPool

/-- `_getRemainingLiquidityMiningHLQTRewardCalculator`, applied to a timestamp. -/
def getRemainingLiquidityMiningHLQTReward (blockTimestamp : Nat) : Decimal :=
  let pool := chain.saucerSwapPool
  let seconds := pool.periodFinish -
    (if pool.totalSupply = 0 then pool.lastUpdateTime else blockTimestamp)
  (decimalify pool.rewardRate).mul ⟨seconds * Decimal.digits⟩

def getLiquidityMiningStake (address : String) : Decimal :=
  decimalify (chain.saucerSwapPool.balanceOf address)

def getTotalStakedUniTokens : Decimal := decimalify chain.saucerSwapPool.totalSupply

def getLiquidityMiningHLQTReward (address : String) : Decimal :=
  decimalify (chain.saucerSwapPool.earned address)

/-- `mapBackendTroves` of one entry. These troves are listed, so they are open. -/
def troveFrom (trove : CombinedTroveData) : TroveWithPendingRedistribution constants :=
  ⟨⟨⟨decimalify trove.coll, decimalify trove.debt⟩, trove.owner, .open⟩,
    decimalify trove.stake, ⟨decimalify trove.snapshotETH, decimalify trove.snapshotHCHFDebt⟩⟩

/-- `getTroves` before the redistribution is applied. -/
def getTrovesBeforeRedistribution (params : TroveListingParams) :
    List (TroveWithPendingRedistribution constants) :=
  let startIdx : Int :=
    match params.sortedBy with
    | .descendingCollateralRatio => params.startingAt.getD 0
    | .ascendingCollateralRatio => -(params.startingAt.getD 0 + 1)
  (chain.getMultipleSortedTroves startIdx params.first).map (troveFrom constants)

/-- The fees in normal mode. -/
def createFees (blockTimestamp : Nat) : Result (Fees constants) :=
  Fees.new (decimalify chain.troveManager.baseRate) constants.minuteDecayFactor constants.beta
    (convertToDate chain.troveManager.lastFeeOperationTime) (convertToDate blockTimestamp) false

def getHLQTStake (address : String) : HLQTStake :=
  ⟨decimalify (chain.hlqtStaking.stakes address),
    decimalify (chain.hlqtStaking.pendingETHGain address),
    decimalify (chain.hlqtStaking.pendingHCHFGain address)⟩

def getTotalStakedHLQT : Decimal := decimalify chain.hlqtStaking.totalHLQTStaked

def getFrontendStatus (address : String) : FrontendStatus :=
  let (registered, kickbackRate) := chain.stabilityPool.frontEnds address
  if registered then .registered (decimalify kickbackRate) else .unregistered

/-- Whether a token is among the associated ones, by its identifier. A failed
request counts as no association. -/
def userHasAssociatedWith (tokenIdString : String → String) (tokenAddress : String) : Bool :=
  (chain.associatedTokens.getD []).contains (tokenIdString tokenAddress)

end ChainState

/-- What the multi-trove getter and the trove manager are relied on for: a start from zero on
counts from the highest collateral ratio downwards, a negative one from the lowest upwards, and the
owners are as many as the troves. -/
structure ChainState.ListsTroves (chain : ChainState) : Prop where
  descending : ∀ startIdx count : Nat, chain.getMultipleSortedTroves startIdx count =
    (chain.sortedTroves.reverse.drop startIdx).take count
  ascending : ∀ startIdx count : Nat, chain.getMultipleSortedTroves (-(startIdx + 1 : Int)) count =
    (chain.sortedTroves.drop startIdx).take count
  owners : chain.getNumberOfTroves = chain.sortedTroves.length

theorem ChainState.ListsTroves.troves_ascending {chain : ChainState} (h : chain.ListsTroves)
    (constants : Constants) (first : Nat) (startingAt : Option Nat) :
    chain.getTrovesBeforeRedistribution constants ⟨first, .ascendingCollateralRatio, startingAt⟩ =
      ((chain.sortedTroves.drop (startingAt.getD 0)).take first).map (troveFrom constants) :=
  congrArg (List.map _) (h.ascending _ _)

/-- The troves are listed, and they ascend in the collateral ratio that they have once their
redistributed shares are applied. -/
structure ChainState.Sorted (constants : Constants) (chain : ChainState) : Prop extends
    chain.ListsTroves where
  ratios : chain.sortedTroves.Pairwise fun a b => ∀ currentA currentB,
    (troveFrom constants a).applyRedistribution
      (chain.getTotalRedistributed constants) = .ok currentA →
    (troveFrom constants b).applyRedistribution
      (chain.getTotalRedistributed constants) = .ok currentB →
    currentA.toTrove.collateralRatio chain.getPrice ≤
      currentB.toTrove.collateralRatio chain.getPrice

/-- A chain on which nothing has happened yet. -/
def genesisChain : ChainState where
  blockTimestamp := 0
  troveManager := ⟨0, 0, 0, 0, fun _ => ⟨.nonExistent, 0, 0, 0⟩, fun _ => ⟨0, 0⟩, 0⟩
  fetchPrice := 100000000
  activePool := ⟨0, 0⟩
  defaultPool := ⟨0, 0⟩
  stabilityPool := ⟨fun _ => 0, fun _ => addressZero, fun _ => 0, fun _ => 0, fun _ => 0, 0,
    fun _ => (false, 0)⟩
  totalHLQTIssued := 0
  surplusCollateral := fun _ => 0
  hchfToken := ⟨"0xa", "0xa", fun _ => 0⟩
  hlqtToken := ⟨"0xb", "0xb", fun _ => 0⟩
  erc20 := ⟨fun _ _ => 0, fun _ _ _ => 0⟩
  saucerSwapPool := ⟨"0xc", 0, 0, 0, 0, fun _ => 0, fun _ => 0⟩
  hlqtStaking := ⟨fun _ => 0, fun _ => 0, fun _ => 0, 0⟩
  sortedTroves := []
  getMultipleSortedTroves := fun _ _ => []
  balance := fun _ => 0
  associatedTokens := some []

/-- A chain with the given open troves, from the lowest to the highest collateral ratio. -/
def ChainState.withTroves (chain : ChainState) (troves : List CombinedTroveData) : ChainState :=
  { chain with
    troveManager := { chain.troveManager with troveOwnersCount := troves.length }
    sortedTroves := troves
    getMultipleSortedTroves := fun startIdx count =>
      if 0 ≤ startIdx then (troves.reverse.drop startIdx.toNat).take count
      else (troves.drop (-startIdx - 1).toNat).take count }

theorem ChainState.withTroves_lists (chain : ChainState) (troves : List CombinedTroveData) :
    (chain.withTroves troves).ListsTroves where
  descending startIdx count := by simp [withTroves]
  ascending startIdx count := by
    have hnegative : ¬ (0 : Int) ≤ -(startIdx + 1 : Int) := by omega
    have hstart : (- -(startIdx + 1 : Int) - 1).toNat = startIdx := by omega
    simp only [withTroves, if_neg hnegative, hstart]
  owners := rfl

/-- A chain with three troves, to which 300 HBAR and 100 HCHF have been redistributed for each unit
of stake since the first two were opened. -/
def redistributedChain : ChainState :=
  let chain := genesisChain.withTroves
    [⟨"0xd", 210000000000, 200000000000, 100000000000, 0, 0⟩,
      ⟨"0xe", 250000000000, 200000000000, 100000000000, 0, 0⟩,
      ⟨"0xf", 400000000000, 200000000000, 100000000000, 30000000, 10000000⟩]
  { chain with
    activePool := ⟨860000000000, 600000000000⟩
    defaultPool := ⟨60000000000, 20000000000⟩
    troveManager := { chain.troveManager with lETH := 30000000, lHCHFDebt := 10000000 } }

/-- The collateral ratio of a listed trove once its redistributed shares are applied. -/
def ChainState.currentRatio (constants : Constants) (chain : ChainState)
    (trove : CombinedTroveData) : Decimal :=
  match (troveFrom constants trove).applyRedistribution
      (chain.getTotalRedistributed constants) with
  | .ok current => current.toTrove.collateralRatio chain.getPrice
  | .error _ => Decimal.zero

theorem redistributedChain_sorted : redistributedChain.Sorted defaults where
  descending := (genesisChain.withTroves_lists _).descending
  ascending := (genesisChain.withTroves_lists _).ascending
  owners := rfl
  ratios := by
    have hratios : redistributedChain.sortedTroves.Pairwise fun a b =>
        redistributedChain.currentRatio defaults a ≤
          redistributedChain.currentRatio defaults b := by
      decide
    refine hratios.imp fun hle currentA currentB ha hb => ?_
    simpa only [ChainState.currentRatio, ha, hb] using hle

/-- A chain whose price and timestamp are its block number. -/
def countingHistory (block : Nat) : ChainState :=
  { genesisChain with blockTimestamp := block, fetchPrice := block }

end HLiquity
