import HLiquity.StoreCache

/-!
# The plain and the cached client

Both clients offer the same getters. The plain one reads the chain, for the
address that it is given or else for one of its connection. The cached one asks
the store-based cache first and leaves to the plain one what that does not
answer.
-/

namespace HLiquity

variable {constants : Constants}

/-- A number of the language, which may not be an integer. -/
inductive Number where
  | integer (value : Int)
  | other
  deriving DecidableEq, Repr

/-- `expectPositiveInt` of a defined value. -/
def expectPositiveInt (key : String) : Number → Result Nat
  | .other => .error (.error (key ++ " must be an integer"))
  | .integer value =>
      if value < 0 then .error (.error (key ++ " must not be negative")) else .ok value.toNat

/-- The parameters of `getTroves`, before they are checked. -/
structure TroveListing where
  first : Number
  sortedBy : String
  startingAt : Option Number
  beforeRedistribution : Bool
  deriving DecidableEq, Repr

/-- The checks of `getTroves`. -/
def TroveListing.check (params : TroveListing) : Result TroveListingParams := do
  let first ← expectPositiveInt "first" params.first
  let startingAt ← params.startingAt.mapM (expectPositiveInt "startingAt")
  match params.sortedBy with
  | "ascendingCollateralRatio" => .ok ⟨first, .ascendingCollateralRatio, startingAt⟩
  | "descendingCollateralRatio" => .ok ⟨first, .descendingCollateralRatio, startingAt⟩
  | _ => .error (.error ("sortedBy must be one of: \"ascendingCollateralRatio\", " ++
      "\"descendingCollateralRatio\""))

/-- The troves of a listing, with their pending redistribution applied or not. -/
inductive ListedTroves (constants : Constants) where
  | withPendingRedistribution (troves : List (TroveWithPendingRedistribution constants))
  | redistributed (troves : List (UserTrove constants))
  deriving DecidableEq

/-- The listed troves, after the redistribution if its total is given. -/
def ListedTroves.from (troves : List (TroveWithPendingRedistribution constants))
    (totalRedistributed : Option (Trove constants)) : Result (ListedTroves constants) :=
  match totalRedistributed with
  | some totalRedistributed => do
      let troves ← troves.mapM fun trove => trove.applyRedistribution totalRedistributed
      return .redistributed troves
  | none => .ok (.withPendingRedistribution troves)

/-- `_requireAddress` -/
def EthersLiquityConnection.requireAddress (connection : EthersLiquityConnection) :
    Result String :=
  match connection.userAddress with
  | some userAddress => .ok userAddress
  | none => .error (.error "A user address is required")

/-- `_requireFrontendAddress` -/
def EthersLiquityConnection.requireFrontendAddress (connection : EthersLiquityConnection) :
    Result String :=
  match connection.frontendTag with
  | some frontendTag => .ok frontendTag
  | none => .error (.error "A frontend address is required")

/-- `address ??= required` -/
def addressOr (address : Option String) (required : Result String) : Result String :=
  match address with
  | some address => .ok address
  | none => required

/-- `tokenContract.allowance(address, spender, overrides)`, with the overrides passed on as is.
The contract takes overrides that are undefined for a third argument, which it rejects. -/
def ChainState.allowanceCall (chain : ChainState) (tokenAddress address spender : String)
    (overrides : Option EthersCallOverrides) : Result Decimal :=
  match overrides with
  | some _ => .ok (chain.getAllowance tokenAddress address spender)
  | none => .error (.error "too many arguments: passed to contract")

/-- `ReadableEthersLiquity`, with what the chain answers at the overrides of a read. -/
structure ReadableEthersLiquity where
  connection : EthersLiquityConnection
  chainAt : Option EthersCallOverrides → ChainState

namespace ReadableEthersLiquity

section Getters

variable (this : ReadableEthersLiquity) (address : Option String)
  (overrides : Option EthersCallOverrides)

def getTotalRedistributed : Result (Trove constants) :=
  .ok ((this.chainAt overrides).getTotalRedistributed constants)

def getTroveBeforeRedistribution : Result (TroveWithPendingRedistribution constants) := do
  let address ← addressOr address this.connection.requireAddress
  return (this.chainAt overrides).getTroveBeforeRedistribution constants address

def getTrove : Result (UserTrove constants) := do
  let trove ← this.getTroveBeforeRedistribution address overrides
  let totalRedistributed ← this.getTotalRedistributed overrides
  trove.applyRedistribution totalRedistributed

def getNumberOfTroves : Result Nat := .ok (this.chainAt overrides).getNumberOfTroves

def getPrice : Result Decimal := .ok (this.chainAt overrides).getPrice

def getTotal : Result (Trove constants) := .ok ((this.chainAt overrides).getTotal constants)

def getStabilityDeposit : Result StabilityDeposit := do
  let address ← addressOr address this.connection.requireAddress
  (this.chainAt overrides).getStabilityDeposit address

def getRemainingStabilityPoolHLQTReward : Result Decimal :=
  (this.chainAt overrides).getRemainingStabilityPoolHLQTReward
    this.connection.totalStabilityPoolHLQTReward

def getHCHFInStabilityPool : Result Decimal := .ok (this.chainAt overrides).getHCHFInStabilityPool

/-- The getters that convert one answer for an address. -/
def getDecimal (get : ChainState → String → Decimal) : Result Decimal := do
  let address ← addressOr address this.connection.requireAddress
  return get (this.chainAt overrides) address

def getHCHFBalance : Result Decimal :=
  this.getDecimal address overrides ChainState.getHCHFBalance

def getHCHFTokenAddress : Result String := .ok (this.chainAt overrides).getHCHFTokenAddress

def getHLQTTokenAddress : Result String := .ok (this.chainAt overrides).getHLQTTokenAddress

def getHLQTBalance : Result Decimal :=
  this.getDecimal address overrides ChainState.getHLQTBalance

def getUniTokenBalance : Result Decimal :=
  this.getDecimal address overrides fun chain => chain.getUniTokenBalance this.connection.uniToken

def getUniTokenAllowance : Result Decimal :=
  this.getDecimal address overrides fun chain =>
    chain.getUniTokenAllowance this.connection.uniToken this.connection.saucerSwapPool

def getRemainingLiquidityMiningHLQTReward : Result Decimal :=
  let chain := this.chainAt overrides
  .ok (chain.getRemainingLiquidityMiningHLQTReward chain.blockTimestamp)

def getLiquidityMiningStake : Result Decimal :=
  this.getDecimal address overrides ChainState.getLiquidityMiningStake

def getTotalStakedUniTokens : Result Decimal :=
  .ok (this.chainAt overrides).getTotalStakedUniTokens

def getLiquidityMiningHLQTReward : Result Decimal :=
  this.getDecimal address overrides ChainState.getLiquidityMiningHLQTReward

def getCollateralSurplusBalance : Result Decimal :=
  this.getDecimal address overrides ChainState.getCollateralSurplusBalance

def getTroves (params : TroveListing) : Result (ListedTroves constants) := do
  let listing ← params.check
  let chain := this.chainAt overrides
  ListedTroves.from (chain.getTrovesBeforeRedistribution constants listing)
    (if params.beforeRedistribution then none else some (chain.getTotalRedistributed constants))

def getFees : Result (Fees constants) :=
  let chain := this.chainAt overrides
  Fees.new (decimalify chain.troveManager.baseRate) constants.minuteDecayFactor constants.beta
    (convertToDate chain.troveManager.lastFeeOperationTime) (convertToDate chain.blockTimestamp)
    ((chain.getTotal constants).collateralRatioIsBelowCritical chain.getPrice)

def getHLQTStake : Result HLQTStake := do
  let address ← addressOr address this.connection.requireAddress
  return (this.chainAt overrides).getHLQTStake address

def getTotalStakedHLQT : Result Decimal := .ok (this.chainAt overrides).getTotalStakedHLQT

def getFrontendStatus : Result FrontendStatus := do
  let address ← addressOr address this.connection.requireFrontendAddress
  return (this.chainAt overrides).getFrontendStatus address

/-- The default of this getter and the next is the frontend's address. -/
def getHchfTokenAllowanceOfHchfContract : Result Decimal := do
  let address ← addressOr address this.connection.requireFrontendAddress
  let tokenAddress ← this.getHCHFTokenAddress overrides
  (this.chainAt overrides).allowanceCall tokenAddress address this.connection.hchfToken overrides

def getHlqtTokenAllowanceOfHlqtContract : Result Decimal := do
  let address ← addressOr address this.connection.requireFrontendAddress
  let tokenAddress ← this.getHLQTTokenAddress overrides
  (this.chainAt overrides).allowanceCall tokenAddress address this.connection.hlqtToken overrides

end Getters

end ReadableEthersLiquity

/-- `cached ?? plain` -/
def cachedOr {α : Type} (cached : Option α) (plain : Result α) : Result α :=
  match cached with
  | some value => .ok value
  | none => plain

/-- `_CachedReadableLiquity` of the plain client and the store-based cache. -/
structure CachedReadableLiquity (constants : Constants) where
  readable : ReadableEthersLiquity
  cache : BlockPolledLiquityStoreBasedCache constants

namespace CachedReadableLiquity

section Getters

variable (this : CachedReadableLiquity constants) (address : Option String)
  (overrides : Option EthersCallOverrides)

def getTotalRedistributed : Result (Trove constants) :=
  cachedOr ((this.cache.getTotalRedistributed overrides).map Obj.value)
    (this.readable.getTotalRedistributed overrides)

def getTroveBeforeRedistribution : Result (TroveWithPendingRedistribution constants) :=
  cachedOr ((this.cache.getTroveBeforeRedistribution address overrides).map Obj.value)
    (this.readable.getTroveBeforeRedistribution address overrides)

/-- Assembled from two getters, of which each may be cached. -/
def getTrove : Result (UserTrove constants) := do
  let troveBeforeRedistribution ← this.getTroveBeforeRedistribution address overrides
  let totalRedistributed ← this.getTotalRedistributed overrides
  troveBeforeRedistribution.applyRedistribution totalRedistributed

def getNumberOfTroves : Result Nat :=
  cachedOr (this.cache.getNumberOfTroves overrides) (this.readable.getNumberOfTroves overrides)

def getPrice : Result Decimal :=
  cachedOr ((this.cache.getPrice overrides).map Obj.value) (this.readable.getPrice overrides)

def getTotal : Result (Trove constants) :=
  cachedOr ((this.cache.getTotal overrides).map Obj.value) (this.readable.getTotal overrides)

def getStabilityDeposit : Result StabilityDeposit :=
  cachedOr ((this.cache.getStabilityDeposit address overrides).map Obj.value)
    (this.readable.getStabilityDeposit address overrides)

def getRemainingStabilityPoolHLQTReward : Result Decimal :=
  cachedOr ((this.cache.getRemainingStabilityPoolHLQTReward overrides).map Obj.value)
    (this.readable.getRemainingStabilityPoolHLQTReward overrides)

def getHCHFInStabilityPool : Result Decimal :=
  cachedOr ((this.cache.getHCHFInStabilityPool overrides).map Obj.value)
    (this.readable.getHCHFInStabilityPool overrides)

def getHCHFBalance : Result Decimal :=
  cachedOr ((this.cache.getHCHFBalance address overrides).map Obj.value)
    (this.readable.getHCHFBalance address overrides)

def getHCHFTokenAddress : Result String :=
  cachedOr (this.cache.getHCHFTokenAddress overrides)
    (this.readable.getHCHFTokenAddress overrides)

def getHLQTTokenAddress : Result String :=
  cachedOr (this.cache.getHLQTTokenAddress overrides)
    (this.readable.getHLQTTokenAddress overrides)

def getHLQTBalance : Result Decimal :=
  cachedOr ((this.cache.getHLQTBalance address overrides).map Obj.value)
    (this.readable.getHLQTBalance address overrides)

def getUniTokenBalance : Result Decimal :=
  cachedOr ((this.cache.getUniTokenBalance address overrides).map Obj.value)
    (this.readable.getUniTokenBalance address overrides)

def getUniTokenAllowance : Result Decimal :=
  cachedOr ((this.cache.getUniTokenAllowance address overrides).map Obj.value)
    (this.readable.getUniTokenAllowance address overrides)

def getRemainingLiquidityMiningHLQTReward : Result Decimal :=
  cachedOr ((this.cache.getRemainingLiquidityMiningHLQTReward overrides).map Obj.value)
    (this.readable.getRemainingLiquidityMiningHLQTReward overrides)

def getLiquidityMiningStake : Result Decimal :=
  cachedOr ((this.cache.getLiquidityMiningStake address overrides).map Obj.value)
    (this.readable.getLiquidityMiningStake address overrides)

def getTotalStakedUniTokens : Result Decimal :=
  cachedOr ((this.cache.getTotalStakedUniTokens overrides).map Obj.value)
    (this.readable.getTotalStakedUniTokens overrides)

def getLiquidityMiningHLQTReward : Result Decimal :=
  cachedOr ((this.cache.getLiquidityMiningHLQTReward address overrides).map Obj.value)
    (this.readable.getLiquidityMiningHLQTReward address overrides)

def getCollateralSurplusBalance : Result Decimal :=
  cachedOr ((this.cache.getCollateralSurplusBalance address overrides).map Obj.value)
    (this.readable.getCollateralSurplusBalance address overrides)

/-- The plain getter lists the troves before the redistribution, and the total
redistributed may be cached. -/
def getTroves (params : TroveListing) : Result (ListedTroves constants) := do
  let totalRedistributed ←
    if params.beforeRedistribution then pure none
    else some <$> this.getTotalRedistributed overrides
  let cached : Option (List (UserTrove constants)) := BlockPolledLiquityStoreBasedCache.getTroves
  let listed ← cachedOr (cached.map ListedTroves.redistributed)
    (this.readable.getTroves overrides { params with beforeRedistribution := true })
  match listed with
  | .withPendingRedistribution troves => ListedTroves.from troves totalRedistributed
  | .redistributed troves => .ok (.redistributed troves)

def getFees : Result (Fees constants) :=
  cachedOr ((this.cache.getFees overrides).map Obj.value) (this.readable.getFees overrides)

def getHLQTStake : Result HLQTStake :=
  cachedOr ((this.cache.getHLQTStake address overrides).map Obj.value)
    (this.readable.getHLQTStake address overrides)

def getTotalStakedHLQT : Result Decimal :=
  cachedOr ((this.cache.getTotalStakedHLQT overrides).map Obj.value)
    (this.readable.getTotalStakedHLQT overrides)

def getFrontendStatus : Result FrontendStatus :=
  cachedOr ((this.cache.getFrontendStatus address overrides).map Obj.value)
    (this.readable.getFrontendStatus address overrides)

def getHchfTokenAllowanceOfHchfContract : Result Decimal :=
  cachedOr ((this.cache.getHchfTokenAllowanceOfHchfContract address overrides).map Obj.value)
    (this.readable.getHchfTokenAllowanceOfHchfContract address overrides)

def getHlqtTokenAllowanceOfHlqtContract : Result Decimal :=
  cachedOr ((this.cache.getHlqtTokenAllowanceOfHlqtContract address overrides).map Obj.value)
    (this.readable.getHlqtTokenAllowanceOfHlqtContract address overrides)

end Getters

end CachedReadableLiquity

/-- The getters without an address. -/
inductive BlockGetter where
  | totalRedistributed | numberOfTroves | price | total | remainingStabilityPoolHLQTReward
  | hchfInStabilityPool | hchfTokenAddress | hlqtTokenAddress
  | remainingLiquidityMiningHLQTReward | totalStakedUniTokens | fees | totalStakedHLQT
  deriving DecidableEq, Repr

/-- The getters whose address the cache takes for the user's when it is omitted. -/
inductive UserGetter where
  | troveBeforeRedistribution | trove | stabilityDeposit | hchfBalance | hlqtBalance
  | uniTokenBalance | uniTokenAllowance | liquidityMiningStake | liquidityMiningHLQTReward
  | collateralSurplusBalance | hlqtStake | hchfTokenAllowanceOfHchfContract
  | hlqtTokenAllowanceOfHlqtContract
  deriving DecidableEq, Repr

/-- A getter with its arguments. -/
inductive Getter where
  | block (getter : BlockGetter)
  | user (getter : UserGetter) (address : Option String)
  | frontendStatus (address : Option String)
  | troves (params : TroveListing)
  deriving DecidableEq, Repr

/-- What a getter returns. -/
inductive Answer (constants : Constants) where
  | decimal (value : Decimal)
  | count (value : Nat)
  | text (value : String)
  | trove (trove : Trove constants)
  | userTrove (trove : UserTrove constants)
  | troveWithPendingRedistribution (trove : TroveWithPendingRedistribution constants)
  | stabilityDeposit (deposit : StabilityDeposit)
  | hlqtStake (stake : HLQTStake)
  | fees (fees : Fees constants)
  | frontendStatus (status : FrontendStatus)
  | troves (troves : ListedTroves constants)
  deriving DecidableEq

/-- What the plain client returns or throws. -/
def ReadableEthersLiquity.read (this : ReadableEthersLiquity)
    (overrides : Option EthersCallOverrides) : Getter → Result (Answer constants)
  | .block .totalRedistributed => .trove <$> this.getTotalRedistributed overrides
  | .block .numberOfTroves => .count <$> this.getNumberOfTroves overrides
  | .block .price => .decimal <$> this.getPrice overrides
  | .block .total => .trove <$> this.getTotal overrides
  | .block .remainingStabilityPoolHLQTReward =>
      .decimal <$> this.getRemainingStabilityPoolHLQTReward overrides
  | .block .hchfInStabilityPool => .decimal <$> this.getHCHFInStabilityPool overrides
  | .block .hchfTokenAddress => .text <$> this.getHCHFTokenAddress overrides
  | .block .hlqtTokenAddress => .text <$> this.getHLQTTokenAddress overrides
  | .block .remainingLiquidityMiningHLQTReward =>
      .decimal <$> this.getRemainingLiquidityMiningHLQTReward overrides
  | .block .totalStakedUniTokens => .decimal <$> this.getTotalStakedUniTokens overrides
  | .block .fees => .fees <$> this.getFees overrides
  | .block .totalStakedHLQT => .decimal <$> this.getTotalStakedHLQT overrides
  | .user .troveBeforeRedistribution address =>
      .troveWithPendingRedistribution <$> this.getTroveBeforeRedistribution address overrides
  | .user .trove address => .userTrove <$> this.getTrove address overrides
  | .user .stabilityDeposit address =>
      .stabilityDeposit <$> this.getStabilityDeposit address overrides
  | .user .hchfBalance address => .decimal <$> this.getHCHFBalance address overrides
  | .user .hlqtBalance address => .decimal <$> this.getHLQTBalance address overrides
  | .user .uniTokenBalance address => .decimal <$> this.getUniTokenBalance address overrides
  | .user .uniTokenAllowance address => .decimal <$> this.getUniTokenAllowance address overrides
  | .user .liquidityMiningStake address =>
      .decimal <$> this.getLiquidityMiningStake address overrides
  | .user .liquidityMiningHLQTReward address =>
      .decimal <$> this.getLiquidityMiningHLQTReward address overrides
  | .user .collateralSurplusBalance address =>
      .decimal <$> this.getCollateralSurplusBalance address overrides
  | .user .hlqtStake address => .hlqtStake <$> this.getHLQTStake address overrides
  | .user .hchfTokenAllowanceOfHchfContract address =>
      .decimal <$> this.getHchfTokenAllowanceOfHchfContract address overrides
  | .user .hlqtTokenAllowanceOfHlqtContract address =>
      .decimal <$> this.getHlqtTokenAllowanceOfHlqtContract address overrides
  | .frontendStatus address => .frontendStatus <$> this.getFrontendStatus address overrides
  | .troves params => .troves <$> this.getTroves overrides params

/-- What the store-based cache answers. -/
def BlockPolledLiquityStoreBasedCache.answer (this : BlockPolledLiquityStoreBasedCache constants)
    (overrides : Option EthersCallOverrides) : Getter → Option (Answer constants)
  | .block .totalRedistributed => (this.getTotalRedistributed overrides).map (.trove ·.value)
  | .block .numberOfTroves => (this.getNumberOfTroves overrides).map .count
  | .block .price => (this.getPrice overrides).map (.decimal ·.value)
  | .block .total => (this.getTotal overrides).map (.trove ·.value)
  | .block .remainingStabilityPoolHLQTReward =>
      (this.getRemainingStabilityPoolHLQTReward overrides).map (.decimal ·.value)
  | .block .hchfInStabilityPool => (this.getHCHFInStabilityPool overrides).map (.decimal ·.value)
  | .block .hchfTokenAddress => (this.getHCHFTokenAddress overrides).map .text
  | .block .hlqtTokenAddress => (this.getHLQTTokenAddress overrides).map .text
  | .block .remainingLiquidityMiningHLQTReward =>
      (this.getRemainingLiquidityMiningHLQTReward overrides).map (.decimal ·.value)
  | .block .totalStakedUniTokens =>
      (this.getTotalStakedUniTokens overrides).map (.decimal ·.value)
  | .block .fees => (this.getFees overrides).map (.fees ·.value)
  | .block .totalStakedHLQT => (this.getTotalStakedHLQT overrides).map (.decimal ·.value)
  | .user .troveBeforeRedistribution address =>
      (this.getTroveBeforeRedistribution address overrides).map
        (.troveWithPendingRedistribution ·.value)
  | .user .trove address => (this.getTrove address overrides).map (.userTrove ·.value)
  | .user .stabilityDeposit address =>
      (this.getStabilityDeposit address overrides).map (.stabilityDeposit ·.value)
  | .user .hchfBalance address => (this.getHCHFBalance address overrides).map (.decimal ·.value)
  | .user .hlqtBalance address => (this.getHLQTBalance address overrides).map (.decimal ·.value)
  | .user .uniTokenBalance address =>
      (this.getUniTokenBalance address overrides).map (.decimal ·.value)
  | .user .uniTokenAllowance address =>
      (this.getUniTokenAllowance address overrides).map (.decimal ·.value)
  | .user .liquidityMiningStake address =>
      (this.getLiquidityMiningStake address overrides).map (.decimal ·.value)
  | .user .liquidityMiningHLQTReward address =>
      (this.getLiquidityMiningHLQTReward address overrides).map (.decimal ·.value)
  | .user .collateralSurplusBalance address =>
      (this.getCollateralSurplusBalance address overrides).map (.decimal ·.value)
  | .user .hlqtStake address => (this.getHLQTStake address overrides).map (.hlqtStake ·.value)
  | .user .hchfTokenAllowanceOfHchfContract address =>
      (this.getHchfTokenAllowanceOfHchfContract address overrides).map (.decimal ·.value)
  | .user .hlqtTokenAllowanceOfHlqtContract address =>
      (this.getHlqtTokenAllowanceOfHlqtContract address overrides).map (.decimal ·.value)
  | .frontendStatus address =>
      (this.getFrontendStatus address overrides).map (.frontendStatus ·.value)
  | .troves _ =>
      (getTroves : Option (List (UserTrove constants))).map (.troves <| .redistributed ·)

/-- What the cached client returns or throws. -/
def CachedReadableLiquity.read (this : CachedReadableLiquity constants)
    (overrides : Option EthersCallOverrides) : Getter → Result (Answer constants)
  | .block .totalRedistributed => .trove <$> this.getTotalRedistributed overrides
  | .block .numberOfTroves => .count <$> this.getNumberOfTroves overrides
  | .block .price => .decimal <$> this.getPrice overrides
  | .block .total => .trove <$> this.getTotal overrides
  | .block .remainingStabilityPoolHLQTReward =>
      .decimal <$> this.getRemainingStabilityPoolHLQTReward overrides
  | .block .hchfInStabilityPool => .decimal <$> this.getHCHFInStabilityPool overrides
  | .block .hchfTokenAddress => .text <$> this.getHCHFTokenAddress overrides
  | .block .hlqtTokenAddress => .text <$> this.getHLQTTokenAddress overrides
  | .block .remainingLiquidityMiningHLQTReward =>
      .decimal <$> this.getRemainingLiquidityMiningHLQTReward overrides
  | .block .totalStakedUniTokens => .decimal <$> this.getTotalStakedUniTokens overrides
  | .block .fees => .fees <$> this.getFees overrides
  | .block .totalStakedHLQT => .decimal <$> this.getTotalStakedHLQT overrides
  | .user .troveBeforeRedistribution address =>
      .troveWithPendingRedistribution <$> this.getTroveBeforeRedistribution address overrides
  | .user .trove address => .userTrove <$> this.getTrove address overrides
  | .user .stabilityDeposit address =>
      .stabilityDeposit <$> this.getStabilityDeposit address overrides
  | .user .hchfBalance address => .decimal <$> this.getHCHFBalance address overrides
  | .user .hlqtBalance address => .decimal <$> this.getHLQTBalance address overrides
  | .user .uniTokenBalance address => .decimal <$> this.getUniTokenBalance address overrides
  | .user .uniTokenAllowance address => .decimal <$> this.getUniTokenAllowance address overrides
  | .user .liquidityMiningStake address =>
      .decimal <$> this.getLiquidityMiningStake address overrides
  | .user .liquidityMiningHLQTReward address =>
      .decimal <$> this.getLiquidityMiningHLQTReward address overrides
  | .user .collateralSurplusBalance address =>
      .decimal <$> this.getCollateralSurplusBalance address overrides
  | .user .hlqtStake address => .hlqtStake <$> this.getHLQTStake address overrides
  | .user .hchfTokenAllowanceOfHchfContract address =>
      .decimal <$> this.getHchfTokenAllowanceOfHchfContract address overrides
  | .user .hlqtTokenAllowanceOfHlqtContract address =>
      .decimal <$> this.getHlqtTokenAllowanceOfHlqtContract address overrides
  | .frontendStatus address => .frontendStatus <$> this.getFrontendStatus address overrides
  | .troves params => .troves <$> this.getTroves overrides params

end HLiquity
