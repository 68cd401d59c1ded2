import HLiquity.StoreEvents

/-!
# The store-based cache

A cached client answers a read from the state of its block-polled store when
the read is about the store's user and its override allows the block that the
store has recorded. A cache that does not answer leaves the read to the chain.
-/

namespace HLiquity

variable {constants : Constants}

/-- Ethers' `BlockTag`: a block number, or a text such as a block's name. -/
inductive BlockTag where
  | number (blockTag : Nat)
  | text (blockTag : String)
  deriving DecidableEq, Repr

/-- Optional parameters of a read. -/
structure EthersCallOverrides where
  blockTag : Option BlockTag
  deriving DecidableEq, Repr

/-- The state variables, of the base state and of the derived state. -/
inductive StateKey where
  | base (key : BaseKey)
  | derived (key : DerivedKey)
  deriving DecidableEq, Repr

/-- The type of the values of a key. -/
@[reducible] def StateKey.Value (constants : Constants) : StateKey → Type
  | .base key => key.Value constants
  | .derived key => key.Value constants

/-- The value of a key in a state. -/
def LiquityStoreState.get {E : ExtraState} (this : LiquityStoreState constants E) :
    (key : StateKey) → key.Value constants
  | .base key => this.base.get key
  | .derived key => this.derived.get key

/-- `BlockPolledLiquityStoreBasedCache`, with the connection of its store. -/
structure BlockPolledLiquityStoreBasedCache (constants : Constants) where
  connection : EthersLiquityConnection
  store : HLiquityStore constants
    (BlockPolledLiquityStore.implementation connection : StoreImplementation constants).extra

/-- What a cached read depends on besides the block: nothing, or that its address
is the user's or the frontend's. -/
inductive CacheHit where
  | block
  | user (address : Option String)
  | frontend (address : Option String)
  deriving DecidableEq, Repr

namespace BlockPolledLiquityStoreBasedCache

variable (this : BlockPolledLiquityStoreBasedCache constants)

/-- `_blockHit` -/
def blockHit (overrides : Option EthersCallOverrides) : Bool :=
  match overrides with
  | none => true
  | some overrides =>
      match overrides.blockTag with
      | none => true
      | some blockTag => some blockTag == this.store.blockTag.map .number

/-- `_userHit` -/
def userHit (address : Option String) (overrides : Option EthersCallOverrides) : Bool :=
  this.blockHit overrides && (address == none || address == this.connection.userAddress)

/-- `_frontendHit` -/
def frontendHit (address : Option String) (overrides : Option EthersCallOverrides) : Bool :=
  this.blockHit overrides && (address == none || address == this.connection.frontendTag)

/-- Whether a read hits. -/
def hits (overrides : Option EthersCallOverrides) : CacheHit → Bool
  | .block => this.blockHit overrides
  | .user address => this.userHit address overrides
  | .frontend address => this.frontendHit address overrides

/-- A read that is answered with a state variable when it hits. -/
def read (hit : CacheHit) (key : StateKey) (overrides : Option EthersCallOverrides) :
    Option (key.Value constants) :=
  if this.hits overrides hit then some (this.store.state.get key) else none

section Reads

variable (address : Option String) (overrides : Option EthersCallOverrides)

def getTotalRedistributed : Option (Obj (Trove constants)) :=
  this.read .block (.base .totalRedistributed) overrides

def getTroveBeforeRedistribution : Option (Obj (TroveWithPendingRedistribution constants)) :=
  this.read (.user address) (.base .troveBeforeRedistribution) overrides

def getTrove : Option (Obj (UserTrove constants)) :=
  this.read (.user address) (.derived .trove) overrides

def getNumberOfTroves : Option Nat := this.read .block (.base .numberOfTroves) overrides

def getPrice : Option (Obj Decimal) := this.read .block (.base .price) overrides

def getTotal : Option (Obj (Trove constants)) := this.read .block (.base .total) overrides

def getStabilityDeposit : Option (Obj StabilityDeposit) :=
  this.read (.user address) (.base .stabilityDeposit) overrides

def getRemainingStabilityPoolHLQTReward : Option (Obj Decimal) :=
  this.read .block (.base .remainingStabilityPoolHLQTReward) overrides

def getHCHFInStabilityPool : Option (Obj Decimal) :=
  this.read .block (.base .hchfInStabilityPool) overrides

def getHCHFBalance : Option (Obj Decimal) :=
  this.read (.user address) (.base .hchfBalance) overrides

def getHCHFTokenAddress : Option String := this.read .block (.base .hchfTokenAddress) overrides

def getHLQTTokenAddress : Option String := this.read .block (.base .hlqtTokenAddress) overrides

def getHLQTBalance : Option (Obj Decimal) :=
  this.read (.user address) (.base .hlqtBalance) overrides

def getUniTokenBalance : Option (Obj Decimal) :=
  this.read (.user address) (.base .uniTokenBalance) overrides

def getUniTokenAllowance : Option (Obj Decimal) :=
  this.read (.user address) (.base .uniTokenAllowance) overrides

def getRemainingLiquidityMiningHLQTReward : Option (Obj Decimal) :=
  this.read .block (.base .remainingLiquidityMiningHLQTReward) overrides

def getLiquidityMiningStake : Option (Obj Decimal) :=
  this.read (.user address) (.base .liquidityMiningStake) overrides

def getTotalStakedUniTokens : Option (Obj Decimal) :=
  this.read .block (.base .totalStakedUniTokens) overrides

def getLiquidityMiningHLQTReward : Option (Obj Decimal) :=
  this.read (.user address) (.base .liquidityMiningHLQTReward) overrides

def getCollateralSurplusBalance : Option (Obj Decimal) :=
  this.read (.user address) (.base .collateralSurplusBalance) overrides

def getFees : Option (Obj (Fees constants)) := this.read .block (.derived .fees) overrides

def getHLQTStake : Option (Obj HLQTStake) := this.read (.user address) (.base .hlqtStake) overrides

def getTotalStakedHLQT : Option (Obj Decimal) :=
  this.read .block (.base .totalStakedHLQT) overrides

def getFrontendStatus : Option (Obj FrontendStatus) :=
  this.read (.frontend address) (.base .frontend) overrides

def getHchfTokenAllowanceOfHchfContract : Option (Obj Decimal) :=
  this.read (.user address) (.base .hchfTokenAllowanceOfHchfContract) overrides

def getHlqtTokenAllowanceOfHlqtContract : Option (Obj Decimal) :=
  this.read (.user address) (.base .hlqtTokenAllowanceOfHlqtContract) overrides

/-- Troves are never answered from the store. -/
def getTroves : Option (List (UserTrove constants)) := none

end Reads

/-- A read with an explicit block number is answered only if the store has
recorded that number. -/
theorem blockTag_of_read {hit : CacheHit} {key : StateKey} {blockTag : Nat}
    {value : key.Value constants}
    (h : this.read hit key (some ⟨some (.number blockTag)⟩) = some value) :
    this.store.blockTag = some blockTag ∧ this.store.state.get key = value := by
  unfold read at h
  split at h
  · next hhit =>
      have hblock : this.blockHit (some ⟨some (.number blockTag)⟩) = true := by
        cases hit with
        | block => exact hhit
        | user address => exact (Bool.and_eq_true_iff.mp hhit).1
        | frontend address => exact (Bool.and_eq_true_iff.mp hhit).1
      refine ⟨?_, Option.some.inj h⟩
      have htag := beq_iff_eq.mp hblock
      cases hrecorded : this.store.blockTag with
      | none =>
          rw [hrecorded] at htag
          cases htag
      | some recorded =>
          rw [hrecorded] at htag
          cases htag
          rfl
  · cases h

end BlockPolledLiquityStoreBasedCache

end HLiquity
