import HLiquity.Chain
import HLiquity.Store

/-!
# Fetching the state of a store

Both store implementations read the same values at one block, but for the token
associations, which they read without a block tag. They differ in where the
configured addresses come from and in the trove they report as the riskiest.
-/

namespace HLiquity

variable {constants : Constants}

/-- A configured address, unless it is missing or empty. -/
def configured (address : Option String) : Option String := address.filter (· ≠ "")

/-- The extra state of both implementations. -/
structure BlockExtraState where
  blockTag : Option Nat
  blockTimestamp : Nat
  deriving DecidableEq, Repr

/-- A partial update of it, whose block tag may be present and undefined. -/
structure BlockExtraUpdate where
  blockTag : Option (Option Nat)
  blockTimestamp : Option Nat
  deriving DecidableEq, Repr

/-- A whole extra state as an update. -/
def BlockExtraState.toUpdate (extraState : BlockExtraState) : BlockExtraUpdate :=
  ⟨some extraState.blockTag, some extraState.blockTimestamp⟩

/-- The entries of an extra state that are not identical in another. -/
def BlockExtraState.difference (a b : Option BlockExtraState) : BlockExtraUpdate :=
  match a with
  | none => ⟨none, none⟩
  | some a =>
      ⟨if a.blockTag = b.bind (·.blockTag) then none else some a.blockTag,
        if some a.blockTimestamp = b.map (·.blockTimestamp) then none else some a.blockTimestamp⟩

/-- The addresses and the cap that a client is configured with, and the textual
identifier of a token address. -/
structure FetchOptions where
  userAddress : Option String
  frontendAddress : Option String
  totalStabilityPoolHLQTReward : Decimal
  hchfToken : String
  hlqtToken : String
  saucerSwapPool : String
  uniToken : String
  tokenIdString : String → String

/-- The base state read at a block, with a given riskiest trove. The token associations, with the
token addresses that they are read for, are those of the block that is the latest when they are
read. The new objects belong to the given source. -/
def fetchBaseState (options : FetchOptions) (chain latest : ChainState)
    (riskiestTrove : TroveWithPendingRedistribution constants) (source : Nat) :
    Result (LiquityStoreBaseState constants) := do
  let decimal (index : Nat) (value : Decimal) : Obj Decimal := ⟨.supplied source index, value⟩
  let zero : Obj Decimal := ⟨.decimalZero, Decimal.zero⟩
  let feesInNormalMode ← chain.createFees constants chain.blockTimestamp
  let remainingStabilityPoolHLQTReward ←
    chain.getRemainingStabilityPoolHLQTReward options.totalStabilityPoolHLQTReward
  let withoutUser : LiquityStoreBaseState constants := {
    price := decimal 0 chain.getPrice
    numberOfTroves := chain.getNumberOfTroves
    totalRedistributed := ⟨.supplied source 1, chain.getTotalRedistributed constants⟩
    total := ⟨.supplied source 2, chain.getTotal constants⟩
    hchfInStabilityPool := decimal 3 chain.getHCHFInStabilityPool
    totalStakedHLQT := decimal 4 chain.getTotalStakedHLQT
    riskiestTroveBeforeRedistribution := ⟨.supplied source 5, riskiestTrove⟩
    totalStakedUniTokens := decimal 6 chain.getTotalStakedUniTokens
    remainingStabilityPoolHLQTReward := decimal 7 remainingStabilityPoolHLQTReward
    frontend := ⟨.supplied source 8,
      match configured options.frontendAddress with
      | some frontendAddress => chain.getFrontendStatus frontendAddress
      | none => .unregistered⟩
    userHasAssociatedWithHchf :=
      latest.userHasAssociatedWith options.tokenIdString latest.hchfToken.tokenAddress
    userHasAssociatedWithHlqt :=
      latest.userHasAssociatedWith options.tokenIdString latest.hlqtToken.tokenAddress
    userHasAssociatedWithLpToken :=
      latest.userHasAssociatedWith options.tokenIdString latest.saucerSwapPool.uniToken
    feesInNormalMode := ⟨.supplied source 9, feesInNormalMode⟩
    remainingLiquidityMiningHLQTReward :=
      decimal 10 (chain.getRemainingLiquidityMiningHLQTReward chain.blockTimestamp)
    accountBalance := zero, hchfBalance := zero, hlqtBalance := zero
    hchfTokenAddress := "0x", hlqtTokenAddress := "0x"
    uniTokenBalance := zero, uniTokenAllowance := zero
    liquidityMiningStake := zero, liquidityMiningHLQTReward := zero
    collateralSurplusBalance := zero
    troveBeforeRedistribution := ⟨.supplied source 11, .empty addressZero .nonExistent⟩
    stabilityDeposit := ⟨.supplied source 12,
      ⟨Decimal.zero, Decimal.zero, Decimal.zero, Decimal.zero, addressZero,
        Decimal.zero_le Decimal.zero⟩⟩
    hlqtStake := ⟨.supplied source 13, ⟨Decimal.zero, Decimal.zero, Decimal.zero⟩⟩
    ownFrontend := ⟨.supplied source 14, .unregistered⟩
    hchfTokenAllowanceOfHchfContract := zero
    hlqtTokenAllowanceOfHlqtContract := zero }
  match configured options.userAddress with
  | none => return withoutUser
  | some userAddress =>
    let stabilityDeposit ← chain.getStabilityDeposit userAddress
    return { withoutUser with
      accountBalance := decimal 15
        (Decimal.fromBigNumberStringWithPrecision (chain.balance userAddress) 18)
      hchfBalance := decimal 16 (chain.getHCHFBalance userAddress)
      hchfTokenAddress := chain.getHCHFTokenAddress
      hlqtTokenAddress := chain.getHLQTTokenAddress
      hlqtBalance := decimal 17 (chain.getHLQTBalance userAddress)
      uniTokenBalance := decimal 18 (chain.getUniTokenBalance options.uniToken userAddress)
      uniTokenAllowance := decimal 19
        (chain.getUniTokenAllowance options.uniToken options.saucerSwapPool userAddress)
      liquidityMiningStake := decimal 20 (chain.getLiquidityMiningStake userAddress)
      liquidityMiningHLQTReward := decimal 21 (chain.getLiquidityMiningHLQTReward userAddress)
      collateralSurplusBalance := decimal 22 (chain.getCollateralSurplusBalance userAddress)
      troveBeforeRedistribution := ⟨.supplied source 11,
        chain.getTroveBeforeRedistribution constants userAddress⟩
      stabilityDeposit := ⟨.supplied source 12, stabilityDeposit⟩
      hlqtStake := ⟨.supplied source 13, chain.getHLQTStake userAddress⟩
      ownFrontend := ⟨.supplied source 14, chain.getFrontendStatus userAddress⟩
      hchfTokenAllowanceOfHchfContract := decimal 23
        (chain.getHchfTokenAllowanceOfHchfContract options.hchfToken userAddress)
      hlqtTokenAllowanceOfHlqtContract := decimal 24
        (chain.getHlqtTokenAllowanceOfHlqtContract options.hlqtToken userAddress) }

/-- A base state with the token associations of a block. -/
def LiquityStoreBaseState.withAssociations (this : LiquityStoreBaseState constants)
    (options : FetchOptions) (latest : ChainState) : LiquityStoreBaseState constants :=
  { this with
    userHasAssociatedWithHchf :=
      latest.userHasAssociatedWith options.tokenIdString latest.hchfToken.tokenAddress
    userHasAssociatedWithHlqt :=
      latest.userHasAssociatedWith options.tokenIdString latest.hlqtToken.tokenAddress
    userHasAssociatedWithLpToken :=
      latest.userHasAssociatedWith options.tokenIdString latest.saucerSwapPool.uniToken }

/-- The values that are read with the block tag of the fetch. -/
def BaseKey.readWithTag : BaseKey → Bool
  | .userHasAssociatedWithHchf | .userHasAssociatedWithHlqt | .userHasAssociatedWithLpToken =>
      false
  | _ => true

theorem LiquityStoreBaseState.withAssociations_get (this : LiquityStoreBaseState constants)
    (options : FetchOptions) (latest : ChainState) {key : BaseKey} (h : key.readWithTag = true) :
    (this.withAssociations options latest).get key = this.get key := by
  cases key <;> first | rfl | cases h

section FetchedBase

variable {options : FetchOptions} {chain latest : ChainState}
  {riskiestTrove : TroveWithPendingRedistribution constants} {source : Nat}
  {baseState : LiquityStoreBaseState constants}

/-- Nothing but the token associations depends on the latest block. -/
theorem exists_fetchBaseState_observed
    (h : fetchBaseState options chain latest riskiestTrove source = .ok baseState) :
    ∃ observed, fetchBaseState options chain chain riskiestTrove source = .ok observed ∧
      baseState = observed.withAssociations options latest := by
  unfold fetchBaseState at h ⊢
  obtain ⟨fees, hfees, h⟩ := Result.bind_eq_ok.mp h
  obtain ⟨reward, hreward, h⟩ := Result.bind_eq_ok.mp h
  simp only [hfees, hreward, Result.ok_bind]
  cases huser : configured options.userAddress with
  | none =>
      rw [huser] at h
      cases Except.ok.inj h
      exact ⟨_, rfl, rfl⟩
  | some userAddress =>
      rw [huser] at h
      obtain ⟨stabilityDeposit, hdeposit, h⟩ := Result.bind_eq_ok.mp h
      cases Except.ok.inj h
      simp only [hdeposit, Result.ok_bind]
      exact ⟨_, rfl, rfl⟩

/-- The price that is read. -/
theorem fetchBaseState_price
    (h : fetchBaseState options chain latest riskiestTrove source = .ok baseState) :
    baseState.price.value = chain.getPrice := by
  unfold fetchBaseState at h
  obtain ⟨fees, _, h⟩ := Result.bind_eq_ok.mp h
  obtain ⟨reward, _, h⟩ := Result.bind_eq_ok.mp h
  cases huser : configured options.userAddress with
  | none =>
      rw [huser] at h
      cases Except.ok.inj h
      rfl
  | some userAddress =>
      rw [huser] at h
      obtain ⟨stabilityDeposit, _, h⟩ := Result.bind_eq_ok.mp h
      cases Except.ok.inj h
      rfl

/-- Every allowance that is read is an object of its source, unless there is no user. -/
theorem fetchBaseState_allowance
    (h : fetchBaseState options chain latest riskiestTrove source = .ok baseState)
    (key : AllowanceKey) :
    baseState.allowance key = ⟨.decimalZero, Decimal.zero⟩ ∨
      ∃ index value, index < 25 ∧ baseState.allowance key = ⟨.supplied source index, value⟩ := by
  unfold fetchBaseState at h
  obtain ⟨fees, _, h⟩ := Result.bind_eq_ok.mp h
  obtain ⟨reward, _, h⟩ := Result.bind_eq_ok.mp h
  cases huser : configured options.userAddress with
  | none =>
      rw [huser] at h
      left
      cases Except.ok.inj h
      cases key <;> rfl
  | some userAddress =>
      rw [huser] at h
      obtain ⟨stabilityDeposit, _, h⟩ := Result.bind_eq_ok.mp h
      right
      cases Except.ok.inj h
      cases key with
      | hchfTokenAllowanceOfHchfContract => exact ⟨23, _, by decide, rfl⟩
      | hlqtTokenAllowanceOfHlqtContract => exact ⟨24, _, by decide, rfl⟩
      | uniTokenAllowance => exact ⟨19, _, by decide, rfl⟩

end FetchedBase

/-- What a fetch returns. -/
abbrev Fetched (constants : Constants) := LiquityStoreBaseState constants × BlockExtraState

/-- What the block-polled store reads of its connection. -/
structure EthersLiquityConnection where
  userAddress : Option String
  frontendTag : Option String
  totalStabilityPoolHLQTReward : Decimal
  hchfToken : String
  hlqtToken : String
  saucerSwapPool : String
  uniToken : String
  tokenIdString : String → String

namespace BlockPolledLiquityStore

/-- `_getRiskiestTroveBeforeRedistribution` -/
def getRiskiestTroveBeforeRedistribution (chain : ChainState) :
    TroveWithPendingRedistribution constants :=
  let riskiestTroves :=
    chain.getTrovesBeforeRedistribution constants ⟨1, .ascendingCollateralRatio, none⟩
  match riskiestTroves with
  | [] => .empty addressZero .nonExistent
  | riskiestTrove :: _ => riskiestTrove

/-- `_get` -/
def get (connection : EthersLiquityConnection) (chain latest : ChainState)
    (blockTag : Option Nat) (source : Nat) : Result (Fetched constants) := do
  let baseState ← fetchBaseState
    { userAddress := connection.userAddress
      frontendAddress := connection.frontendTag
      totalStabilityPoolHLQTReward := connection.totalStabilityPoolHLQTReward
      hchfToken := connection.hchfToken
      hlqtToken := connection.hlqtToken
      saucerSwapPool := connection.saucerSwapPool
      uniToken := connection.uniToken
      tokenIdString := connection.tokenIdString }
    chain latest (getRiskiestTroveBeforeRedistribution chain) source
  return (baseState, ⟨blockTag, chain.blockTimestamp⟩)

/-- `_reduceExtra`, which keeps the recorded block tag when none is supplied. -/
def reduceExtra (oldState : BlockExtraState) (stateUpdate : BlockExtraUpdate) :
    BlockExtraState where
  blockTag := stateUpdate.blockTag.join <|> oldState.blockTag
  blockTimestamp := stateUpdate.blockTimestamp.getD oldState.blockTimestamp

/-- The extra state of the block-polled store. -/
def extra : ExtraState where
  State := BlockExtraState
  Update := BlockExtraUpdate
  reduceExtra := reduceExtra
  difference := BlockExtraState.difference

end BlockPolledLiquityStore

/-- What the Hashgraph store reads of its options. -/
structure HashgraphOptions where
  userAccountAddress : String
  frontendAddress : String
  totalStabilityPoolHlqtReward : Decimal
  hchfToken : String
  hlqtToken : String
  saucerSwapPool : String
  tokenIdString : String → String

namespace HashgraphLiquity

/-- `fetchStoreValues`, which reports a trove that does not exist as the riskiest. The getters of
the liquidity token's balance and allowance read its address without a tag. -/
def fetchStoreValues (options : HashgraphOptions) (chain latest : ChainState)
    (blockTag : Option Nat) (source : Nat) : Result (Fetched constants) := do
  let baseState ← fetchBaseState
    { userAddress := some options.userAccountAddress
      frontendAddress := some options.frontendAddress
      totalStabilityPoolHLQTReward := options.totalStabilityPoolHlqtReward
      hchfToken := options.hchfToken
      hlqtToken := options.hlqtToken
      saucerSwapPool := options.saucerSwapPool
      uniToken := latest.saucerSwapPool.uniToken
      tokenIdString := options.tokenIdString }
    chain latest (.empty options.userAccountAddress (userTroveStatusFrom .nonExistent)) source
  return (baseState, ⟨blockTag, chain.blockTimestamp⟩)

/-- `_reduceExtra`, where a property that is present and undefined overwrites. -/
def reduceExtra (extraState : BlockExtraState) (extraStateUpdate : BlockExtraUpdate) :
    BlockExtraState where
  blockTag := extraStateUpdate.blockTag.getD extraState.blockTag
  blockTimestamp := extraStateUpdate.blockTimestamp.getD extraState.blockTimestamp

/-- The extra state of the Hashgraph store. -/
def extra : ExtraState where
  State := BlockExtraState
  Update := BlockExtraUpdate
  reduceExtra := reduceExtra
  difference := BlockExtraState.difference

end HashgraphLiquity

def exampleOptions : HashgraphOptions := ⟨"0xd", "", ⟨0⟩, "0xa", "0xb", "0xc", id⟩

def exampleConnection : EthersLiquityConnection :=
  ⟨some "0xd", none, ⟨0⟩, "0xa", "0xb", "0xc", "0xe", id⟩

/-- A whole base state as an update. -/
def LiquityStoreBaseState.toUpdate (baseState : LiquityStoreBaseState constants) :
    PartialBaseState constants :=
  fun key => some (baseState.get key)

/-- What follows a fetch that returned: an update of a loaded store, otherwise
the load of the store. The extra states of both implementations have one shape. -/
def receive {E : ExtraState} (this : HLiquityStore constants E)
    (baseState : LiquityStoreBaseState constants) (extraState : E.State)
    (extraStateUpdate : E.Update) : Result Unit × HLiquityStore constants E :=
  if this.loaded then this.update (some baseState.toUpdate) (some extraStateUpdate)
  else this.load baseState (some extraState)

/-- Every base field of an update by a whole base state is the supplied one. -/
theorem reduce_toUpdate_equals (before baseState : LiquityStoreBaseState constants)
    (key : BaseKey) :
    key.equals ((reduce before baseState.toUpdate).get key) (baseState.get key) = true := by
  rw [reduce_get]
  exact KeepIfEqual.equals_keep key.equals key.equals_refl _ _

/-- What can be derived from an update is what can be derived from its base state. -/
theorem reduce_toUpdate_derivable (before baseState : LiquityStoreBaseState constants) :
    (reduce before baseState.toUpdate).Derivable ↔ baseState.Derivable := by
  have hfees : (reduce before baseState.toUpdate).feesInNormalMode.value =
      baseState.feesInNormalMode.value :=
    Fees.equals_iff.mp (reduce_toUpdate_equals before baseState .feesInNormalMode)
  rw [LiquityStoreBaseState.Derivable, hfees]
  rfl

/-- The allowances of a whole base state as an update. -/
@[simp] theorem LiquityStoreBaseState.toUpdate_allowance
    (baseState : LiquityStoreBaseState constants) (key : AllowanceKey) :
    baseState.toUpdate.allowance key = some (baseState.allowance key) := by
  cases key <;> rfl

/-- An update by a whole base state takes over all its values, if one address holds
one allowance. -/
theorem reduce_toUpdate_sameValue {before baseState : LiquityStoreBaseState constants}
    (haddress : ∀ key : AllowanceKey,
      (before.allowance key).address = (baseState.allowance key).address →
        (before.allowance key).value = (baseState.allowance key).value)
    (key : BaseKey) :
    key.SameValue ((reduce before baseState.toUpdate).get key) (baseState.get key) := by
  have hallowance (key : AllowanceKey) :
      ((reduce before baseState.toUpdate).allowance key).value =
        (baseState.allowance key).value := by
    rw [reduce_allowance, LiquityStoreBaseState.toUpdate_allowance]
    exact KeepIfEqual.keep_induction (motive := fun kept => kept.value = _) key.equals
      (key.value_eq_of_equals (haddress key)) rfl
  by_cases hhchf : key = .hchfTokenAllowanceOfHchfContract
  · subst hhchf
    exact hallowance .hchfTokenAllowanceOfHchfContract
  · by_cases hhlqt : key = .hlqtTokenAllowanceOfHlqtContract
    · subst hhlqt
      exact hallowance .hlqtTokenAllowanceOfHlqtContract
    · exact BaseKey.sameValue_of_equals hhchf hhlqt (reduce_toUpdate_equals before baseState key)

section Receiving

variable {E : ExtraState} {this : HLiquityStore constants E}

/-- A loaded store takes over the base state of a fetch, and goes through with
the update exactly when it can derive. -/
theorem receive_of_loaded (hloaded : this.loaded = true)
    {before : LiquityStoreBaseState constants} {derivedState : LiquityStoreDerivedState constants}
    {extraBefore : E.State} (hbase : this.baseState = some before)
    (hderived : this.derivedState = some derivedState) (hextra : this.extraState = some extraBefore)
    (baseState : LiquityStoreBaseState constants) (extraState : E.State)
    (extraStateUpdate : E.Update) :
    let next := reduce before baseState.toUpdate
    (¬ baseState.Derivable ∧ ∃ failure, derive next this.allocations = .error failure ∧
      receive this baseState extraState extraStateUpdate =
        (.error failure, this.withBase next)) ∨
    (baseState.Derivable ∧ ∃ derived, derive next this.allocations = .ok derived ∧
      receive this baseState extraState extraStateUpdate =
        (.ok (), this.updated next (reduceDerived derivedState derived)
          (some (E.reduceExtra extraBefore extraStateUpdate)))) := by
  intro next
  have hiff : next.Derivable ↔ baseState.Derivable := reduce_toUpdate_derivable before baseState
  have hreduced : HLiquityStore.reducedExtra this.extraState (some extraStateUpdate) =
      .ok (some (E.reduceExtra extraBefore extraStateUpdate)) := by
    rw [hextra]
    rfl
  rw [receive, if_pos hloaded]
  rcases HLiquityStore.update_cases hbase hderived (some baseState.toUpdate)
      (some extraStateUpdate) with
    ⟨failure, hderive, hupdate⟩ | ⟨_, failure, _, hfail, _⟩ |
    ⟨derived, extraAfter, hderive, hok, hupdate⟩
  · refine .inl ⟨?_, failure, hderive, hupdate⟩
    intro hderivable
    obtain ⟨derived, hok⟩ := (derive_ok_iff this.allocations).mpr (hiff.mpr hderivable)
    rw [show derive next this.allocations = .error failure from hderive] at hok
    cases hok
  · rw [hreduced] at hfail
    cases hfail
  · rw [hreduced] at hok
    cases hok
    exact .inr ⟨hiff.mp ((derive_ok_iff _).mp ⟨derived, hderive⟩), derived, hderive, hupdate⟩

/-- A store that is not loaded is loaded exactly when the fetch can be derived. -/
theorem receive_of_not_loaded (hloaded : this.loaded = false)
    (baseState : LiquityStoreBaseState constants) (extraState : E.State)
    (extraStateUpdate : E.Update) :
    (¬ baseState.Derivable ∧ ∃ failure, derive baseState this.allocations = .error failure ∧
      receive this baseState extraState extraStateUpdate =
        (.error failure, this.withBase baseState)) ∨
    (baseState.Derivable ∧ ∃ derived again, derive baseState this.allocations = .ok derived ∧
      derive baseState (this.allocations + 4) = .ok again ∧
      receive this baseState extraState extraStateUpdate =
        (.ok (), (this.loadedWith baseState derived (some extraState)).updated baseState
          (reduceDerived derived again) (some extraState))) := by
  rw [receive, if_neg (by simp [hloaded])]
  by_cases hderivable : baseState.Derivable
  · exact .inr ⟨hderivable,
      HLiquityStore.load_of_derivable hloaded hderivable (some extraState)⟩
  · exact .inl ⟨hderivable,
      HLiquityStore.load_of_not_derivable hloaded hderivable (some extraState)⟩

end Receiving

end HLiquity
