import HLiquity.ReadableEthersLiquity
import HLiquity.StoreSnapshot

/-!
# The cached client after a load

The store-based cache answers an omitted address with the user's state, also
when the connection has no user. The plain client asks for the user's address
then, and for the frontend's when it reads one of two allowances. These two it
cannot read at all without overrides. Apart from these reads the cached client
returns and throws what the plain one does.
-/

namespace HLiquity

variable {constants : Constants}

/-- What a read depends on in the cache, which never answers a listing of troves. -/
def Getter.hit : Getter → Option CacheHit
  | .block _ => some .block
  | .user _ address => some (.user address)
  | .frontendStatus address => some (.frontend address)
  | .troves _ => none

/-- The answer that a state holds for a getter. -/
def LiquityStoreState.answer {E : ExtraState} (this : LiquityStoreState constants E) :
    Getter → Option (Answer constants)
  | .block .totalRedistributed => some (.trove this.base.totalRedistributed.value)
  | .block .numberOfTroves => some (.count this.base.numberOfTroves)
  | .block .price => some (.decimal this.base.price.value)
  | .block .total => some (.trove this.base.total.value)
  | .block .remainingStabilityPoolHLQTReward =>
      some (.decimal this.base.remainingStabilityPoolHLQTReward.value)
  | .block .hchfInStabilityPool => some (.decimal this.base.hchfInStabilityPool.value)
  | .block .hchfTokenAddress => some (.text this.base.hchfTokenAddress)
  | .block .hlqtTokenAddress => some (.text this.base.hlqtTokenAddress)
  | .block .remainingLiquidityMiningHLQTReward =>
      some (.decimal this.base.remainingLiquidityMiningHLQTReward.value)
  | .block .totalStakedUniTokens => some (.decimal this.base.totalStakedUniTokens.value)
  | .block .fees => some (.fees this.derived.fees.value)
  | .block .totalStakedHLQT => some (.decimal this.base.totalStakedHLQT.value)
  | .user .troveBeforeRedistribution _ =>
      some (.troveWithPendingRedistribution this.base.troveBeforeRedistribution.value)
  | .user .trove _ => some (.userTrove this.derived.trove.value)
  | .user .stabilityDeposit _ => some (.stabilityDeposit this.base.stabilityDeposit.value)
  | .user .hchfBalance _ => some (.decimal this.base.hchfBalance.value)
  | .user .hlqtBalance _ => some (.decimal this.base.hlqtBalance.value)
  | .user .uniTokenBalance _ => some (.decimal this.base.uniTokenBalance.value)
  | .user .uniTokenAllowance _ => some (.decimal this.base.uniTokenAllowance.value)
  | .user .liquidityMiningStake _ => some (.decimal this.base.liquidityMiningStake.value)
  | .user .liquidityMiningHLQTReward _ => some (.decimal this.base.liquidityMiningHLQTReward.value)
  | .user .collateralSurplusBalance _ => some (.decimal this.base.collateralSurplusBalance.value)
  | .user .hlqtStake _ => some (.hlqtStake this.base.hlqtStake.value)
  | .user .hchfTokenAllowanceOfHchfContract _ =>
      some (.decimal this.base.hchfTokenAllowanceOfHchfContract.value)
  | .user .hlqtTokenAllowanceOfHlqtContract _ =>
      some (.decimal this.base.hlqtTokenAllowanceOfHlqtContract.value)
  | .frontendStatus _ => some (.frontendStatus this.base.frontend.value)
  | .troves _ => none

theorem LiquityStoreState.exists_answer_user {E : ExtraState}
    (this : LiquityStoreState constants E) (getter : UserGetter) (address : Option String) :
    ∃ answer, this.answer (.user getter address) = some answer := by
  cases getter <;> exact ⟨_, rfl⟩

/-- A cache that hits answers with its store's state. -/
theorem BlockPolledLiquityStoreBasedCache.answer_eq
    (this : BlockPolledLiquityStoreBasedCache constants) (overrides : Option EthersCallOverrides)
    (getter : Getter) :
    this.answer overrides getter =
      if getter.hit.any (this.hits overrides) then this.store.state.answer getter else none := by
  cases getter with
  | block getter =>
      rw [Getter.hit, Option.any_some]
      cases getter <;>
        simp only [answer, getTotalRedistributed, getNumberOfTroves, getPrice, getTotal,
          getRemainingStabilityPoolHLQTReward, getHCHFInStabilityPool, getHCHFTokenAddress,
          getHLQTTokenAddress, getRemainingLiquidityMiningHLQTReward, getTotalStakedUniTokens,
          getFees, getTotalStakedHLQT, read] <;>
        split <;> rfl
  | user getter address =>
      rw [Getter.hit, Option.any_some]
      cases getter <;>
        simp only [answer, getTroveBeforeRedistribution, getTrove, getStabilityDeposit,
          getHCHFBalance, getHLQTBalance, getUniTokenBalance, getUniTokenAllowance,
          getLiquidityMiningStake, getLiquidityMiningHLQTReward, getCollateralSurplusBalance,
          getHLQTStake, getHchfTokenAllowanceOfHchfContract,
          getHlqtTokenAllowanceOfHlqtContract, read] <;>
        split <;> rfl
  | frontendStatus address =>
      rw [Getter.hit, Option.any_some, answer, getFrontendStatus, read]
      split <;> rfl
  | troves params => rfl

/-- States with the same values answer the same. -/
theorem LiquityStoreState.answer_congr {E F : ExtraState} {a : LiquityStoreState constants E}
    {b : LiquityStoreState constants F}
    (h : ∀ key : StateKey, key.SameValue (a.get key) (b.get key)) (getter : Getter) :
    a.answer getter = b.answer getter := by
  have hbase (key : BaseKey) : key.SameValue (a.base.get key) (b.base.get key) := h (.base key)
  cases getter with
  | block getter =>
      cases getter with
      | totalRedistributed => exact congrArg (some <| Answer.trove ·) (hbase .totalRedistributed)
      | numberOfTroves => exact congrArg (some <| Answer.count ·) (hbase .numberOfTroves)
      | price => exact congrArg (some <| Answer.decimal ·) (hbase .price)
      | total => exact congrArg (some <| Answer.trove ·) (hbase .total)
      | remainingStabilityPoolHLQTReward =>
          exact congrArg (some <| Answer.decimal ·) (hbase .remainingStabilityPoolHLQTReward)
      | hchfInStabilityPool =>
          exact congrArg (some <| Answer.decimal ·) (hbase .hchfInStabilityPool)
      | hchfTokenAddress => exact congrArg (some <| Answer.text ·) (hbase .hchfTokenAddress)
      | hlqtTokenAddress => exact congrArg (some <| Answer.text ·) (hbase .hlqtTokenAddress)
      | remainingLiquidityMiningHLQTReward =>
          exact congrArg (some <| Answer.decimal ·) (hbase .remainingLiquidityMiningHLQTReward)
      | totalStakedUniTokens =>
          exact congrArg (some <| Answer.decimal ·) (hbase .totalStakedUniTokens)
      | fees => exact congrArg (some <| Answer.fees ·) (Fees.equals_iff.mp (h (.derived .fees)))
      | totalStakedHLQT => exact congrArg (some <| Answer.decimal ·) (hbase .totalStakedHLQT)
  | user getter address =>
      cases getter with
      | troveBeforeRedistribution =>
          exact congrArg (some <| Answer.troveWithPendingRedistribution ·)
            (hbase .troveBeforeRedistribution)
      | trove =>
          exact congrArg (some <| Answer.userTrove ·)
            (UserTrove.equals_iff.mp (h (.derived .trove)))
      | stabilityDeposit =>
          exact congrArg (some <| Answer.stabilityDeposit ·) (hbase .stabilityDeposit)
      | hchfBalance => exact congrArg (some <| Answer.decimal ·) (hbase .hchfBalance)
      | hlqtBalance => exact congrArg (some <| Answer.decimal ·) (hbase .hlqtBalance)
      | uniTokenBalance => exact congrArg (some <| Answer.decimal ·) (hbase .uniTokenBalance)
      | uniTokenAllowance => exact congrArg (some <| Answer.decimal ·) (hbase .uniTokenAllowance)
      | liquidityMiningStake =>
          exact congrArg (some <| Answer.decimal ·) (hbase .liquidityMiningStake)
      | liquidityMiningHLQTReward =>
          exact congrArg (some <| Answer.decimal ·) (hbase .liquidityMiningHLQTReward)
      | collateralSurplusBalance =>
          exact congrArg (some <| Answer.decimal ·) (hbase .collateralSurplusBalance)
      | hlqtStake => exact congrArg (some <| Answer.hlqtStake ·) (hbase .hlqtStake)
      | hchfTokenAllowanceOfHchfContract =>
          exact congrArg (some <| Answer.decimal ·) (hbase .hchfTokenAllowanceOfHchfContract)
      | hlqtTokenAllowanceOfHlqtContract =>
          exact congrArg (some <| Answer.decimal ·) (hbase .hlqtTokenAllowanceOfHlqtContract)
  | frontendStatus address => exact congrArg (some <| Answer.frontendStatus ·) (hbase .frontend)
  | troves params => rfl

/-- The two addresses of tokens, which a fetch only reads for a user. -/
def BlockGetter.isTokenAddress : BlockGetter → Bool
  | .hchfTokenAddress | .hlqtTokenAddress => true
  | _ => false

/-- The two allowances whose default address is the frontend's in the plain client. -/
def UserGetter.isTokenAllowance : UserGetter → Bool
  | .hchfTokenAllowanceOfHchfContract | .hlqtTokenAllowanceOfHlqtContract => true
  | _ => false

/-- The overrides can be passed on as they are: the two allowances need some. -/
def UserGetter.accepts (getter : UserGetter) (overrides : Option EthersCallOverrides) : Bool :=
  !getter.isTokenAllowance || overrides.isSome

theorem UserGetter.accepts_eq_false {getter : UserGetter} {overrides : Option EthersCallOverrides} :
    getter.accepts overrides = false ↔ getter.isTokenAllowance = true ∧ overrides = none := by
  simp [UserGetter.accepts]

section Fetched

variable {readable : ReadableEthersLiquity} {overrides : Option EthersCallOverrides}
  {latest : ChainState} {blockTag : Option Nat} {source allocations : Nat}
  {fetched : Fetched constants} {E : ExtraState} {state : LiquityStoreState constants E}

/-- For the user of its connection a fetch answers what the plain client reads. -/
theorem answer_user {user : String}
    (huser : configured readable.connection.userAddress = some user)
    (hfetch : BlockPolledLiquityStore.get readable.connection (readable.chainAt overrides)
      latest blockTag source = .ok fetched)
    (hbaseState : state.base = fetched.1) (getter : UserGetter)
    (haccepts : getter.accepts overrides = true)
    (hderive : getter = .trove → derive fetched.1 allocations = .ok state.derived)
    (address : Option String) :
    ∃ answer, state.answer (.user getter address) = some answer ∧
      readable.read overrides (.user getter (some user)) = .ok answer := by
  obtain ⟨base, derived, extra⟩ := state
  obtain rfl : base = fetched.1 := hbaseState
  obtain ⟨baseState, hbase, hfetch⟩ := Result.bind_eq_ok.mp hfetch
  cases hfetch
  unfold fetchBaseState at hbase
  obtain ⟨fees, hfees, hbase⟩ := Result.bind_eq_ok.mp hbase
  obtain ⟨reward, hreward, hbase⟩ := Result.bind_eq_ok.mp hbase
  simp only [huser] at hbase
  obtain ⟨deposit, hdeposit, hbase⟩ := Result.bind_eq_ok.mp hbase
  cases Except.ok.inj hbase
  cases getter with
  | stabilityDeposit => exact ⟨_, rfl, congrArg (Answer.stabilityDeposit <$> ·) hdeposit⟩
  | trove =>
      obtain ⟨_, htrove⟩ := derive_values (hderive rfl)
      exact ⟨_, rfl, congrArg (Answer.userTrove <$> ·) htrove⟩
  | hchfTokenAllowanceOfHchfContract =>
      obtain ⟨given, rfl⟩ := Option.isSome_iff_exists.mp haccepts
      exact ⟨_, rfl, rfl⟩
  | hlqtTokenAllowanceOfHlqtContract =>
      obtain ⟨given, rfl⟩ := Option.isSome_iff_exists.mp haccepts
      exact ⟨_, rfl, rfl⟩
  | _ => exact ⟨_, rfl, rfl⟩

/-- The getters without an address answer what the plain client reads, except that
the addresses of the tokens are only read for a user. -/
theorem answer_block
    (hfetch : BlockPolledLiquityStore.get readable.connection (readable.chainAt overrides)
      latest blockTag source = .ok fetched)
    (hbaseState : state.base = fetched.1) (getter : BlockGetter)
    (hderive : getter = .fees → derive fetched.1 allocations = .ok state.derived) :
    ∃ answer, state.answer (.block getter) = some answer ∧
      if getter.isTokenAddress && (configured readable.connection.userAddress).isNone then
        answer = .text "0x"
      else readable.read overrides (.block getter) = .ok answer := by
  obtain ⟨base, derived, extra⟩ := state
  obtain rfl : base = fetched.1 := hbaseState
  obtain ⟨baseState, hbase, hfetch⟩ := Result.bind_eq_ok.mp hfetch
  cases hfetch
  unfold fetchBaseState at hbase
  obtain ⟨fees, hfees, hbase⟩ := Result.bind_eq_ok.mp hbase
  obtain ⟨reward, hreward, hbase⟩ := Result.bind_eq_ok.mp hbase
  have hfeesNew := Fees.setRecoveryMode_of_new hfees
  cases huser : configured readable.connection.userAddress with
  | none =>
      simp only [huser] at hbase
      cases Except.ok.inj hbase
      cases getter with
      | remainingStabilityPoolHLQTReward => exact ⟨_, rfl, congrArg (Answer.decimal <$> ·) hreward⟩
      | fees =>
          obtain ⟨hderivedFees, _⟩ := derive_values (hderive rfl)
          exact ⟨_, rfl, congrArg (Answer.fees <$> ·) ((hfeesNew _).symm.trans hderivedFees)⟩
      | _ => exact ⟨_, rfl, rfl⟩
  | some user =>
      simp only [huser] at hbase
      obtain ⟨deposit, hdeposit, hbase⟩ := Result.bind_eq_ok.mp hbase
      cases Except.ok.inj hbase
      cases getter with
      | remainingStabilityPoolHLQTReward => exact ⟨_, rfl, congrArg (Answer.decimal <$> ·) hreward⟩
      | fees =>
          obtain ⟨hderivedFees, _⟩ := derive_values (hderive rfl)
          exact ⟨_, rfl, congrArg (Answer.fees <$> ·) ((hfeesNew _).symm.trans hderivedFees)⟩
      | _ => exact ⟨_, rfl, rfl⟩

/-- Without a user a fetch answers zero allowances. -/
theorem answer_tokenAllowance (huser : configured readable.connection.userAddress = none)
    (hfetch : BlockPolledLiquityStore.get readable.connection (readable.chainAt overrides)
      latest blockTag source = .ok fetched)
    (hbaseState : state.base = fetched.1) {getter : UserGetter}
    (hgetter : getter.isTokenAllowance = true) (address : Option String) :
    state.answer (.user getter address) = some (.decimal Decimal.zero) := by
  obtain ⟨base, derived, extra⟩ := state
  obtain rfl : base = fetched.1 := hbaseState
  obtain ⟨baseState, hbase, hfetch⟩ := Result.bind_eq_ok.mp hfetch
  cases hfetch
  unfold fetchBaseState at hbase
  obtain ⟨fees, hfees, hbase⟩ := Result.bind_eq_ok.mp hbase
  obtain ⟨reward, hreward, hbase⟩ := Result.bind_eq_ok.mp hbase
  simp only [huser] at hbase
  cases Except.ok.inj hbase
  cases getter with
  | hchfTokenAllowanceOfHchfContract => rfl
  | hlqtTokenAllowanceOfHlqtContract => rfl
  | _ => cases hgetter

/-- A fetch answers the status of the connection's frontend, which is unregistered
if there is none. -/
theorem answer_frontendStatus
    (hfetch : BlockPolledLiquityStore.get readable.connection (readable.chainAt overrides)
      latest blockTag source = .ok fetched)
    (hbaseState : state.base = fetched.1) (address : Option String) :
    state.answer (.frontendStatus address) = some (.frontendStatus
      (match configured readable.connection.frontendTag with
        | some frontendTag => (readable.chainAt overrides).getFrontendStatus frontendTag
        | none => .unregistered)) := by
  obtain ⟨base, derived, extra⟩ := state
  obtain rfl : base = fetched.1 := hbaseState
  obtain ⟨baseState, hbase, hfetch⟩ := Result.bind_eq_ok.mp hfetch
  cases hfetch
  unfold fetchBaseState at hbase
  obtain ⟨fees, hfees, hbase⟩ := Result.bind_eq_ok.mp hbase
  obtain ⟨reward, hreward, hbase⟩ := Result.bind_eq_ok.mp hbase
  cases huser : configured readable.connection.userAddress with
  | none =>
      simp only [huser] at hbase
      cases Except.ok.inj hbase
      rfl
  | some user =>
      simp only [huser] at hbase
      obtain ⟨deposit, hdeposit, hbase⟩ := Result.bind_eq_ok.mp hbase
      cases Except.ok.inj hbase
      rfl

end Fetched

namespace ReadableEthersLiquity

variable {this : ReadableEthersLiquity} (overrides : Option EthersCallOverrides)

/-- The allowance that a getter reads, if it is one of the two. -/
def tokenAllowance (connection : EthersLiquityConnection) (chain : ChainState)
    (getter : UserGetter) (address : String) : Option Decimal :=
  match getter with
  | .hchfTokenAllowanceOfHchfContract =>
      some (chain.getHchfTokenAllowanceOfHchfContract connection.hchfToken address)
  | .hlqtTokenAllowanceOfHlqtContract =>
      some (chain.getHlqtTokenAllowanceOfHlqtContract connection.hlqtToken address)
  | _ => none

/-- An omitted address is the required one of the connection, except for the two
allowances. -/
theorem read_user_required {getter : UserGetter} (hgetter : getter.isTokenAllowance = false) :
    (this.read overrides (.user getter none) : Result (Answer constants)) =
      this.connection.requireAddress >>= fun user =>
        this.read overrides (.user getter (some user)) := by
  cases haddress : this.connection.requireAddress <;>
    cases getter <;>
    simp only [UserGetter.isTokenAllowance, Bool.true_eq_false] at hgetter <;>
    simp only [read, getTroveBeforeRedistribution, getTrove, getStabilityDeposit, getHCHFBalance,
      getHLQTBalance, getUniTokenBalance, getUniTokenAllowance, getLiquidityMiningStake,
      getLiquidityMiningHLQTReward, getCollateralSurplusBalance, getHLQTStake, getDecimal,
      addressOr, haddress] <;> rfl

/-- An omitted address is the user's, except for the two allowances. -/
theorem read_user_none {user : String} (huser : this.connection.userAddress = some user)
    {getter : UserGetter} (hgetter : getter.isTokenAllowance = false) :
    (this.read overrides (.user getter none) : Result (Answer constants)) =
      this.read overrides (.user getter (some user)) := by
  rw [read_user_required overrides hgetter, EthersLiquityConnection.requireAddress, huser]
  rfl

/-- Without a user an omitted address is rejected, except for the two allowances. -/
theorem read_user_none_error (huser : this.connection.userAddress = none)
    {getter : UserGetter} (hgetter : getter.isTokenAllowance = false) :
    (this.read overrides (.user getter none) : Result (Answer constants)) =
      .error (.error "A user address is required") := by
  rw [read_user_required overrides hgetter, EthersLiquityConnection.requireAddress, huser]
  rfl

/-- The two allowances at an address, with overrides. -/
theorem read_tokenAllowance (constants : Constants) (this : ReadableEthersLiquity)
    (given : EthersCallOverrides) {getter : UserGetter}
    (hgetter : getter.isTokenAllowance = true)
    (address : String) :
    ∃ allowance, tokenAllowance this.connection (this.chainAt (some given)) getter address =
        some allowance ∧
      (this.read (some given) (.user getter (some address)) : Result (Answer constants)) =
        .ok (.decimal allowance) := by
  cases getter with
  | hchfTokenAllowanceOfHchfContract => exact ⟨_, rfl, rfl⟩
  | hlqtTokenAllowanceOfHlqtContract => exact ⟨_, rfl, rfl⟩
  | _ => cases hgetter

/-- The two allowances without overrides, which are never read. -/
theorem read_tokenAllowance_error (constants : Constants) (this : ReadableEthersLiquity)
    {getter : UserGetter} (hgetter : getter.isTokenAllowance = true) (address : Option String) :
    ∃ failure, (this.read none (.user getter address) : Result (Answer constants)) =
      .error failure := by
  have haddress : ∃ failure, ∀ read : String → Result Decimal,
      (∀ address, read address = .error (.error "too many arguments: passed to contract")) →
        (addressOr address this.connection.requireFrontendAddress >>= read) = .error failure := by
    cases addressOr address this.connection.requireFrontendAddress with
    | error failure => exact ⟨failure, fun _ _ => rfl⟩
    | ok address => exact ⟨_, fun read hread => hread address⟩
  obtain ⟨failure, hfailure⟩ := haddress
  cases getter with
  | hchfTokenAllowanceOfHchfContract =>
      exact ⟨failure, congrArg (Answer.decimal <$> ·) (hfailure _ fun _ => rfl)⟩
  | hlqtTokenAllowanceOfHlqtContract =>
      exact ⟨failure, congrArg (Answer.decimal <$> ·) (hfailure _ fun _ => rfl)⟩
  | _ => cases hgetter

/-- For the two allowances an omitted address is the frontend's. -/
theorem read_tokenAllowance_none {getter : UserGetter}
    (hgetter : getter.isTokenAllowance = true) :
    (this.read overrides (.user getter none) : Result (Answer constants)) =
      match this.connection.frontendTag with
      | some frontendTag => this.read overrides (.user getter (some frontendTag))
      | none => .error (.error "A frontend address is required") := by
  cases hfrontend : this.connection.frontendTag with
  | none =>
      have haddress : addressOr none this.connection.requireFrontendAddress =
          .error (.error "A frontend address is required") := by
        rw [addressOr, EthersLiquityConnection.requireFrontendAddress, hfrontend]
      cases getter <;>
        simp only [UserGetter.isTokenAllowance, Bool.false_eq_true] at hgetter <;>
        simp only [read, getHchfTokenAllowanceOfHchfContract, getHlqtTokenAllowanceOfHlqtContract,
          haddress] <;> rfl
  | some frontendTag =>
      have haddress : addressOr none this.connection.requireFrontendAddress = .ok frontendTag := by
        rw [addressOr, EthersLiquityConnection.requireFrontendAddress, hfrontend]
      cases getter <;>
        simp only [UserGetter.isTokenAllowance, Bool.false_eq_true] at hgetter <;>
        simp only [read, getHchfTokenAllowanceOfHchfContract, getHlqtTokenAllowanceOfHlqtContract,
          haddress] <;> rfl

end ReadableEthersLiquity

/-- What a transparent read of a user's value with an omitted address needs: a user,
or for one of the two allowances overrides and a frontend with the allowance of the user. -/
def UserGetter.Transparent (getter : UserGetter) (connection : EthersLiquityConnection)
    (chain : ChainState) (overrides : Option EthersCallOverrides) : Prop :=
  if getter.isTokenAllowance then
    overrides.isSome ∧ ∃ frontendTag, connection.frontendTag = some frontendTag ∧
      ReadableEthersLiquity.tokenAllowance connection chain getter frontendTag =
        match connection.userAddress with
        | some userAddress =>
            ReadableEthersLiquity.tokenAllowance connection chain getter userAddress
        | none => some Decimal.zero
  else connection.userAddress.isSome

/-- What a transparent read needs: an address, or one of the connection to default to, and for an
allowance of the user overrides. -/
def Getter.Transparent (getter : Getter) (connection : EthersLiquityConnection)
    (chain : ChainState) (overrides : Option EthersCallOverrides) : Prop :=
  match getter with
  | .block .hchfTokenAddress =>
      connection.userAddress.isSome ∨ chain.getHCHFTokenAddress = "0x"
  | .block .hlqtTokenAddress =>
      connection.userAddress.isSome ∨ chain.getHLQTTokenAddress = "0x"
  | .block _ => True
  | .user getter none => getter.Transparent connection chain overrides
  | .user getter (some address) =>
      getter.accepts overrides = true ∨ connection.userAddress ≠ some address
  | .frontendStatus address => address.isSome ∨ connection.frontendTag.isSome
  | .troves _ => True

theorem map_cachedOr {α β : Type} (f : α → β) (cached : Option α) (plain : Result α) :
    f <$> cachedOr cached plain = cachedOr (cached.map f) (f <$> plain) := by
  cases cached <;> rfl

/-- A block-polled store on a connection. -/
abbrev PolledStore (constants : Constants) (connection : EthersLiquityConnection) :=
  HLiquityStore constants
    (BlockPolledLiquityStore.implementation connection : StoreImplementation constants).extra

/-- The getters that are not assembled from others. -/
def Getter.isSingle : Getter → Bool
  | .user .trove _ | .troves _ => false
  | _ => true

namespace CachedReadableLiquity

/-- A cached client of a plain one and the store on its connection. -/
def of (readable : ReadableEthersLiquity) (store : PolledStore constants readable.connection) :
    CachedReadableLiquity constants :=
  ⟨readable, ⟨readable.connection, store⟩⟩

variable {this : CachedReadableLiquity constants} {overrides : Option EthersCallOverrides}

/-- A getter that is not assembled from others is cached as a whole. -/
theorem read_eq {getter : Getter} (h : getter.isSingle = true) :
    this.read overrides getter =
      cachedOr (this.cache.answer overrides getter) (this.readable.read overrides getter) := by
  have hmap {α β : Type} (f : α → β) (g : β → Answer constants) (cached : Option α)
      (plain : Result β) : g <$> cachedOr (cached.map f) plain =
        cachedOr (cached.map fun value => g (f value)) (g <$> plain) := by
    rw [map_cachedOr, Option.map_map]
    rfl
  cases getter with
  | block getter =>
      cases getter with
      | numberOfTroves => exact map_cachedOr _ _ _
      | hchfTokenAddress => exact map_cachedOr _ _ _
      | hlqtTokenAddress => exact map_cachedOr _ _ _
      | _ => exact hmap _ _ _ _
  | user getter address =>
      cases getter with
      | trove => cases h
      | _ => exact hmap _ _ _ _
  | frontendStatus address => exact hmap _ _ _ _
  | troves params => cases h

theorem map_injective {α β : Type} {f : α → β} (hf : Function.Injective f) {a b : Result α}
    (h : f <$> a = f <$> b) : a = b := by
  cases a <;> cases b <;> simp_all [Functor.map, Except.map]
  exact hf h

/-- A trove is read as in the plain client if its two parts are. -/
theorem read_trove (address : Option String)
    (htrove : this.read overrides (.user .troveBeforeRedistribution address) =
      this.readable.read overrides (.user .troveBeforeRedistribution address))
    (htotal : this.read overrides (.block .totalRedistributed) =
      this.readable.read overrides (.block .totalRedistributed)) :
    this.read overrides (.user .trove address) =
      this.readable.read overrides (.user .trove address) := by
  have hfirst : this.getTroveBeforeRedistribution address overrides =
      this.readable.getTroveBeforeRedistribution address overrides :=
    map_injective (fun _ _ => Answer.troveWithPendingRedistribution.inj) htrove
  have hsecond : this.getTotalRedistributed overrides =
      this.readable.getTotalRedistributed overrides :=
    map_injective (fun _ _ => Answer.trove.inj) htotal
  simp only [read, ReadableEthersLiquity.read, getTrove, ReadableEthersLiquity.getTrove, hfirst,
    hsecond]

theorem exists_of_map_eq_ok {α β : Type} {f : α → β} {result : Result α} {value : β}
    (h : f <$> result = .ok value) : ∃ before, result = .ok before := by
  cases result with
  | error failure => cases h
  | ok before => exact ⟨before, rfl⟩

/-- A trove is returned if its two parts are. -/
theorem exists_read_trove {address : Option String} {trove total : Answer constants}
    (htrove : this.read overrides (.user .troveBeforeRedistribution address) = .ok trove)
    (htotal : this.read overrides (.block .totalRedistributed) = .ok total) :
    ∃ answer, this.read overrides (.user .trove address) = .ok answer := by
  obtain ⟨before, hbefore⟩ := exists_of_map_eq_ok htrove
  obtain ⟨redistributed, hredistributed⟩ := exists_of_map_eq_ok htotal
  simp only [read, getTrove, hbefore, hredistributed, Result.ok_bind,
    TroveWithPendingRedistribution.applyRedistribution_eq]
  exact ⟨_, rfl⟩

/-- Troves are listed as in the plain client if the total redistributed is read so. -/
theorem read_troves (params : TroveListing)
    (htotal : this.read overrides (.block .totalRedistributed) =
      this.readable.read overrides (.block .totalRedistributed)) :
    this.read overrides (.troves params) = this.readable.read overrides (.troves params) := by
  have hsecond : this.getTotalRedistributed overrides =
      this.readable.getTotalRedistributed overrides :=
    map_injective (fun _ _ => Answer.trove.inj) htotal
  simp only [read, ReadableEthersLiquity.read, getTroves, ReadableEthersLiquity.getTroves, hsecond,
    BlockPolledLiquityStoreBasedCache.getTroves, Option.map_none, cachedOr]
  have hcheck : TroveListing.check { params with beforeRedistribution := true } =
    params.check := rfl
  rw [hcheck]
  cases params.check with
  | error failure =>
    cases params.beforeRedistribution <;> rfl
  | ok listing =>
    cases params.beforeRedistribution <;> rfl

/-- A store that has just been loaded with what a fetch at a chain state returns. -/
def JustLoaded (connection : EthersLiquityConnection) (chain : ChainState)
    (store : PolledStore constants connection) : Prop :=
  ∃ (before : PolledStore constants connection) (blockTag : Option Nat) (source : Nat)
    (fetched : Fetched constants), before.loaded = false ∧
    BlockPolledLiquityStore.get connection chain chain blockTag source = .ok fetched ∧
    before.load fetched.1 (some fetched.2) = (.ok (), store)

/-- A store that has just been loaded answers with what its fetch has read. -/
theorem JustLoaded.answer {connection : EthersLiquityConnection} {chain : ChainState}
    {store : PolledStore constants connection} (h : JustLoaded connection chain store) :
    ∃ (blockTag : Option Nat) (source : Nat) (fetched : Fetched constants)
      (state : LiquityStoreState constants (StoreImplementation.extra
        (BlockPolledLiquityStore.implementation connection : StoreImplementation constants))),
      BlockPolledLiquityStore.get connection chain chain blockTag source = .ok fetched ∧
      state.base = fetched.1 ∧ derive fetched.1 0 = .ok state.derived ∧
      ∀ getter, store.state.answer getter = state.answer getter := by
  obtain ⟨before, blockTag, source, fetched, hloaded, hfetch, hload⟩ := h
  by_cases hderivable : fetched.1.Derivable
  · obtain ⟨derived, again, hderive, hagain, hload'⟩ :=
      HLiquityStore.load_of_derivable hloaded hderivable (some fetched.2)
    obtain ⟨computed, hcomputed⟩ := (derive_ok_iff 0).mpr hderivable
    rw [hload] at hload'
    cases hload'
    refine ⟨blockTag, source, fetched, ⟨fetched.1, computed, some fetched.2⟩, hfetch, rfl,
      hcomputed, ?_⟩
    intro getter
    apply LiquityStoreState.answer_congr
    intro key
    cases key with
    | base key => exact key.sameValue_refl _
    | derived key =>
        exact reduceDerived_equals (fun key => key.sameValue_refl _) hagain hcomputed _ key
  · obtain ⟨failure, hfail, hload'⟩ :=
      HLiquityStore.load_of_not_derivable hloaded hderivable (some fetched.2)
    rw [hload] at hload'
    cases hload'

/-- A read that misses is left to the plain client. -/
theorem read_of_miss (h : this.cache.blockHit overrides = false) (getter : Getter) :
    this.read overrides getter = this.readable.read overrides getter := by
  have hnone {getter : Getter} (hsingle : getter.isSingle = true) :
      this.read overrides getter = this.readable.read overrides getter := by
    have hmiss : getter.hit.any (this.cache.hits overrides) = false := by
      cases getter <;>
        simp [Getter.hit, BlockPolledLiquityStoreBasedCache.hits, h,
          BlockPolledLiquityStoreBasedCache.userHit, BlockPolledLiquityStoreBasedCache.frontendHit]
    rw [read_eq hsingle, this.cache.answer_eq, hmiss]
    rfl
  by_cases hsingle : getter.isSingle = true
  · exact hnone hsingle
  · cases getter with
    | user getter address =>
        cases getter with
        | trove => exact read_trove address (hnone rfl) (hnone rfl)
        | _ => exact absurd rfl hsingle
    | troves params => exact read_troves params (hnone rfl)
    | _ => exact absurd rfl hsingle

/-- What a store answers after its load is what the plain client reads, or what a
fetch puts in place of the user's and the frontend's values. -/
structure UpToDate (readable : ReadableEthersLiquity) (overrides : Option EthersCallOverrides)
    (store : PolledStore constants readable.connection) : Prop where
  block : ∀ getter, ∃ answer, store.state.answer (.block getter) = some answer ∧
    if getter.isTokenAddress && readable.connection.userAddress.isNone then answer = .text "0x"
    else readable.read overrides (.block getter) = .ok answer
  user : ∀ user, readable.connection.userAddress = some user → ∀ getter : UserGetter,
    getter.accepts overrides = true → ∀ address, ∃ answer,
      store.state.answer (.user getter address) = some answer ∧
      readable.read overrides (.user getter (some user)) = .ok answer
  tokenAllowance : readable.connection.userAddress = none →
    ∀ getter : UserGetter, getter.isTokenAllowance = true → ∀ address,
      store.state.answer (.user getter address) = some (.decimal Decimal.zero)
  frontendStatus : ∀ frontendTag, readable.connection.frontendTag = some frontendTag →
    ∀ address, store.state.answer (.frontendStatus address) =
      some (.frontendStatus ((readable.chainAt overrides).getFrontendStatus frontendTag))

theorem configured_eq {address : Option String} (h : address ≠ some "") :
    configured address = address := by
  cases address with
  | none => rfl
  | some address =>
      have hne : address ≠ "" := fun heq => h (congrArg some heq)
      simp [configured, Option.filter, hne]

theorem JustLoaded.upToDate {readable : ReadableEthersLiquity}
    {store : PolledStore constants readable.connection}
    (huser : readable.connection.userAddress ≠ some "")
    (hfrontend : readable.connection.frontendTag ≠ some "")
    (h : JustLoaded readable.connection (readable.chainAt overrides) store) :
    UpToDate readable overrides store := by
  obtain ⟨blockTag, source, fetched, state, hfetch, hbase, hderive, hanswer⟩ := h.answer
  have hconfigured := configured_eq huser
  constructor
  · intro getter
    obtain ⟨answer, hsome, hread⟩ := answer_block hfetch hbase getter fun _ => hderive
    rw [hconfigured] at hread
    exact ⟨answer, (hanswer _).trans hsome, hread⟩
  · intro user hsome getter haccepts address
    obtain ⟨answer, hanswered, hread⟩ :=
      answer_user (hconfigured.trans hsome) hfetch hbase getter haccepts (fun _ => hderive) address
    exact ⟨answer, (hanswer _).trans hanswered, hread⟩
  · intro hnone getter hgetter address
    exact (hanswer _).trans
      (answer_tokenAllowance (hconfigured.trans hnone) hfetch hbase hgetter address)
  · intro frontendTag hsome address
    have hstatus := answer_frontendStatus hfetch hbase address
    rw [configured_eq hfrontend, hsome] at hstatus
    exact (hanswer _).trans hstatus

section UpToDate

variable {readable : ReadableEthersLiquity} {store : PolledStore constants readable.connection}

/-- A read that hits is answered from the state. -/
theorem read_of_hit {getter : Getter} (hsingle : getter.isSingle = true)
    (hhit : getter.hit.any ((of readable store).cache.hits overrides) = true)
    {answer : Answer constants} (h : store.state.answer getter = some answer) :
    (of readable store).read overrides getter = .ok answer := by
  rw [read_eq hsingle, (of readable store).cache.answer_eq, if_pos hhit]
  change cachedOr (store.state.answer getter) _ = _
  rw [h]
  rfl

/-- A getter without an address is transparent, unless it reads the address of a
token and there is no user. -/
theorem UpToDate.read_block_iff (h : UpToDate readable overrides store)
    (hblock : (of readable store).cache.blockHit overrides = true) (getter : BlockGetter) :
    (of readable store).read overrides (.block getter) =
        readable.read overrides (.block getter) ↔
      (getter.isTokenAddress = true → readable.connection.userAddress = none →
        (readable.read overrides (.block getter) : Result (Answer constants)) =
          .ok (.text "0x")) := by
  obtain ⟨answer, hanswer, hplain⟩ := h.block getter
  have hhit : (Getter.block getter).hit.any ((of readable store).cache.hits overrides) = true :=
    hblock
  rw [read_of_hit rfl hhit hanswer]
  split at hplain
  · next hnone =>
    obtain ⟨haddress, huser⟩ := Bool.and_eq_true_iff.mp hnone
    rw [hplain]
    exact ⟨fun heq _ _ => heq.symm,
      fun heq => (heq haddress (Option.isNone_iff_eq_none.mp huser)).symm⟩
  · next hsome =>
    refine iff_of_true hplain.symm ?_
    intro haddress huser
    rw [haddress, huser] at hsome
    exact absurd rfl hsome

/-- A read at an address is transparent, unless it is the user's and overrides are needed. -/
theorem UpToDate.read_user_some_iff (h : UpToDate readable overrides store)
    (hblock : (of readable store).cache.blockHit overrides = true) (address : String)
    {getter : UserGetter} (hgetter : getter ≠ .trove) :
    (of readable store).read overrides (.user getter (some address)) =
        readable.read overrides (.user getter (some address)) ↔
      getter.accepts overrides = true ∨ readable.connection.userAddress ≠ some address := by
  have hsingle : (Getter.user getter (some address)).isSingle = true := by
    cases getter <;> first | rfl | exact absurd rfl hgetter
  by_cases huser : readable.connection.userAddress = some address
  · have hhit : (Getter.user getter (some address)).hit.any
        ((of readable store).cache.hits overrides) = true := by
      have haddress : (some address == none ||
          some address == readable.connection.userAddress) = true := by simp [huser]
      exact Bool.and_eq_true_iff.mpr ⟨hblock, haddress⟩
    cases haccepts : getter.accepts overrides with
    | true =>
        obtain ⟨answer, hanswer, hplain⟩ := h.user address huser getter haccepts (some address)
        exact iff_of_true (by rw [read_of_hit hsingle hhit hanswer, hplain]) (.inl rfl)
    | false =>
        obtain ⟨hallowance, hnone⟩ := UserGetter.accepts_eq_false.mp haccepts
        subst hnone
        obtain ⟨answer, hanswer⟩ := store.state.exists_answer_user getter (some address)
        obtain ⟨failure, hfailure⟩ := ReadableEthersLiquity.read_tokenAllowance_error constants
          readable hallowance (some address)
        refine iff_of_false ?_ (by simp [huser])
        rw [read_of_hit hsingle hhit hanswer, hfailure]
        exact fun heq => by cases heq
  · have hmiss : (Getter.user getter (some address)).hit.any
        ((of readable store).cache.hits overrides) = false := by
      change (_ && (some address == none || some address == readable.connection.userAddress)) =
        false
      simp [Ne.symm huser]
    refine iff_of_true ?_ (.inr huser)
    rw [read_eq hsingle, (of readable store).cache.answer_eq, hmiss]
    rfl

theorem hit_user_none (hblock : (of readable store).cache.blockHit overrides = true)
    (getter : UserGetter) :
    (Getter.user getter none).hit.any ((of readable store).cache.hits overrides) = true :=
  Bool.and_eq_true_iff.mpr ⟨hblock, rfl⟩

/-- The cache answers an allowance with an omitted address by the user's, or by zero. -/
theorem UpToDate.read_tokenAllowance_none {given : EthersCallOverrides}
    (h : UpToDate readable (some given) store)
    (hblock : (of readable store).cache.blockHit (some given) = true) {getter : UserGetter}
    (hallowance : getter.isTokenAllowance = true) :
    ∃ allowance, (of readable store).read (some given) (.user getter none) =
      .ok (.decimal allowance) ∧ some allowance =
        match readable.connection.userAddress with
        | some userAddress => ReadableEthersLiquity.tokenAllowance readable.connection
            (readable.chainAt (some given)) getter userAddress
        | none => some Decimal.zero := by
  have hsingle : (Getter.user getter none).isSingle = true := by
    cases getter <;> first | rfl | cases hallowance
  have hhit := hit_user_none hblock getter
  cases huser : readable.connection.userAddress with
  | none =>
      exact ⟨Decimal.zero,
        read_of_hit hsingle hhit (h.tokenAllowance huser getter hallowance none), rfl⟩
  | some user =>
      obtain ⟨answer, hanswer, hplain⟩ := h.user user huser getter (Bool.or_true _) none
      obtain ⟨allowance, hsome, hread⟩ :=
        ReadableEthersLiquity.read_tokenAllowance constants readable given hallowance user
      rw [hread] at hplain
      cases hplain
      exact ⟨allowance, read_of_hit hsingle hhit hanswer, hsome.symm⟩

/-- An allowance with an omitted address. -/
theorem UpToDate.read_tokenAllowance_none_iff (h : UpToDate readable overrides store)
    (hblock : (of readable store).cache.blockHit overrides = true) {getter : UserGetter}
    (hallowance : getter.isTokenAllowance = true) :
    (of readable store).read overrides (.user getter none) =
        readable.read overrides (.user getter none) ↔
      getter.Transparent readable.connection (readable.chainAt overrides) overrides := by
  rw [UserGetter.Transparent, if_pos hallowance]
  cases overrides with
  | none =>
      have hsingle : (Getter.user getter none).isSingle = true := by
        cases getter <;> first | rfl | cases hallowance
      obtain ⟨answer, hanswer⟩ := store.state.exists_answer_user getter none
      obtain ⟨failure, hfailure⟩ :=
        ReadableEthersLiquity.read_tokenAllowance_error constants readable hallowance none
      refine iff_of_false ?_ (by simp)
      rw [read_of_hit hsingle (hit_user_none hblock getter) hanswer, hfailure]
      exact fun heq => by cases heq
  | some given =>
      rw [ReadableEthersLiquity.read_tokenAllowance_none (some given) hallowance]
      obtain ⟨allowance, hread, hexpected⟩ := h.read_tokenAllowance_none hblock hallowance
      rw [hread, ← hexpected]
      cases hfrontend : readable.connection.frontendTag with
      | none => simp
      | some frontendTag =>
          obtain ⟨frontendAllowance, hsome, hplain⟩ :=
            ReadableEthersLiquity.read_tokenAllowance constants readable given hallowance
              frontendTag
          simp only [hplain, Except.ok.injEq, Answer.decimal.injEq, Option.some.injEq,
            exists_eq_left', hsome, Option.isSome_some, true_and]
          exact eq_comm

/-- A user's value with an omitted address. -/
theorem UpToDate.read_user_none_iff (h : UpToDate readable overrides store)
    (hblock : (of readable store).cache.blockHit overrides = true) {getter : UserGetter}
    (hgetter : getter ≠ .trove) :
    (of readable store).read overrides (.user getter none) =
        readable.read overrides (.user getter none) ↔
      getter.Transparent readable.connection (readable.chainAt overrides) overrides := by
  have hsingle : (Getter.user getter none).isSingle = true := by
    cases getter <;> first | rfl | exact absurd rfl hgetter
  have hhit := hit_user_none hblock getter
  cases hallowance : getter.isTokenAllowance with
  | true => exact h.read_tokenAllowance_none_iff hblock hallowance
  | false =>
      rw [UserGetter.Transparent, if_neg (by simp [hallowance])]
      cases huser : readable.connection.userAddress with
      | none =>
          rw [ReadableEthersLiquity.read_user_none_error overrides huser hallowance]
          obtain ⟨answer, hanswer⟩ := store.state.exists_answer_user getter none
          rw [read_of_hit hsingle hhit hanswer]
          simp
      | some user =>
          have haccepts : getter.accepts overrides = true := by
            rw [UserGetter.accepts, hallowance]
            rfl
          rw [ReadableEthersLiquity.read_user_none overrides huser hallowance]
          obtain ⟨answer, hanswer, hplain⟩ := h.user user huser getter haccepts none
          rw [read_of_hit hsingle hhit hanswer, hplain]
          simp

/-- The status of a frontend is read as in the plain client, unless the connection has
no frontend to default to. -/
theorem UpToDate.read_frontendStatus_iff (h : UpToDate readable overrides store)
    (hblock : (of readable store).cache.blockHit overrides = true) (address : Option String) :
    (of readable store).read overrides (.frontendStatus address) =
        readable.read overrides (.frontendStatus address) ↔
      address.isSome ∨ readable.connection.frontendTag.isSome := by
  have hhit (haddress : address = none ∨ address = readable.connection.frontendTag) :
      (Getter.frontendStatus address).hit.any ((of readable store).cache.hits overrides) =
        true := by
    have hfrontend : (address == none || address == readable.connection.frontendTag) = true := by
      rw [Bool.or_eq_true, beq_iff_eq, beq_iff_eq]
      exact haddress
    exact Bool.and_eq_true_iff.mpr ⟨hblock, hfrontend⟩
  cases address with
  | some address =>
      refine iff_of_true ?_ (.inl rfl)
      by_cases hfrontend : some address = readable.connection.frontendTag
      · rw [read_of_hit rfl (hhit (.inr hfrontend))
          (h.frontendStatus address hfrontend.symm (some address))]
        rfl
      · have hmiss : (Getter.frontendStatus (some address)).hit.any
            ((of readable store).cache.hits overrides) = false := by
          change (_ && (some address == none || some address == readable.connection.frontendTag)) =
            false
          simp [hfrontend]
        rw [read_eq rfl, (of readable store).cache.answer_eq, hmiss]
        rfl
  | none =>
      cases hfrontend : readable.connection.frontendTag with
      | some frontendTag =>
          refine iff_of_true ?_ (.inr rfl)
          rw [read_of_hit rfl (hhit (.inl rfl)) (h.frontendStatus frontendTag hfrontend none)]
          simp only [ReadableEthersLiquity.read, ReadableEthersLiquity.getFrontendStatus, addressOr,
            EthersLiquityConnection.requireFrontendAddress, hfrontend]
          rfl
      | none =>
          refine iff_of_false ?_ (by simp)
          rw [read_of_hit rfl (hhit (.inl rfl)) rfl]
          simp only [ReadableEthersLiquity.read, ReadableEthersLiquity.getFrontendStatus, addressOr,
            EthersLiquityConnection.requireFrontendAddress, hfrontend]
          exact nofun

/-- A trove with an omitted address is read as in the plain client if there is a user. -/
theorem UpToDate.read_trove_none_iff (h : UpToDate readable overrides store)
    (hblock : (of readable store).cache.blockHit overrides = true) :
    (of readable store).read overrides (.user .trove none) =
        readable.read overrides (.user .trove none) ↔
      UserGetter.trove.Transparent readable.connection (readable.chainAt overrides) overrides := by
  have hparts : UserGetter.trove.Transparent readable.connection (readable.chainAt overrides)
        overrides ↔
      UserGetter.troveBeforeRedistribution.Transparent readable.connection
        (readable.chainAt overrides) overrides :=
    Iff.rfl
  have htotal :=
    (h.read_block_iff hblock .totalRedistributed).mpr (fun haddress => by cases haddress)
  constructor
  · intro heq
    cases huser : readable.connection.userAddress with
    | none =>
        -- the cached client returns a trove while the plain one throws
        rw [ReadableEthersLiquity.read_user_none_error overrides huser rfl] at heq
        have htroveHit : (Getter.user .troveBeforeRedistribution none).hit.any
            ((of readable store).cache.hits overrides) = true :=
          Bool.and_eq_true_iff.mpr ⟨hblock, rfl⟩
        have htotalHit : (Getter.block .totalRedistributed).hit.any
            ((of readable store).cache.hits overrides) = true := hblock
        obtain ⟨answer, hanswer⟩ :=
          exists_read_trove (read_of_hit rfl htroveHit rfl) (read_of_hit rfl htotalHit rfl)
        rw [hanswer] at heq
        cases heq
    | some user => simp [UserGetter.Transparent, UserGetter.isTokenAllowance, huser]
  · intro huser
    exact read_trove none ((h.read_user_none_iff hblock (by decide)).mpr (hparts.mp huser)) htotal

end UpToDate

/-- A store can be loaded with a fetch from which values can be derived. -/
theorem exists_justLoaded {connection : EthersLiquityConnection} {chain : ChainState}
    (h : ∃ fetched : Fetched constants,
      BlockPolledLiquityStore.get connection chain chain none 0 = .ok fetched ∧
        fetched.1.Derivable) :
    ∃ store : PolledStore constants connection, JustLoaded connection chain store := by
  obtain ⟨fetched, hfetch, hderivable⟩ := h
  have hnew : (HLiquityStore.new : PolledStore constants connection).loaded = false := rfl
  obtain ⟨derived, again, _, _, hload⟩ :=
    HLiquityStore.load_of_derivable hnew hderivable (some fetched.2)
  exact ⟨_, .new, none, 0, fetched, hnew, hfetch, hload⟩

/-- Right after its store was loaded, and as long as the chain does not change, the
cached client returns and throws what the plain client does for exactly these
reads: those that miss, those with an address, those that find the user's or the
frontend's address in the connection, and of the two allowances those of another
address, and with overrides those of an address or of a frontend with the user's allowance. -/
theorem read_eq_read_iff {readable : ReadableEthersLiquity} {chain : ChainState}
    {store : PolledStore constants readable.connection}
    (huser : readable.connection.userAddress ≠ some "")
    (hfrontend : readable.connection.frontendTag ≠ some "")
    (hload : JustLoaded readable.connection chain store)
    (hsame : ∀ overrides, (of readable store).cache.blockHit overrides = true →
      readable.chainAt overrides = chain)
    (overrides : Option EthersCallOverrides) (getter : Getter) :
    (of readable store).read overrides getter = readable.read overrides getter ↔
      ((of readable store).cache.blockHit overrides = true →
        getter.Transparent readable.connection chain overrides) := by
  cases hblock : (of readable store).cache.blockHit overrides with
  | false => exact iff_of_true (read_of_miss hblock getter) (fun h => by cases h)
  | true =>
      obtain rfl := hsame overrides hblock
      have h : UpToDate readable overrides store := hload.upToDate huser hfrontend
      have htotal : (of readable store).read overrides (.block .totalRedistributed) =
          readable.read overrides (.block .totalRedistributed) :=
        (h.read_block_iff hblock .totalRedistributed).mpr (fun haddress => by cases haddress)
      refine Iff.trans ?_ ⟨fun htransparent _ => htransparent, fun htransparent => htransparent rfl⟩
      cases getter with
      | block getter =>
          have hread {address : String} :
              (true = true → readable.connection.userAddress = none →
                (Except.ok (.text address) : Result (Answer constants)) = .ok (.text "0x")) ↔
              readable.connection.userAddress.isSome ∨ address = "0x" := by
            cases readable.connection.userAddress <;> simp
          rw [h.read_block_iff hblock getter]
          cases getter with
          | hchfTokenAddress => exact hread
          | hlqtTokenAddress => exact hread
          | _ => exact iff_of_true (fun haddress => by cases haddress) trivial
      | user getter address =>
          cases address with
          | none =>
              by_cases hgetter : getter = .trove
              · rw [hgetter]
                exact h.read_trove_none_iff hblock
              · exact h.read_user_none_iff hblock hgetter
          | some address =>
              by_cases hgetter : getter = .trove
              · rw [hgetter]
                have hparts : UserGetter.troveBeforeRedistribution ≠ .trove := by decide
                have htrove := (h.read_user_some_iff hblock address hparts).mpr (.inl rfl)
                exact iff_of_true (read_trove (some address) htrove htotal) (.inl rfl)
              · exact h.read_user_some_iff hblock address hgetter
      | frontendStatus address => exact h.read_frontendStatus_iff hblock address
      | troves params => exact iff_of_true (read_troves params htotal) trivial

/-- A connection with a user and a frontend. -/
def taggedConnection : EthersLiquityConnection :=
  { exampleConnection with frontendTag := some "0xf" }

/-- A connection with neither. -/
def userlessConnection : EthersLiquityConnection := { exampleConnection with userAddress := none }

/-- A chain on which only the user of the examples has allowed anything. -/
def allowanceChain : ChainState :=
  { genesisChain with
    erc20 := ⟨fun _ _ => 0, fun _ owner _ => if owner = "0xd" then 5 else 0⟩ }

theorem exists_taggedFetch : ∃ fetched : Fetched defaults,
    BlockPolledLiquityStore.get taggedConnection allowanceChain allowanceChain none 0 =
        .ok fetched ∧
      fetched.1.Derivable :=
  ⟨_, rfl, by decide⟩

theorem exists_userlessFetch : ∃ fetched : Fetched defaults,
    BlockPolledLiquityStore.get userlessConnection genesisChain genesisChain none 0 =
        .ok fetched ∧
      fetched.1.Derivable :=
  ⟨_, rfl, by decide⟩

/-- The balance of the user is transparent, and an allowance that is read with overrides of another
address too. -/
theorem read_eq_read_iff_tagged :
    ∃ store : PolledStore defaults taggedConnection,
      let readable : ReadableEthersLiquity := ⟨taggedConnection, fun _ => allowanceChain⟩
      (of readable store).read none (.user .hchfBalance none) =
          readable.read none (.user .hchfBalance none) ∧
        (of readable store).read (some ⟨none⟩)
            (.user .hchfTokenAllowanceOfHchfContract (some "0xd")) =
          readable.read (some ⟨none⟩) (.user .hchfTokenAllowanceOfHchfContract (some "0xd")) := by
  obtain ⟨store, hload⟩ := exists_justLoaded exists_taggedFetch
  let readable : ReadableEthersLiquity := ⟨taggedConnection, fun _ => allowanceChain⟩
  have huser : readable.connection.userAddress ≠ some "" := by decide
  have hfrontend : readable.connection.frontendTag ≠ some "" := by decide
  have htransparent : (Getter.user .hchfBalance none).Transparent readable.connection
      allowanceChain none := rfl
  exact ⟨store,
    (read_eq_read_iff huser hfrontend hload (fun _ _ => rfl) none _).mpr fun _ => htransparent,
    (read_eq_read_iff huser hfrontend hload (fun _ _ => rfl) (some ⟨none⟩) _).mpr
      fun _ => .inl rfl⟩

/-- With overrides the cache answers the allowance of the user where the plain client answers that
of the frontend, without them it answers it where the plain client throws, and without a user
it answers a balance where the plain client throws. -/
theorem cached_read_differs :
    (∃ store : PolledStore defaults taggedConnection,
      JustLoaded taggedConnection allowanceChain store ∧
      (of ⟨taggedConnection, fun _ => allowanceChain⟩ store).read (some ⟨none⟩)
          (.user .hchfTokenAllowanceOfHchfContract none) ≠
        ReadableEthersLiquity.read ⟨taggedConnection, fun _ => allowanceChain⟩ (some ⟨none⟩)
          (.user .hchfTokenAllowanceOfHchfContract none) ∧
      (of ⟨taggedConnection, fun _ => allowanceChain⟩ store).read none
          (.user .hchfTokenAllowanceOfHchfContract (some "0xd")) ≠
        ReadableEthersLiquity.read ⟨taggedConnection, fun _ => allowanceChain⟩ none
          (.user .hchfTokenAllowanceOfHchfContract (some "0xd"))) ∧
    ∃ store : PolledStore defaults userlessConnection,
      JustLoaded userlessConnection genesisChain store ∧
      (of ⟨userlessConnection, fun _ => genesisChain⟩ store).read none (.user .hchfBalance none) ≠
        ReadableEthersLiquity.read ⟨userlessConnection, fun _ => genesisChain⟩ none
          (.user .hchfBalance none) := by
  constructor
  · obtain ⟨store, hload⟩ := exists_justLoaded exists_taggedFetch
    have h : UpToDate ⟨taggedConnection, fun _ => allowanceChain⟩ (some ⟨none⟩) store :=
      hload.upToDate (by decide) (by decide)
    have hwithout : UpToDate ⟨taggedConnection, fun _ => allowanceChain⟩ none store :=
      hload.upToDate (by decide) (by decide)
    refine ⟨store, hload, ?_, ?_⟩
    · rw [Ne, h.read_user_none_iff rfl (by decide)]
      rintro ⟨_, frontendTag, hfrontend, hallowance⟩
      cases hfrontend
      revert hallowance
      decide
    · rw [Ne, hwithout.read_user_some_iff rfl "0xd" (by decide)]
      decide
  · obtain ⟨store, hload⟩ := exists_justLoaded exists_userlessFetch
    have h : UpToDate ⟨userlessConnection, fun _ => genesisChain⟩ none store :=
      hload.upToDate (by decide) (by decide)
    refine ⟨store, hload, ?_⟩
    rw [Ne, h.read_user_none_iff rfl (by decide)]
    exact fun huser => by cases huser

end CachedReadableLiquity

end HLiquity
