import HLiquity.StabilityValidation
import HLiquity.StoreFetch

/-!
# The report of undercollateralized troves

A received fetch decides the reported flag through three of its values: the
trove it calls the riskiest, the redistributed totals and the price. The
block-polled store fetches the head of the sorted troves. The Hashgraph store
puts a trove that does not exist in its place, whose ratio is infinite.
-/

namespace HLiquity

open Decimal

variable {constants : Constants}

/-- The flag that a base state derives to. -/
def LiquityStoreBaseState.riskiestIsBelowMinimum (baseState : LiquityStoreBaseState constants) :
    Bool :=
  match baseState.riskiestTroveBeforeRedistribution.value.applyRedistribution
    baseState.totalRedistributed.value with
  | .ok riskiestTrove =>
      riskiestTrove.toTrove.collateralRatioIsBelowMinimum baseState.price.value
  | .error _ => false

theorem derive_haveUndercollateralizedTroves {baseState : LiquityStoreBaseState constants}
    {allocations : Nat} {derivedState : LiquityStoreDerivedState constants}
    (h : derive baseState allocations = .ok derivedState) :
    derivedState.haveUndercollateralizedTroves = baseState.riskiestIsBelowMinimum := by
  unfold derive at h
  simp only [Fees.setRecoveryMode_eq, TroveWithPendingRedistribution.applyRedistribution_eq,
    Result.ok_bind] at h
  obtain ⟨borrowingRate, _, h⟩ := Result.bind_eq_ok.mp h
  obtain ⟨redemptionRate, _, h⟩ := Result.bind_eq_ok.mp h
  cases h
  simp [LiquityStoreBaseState.riskiestIsBelowMinimum]

/-- A reduced derived state reports the derived flag. -/
theorem reduceDerived_haveUndercollateralizedTroves
    (derivedState derivedStateUpdate : LiquityStoreDerivedState constants) :
    (reduceDerived derivedState derivedStateUpdate).haveUndercollateralizedTroves =
      derivedStateUpdate.haveUndercollateralizedTroves := by
  have h := KeepIfEqual.equals_keep (DerivedKey.haveUndercollateralizedTroves.equals)
    DerivedKey.haveUndercollateralizedTroves.equals_refl
    (derivedState.get .haveUndercollateralizedTroves)
    (derivedStateUpdate.get .haveUndercollateralizedTroves)
  rw [← reduceDerived_get] at h
  exact beq_iff_eq.mp h

/-- An update by a whole base state reports what that base state derives to. -/
theorem reduce_toUpdate_riskiestIsBelowMinimum
    (before baseState : LiquityStoreBaseState constants) :
    (reduce before baseState.toUpdate).riskiestIsBelowMinimum =
      baseState.riskiestIsBelowMinimum := by
  have hkey := reduce_toUpdate_equals before baseState
  have hriskiest : (reduce before baseState.toUpdate).riskiestTroveBeforeRedistribution.value =
      baseState.riskiestTroveBeforeRedistribution.value :=
    TroveWithPendingRedistribution.equals_iff.mp (hkey .riskiestTroveBeforeRedistribution)
  have htotal : (reduce before baseState.toUpdate).totalRedistributed.value =
      baseState.totalRedistributed.value :=
    Trove.equals_iff.mp (hkey .totalRedistributed)
  have hprice : (reduce before baseState.toUpdate).price.value = baseState.price.value :=
    eq_iff.mp (hkey .price)
  rw [LiquityStoreBaseState.riskiestIsBelowMinimum, hriskiest, htotal, hprice]
  rfl

/-- After a fetch has been received without a throw, the flag is the one that
the fetched base state derives to. -/
theorem receive_haveUndercollateralizedTroves {E : ExtraState} {this : HLiquityStore constants E}
    {baseState : LiquityStoreBaseState constants} {extraState : E.State}
    {extraStateUpdate : E.Update}
    (h : (receive this baseState extraState extraStateUpdate).1 = .ok ()) :
    (receive this baseState extraState
        extraStateUpdate).2.state.derived.haveUndercollateralizedTroves =
      baseState.riskiestIsBelowMinimum := by
  by_cases hloaded : this.loaded = true
  · rw [receive, if_pos hloaded] at h ⊢
    cases hd : this.derivedState with
    | none =>
        rw [HLiquityStore.update_of_derivedState_none hd] at h
        cases h
    | some derivedState =>
        cases hb : this.baseState with
        | none =>
            unfold HLiquityStore.update at h
            simp [hb] at h
        | some before =>
            rcases HLiquityStore.update_cases hb hd (some baseState.toUpdate)
                (some extraStateUpdate) with
              ⟨failure, _, hupdate⟩ | ⟨_, failure, _, _, hupdate⟩ |
              ⟨derived, extra, hderive, _, hupdate⟩
            · rw [hupdate] at h
              cases h
            · rw [hupdate] at h
              cases h
            · rw [hupdate]
              show (reduceDerived derivedState derived).haveUndercollateralizedTroves = _
              rw [reduceDerived_haveUndercollateralizedTroves,
                derive_haveUndercollateralizedTroves hderive]
              exact reduce_toUpdate_riskiestIsBelowMinimum before baseState
  · rw [Bool.not_eq_true] at hloaded
    rcases receive_of_not_loaded hloaded baseState extraState extraStateUpdate with
      ⟨_, failure, _, hreceive⟩ | ⟨_, derived, again, _, hagain, hreceive⟩
    · rw [hreceive] at h
      cases h
    · rw [hreceive]
      show (reduceDerived derived again).haveUndercollateralizedTroves = _
      rw [reduceDerived_haveUndercollateralizedTroves,
        derive_haveUndercollateralizedTroves hagain]

/-- The three values that decide the flag come straight from the chain. -/
theorem fetchBaseState_riskiest {options : FetchOptions} {chain latest : ChainState}
    {riskiestTrove : TroveWithPendingRedistribution constants} {source : Nat}
    {baseState : LiquityStoreBaseState constants}
    (h : fetchBaseState options chain latest riskiestTrove source = .ok baseState) :
    baseState.riskiestTroveBeforeRedistribution.value = riskiestTrove ∧
      baseState.totalRedistributed.value = chain.getTotalRedistributed constants ∧
      baseState.price.value = chain.getPrice := by
  unfold fetchBaseState at h
  obtain ⟨fees, _, h⟩ := Result.bind_eq_ok.mp h
  obtain ⟨reward, _, h⟩ := Result.bind_eq_ok.mp h
  cases hu : configured options.userAddress with
  | none =>
      rw [hu] at h
      cases h
      exact ⟨rfl, rfl, rfl⟩
  | some userAddress =>
      rw [hu] at h
      obtain ⟨stabilityDeposit, _, h⟩ := Result.bind_eq_ok.mp h
      cases h
      exact ⟨rfl, rfl, rfl⟩

/-- A listed trove whose collateral ratio, once its redistributed shares are
applied, is below the minimum. -/
def ChainState.Undercollateralized (constants : Constants) (chain : ChainState)
    (trove : CombinedTroveData) : Prop :=
  ∃ current, (ChainState.troveFrom constants trove).applyRedistribution
      (chain.getTotalRedistributed constants) = .ok current ∧
    current.toTrove.collateralRatio chain.getPrice < constants.minimumCollateralRatio

/-- The first listed trove is undercollateralized. -/
def ChainState.RiskiestUndercollateralized (constants : Constants) (chain : ChainState) : Prop :=
  ∃ trove ∈ chain.sortedTroves.head?, chain.Undercollateralized constants trove

/-- A trove without collateral, debt and stake has an infinite ratio. -/
theorem empty_applyRedistribution_ratio (ownerAddress : String) (status : UserTroveStatus)
    (totalRedistributed : Trove constants) (price : Decimal) :
    ∃ current, (TroveWithPendingRedistribution.empty ownerAddress status :
        TroveWithPendingRedistribution constants).applyRedistribution totalRedistributed =
          .ok current ∧
      current.toTrove.collateralRatio price = infinity := by
  refine ⟨_, TroveWithPendingRedistribution.applyRedistribution_eq _ _, ?_⟩
  apply Trove.collateralRatio_of_debt_zero
  ext
  simp [Trove.add, Trove.multiply, TroveWithPendingRedistribution.empty, mul]

/-- The riskiest trove of the block-polled store is the head of the list, or one
with an infinite ratio. -/
theorem blockPolled_riskiestIsBelowMinimum {connection : EthersLiquityConnection}
    {chain latest : ChainState} {blockTag : Option Nat} {source : Nat}
    {baseState : LiquityStoreBaseState constants} {extraState : BlockExtraState}
    (hlists : chain.ListsTroves)
    (h : BlockPolledLiquityStore.get connection chain latest blockTag source =
      .ok (baseState, extraState)) :
    baseState.riskiestIsBelowMinimum = true ↔
      chain.RiskiestUndercollateralized constants ∨
        (chain.sortedTroves = [] ∧ infinity < constants.minimumCollateralRatio) := by
  unfold BlockPolledLiquityStore.get at h
  obtain ⟨_, hbase, h⟩ := Result.bind_eq_ok.mp h
  cases h
  obtain ⟨hriskiest, htotal, hprice⟩ := fetchBaseState_riskiest hbase
  rw [LiquityStoreBaseState.riskiestIsBelowMinimum, hriskiest, htotal, hprice]
  cases hlist : chain.sortedTroves with
  | nil =>
      obtain ⟨current, hcurrent, hratio⟩ := empty_applyRedistribution_ratio addressZero
        .nonExistent (chain.getTotalRedistributed constants) chain.getPrice
      have hempty : (BlockPolledLiquityStore.getRiskiestTroveBeforeRedistribution chain :
          TroveWithPendingRedistribution constants) = .empty addressZero .nonExistent := by
        simp [BlockPolledLiquityStore.getRiskiestTroveBeforeRedistribution,
          hlists.troves_ascending, hlist]
      rw [hempty, hcurrent]
      simp [Trove.collateralRatioIsBelowMinimum, hratio,
        ChainState.RiskiestUndercollateralized, hlist]
  | cons trove rest =>
      have hhead : (BlockPolledLiquityStore.getRiskiestTroveBeforeRedistribution chain :
          TroveWithPendingRedistribution constants) = ChainState.troveFrom constants trove := by
        simp [BlockPolledLiquityStore.getRiskiestTroveBeforeRedistribution,
          hlists.troves_ascending, hlist]
      rw [hhead]
      simp [Trove.collateralRatioIsBelowMinimum, ChainState.RiskiestUndercollateralized,
        ChainState.Undercollateralized, hlist]

/-- The riskiest trove of the Hashgraph store always has an infinite ratio. -/
theorem hashgraph_riskiestIsBelowMinimum {options : HashgraphOptions}
    {chain latest : ChainState} {blockTag : Option Nat} {source : Nat}
    {baseState : LiquityStoreBaseState constants} {extraState : BlockExtraState}
    (h : HashgraphLiquity.fetchStoreValues options chain latest blockTag source =
      .ok (baseState, extraState)) :
    baseState.riskiestIsBelowMinimum = true ↔ infinity < constants.minimumCollateralRatio := by
  unfold HashgraphLiquity.fetchStoreValues at h
  obtain ⟨_, hbase, h⟩ := Result.bind_eq_ok.mp h
  cases h
  obtain ⟨hriskiest, htotal, hprice⟩ := fetchBaseState_riskiest hbase
  obtain ⟨current, hcurrent, hratio⟩ := empty_applyRedistribution_ratio
    options.userAccountAddress (userTroveStatusFrom .nonExistent)
    (chain.getTotalRedistributed constants) chain.getPrice
  rw [LiquityStoreBaseState.riskiestIsBelowMinimum, hriskiest, htotal, hprice, hcurrent]
  simp [Trove.collateralRatioIsBelowMinimum, hratio]

/-- In a sorted list some trove is undercollateralized exactly when the first is. -/
theorem undercollateralized_iff_riskiest {chain : ChainState} (hsorted : chain.Sorted constants) :
    (∃ trove ∈ chain.sortedTroves, chain.Undercollateralized constants trove) ↔
      chain.RiskiestUndercollateralized constants := by
  have hratios := hsorted.ratios
  unfold ChainState.RiskiestUndercollateralized
  cases hlist : chain.sortedTroves with
  | nil => simp
  | cons first rest =>
      rw [hlist, List.pairwise_cons] at hratios
      constructor
      · rintro ⟨trove, hmem, current, hcurrent, hbelow⟩
        refine ⟨first, rfl, ?_⟩
        rcases List.mem_cons.mp hmem with rfl | hrest
        · exact ⟨current, hcurrent, hbelow⟩
        · have hfirst := TroveWithPendingRedistribution.applyRedistribution_eq
            (ChainState.troveFrom constants first) (chain.getTotalRedistributed constants)
          exact ⟨_, hfirst, (hratios.1 trove hrest _ current hfirst hcurrent).trans_lt hbelow⟩
      · rintro ⟨trove, ⟨⟩, hunder⟩
        exact ⟨first, List.mem_cons_self, hunder⟩

/-- The state reports whether the riskiest trove is undercollateralized. -/
def Reports {E : ExtraState} (chain : ChainState) (state : LiquityStoreState constants E) : Prop :=
  state.derived.haveUndercollateralizedTroves = true ↔ chain.RiskiestUndercollateralized constants

/-- No withdrawal is valid in the state while a trove is undercollateralized. -/
def RefusesWithdrawals {E : ExtraState} (chain : ChainState)
    (state : LiquityStoreState constants E) : Prop :=
  ∀ originalDeposit editedLUSD hasConnection change description,
    validateStabilityDepositChange originalDeposit editedLUSD
      (selectForStabilityDepositChangeValidation state) hasConnection =
        .ok (some change, description) →
    change.withdrawn.isSome = true →
    ¬ ∃ trove ∈ chain.sortedTroves, chain.Undercollateralized constants trove

/-- A truthful report refuses the withdrawals. -/
theorem Reports.refusesWithdrawals {E : ExtraState} {chain : ChainState}
    {state : LiquityStoreState constants E} (hsorted : chain.Sorted constants)
    (h : Reports chain state) : RefusesWithdrawals chain state := by
  intro originalDeposit editedLUSD hasConnection change description hvalid hwithdrawn hunder
  have hfalse := validateStabilityDepositChange_withdrawn hvalid hwithdrawn
  have htrue : state.derived.haveUndercollateralizedTroves = true :=
    h.mpr ((undercollateralized_iff_riskiest hsorted).mp hunder)
  rw [show state.derived.haveUndercollateralizedTroves = false from hfalse] at htrue
  cases htrue

section Refreshes

variable {options : HashgraphOptions} {connection : EthersLiquityConnection}
  {chain latest polledLatest : ChainState}
  {hashgraph : HLiquityStore constants HashgraphLiquity.extra}
  {polled : HLiquityStore constants BlockPolledLiquityStore.extra}
  {blockTag polledBlockTag : Option Nat} {source polledSource : Nat}
  {baseState polledBaseState : LiquityStoreBaseState constants}
  {extraState polledExtraState : BlockExtraState}

/-- A refreshed Hashgraph store reports undercollateralized troves only if no
ratio at all reaches the minimum. -/
theorem hashgraph_reported
    (hfetch : HashgraphLiquity.fetchStoreValues options chain latest blockTag source =
      .ok (baseState, extraState))
    (hreceive : (receive hashgraph baseState extraState extraState.toUpdate).1 = .ok ()) :
    (receive hashgraph baseState extraState
        extraState.toUpdate).2.state.derived.haveUndercollateralizedTroves = true ↔
      infinity < constants.minimumCollateralRatio := by
  rw [receive_haveUndercollateralizedTroves hreceive]
  exact hashgraph_riskiestIsBelowMinimum hfetch

/-- A refreshed block-polled store reports the first trove of the list. -/
theorem blockPolled_reported (hlists : chain.ListsTroves)
    (hget : BlockPolledLiquityStore.get connection chain polledLatest polledBlockTag
      polledSource = .ok (polledBaseState, polledExtraState))
    (hreceive : (receive polled polledBaseState polledExtraState
      polledExtraState.toUpdate).1 = .ok ()) :
    (receive polled polledBaseState polledExtraState
        polledExtraState.toUpdate).2.state.derived.haveUndercollateralizedTroves = true ↔
      chain.RiskiestUndercollateralized constants ∨
        (chain.sortedTroves = [] ∧ infinity < constants.minimumCollateralRatio) := by
  rw [receive_haveUndercollateralizedTroves hreceive]
  exact blockPolled_riskiestIsBelowMinimum hlists hget

/-- Both refreshed stores report the riskiest trove truthfully, agree and refuse
withdrawals exactly when the report of a trove that does not exist is right:
as long as the minimum ratio is finite, when no trove is undercollateralized. -/
theorem undercollateralization_reported_iff (hsorted : chain.Sorted constants)
    (hfetch : HashgraphLiquity.fetchStoreValues options chain latest blockTag source =
      .ok (baseState, extraState))
    (hget : BlockPolledLiquityStore.get connection chain polledLatest polledBlockTag
      polledSource = .ok (polledBaseState, polledExtraState))
    (hreceive : (receive hashgraph baseState extraState extraState.toUpdate).1 = .ok ())
    (hpolled : (receive polled polledBaseState polledExtraState
      polledExtraState.toUpdate).1 = .ok ()) :
    let hashgraphState := (receive hashgraph baseState extraState extraState.toUpdate).2.state
    let polledState :=
      (receive polled polledBaseState polledExtraState polledExtraState.toUpdate).2.state
    (Reports chain hashgraphState ∧ Reports chain polledState ∧
      hashgraphState.derived.haveUndercollateralizedTroves =
        polledState.derived.haveUndercollateralizedTroves ∧
      RefusesWithdrawals chain hashgraphState ∧ RefusesWithdrawals chain polledState) ↔
    (chain.RiskiestUndercollateralized constants ↔
      infinity < constants.minimumCollateralRatio) := by
  intro hashgraphState polledState
  have hh : hashgraphState.derived.haveUndercollateralizedTroves = true ↔
      infinity < constants.minimumCollateralRatio := hashgraph_reported hfetch hreceive
  have hp : polledState.derived.haveUndercollateralizedTroves = true ↔
      chain.RiskiestUndercollateralized constants ∨
        (chain.sortedTroves = [] ∧ infinity < constants.minimumCollateralRatio) :=
    blockPolled_reported hsorted.toListsTroves hget hpolled
  constructor
  · rintro ⟨hreports, _⟩
    exact hreports.symm.trans hh
  · intro hright
    have hreports : Reports chain hashgraphState := hh.trans hright.symm
    have hpolledReports : Reports chain polledState := by
      rw [Reports, hp, ← hright]
      exact ⟨fun h => h.elim id And.right, Or.inl⟩
    refine ⟨hreports, hpolledReports, ?_, hreports.refusesWithdrawals hsorted,
      hpolledReports.refusesWithdrawals hsorted⟩
    rw [Bool.eq_iff_iff]
    exact hreports.trans hpolledReports.symm

end Refreshes

/-- A chain with a single trove of 2000 HBAR against 2000 HCHF, at a price of one. -/
def undercollateralizedChain : ChainState :=
  { genesisChain.withTroves [⟨"0xd", 200000000000, 200000000000, 200000000000, 0, 0⟩] with
    activePool := ⟨200000000000, 200000000000⟩ }

/-- On a chain of three troves with a redistribution both new stores report that none is
undercollateralized. -/
theorem undercollateralization_reported_redistributed :
    ∃ baseState extraState polledBaseState polledExtraState,
      HashgraphLiquity.fetchStoreValues exampleOptions redistributedChain redistributedChain none
        0 = .ok (baseState, extraState) ∧
      BlockPolledLiquityStore.get exampleConnection redistributedChain redistributedChain none
        0 = .ok (polledBaseState, polledExtraState) ∧
      let hashgraphState := (receive (.new : HLiquityStore defaults HashgraphLiquity.extra)
        baseState extraState extraState.toUpdate).2.state
      let polledState := (receive (.new : HLiquityStore defaults BlockPolledLiquityStore.extra)
        polledBaseState polledExtraState polledExtraState.toUpdate).2.state
      Reports redistributedChain hashgraphState ∧ Reports redistributedChain polledState ∧
        hashgraphState.derived.haveUndercollateralizedTroves =
          polledState.derived.haveUndercollateralizedTroves ∧
        RefusesWithdrawals redistributedChain hashgraphState ∧
        RefusesWithdrawals redistributedChain polledState := by
  obtain ⟨⟨baseState, extraState⟩, hfetch⟩ :
      ∃ fetched, (HashgraphLiquity.fetchStoreValues exampleOptions redistributedChain
        redistributedChain none 0 : Result (Fetched defaults)) = .ok fetched := ⟨_, rfl⟩
  obtain ⟨⟨polledBaseState, polledExtraState⟩, hget⟩ :
      ∃ fetched, (BlockPolledLiquityStore.get exampleConnection redistributedChain
        redistributedChain none 0 : Result (Fetched defaults)) = .ok fetched := ⟨_, rfl⟩
  have hreceive : (receive (.new : HLiquityStore defaults HashgraphLiquity.extra)
      baseState extraState extraState.toUpdate).1 = .ok () := by
    cases hfetch
    rfl
  have hpolled : (receive (.new : HLiquityStore defaults BlockPolledLiquityStore.extra)
      polledBaseState polledExtraState polledExtraState.toUpdate).1 = .ok () := by
    cases hget
    rfl
  have hright : redistributedChain.RiskiestUndercollateralized defaults ↔
      infinity < defaults.minimumCollateralRatio := by
    refine ⟨?_, fun h => absurd h (by decide)⟩
    rintro ⟨trove, ⟨⟩, current, hcurrent, hbelow⟩
    cases hcurrent
    exact absurd hbelow (by decide)
  exact ⟨baseState, extraState, polledBaseState, polledExtraState, hfetch, hget,
    (undercollateralization_reported_iff redistributedChain_sorted hfetch hget hreceive
      hpolled).mpr hright⟩

/-- The refreshed Hashgraph store reports no undercollateralized trove, although
the only trove of the chain is. -/
theorem hashgraph_reported_wrong :
    ∃ baseState extraState,
      HashgraphLiquity.fetchStoreValues exampleOptions undercollateralizedChain
        undercollateralizedChain none 0 = .ok (baseState, extraState) ∧
      (receive (.new : HLiquityStore defaults HashgraphLiquity.extra) baseState extraState
        extraState.toUpdate).1 = .ok () ∧
      (receive (.new : HLiquityStore defaults HashgraphLiquity.extra) baseState extraState
        extraState.toUpdate).2.state.derived.haveUndercollateralizedTroves = false ∧
      undercollateralizedChain.RiskiestUndercollateralized defaults := by
  refine ⟨_, _, rfl, rfl, rfl, _, rfl, _, rfl, ?_⟩
  decide

end HLiquity
