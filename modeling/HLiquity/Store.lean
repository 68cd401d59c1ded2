import HLiquity.Library.KeepIfEqual
import HLiquity.StoreState

/-!
# The store

A store keeps a base state, derives a second state from it, and carries extra
state of its implementation. Loading sets all three, updating reduces them and
notifies the listeners. A method that throws keeps the fields it has assigned,
so it returns its outcome together with the store.
-/

namespace HLiquity

/-- The extra state of a store implementation, with its partial updates, its
reducer and the part of `difference` on it. -/
structure ExtraState where
  State : Type
  Update : Type
  reduceExtra : State → Update → State
  difference : Option State → Option State → Update

/-- All properties of the state. -/
structure LiquityStoreState (constants : Constants) (E : ExtraState) where
  base : LiquityStoreBaseState constants
  derived : LiquityStoreDerivedState constants
  extra : Option E.State

/-- The state variables that have changed, with their new values. -/
structure StateChange (constants : Constants) (E : ExtraState) where
  base : PartialBaseState constants
  derived : PartialDerivedState constants
  extra : E.Update

/-- Parameters passed to listeners. -/
structure LiquityStoreListenerParams (constants : Constants) (E : ExtraState) where
  newState : LiquityStoreState constants E
  oldState : LiquityStoreState constants E
  stateChange : StateChange constants E

/-- A callback of the store: `onLoaded`, or the listeners with their parameters. -/
inductive Callback (constants : Constants) (E : ExtraState) where
  | onLoaded
  | notified (params : LiquityStoreListenerParams constants E)

/-- The fields of a store, the count of the objects it has allocated, and its
callbacks so far, oldest first. -/
structure HLiquityStore (constants : Constants) (E : ExtraState) where
  loaded : Bool
  baseState : Option (LiquityStoreBaseState constants)
  derivedState : Option (LiquityStoreDerivedState constants)
  extraState : Option E.State
  allocations : Nat
  callbacks : List (Callback constants E)

section Reducers

variable {constants : Constants}

/-- `_updateIfChanged`, which logs a change, and `_silentlyUpdateIfChanged`. -/
def updateIfChanged {U : Type} (equals : U → U → Bool) (prev : U) (next : Option U) : U :=
  match next with
  | some next => if !equals prev next then next else prev
  | none => prev

/-- `_updateFees` -/
def updateFees (prev next : Obj (Fees constants)) : Obj (Fees constants) :=
  if !next.value.equals prev.value then next else prev

/-- `_reduce` -/
def reduce (baseState : LiquityStoreBaseState constants)
    (baseStateUpdate : PartialBaseState constants) : LiquityStoreBaseState constants where
  frontend := updateIfChanged (Obj.onValue frontendStatusEquals)
    baseState.frontend (baseStateUpdate .frontend)
  ownFrontend := updateIfChanged (Obj.onValue frontendStatusEquals)
    baseState.ownFrontend (baseStateUpdate .ownFrontend)
  numberOfTroves := updateIfChanged strictEquals
    baseState.numberOfTroves (baseStateUpdate .numberOfTroves)
  accountBalance := updateIfChanged (Obj.onValue Decimal.eq)
    baseState.accountBalance (baseStateUpdate .accountBalance)
  hchfBalance := updateIfChanged (Obj.onValue Decimal.eq)
    baseState.hchfBalance (baseStateUpdate .hchfBalance)
  hchfTokenAddress := updateIfChanged strictEquals
    baseState.hchfTokenAddress (baseStateUpdate .hchfTokenAddress)
  hlqtTokenAddress := updateIfChanged strictEquals
    baseState.hlqtTokenAddress (baseStateUpdate .hlqtTokenAddress)
  hlqtBalance := updateIfChanged (Obj.onValue Decimal.eq)
    baseState.hlqtBalance (baseStateUpdate .hlqtBalance)
  uniTokenBalance := updateIfChanged (Obj.onValue Decimal.eq)
    baseState.uniTokenBalance (baseStateUpdate .uniTokenBalance)
  uniTokenAllowance := updateIfChanged (Obj.onValue Decimal.eq)
    baseState.uniTokenAllowance (baseStateUpdate .uniTokenAllowance)
  remainingLiquidityMiningHLQTReward := updateIfChanged (Obj.onValue Decimal.eq)
    baseState.remainingLiquidityMiningHLQTReward
    (baseStateUpdate .remainingLiquidityMiningHLQTReward)
  liquidityMiningStake := updateIfChanged (Obj.onValue Decimal.eq)
    baseState.liquidityMiningStake (baseStateUpdate .liquidityMiningStake)
  totalStakedUniTokens := updateIfChanged (Obj.onValue Decimal.eq)
    baseState.totalStakedUniTokens (baseStateUpdate .totalStakedUniTokens)
  liquidityMiningHLQTReward := updateIfChanged (Obj.onValue Decimal.eq)
    baseState.liquidityMiningHLQTReward (baseStateUpdate .liquidityMiningHLQTReward)
  collateralSurplusBalance := updateIfChanged (Obj.onValue Decimal.eq)
    baseState.collateralSurplusBalance (baseStateUpdate .collateralSurplusBalance)
  price := updateIfChanged (Obj.onValue Decimal.eq) baseState.price (baseStateUpdate .price)
  hchfInStabilityPool := updateIfChanged (Obj.onValue Decimal.eq)
    baseState.hchfInStabilityPool (baseStateUpdate .hchfInStabilityPool)
  total := updateIfChanged (Obj.onValue Trove.equals) baseState.total (baseStateUpdate .total)
  totalRedistributed := updateIfChanged (Obj.onValue Trove.equals)
    baseState.totalRedistributed (baseStateUpdate .totalRedistributed)
  troveBeforeRedistribution := updateIfChanged (Obj.onValue TroveWithPendingRedistribution.equals)
    baseState.troveBeforeRedistribution (baseStateUpdate .troveBeforeRedistribution)
  stabilityDeposit := updateIfChanged (Obj.onValue StabilityDeposit.equals)
    baseState.stabilityDeposit (baseStateUpdate .stabilityDeposit)
  remainingStabilityPoolHLQTReward := updateIfChanged (Obj.onValue Decimal.eq)
    baseState.remainingStabilityPoolHLQTReward
    (baseStateUpdate .remainingStabilityPoolHLQTReward)
  feesInNormalMode := updateIfChanged (Obj.onValue Fees.equals)
    baseState.feesInNormalMode (baseStateUpdate .feesInNormalMode)
  hlqtStake := updateIfChanged (Obj.onValue HLQTStake.equals)
    baseState.hlqtStake (baseStateUpdate .hlqtStake)
  totalStakedHLQT := updateIfChanged (Obj.onValue Decimal.eq)
    baseState.totalStakedHLQT (baseStateUpdate .totalStakedHLQT)
  riskiestTroveBeforeRedistribution :=
    updateIfChanged (Obj.onValue TroveWithPendingRedistribution.equals)
      baseState.riskiestTroveBeforeRedistribution
      (baseStateUpdate .riskiestTroveBeforeRedistribution)
  userHasAssociatedWithHchf := updateIfChanged strictEquals
    baseState.userHasAssociatedWithHchf (baseStateUpdate .userHasAssociatedWithHchf)
  userHasAssociatedWithHlqt := updateIfChanged strictEquals
    baseState.userHasAssociatedWithHlqt (baseStateUpdate .userHasAssociatedWithHlqt)
  userHasAssociatedWithLpToken := updateIfChanged strictEquals
    baseState.userHasAssociatedWithLpToken (baseStateUpdate .userHasAssociatedWithLpToken)
  hchfTokenAllowanceOfHchfContract := updateIfChanged Obj.strictEquals
    baseState.hchfTokenAllowanceOfHchfContract
    (baseStateUpdate .hchfTokenAllowanceOfHchfContract)
  hlqtTokenAllowanceOfHlqtContract := updateIfChanged Obj.strictEquals
    baseState.hlqtTokenAllowanceOfHlqtContract
    (baseStateUpdate .hlqtTokenAllowanceOfHlqtContract)

/-- `_derive`, whose four new objects live at the given addresses. -/
def derive (baseState : LiquityStoreBaseState constants) (allocations : Nat) :
    Result (LiquityStoreDerivedState constants) := do
  let price := baseState.price.value
  let totalRedistributed := baseState.totalRedistributed.value
  let fees ← baseState.feesInNormalMode.value.setRecoveryMode
    (baseState.total.value.collateralRatioIsBelowCritical price)
  let trove ← baseState.troveBeforeRedistribution.value.applyRedistribution totalRedistributed
  let borrowingRate ← fees.borrowingRate none
  let redemptionRate ← fees.redemptionRate Decimal.zero none
  let riskiestTrove ←
    baseState.riskiestTroveBeforeRedistribution.value.applyRedistribution totalRedistributed
  return {
    trove := ⟨.allocated allocations, trove⟩
    fees := ⟨.allocated (allocations + 1), fees⟩
    borrowingRate := ⟨.allocated (allocations + 2), borrowingRate⟩
    redemptionRate := ⟨.allocated (allocations + 3), redemptionRate⟩
    haveUndercollateralizedTroves := riskiestTrove.toTrove.collateralRatioIsBelowMinimum price }

/-- `_reduceDerived` -/
def reduceDerived (derivedState derivedStateUpdate : LiquityStoreDerivedState constants) :
    LiquityStoreDerivedState constants where
  fees := updateFees derivedState.fees derivedStateUpdate.fees
  trove := updateIfChanged (Obj.onValue UserTrove.equals)
    derivedState.trove (some derivedStateUpdate.trove)
  borrowingRate := updateIfChanged (Obj.onValue Decimal.eq)
    derivedState.borrowingRate (some derivedStateUpdate.borrowingRate)
  redemptionRate := updateIfChanged (Obj.onValue Decimal.eq)
    derivedState.redemptionRate (some derivedStateUpdate.redemptionRate)
  haveUndercollateralizedTroves := updateIfChanged strictEquals
    derivedState.haveUndercollateralizedTroves
    (some derivedStateUpdate.haveUndercollateralizedTroves)

theorem updateIfChanged_eq {U : Type} (equals : U → U → Bool) (prev : U) (next : Option U) :
    updateIfChanged equals prev next = KeepIfEqual.keep equals prev next := by
  cases next with
  | none => rfl
  | some next => cases h : equals prev next <;> simp [updateIfChanged, KeepIfEqual.keep, h]

/-- Each base field is reduced from its own value and its own update, by its own
equality. -/
theorem reduce_get (baseState : LiquityStoreBaseState constants)
    (baseStateUpdate : PartialBaseState constants) (key : BaseKey) :
    (reduce baseState baseStateUpdate).get key =
      KeepIfEqual.keep key.equals (baseState.get key) (baseStateUpdate key) := by
  rw [← updateIfChanged_eq]
  cases key <;> rfl

/-- Each allowance is reduced from its own value and its own update. -/
theorem reduce_allowance (baseState : LiquityStoreBaseState constants)
    (baseStateUpdate : PartialBaseState constants) (key : AllowanceKey) :
    (reduce baseState baseStateUpdate).allowance key =
      KeepIfEqual.keep key.equals (baseState.allowance key) (baseStateUpdate.allowance key) := by
  cases key with
  | hchfTokenAllowanceOfHchfContract =>
      exact reduce_get baseState baseStateUpdate .hchfTokenAllowanceOfHchfContract
  | hlqtTokenAllowanceOfHlqtContract =>
      exact reduce_get baseState baseStateUpdate .hlqtTokenAllowanceOfHlqtContract
  | uniTokenAllowance => exact reduce_get baseState baseStateUpdate .uniTokenAllowance

/-- Each derived field is reduced from its own value and its own update. -/
theorem reduceDerived_get (derivedState derivedStateUpdate : LiquityStoreDerivedState constants)
    (key : DerivedKey) :
    (reduceDerived derivedState derivedStateUpdate).get key =
      KeepIfEqual.keep key.equals (derivedState.get key) (some (derivedStateUpdate.get key)) := by
  rw [← updateIfChanged_eq]
  cases key with
  | fees =>
      -- the equality of the fees is asked from the other side
      have hsymm : derivedStateUpdate.fees.value.equals derivedState.fees.value =
          derivedState.fees.value.equals derivedStateUpdate.fees.value := by
        rw [Bool.eq_iff_iff, Fees.equals_iff, Fees.equals_iff, eq_comm]
      simp only [LiquityStoreDerivedState.get, reduceDerived, updateFees, hsymm]
      rfl
  | trove => rfl
  | borrowingRate => rfl
  | redemptionRate => rfl
  | haveUndercollateralizedTroves => rfl

/-- The rates can be derived: the dates of the fees are close enough. -/
def LiquityStoreBaseState.Derivable (baseState : LiquityStoreBaseState constants) : Prop :=
  baseState.feesInNormalMode.value.WithinPow

instance (baseState : LiquityStoreBaseState constants) : Decidable baseState.Derivable :=
  inferInstanceAs (Decidable (Fees.WithinPow _))

/-- Only the decay of the fees can make the derivation throw. -/
theorem derive_ok_iff {baseState : LiquityStoreBaseState constants} (allocations : Nat) :
    (∃ derivedState, derive baseState allocations = .ok derivedState) ↔ baseState.Derivable := by
  unfold derive
  simp only [Fees.setRecoveryMode_eq, TroveWithPendingRedistribution.applyRedistribution_eq,
    Result.ok_bind]
  constructor
  · rintro ⟨derivedState, hderived⟩
    obtain ⟨borrowingRate, _, hrest⟩ := Result.bind_eq_ok.mp hderived
    obtain ⟨redemptionRate, hredemption, _⟩ := Result.bind_eq_ok.mp hrest
    exact (Fees.redemptionRate_ok_iff Decimal.zero).mp ⟨redemptionRate, hredemption⟩
  · intro h
    let fees : Fees constants :=
      { baseState.feesInNormalMode.value with
        recoveryMode :=
          baseState.total.value.collateralRatioIsBelowCritical baseState.price.value }
    have hfees : fees.WithinPow := h
    obtain ⟨borrowingRate, hborrowing⟩ := Fees.borrowingRate_ok hfees
    obtain ⟨redemptionRate, hredemption⟩ := (Fees.redemptionRate_ok_iff Decimal.zero).mpr hfees
    simp only [fees] at hborrowing hredemption
    rw [hborrowing, Result.ok_bind, hredemption]
    exact ⟨_, rfl⟩

/-- A derivation throws nothing but the assertion on the exponent of the decay. -/
theorem eq_powAssertion_of_derive {baseState : LiquityStoreBaseState constants}
    {allocations : Nat} {failure : Failure} (h : derive baseState allocations = .error failure) :
    failure = Decimal.powAssertion := by
  unfold derive at h
  simp only [Fees.setRecoveryMode_eq, TroveWithPendingRedistribution.applyRedistribution_eq,
    Result.ok_bind] at h
  rcases Result.bind_eq_error.mp h with h | ⟨borrowingRate, _, h⟩
  · exact Fees.eq_powAssertion_of_borrowingRate h
  · rcases Result.bind_eq_error.mp h with h | ⟨redemptionRate, _, h⟩
    · exact Fees.eq_powAssertion_of_redemptionRate h
    · cases h

/-- The fees and the trove that are derived. -/
theorem derive_values {baseState : LiquityStoreBaseState constants} {allocations : Nat}
    {derivedState : LiquityStoreDerivedState constants}
    (h : derive baseState allocations = .ok derivedState) :
    baseState.feesInNormalMode.value.setRecoveryMode
        (baseState.total.value.collateralRatioIsBelowCritical baseState.price.value) =
      .ok derivedState.fees.value ∧
    baseState.troveBeforeRedistribution.value.applyRedistribution
        baseState.totalRedistributed.value = .ok derivedState.trove.value := by
  obtain ⟨fees, hfees, h⟩ := Result.bind_eq_ok.mp h
  obtain ⟨trove, htrove, h⟩ := Result.bind_eq_ok.mp h
  obtain ⟨borrowingRate, _, h⟩ := Result.bind_eq_ok.mp h
  obtain ⟨redemptionRate, _, h⟩ := Result.bind_eq_ok.mp h
  obtain ⟨riskiestTrove, _, h⟩ := Result.bind_eq_ok.mp h
  cases h
  exact ⟨hfees, htrove⟩

/-- Base states with the same values derive the same values, wherever these are allocated. -/
theorem derive_equals {one other : LiquityStoreBaseState constants} {m n : Nat}
    {a b : LiquityStoreDerivedState constants}
    (hvalues : ∀ key : BaseKey, key.SameValue (one.get key) (other.get key))
    (ha : derive one m = .ok a) (hb : derive other n = .ok b) (key : DerivedKey) :
    key.equals (a.get key) (b.get key) = true := by
  have hprice : one.price.value = other.price.value := hvalues .price
  have htotal : one.total.value = other.total.value := hvalues .total
  have hredistributed : one.totalRedistributed.value = other.totalRedistributed.value :=
    hvalues .totalRedistributed
  have htrove : one.troveBeforeRedistribution.value = other.troveBeforeRedistribution.value :=
    hvalues .troveBeforeRedistribution
  have hriskiest : one.riskiestTroveBeforeRedistribution.value =
      other.riskiestTroveBeforeRedistribution.value :=
    hvalues .riskiestTroveBeforeRedistribution
  have hfees : one.feesInNormalMode.value = other.feesInNormalMode.value :=
    hvalues .feesInNormalMode
  unfold derive at ha hb
  rw [hprice, htotal, hredistributed, htrove, hriskiest, hfees] at ha
  simp only [Fees.setRecoveryMode_eq, TroveWithPendingRedistribution.applyRedistribution_eq,
    Result.ok_bind] at ha hb
  obtain ⟨borrowingRate, hborrowing, ha⟩ := Result.bind_eq_ok.mp ha
  obtain ⟨redemptionRate, hredemption, ha⟩ := Result.bind_eq_ok.mp ha
  rw [hborrowing, Result.ok_bind, hredemption, Result.ok_bind] at hb
  cases ha
  cases hb
  cases key <;>
    simp [DerivedKey.equals, LiquityStoreDerivedState.get, Obj.onValue, strictEquals]

/-- A reduced derived state equals every derivation from the same values. -/
theorem reduceDerived_equals {one other : LiquityStoreBaseState constants} {m n : Nat}
    {computed again : LiquityStoreDerivedState constants}
    (hvalues : ∀ key : BaseKey, key.SameValue (one.get key) (other.get key))
    (hcomputed : derive one m = .ok computed) (hagain : derive other n = .ok again)
    (derivedState : LiquityStoreDerivedState constants) (key : DerivedKey) :
    key.equals ((reduceDerived derivedState computed).get key) (again.get key) = true := by
  have hkept := KeepIfEqual.equals_keep key.equals key.equals_refl (derivedState.get key)
    (computed.get key)
  rw [← reduceDerived_get] at hkept
  exact key.equals_trans hkept (derive_equals hvalues hcomputed hagain key)

/-- The values of the default base state, which are visible until the store is loaded. -/
def defaultBaseState : LiquityStoreBaseState constants :=
  let decimal : Obj Decimal := ⟨.placeholder, Decimal.zero⟩
  let frontend : Obj FrontendStatus := ⟨.placeholder, .registered Decimal.zero⟩
  let trove : Obj (TroveWithPendingRedistribution constants) :=
    ⟨.placeholder, .empty "" .nonExistent⟩
  { frontend := frontend, ownFrontend := frontend
    numberOfTroves := 0
    accountBalance := decimal, hchfBalance := decimal
    hchfTokenAddress := "", hlqtTokenAddress := ""
    hlqtBalance := decimal, uniTokenBalance := decimal, uniTokenAllowance := decimal
    remainingLiquidityMiningHLQTReward := decimal, liquidityMiningStake := decimal
    totalStakedUniTokens := decimal, liquidityMiningHLQTReward := decimal
    collateralSurplusBalance := decimal, price := decimal, hchfInStabilityPool := decimal
    total := ⟨.placeholder, Trove.empty⟩, totalRedistributed := ⟨.placeholder, Trove.empty⟩
    troveBeforeRedistribution := trove
    stabilityDeposit := ⟨.placeholder,
      ⟨Decimal.zero, Decimal.zero, Decimal.zero, Decimal.zero, "", le_refl _⟩⟩
    remainingStabilityPoolHLQTReward := decimal
    feesInNormalMode := ⟨.placeholder,
      ⟨Decimal.zero, Decimal.zero, Decimal.zero, 0, 0, false, by decide⟩⟩
    hlqtStake := ⟨.placeholder, ⟨Decimal.zero, Decimal.zero, Decimal.zero⟩⟩
    totalStakedHLQT := decimal
    riskiestTroveBeforeRedistribution := trove
    userHasAssociatedWithHchf := false, userHasAssociatedWithHlqt := false
    userHasAssociatedWithLpToken := false
    hchfTokenAllowanceOfHchfContract := ⟨.decimalZero, Decimal.zero⟩
    hlqtTokenAllowanceOfHlqtContract := ⟨.decimalZero, Decimal.zero⟩ }

/-- The values of the default derived state. -/
def defaultDerivedState : LiquityStoreDerivedState constants where
  trove := ⟨.placeholder, ⟨Trove.empty, "", .nonExistent⟩⟩
  fees := ⟨.placeholder, ⟨Decimal.zero, Decimal.zero, Decimal.zero, 0, 0, false, by decide⟩⟩
  borrowingRate := ⟨.placeholder, Decimal.zero⟩
  redemptionRate := ⟨.placeholder, Decimal.zero⟩
  haveUndercollateralizedTroves := false

/-- `difference`: the properties of one state that are not identical in the other. -/
def difference {E : ExtraState} (a b : LiquityStoreState constants E) :
    StateChange constants E where
  base key := if key.strictEquals (a.base.get key) (b.base.get key) then none
    else some (a.base.get key)
  derived key := if key.strictEquals (a.derived.get key) (b.derived.get key) then none
    else some (a.derived.get key)
  extra := E.difference a.extra b.extra

end Reducers

namespace HLiquityStore

variable {constants : Constants} {E : ExtraState}

/-- A new store. -/
def new : HLiquityStore constants E := ⟨false, none, none, none, 0, []⟩

/-- The getter `state`. -/
def state (this : HLiquityStore constants E) : LiquityStoreState constants E :=
  ⟨this.baseState.getD defaultBaseState, this.derivedState.getD defaultDerivedState,
    this.extraState⟩

/-- The base state after an update. -/
def reducedBase (baseState : LiquityStoreBaseState constants)
    (baseStateUpdate : Option (PartialBaseState constants)) : LiquityStoreBaseState constants :=
  match baseStateUpdate with
  | some baseStateUpdate => reduce baseState baseStateUpdate
  | none => baseState

/-- The extra state after an update, which asserts that there is one to reduce. -/
def reducedExtra (extraState : Option E.State) (extraStateUpdate : Option E.Update) :
    Result (Option E.State) :=
  match extraStateUpdate with
  | none => .ok extraState
  | some extraStateUpdate =>
      match extraState with
      | some extraState => .ok (some (E.reduceExtra extraState extraStateUpdate))
      | none => .error (.assertion "this._extraState")

/-- The outcome of calling back, which ends with the exception of a callback, if one throws. -/
def calledBack : Option Failure → Result Unit
  | none => .ok ()
  | some failure => .error failure

/-- `_notify`, in which `thrown` is the exception that a listener throws, if any. It is not
caught, and the listeners after that one are not called. -/
def notify (this : HLiquityStore constants E) (params : LiquityStoreListenerParams constants E)
    (thrown : Option Failure) : Result Unit × HLiquityStore constants E :=
  (calledBack thrown, { this with callbacks := this.callbacks ++ [.notified params] })

/-- `_update`, whose listeners may throw. -/
def update (this : HLiquityStore constants E)
    (baseStateUpdate : Option (PartialBaseState constants))
    (extraStateUpdate : Option E.Update) (thrown : Option Failure := none) :
    Result Unit × HLiquityStore constants E :=
  match this.baseState, this.derivedState with
  | some baseState, some derivedState =>
      let oldState := this.state
      let baseState := reducedBase baseState baseStateUpdate
      let allocations := this.allocations
      let this := { this with baseState := some baseState, allocations := allocations + 4 }
      match derive baseState allocations with
      | .error failure => (.error failure, this)
      | .ok derivedStateUpdate =>
          let this :=
            { this with derivedState := some (reduceDerived derivedState derivedStateUpdate) }
          match reducedExtra this.extraState extraStateUpdate with
          | .error failure => (.error failure, this)
          | .ok extraState =>
              let this := { this with extraState := extraState }
              this.notify
                { newState := this.state, oldState, stateChange := difference this.state oldState }
                thrown
  | _, _ => (.error (.assertion "this._baseState && this._derivedState"), this)

/-- `_load`, in which `onLoaded` or a listener of the first update may throw. -/
def load (this : HLiquityStore constants E) (baseState : LiquityStoreBaseState constants)
    (extraState : Option E.State) (onLoadedThrown thrown : Option Failure := none) :
    Result Unit × HLiquityStore constants E :=
  if this.loaded then (.error (.assertion "!this._loaded"), this)
  else
    let allocations := this.allocations
    let this := { this with baseState := some baseState, allocations := allocations + 4 }
    match derive baseState allocations with
    | .error failure => (.error failure, this)
    | .ok derivedState =>
        let this := { this with
          derivedState := some derivedState
          extraState := extraState
          loaded := true
          callbacks := this.callbacks ++ [Callback.onLoaded] }
        match calledBack onLoadedThrown with
        | .error failure => (.error failure, this)
        | .ok () => this.update none none thrown

/-- The store after an update has reduced its base state. -/
def withBase (this : HLiquityStore constants E) (baseState : LiquityStoreBaseState constants) :
    HLiquityStore constants E :=
  { this with baseState := some baseState, allocations := this.allocations + 4 }

/-- The store after an update has gone through. -/
def updated (this : HLiquityStore constants E) (baseState : LiquityStoreBaseState constants)
    (derivedState : LiquityStoreDerivedState constants) (extraState : Option E.State) :
    HLiquityStore constants E :=
  let next : HLiquityStore constants E :=
    { this.withBase baseState with derivedState := some derivedState, extraState := extraState }
  (next.notify
    { newState := next.state, oldState := this.state
      stateChange := difference next.state this.state } none).2

/-- An update that goes through notifies once. -/
theorem updated_callbacks (this : HLiquityStore constants E)
    (baseState : LiquityStoreBaseState constants)
    (derivedState : LiquityStoreDerivedState constants) (extraState : Option E.State) :
    ∃ params, (this.updated baseState derivedState extraState).callbacks =
      this.callbacks ++ [.notified params] := ⟨_, rfl⟩

/-- A store that holds no derived state refuses an update. -/
theorem update_of_derivedState_none {this : HLiquityStore constants E}
    (h : this.derivedState = none) (baseStateUpdate : Option (PartialBaseState constants))
    (extraStateUpdate : Option E.Update) :
    this.update baseStateUpdate extraStateUpdate =
      (.error (.assertion "this._baseState && this._derivedState"), this) := by
  unfold update
  cases this.baseState <;> simp [h]

/-- The three ways of an update of a store that holds both states, whatever a listener throws: it
throws while deriving, it throws for want of extra state, or it notifies the listeners. -/
theorem update_thrown_cases {this : HLiquityStore constants E}
    {baseState : LiquityStoreBaseState constants}
    {derivedState : LiquityStoreDerivedState constants}
    (hb : this.baseState = some baseState) (hd : this.derivedState = some derivedState)
    (baseStateUpdate : Option (PartialBaseState constants)) (extraStateUpdate : Option E.Update) :
    let next := reducedBase baseState baseStateUpdate
    (∃ failure, derive next this.allocations = .error failure ∧
      ∀ thrown, this.update baseStateUpdate extraStateUpdate thrown =
        (.error failure, this.withBase next)) ∨
    (∃ derived failure, derive next this.allocations = .ok derived ∧
      reducedExtra this.extraState extraStateUpdate = .error failure ∧
      ∀ thrown, this.update baseStateUpdate extraStateUpdate thrown =
        (.error failure,
          { this.withBase next with
            derivedState := some (reduceDerived derivedState derived) })) ∨
    (∃ derived extraState, derive next this.allocations = .ok derived ∧
      reducedExtra this.extraState extraStateUpdate = .ok extraState ∧
      ∀ thrown, this.update baseStateUpdate extraStateUpdate thrown =
        (calledBack thrown,
          this.updated next (reduceDerived derivedState derived) extraState)) := by
  intro next
  obtain ⟨loaded, base, derivedBefore, extra, allocations, callbacks⟩ := this
  obtain rfl : base = some baseState := hb
  obtain rfl : derivedBefore = some derivedState := hd
  rcases hderive : derive next allocations with failure | derived
  · refine .inl ⟨failure, rfl, fun thrown => ?_⟩
    simp only [update]
    rw [hderive]
    rfl
  · rcases hextra : reducedExtra extra extraStateUpdate with failure | extraState
    · refine .inr (.inl ⟨derived, failure, rfl, rfl, fun thrown => ?_⟩)
      simp only [update]
      rw [hderive]
      simp only [hextra]
      rfl
    · refine .inr (.inr ⟨derived, extraState, rfl, rfl, fun thrown => ?_⟩)
      simp only [update]
      rw [hderive]
      simp only [hextra]
      rfl

/-- The three ways of an update whose listeners return. -/
theorem update_cases {this : HLiquityStore constants E}
    {baseState : LiquityStoreBaseState constants}
    {derivedState : LiquityStoreDerivedState constants}
    (hb : this.baseState = some baseState) (hd : this.derivedState = some derivedState)
    (baseStateUpdate : Option (PartialBaseState constants)) (extraStateUpdate : Option E.Update) :
    let next := reducedBase baseState baseStateUpdate
    (∃ failure, derive next this.allocations = .error failure ∧
      this.update baseStateUpdate extraStateUpdate = (.error failure, this.withBase next)) ∨
    (∃ derived failure, derive next this.allocations = .ok derived ∧
      reducedExtra this.extraState extraStateUpdate = .error failure ∧
      this.update baseStateUpdate extraStateUpdate =
        (.error failure,
          { this.withBase next with
            derivedState := some (reduceDerived derivedState derived) })) ∨
    (∃ derived extraState, derive next this.allocations = .ok derived ∧
      reducedExtra this.extraState extraStateUpdate = .ok extraState ∧
      this.update baseStateUpdate extraStateUpdate =
        (.ok (), this.updated next (reduceDerived derivedState derived) extraState)) := by
  rcases update_thrown_cases hb hd baseStateUpdate extraStateUpdate with
    ⟨failure, hderive, hupdate⟩ | ⟨derived, failure, hderive, hextra, hupdate⟩ |
    ⟨derived, extraState, hderive, hextra, hupdate⟩
  · exact .inl ⟨failure, hderive, hupdate none⟩
  · exact .inr (.inl ⟨derived, failure, hderive, hextra, hupdate none⟩)
  · exact .inr (.inr ⟨derived, extraState, hderive, hextra, hupdate none⟩)

/-- A call whose callbacks throw returns exactly if none of them does. -/
theorem calledBack_eq_ok {thrown : Option Failure} :
    calledBack thrown = .ok () ↔ thrown = none := by
  cases thrown <;> simp [calledBack]

/-- The exception of a listener changes the outcome of an update only. -/
theorem update_thrown_store (this : HLiquityStore constants E)
    (baseStateUpdate : Option (PartialBaseState constants)) (extraStateUpdate : Option E.Update)
    (thrown : Option Failure) :
    (this.update baseStateUpdate extraStateUpdate thrown).2 =
      (this.update baseStateUpdate extraStateUpdate).2 := by
  unfold update
  split
  · dsimp only
    split
    · rfl
    · split <;> rfl
  · rfl

/-- The store when a load has assigned all its fields. -/
def loadedWith (this : HLiquityStore constants E) (baseState : LiquityStoreBaseState constants)
    (derivedState : LiquityStoreDerivedState constants) (extraState : Option E.State) :
    HLiquityStore constants E :=
  { this.withBase baseState with
    derivedState := some derivedState
    extraState := extraState
    loaded := true
    callbacks := this.callbacks ++ [Callback.onLoaded] }

/-- A load whose derivation throws leaves the store unloaded. -/
theorem load_of_not_derivable {this : HLiquityStore constants E} (hloaded : this.loaded = false)
    {baseState : LiquityStoreBaseState constants} (h : ¬ baseState.Derivable)
    (extraState : Option E.State) (onLoadedThrown thrown : Option Failure := none) :
    ∃ failure, derive baseState this.allocations = .error failure ∧
      this.load baseState extraState onLoadedThrown thrown =
        (.error failure, this.withBase baseState) := by
  rcases hderive : derive baseState this.allocations with failure | derived
  · refine ⟨failure, rfl, ?_⟩
    rw [load, if_neg (by simp [hloaded])]
    simp only [hderive]
    rfl
  · exact absurd ((derive_ok_iff this.allocations).mp ⟨derived, hderive⟩) h

/-- A load whose derivation returns calls `onLoaded`, and ends with its exception or with an
update that derives the same values again. -/
theorem load_thrown_of_derivable {this : HLiquityStore constants E}
    (hloaded : this.loaded = false) {baseState : LiquityStoreBaseState constants}
    (h : baseState.Derivable) (extraState : Option E.State)
    (onLoadedThrown thrown : Option Failure) :
    ∃ derived again, derive baseState this.allocations = .ok derived ∧
      derive baseState (this.allocations + 4) = .ok again ∧
      this.load baseState extraState onLoadedThrown thrown =
        match onLoadedThrown with
        | some failure => (.error failure, this.loadedWith baseState derived extraState)
        | none => (calledBack thrown, (this.loadedWith baseState derived extraState).updated
            baseState (reduceDerived derived again) extraState) := by
  obtain ⟨derived, hderive⟩ := (derive_ok_iff this.allocations).mpr h
  obtain ⟨again, hagain⟩ := (derive_ok_iff (this.allocations + 4)).mpr h
  refine ⟨derived, again, hderive, hagain, ?_⟩
  have hload : this.load baseState extraState onLoadedThrown thrown =
      match calledBack onLoadedThrown with
      | .error failure => (.error failure, this.loadedWith baseState derived extraState)
      | .ok () => (this.loadedWith baseState derived extraState).update none none thrown := by
    rw [load, if_neg (by simp [hloaded])]
    simp only [hderive]
    rfl
  cases onLoadedThrown with
  | some failure => exact hload
  | none =>
      have hbase : (this.loadedWith baseState derived extraState).baseState = some baseState := rfl
      have hderived : (this.loadedWith baseState derived extraState).derivedState = some derived :=
        rfl
      have hsame : derive (reducedBase baseState none)
          (this.loadedWith baseState derived extraState).allocations = .ok again := hagain
      rcases update_thrown_cases hbase hderived none none with
        ⟨failure, hfail, _⟩ | ⟨_, failure, _, hfail, _⟩ | ⟨derived', extra', hok, hextra, hupdate⟩
      · rw [hsame] at hfail
        cases hfail
      · cases hfail
      · rw [hsame] at hok
        cases hok
        cases hextra
        exact hload.trans (hupdate thrown)

/-- A load whose derivation and callbacks return. -/
theorem load_of_derivable {this : HLiquityStore constants E} (hloaded : this.loaded = false)
    {baseState : LiquityStoreBaseState constants} (h : baseState.Derivable)
    (extraState : Option E.State) :
    ∃ derived again, derive baseState this.allocations = .ok derived ∧
      derive baseState (this.allocations + 4) = .ok again ∧
      this.load baseState extraState = (.ok (),
        (this.loadedWith baseState derived extraState).updated baseState
          (reduceDerived derived again) extraState) :=
  load_thrown_of_derivable hloaded h extraState none none

end HLiquityStore

end HLiquity
