import HLiquity.Fees
import HLiquity.Trove

/-!
# The state of a store

A store holds references to objects. The language compares references by
identity while the store mostly compares the objects they refer to, so a
reference is an address together with the object found there. Every state
variable has a key, the type of its values, and the equality that the store
uses for it.
-/

namespace HLiquity

/-- Whether a user trove is open or not, or why it was closed. -/
inductive UserTroveStatus where
  | nonExistent
  | «open»
  | closedByOwner
  | closedByLiquidation
  | closedByRedemption
  deriving DecidableEq, Repr

/-- A trove that is associated with a single owner. -/
structure UserTrove (constants : Constants) extends Trove constants where
  ownerAddress : String
  status : UserTroveStatus
  deriving DecidableEq, Repr

/-- A trove in its state after the last direct modification. -/
structure TroveWithPendingRedistribution (constants : Constants) extends
    UserTrove constants where
  stake : Decimal
  snapshotOfTotalRedistributed : Trove constants
  deriving DecidableEq, Repr

/-- A stability deposit and its accrued gains. The constructor rejects a
deposit that has grown. -/
structure StabilityDeposit where
  initialHCHF : Decimal
  currentHCHF : Decimal
  collateralGain : Decimal
  hlqtReward : Decimal
  frontendTag : String
  current_le : currentHCHF ≤ initialHCHF
  deriving DecidableEq

/-- A user's HLQT stake and accrued gains. -/
structure HLQTStake where
  stakedHLQT : Decimal
  collateralGain : Decimal
  hchfGain : Decimal
  deriving DecidableEq, Repr

inductive FrontendStatus where
  | unregistered
  | registered (kickbackRate : Decimal)
  deriving DecidableEq, Repr

section Objects

variable {constants : Constants}

def UserTrove.equals (this that : UserTrove constants) : Bool :=
  this.toTrove.equals that.toTrove && this.ownerAddress == that.ownerAddress &&
  this.status == that.status

namespace TroveWithPendingRedistribution

/-- The constructor with only an owner and a status. -/
def empty (ownerAddress : String) (status : UserTroveStatus) :
    TroveWithPendingRedistribution constants :=
  ⟨⟨Trove.empty, ownerAddress, status⟩, Decimal.zero, Trove.empty⟩

def applyRedistribution (this : TroveWithPendingRedistribution constants)
    (totalRedistributed : Trove constants) : Result (UserTrove constants) := do
  let pending ← totalRedistributed.subtract this.snapshotOfTotalRedistributed
  let afterRedistribution := this.toTrove.add (pending.multiply this.stake)
  return ⟨afterRedistribution, this.ownerAddress, this.status⟩

def equals (this that : TroveWithPendingRedistribution constants) : Bool :=
  this.toUserTrove.equals that.toUserTrove && this.stake.eq that.stake &&
  this.snapshotOfTotalRedistributed.equals that.snapshotOfTotalRedistributed

end TroveWithPendingRedistribution

/-- The constructor. -/
def StabilityDeposit.new (initialHCHF currentHCHF collateralGain hlqtReward : Decimal)
    (frontendTag : String) : Result StabilityDeposit :=
  if h : currentHCHF ≤ initialHCHF then
    .ok ⟨initialHCHF, currentHCHF, collateralGain, hlqtReward, frontendTag, h⟩
  else .error (.error "currentHCHF can't be greater than initialHCHF")

def StabilityDeposit.equals (this that : StabilityDeposit) : Bool :=
  this.initialHCHF.eq that.initialHCHF && this.currentHCHF.eq that.currentHCHF &&
  this.collateralGain.eq that.collateralGain && this.hlqtReward.eq that.hlqtReward &&
  this.frontendTag == that.frontendTag

def HLQTStake.equals (this that : HLQTStake) : Bool :=
  this.stakedHLQT.eq that.stakedHLQT && this.collateralGain.eq that.collateralGain &&
  this.hchfGain.eq that.hchfGain

def frontendStatusEquals (a b : FrontendStatus) : Bool :=
  match a with
  | .unregistered => b == .unregistered
  | .registered aRate =>
      match b with
      | .unregistered => false
      | .registered bRate => aRate.eq bRate

@[simp] theorem UserTrove.equals_iff {a b : UserTrove constants} :
    a.equals b = true ↔ a = b := by
  cases a
  cases b
  simp [UserTrove.equals, and_assoc]

@[simp] theorem TroveWithPendingRedistribution.equals_iff
    {a b : TroveWithPendingRedistribution constants} : a.equals b = true ↔ a = b := by
  cases a
  cases b
  simp [TroveWithPendingRedistribution.equals, and_assoc]

@[simp] theorem StabilityDeposit.equals_iff {a b : StabilityDeposit} :
    a.equals b = true ↔ a = b := by
  cases a
  cases b
  simp [StabilityDeposit.equals, and_assoc]

@[simp] theorem HLQTStake.equals_iff {a b : HLQTStake} : a.equals b = true ↔ a = b := by
  cases a
  cases b
  simp [HLQTStake.equals, and_assoc]

@[simp] theorem frontendStatusEquals_iff {a b : FrontendStatus} :
    frontendStatusEquals a b = true ↔ a = b := by
  cases a <;> cases b <;> simp [frontendStatusEquals]

/-- Redistributed shares are computed without a throw. -/
@[simp] theorem TroveWithPendingRedistribution.applyRedistribution_eq
    (this : TroveWithPendingRedistribution constants) (totalRedistributed : Trove constants) :
    this.applyRedistribution totalRedistributed = .ok
      ⟨this.toTrove.add (Trove.multiply
          ⟨Trove.monus totalRedistributed.collateral this.snapshotOfTotalRedistributed.collateral,
            Trove.monus totalRedistributed.debt this.snapshotOfTotalRedistributed.debt⟩
          this.stake),
        this.ownerAddress, this.status⟩ := by
  simp [applyRedistribution]

end Objects

/-- Where an object lives: among those that a source outside the store supplies,
among those the store allocates or returns before it is loaded, or in the static
field `Decimal.ZERO`. -/
inductive Address where
  | supplied (source index : Nat)
  | allocated (index : Nat)
  | placeholder
  | decimalZero
  deriving DecidableEq, Repr

/-- A reference to an object. -/
structure Obj (α : Type) where
  address : Address
  value : α
  deriving DecidableEq, Repr

/-- `===` on references. -/
def Obj.strictEquals {α : Type} (a b : Obj α) : Bool := a.address == b.address

/-- An equality of the objects that two references refer to. -/
def Obj.onValue {α : Type} (equals : α → α → Bool) (a b : Obj α) : Bool :=
  equals a.value b.value

/-- `===` on primitive values. -/
def strictEquals {α : Type} [DecidableEq α] (a b : α) : Bool := a == b

/-- State variables read from the blockchain. -/
structure LiquityStoreBaseState (constants : Constants) where
  frontend : Obj FrontendStatus
  ownFrontend : Obj FrontendStatus
  numberOfTroves : Nat
  accountBalance : Obj Decimal
  hchfBalance : Obj Decimal
  hchfTokenAddress : String
  hlqtTokenAddress : String
  hlqtBalance : Obj Decimal
  uniTokenBalance : Obj Decimal
  uniTokenAllowance : Obj Decimal
  remainingLiquidityMiningHLQTReward : Obj Decimal
  liquidityMiningStake : Obj Decimal
  totalStakedUniTokens : Obj Decimal
  liquidityMiningHLQTReward : Obj Decimal
  collateralSurplusBalance : Obj Decimal
  price : Obj Decimal
  hchfInStabilityPool : Obj Decimal
  total : Obj (Trove constants)
  totalRedistributed : Obj (Trove constants)
  troveBeforeRedistribution : Obj (TroveWithPendingRedistribution constants)
  stabilityDeposit : Obj StabilityDeposit
  remainingStabilityPoolHLQTReward : Obj Decimal
  feesInNormalMode : Obj (Fees constants)
  hlqtStake : Obj HLQTStake
  totalStakedHLQT : Obj Decimal
  riskiestTroveBeforeRedistribution : Obj (TroveWithPendingRedistribution constants)
  userHasAssociatedWithHchf : Bool
  userHasAssociatedWithHlqt : Bool
  userHasAssociatedWithLpToken : Bool
  hchfTokenAllowanceOfHchfContract : Obj Decimal
  hlqtTokenAllowanceOfHlqtContract : Obj Decimal

/-- The keys of the base state. -/
inductive BaseKey where
  | frontend | ownFrontend | numberOfTroves | accountBalance | hchfBalance | hchfTokenAddress
  | hlqtTokenAddress | hlqtBalance | uniTokenBalance | uniTokenAllowance
  | remainingLiquidityMiningHLQTReward | liquidityMiningStake | totalStakedUniTokens
  | liquidityMiningHLQTReward | collateralSurplusBalance | price | hchfInStabilityPool | total
  | totalRedistributed | troveBeforeRedistribution | stabilityDeposit
  | remainingStabilityPoolHLQTReward | feesInNormalMode | hlqtStake | totalStakedHLQT
  | riskiestTroveBeforeRedistribution | userHasAssociatedWithHchf | userHasAssociatedWithHlqt
  | userHasAssociatedWithLpToken | hchfTokenAllowanceOfHchfContract
  | hlqtTokenAllowanceOfHlqtContract
  deriving DecidableEq, Repr

/-- The type of the values of a key. -/
@[reducible] def BaseKey.Value (constants : Constants) : BaseKey → Type
  | .frontend | .ownFrontend => Obj FrontendStatus
  | .numberOfTroves => Nat
  | .hchfTokenAddress | .hlqtTokenAddress => String
  | .total | .totalRedistributed => Obj (Trove constants)
  | .troveBeforeRedistribution | .riskiestTroveBeforeRedistribution =>
      Obj (TroveWithPendingRedistribution constants)
  | .stabilityDeposit => Obj StabilityDeposit
  | .feesInNormalMode => Obj (Fees constants)
  | .hlqtStake => Obj HLQTStake
  | .userHasAssociatedWithHchf | .userHasAssociatedWithHlqt | .userHasAssociatedWithLpToken =>
      Bool
  | _ => Obj Decimal

/-- `Partial<LiquityStoreBaseState>`: an absent and an undefined property read the same. -/
abbrev PartialBaseState (constants : Constants) :=
  (key : BaseKey) → Option (key.Value constants)

/-- The value of a key. -/
def LiquityStoreBaseState.get {constants : Constants} (this : LiquityStoreBaseState constants) :
    (key : BaseKey) → key.Value constants
  | .frontend => this.frontend
  | .ownFrontend => this.ownFrontend
  | .numberOfTroves => this.numberOfTroves
  | .accountBalance => this.accountBalance
  | .hchfBalance => this.hchfBalance
  | .hchfTokenAddress => this.hchfTokenAddress
  | .hlqtTokenAddress => this.hlqtTokenAddress
  | .hlqtBalance => this.hlqtBalance
  | .uniTokenBalance => this.uniTokenBalance
  | .uniTokenAllowance => this.uniTokenAllowance
  | .remainingLiquidityMiningHLQTReward => this.remainingLiquidityMiningHLQTReward
  | .liquidityMiningStake => this.liquidityMiningStake
  | .totalStakedUniTokens => this.totalStakedUniTokens
  | .liquidityMiningHLQTReward => this.liquidityMiningHLQTReward
  | .collateralSurplusBalance => this.collateralSurplusBalance
  | .price => this.price
  | .hchfInStabilityPool => this.hchfInStabilityPool
  | .total => this.total
  | .totalRedistributed => this.totalRedistributed
  | .troveBeforeRedistribution => this.troveBeforeRedistribution
  | .stabilityDeposit => this.stabilityDeposit
  | .remainingStabilityPoolHLQTReward => this.remainingStabilityPoolHLQTReward
  | .feesInNormalMode => this.feesInNormalMode
  | .hlqtStake => this.hlqtStake
  | .totalStakedHLQT => this.totalStakedHLQT
  | .riskiestTroveBeforeRedistribution => this.riskiestTroveBeforeRedistribution
  | .userHasAssociatedWithHchf => this.userHasAssociatedWithHchf
  | .userHasAssociatedWithHlqt => this.userHasAssociatedWithHlqt
  | .userHasAssociatedWithLpToken => this.userHasAssociatedWithLpToken
  | .hchfTokenAllowanceOfHchfContract => this.hchfTokenAllowanceOfHchfContract
  | .hlqtTokenAllowanceOfHlqtContract => this.hlqtTokenAllowanceOfHlqtContract

/-- The equality by which the store compares the values of a key. The two
allowances are compared by reference. -/
def BaseKey.equals {constants : Constants} :
    (key : BaseKey) → key.Value constants → key.Value constants → Bool
  | .frontend | .ownFrontend => Obj.onValue frontendStatusEquals
  | .numberOfTroves => (HLiquity.strictEquals : Nat → Nat → Bool)
  | .hchfTokenAddress | .hlqtTokenAddress => (HLiquity.strictEquals : String → String → Bool)
  | .total | .totalRedistributed => Obj.onValue Trove.equals
  | .troveBeforeRedistribution | .riskiestTroveBeforeRedistribution =>
      Obj.onValue TroveWithPendingRedistribution.equals
  | .stabilityDeposit => Obj.onValue StabilityDeposit.equals
  | .feesInNormalMode => Obj.onValue Fees.equals
  | .hlqtStake => Obj.onValue HLQTStake.equals
  | .userHasAssociatedWithHchf | .userHasAssociatedWithHlqt | .userHasAssociatedWithLpToken =>
      (HLiquity.strictEquals : Bool → Bool → Bool)
  | .hchfTokenAllowanceOfHchfContract | .hlqtTokenAllowanceOfHlqtContract => Obj.strictEquals
  | .accountBalance | .hchfBalance | .hlqtBalance | .uniTokenBalance | .uniTokenAllowance
  | .remainingLiquidityMiningHLQTReward | .liquidityMiningStake | .totalStakedUniTokens
  | .liquidityMiningHLQTReward | .collateralSurplusBalance | .price | .hchfInStabilityPool
  | .remainingStabilityPoolHLQTReward | .totalStakedHLQT => Obj.onValue Decimal.eq

/-- `===` on the values of a key. -/
def BaseKey.strictEquals {constants : Constants} :
    (key : BaseKey) → key.Value constants → key.Value constants → Bool
  | .numberOfTroves => (HLiquity.strictEquals : Nat → Nat → Bool)
  | .hchfTokenAddress | .hlqtTokenAddress => (HLiquity.strictEquals : String → String → Bool)
  | .userHasAssociatedWithHchf | .userHasAssociatedWithHlqt | .userHasAssociatedWithLpToken =>
      (HLiquity.strictEquals : Bool → Bool → Bool)
  | .frontend | .ownFrontend | .total | .totalRedistributed | .troveBeforeRedistribution
  | .riskiestTroveBeforeRedistribution | .stabilityDeposit | .feesInNormalMode | .hlqtStake
  | .accountBalance | .hchfBalance | .hlqtBalance | .uniTokenBalance | .uniTokenAllowance
  | .remainingLiquidityMiningHLQTReward | .liquidityMiningStake | .totalStakedUniTokens
  | .liquidityMiningHLQTReward | .collateralSurplusBalance | .price | .hchfInStabilityPool
  | .remainingStabilityPoolHLQTReward | .totalStakedHLQT | .hchfTokenAllowanceOfHchfContract
  | .hlqtTokenAllowanceOfHlqtContract => Obj.strictEquals

/-- Every value of a key equals itself. -/
theorem BaseKey.equals_refl {constants : Constants} (key : BaseKey)
    (value : key.Value constants) : key.equals value value = true := by
  cases key <;> simp [BaseKey.equals, Obj.onValue, Obj.strictEquals, HLiquity.strictEquals]

/-- Two values of a key are the same, wherever their objects live. -/
def BaseKey.SameValue {constants : Constants} :
    (key : BaseKey) → key.Value constants → key.Value constants → Prop
  | .numberOfTroves, a, b => a = b
  | .hchfTokenAddress, a, b | .hlqtTokenAddress, a, b => a = b
  | .userHasAssociatedWithHchf, a, b | .userHasAssociatedWithHlqt, a, b
  | .userHasAssociatedWithLpToken, a, b => a = b
  | .frontend, a, b | .ownFrontend, a, b => a.value = b.value
  | .total, a, b | .totalRedistributed, a, b => a.value = b.value
  | .troveBeforeRedistribution, a, b | .riskiestTroveBeforeRedistribution, a, b =>
      a.value = b.value
  | .stabilityDeposit, a, b => a.value = b.value
  | .feesInNormalMode, a, b => a.value = b.value
  | .hlqtStake, a, b => a.value = b.value
  | .accountBalance, a, b | .hchfBalance, a, b | .hlqtBalance, a, b | .uniTokenBalance, a, b
  | .uniTokenAllowance, a, b | .remainingLiquidityMiningHLQTReward, a, b
  | .liquidityMiningStake, a, b | .totalStakedUniTokens, a, b | .liquidityMiningHLQTReward, a, b
  | .collateralSurplusBalance, a, b | .price, a, b | .hchfInStabilityPool, a, b
  | .remainingStabilityPoolHLQTReward, a, b | .totalStakedHLQT, a, b
  | .hchfTokenAllowanceOfHchfContract, a, b | .hlqtTokenAllowanceOfHlqtContract, a, b =>
      a.value = b.value

theorem BaseKey.sameValue_refl {constants : Constants} (key : BaseKey)
    (value : key.Value constants) : key.SameValue value value := by
  cases key <;> rfl

/-- The store's equality is sameness of values for every key but the two allowances
that it compares by reference. -/
theorem BaseKey.sameValue_of_equals {constants : Constants} {key : BaseKey}
    (hhchf : key ≠ .hchfTokenAllowanceOfHchfContract)
    (hhlqt : key ≠ .hlqtTokenAllowanceOfHlqtContract) {a b : key.Value constants}
    (h : key.equals a b = true) : key.SameValue a b := by
  cases key <;>
    simp_all [BaseKey.equals, BaseKey.SameValue, Obj.onValue, HLiquity.strictEquals]

theorem BaseKey.sameValue_symm {constants : Constants} {key : BaseKey}
    {a b : key.Value constants} (h : key.SameValue a b) : key.SameValue b a := by
  cases key <;> exact Eq.symm h

/-- Values that are the same are equal for the store, for every key but the two
allowances that it compares by reference. -/
theorem BaseKey.equals_of_sameValue {constants : Constants} {key : BaseKey}
    (hhchf : key ≠ .hchfTokenAllowanceOfHchfContract)
    (hhlqt : key ≠ .hlqtTokenAllowanceOfHlqtContract) {a b : key.Value constants}
    (h : key.SameValue a b) : key.equals a b = true := by
  cases key <;>
    simp_all [BaseKey.equals, BaseKey.SameValue, Obj.onValue, HLiquity.strictEquals]

theorem BaseKey.strictEquals_refl {constants : Constants} (key : BaseKey)
    (value : key.Value constants) : key.strictEquals value value = true := by
  cases key <;> simp [BaseKey.strictEquals, Obj.strictEquals, HLiquity.strictEquals]

/-- The keys of the allowances of a base state. -/
inductive AllowanceKey where
  | hchfTokenAllowanceOfHchfContract
  | hlqtTokenAllowanceOfHlqtContract
  | uniTokenAllowance
  deriving DecidableEq, Repr

/-- The allowance of a key. -/
def LiquityStoreBaseState.allowance {constants : Constants}
    (this : LiquityStoreBaseState constants) : AllowanceKey → Obj Decimal
  | .hchfTokenAllowanceOfHchfContract => this.hchfTokenAllowanceOfHchfContract
  | .hlqtTokenAllowanceOfHlqtContract => this.hlqtTokenAllowanceOfHlqtContract
  | .uniTokenAllowance => this.uniTokenAllowance

/-- The allowance of a key in an update. -/
def PartialBaseState.allowance {constants : Constants} (this : PartialBaseState constants) :
    AllowanceKey → Option (Obj Decimal)
  | .hchfTokenAllowanceOfHchfContract => this .hchfTokenAllowanceOfHchfContract
  | .hlqtTokenAllowanceOfHlqtContract => this .hlqtTokenAllowanceOfHlqtContract
  | .uniTokenAllowance => this .uniTokenAllowance

/-- The equality by which the store compares the allowances of a key. -/
def AllowanceKey.equals : AllowanceKey → Obj Decimal → Obj Decimal → Bool
  | .hchfTokenAllowanceOfHchfContract | .hlqtTokenAllowanceOfHlqtContract => Obj.strictEquals
  | .uniTokenAllowance => Obj.onValue Decimal.eq

/-- Equal allowances have one value, if one address holds one allowance. -/
theorem AllowanceKey.value_eq_of_equals {key : AllowanceKey} {a b : Obj Decimal}
    (haddress : a.address = b.address → a.value = b.value) (h : key.equals a b = true) :
    a.value = b.value := by
  cases key with
  | hchfTokenAllowanceOfHchfContract => exact haddress (beq_iff_eq.mp h)
  | hlqtTokenAllowanceOfHlqtContract => exact haddress (beq_iff_eq.mp h)
  | uniTokenAllowance => exact Decimal.eq_iff.mp h

/-- State variables derived from the base state. -/
structure LiquityStoreDerivedState (constants : Constants) where
  trove : Obj (UserTrove constants)
  fees : Obj (Fees constants)
  borrowingRate : Obj Decimal
  redemptionRate : Obj Decimal
  haveUndercollateralizedTroves : Bool
  deriving DecidableEq

/-- The keys of the derived state. -/
inductive DerivedKey where
  | trove | fees | borrowingRate | redemptionRate | haveUndercollateralizedTroves
  deriving DecidableEq, Repr

@[reducible] def DerivedKey.Value (constants : Constants) : DerivedKey → Type
  | .trove => Obj (UserTrove constants)
  | .fees => Obj (Fees constants)
  | .borrowingRate | .redemptionRate => Obj Decimal
  | .haveUndercollateralizedTroves => Bool

abbrev PartialDerivedState (constants : Constants) :=
  (key : DerivedKey) → Option (key.Value constants)

def LiquityStoreDerivedState.get {constants : Constants}
    (this : LiquityStoreDerivedState constants) : (key : DerivedKey) → key.Value constants
  | .trove => this.trove
  | .fees => this.fees
  | .borrowingRate => this.borrowingRate
  | .redemptionRate => this.redemptionRate
  | .haveUndercollateralizedTroves => this.haveUndercollateralizedTroves

/-- The equality by which the store compares the derived values of a key. -/
def DerivedKey.equals {constants : Constants} :
    (key : DerivedKey) → key.Value constants → key.Value constants → Bool
  | .trove => Obj.onValue UserTrove.equals
  | .fees => Obj.onValue Fees.equals
  | .borrowingRate | .redemptionRate => Obj.onValue Decimal.eq
  | .haveUndercollateralizedTroves => (HLiquity.strictEquals : Bool → Bool → Bool)

/-- `===` on the derived values of a key. -/
def DerivedKey.strictEquals {constants : Constants} :
    (key : DerivedKey) → key.Value constants → key.Value constants → Bool
  | .trove | .fees | .borrowingRate | .redemptionRate => Obj.strictEquals
  | .haveUndercollateralizedTroves => (HLiquity.strictEquals : Bool → Bool → Bool)

theorem DerivedKey.equals_refl {constants : Constants} (key : DerivedKey)
    (value : key.Value constants) : key.equals value value = true := by
  cases key <;> simp [DerivedKey.equals, Obj.onValue, HLiquity.strictEquals]

theorem DerivedKey.strictEquals_refl {constants : Constants} (key : DerivedKey)
    (value : key.Value constants) : key.strictEquals value value = true := by
  cases key <;> simp [DerivedKey.strictEquals, Obj.strictEquals, HLiquity.strictEquals]

theorem DerivedKey.equals_comm {constants : Constants} (key : DerivedKey)
    (a b : key.Value constants) : key.equals a b = key.equals b a := by
  rw [Bool.eq_iff_iff]
  cases key <;>
    simp [DerivedKey.equals, Obj.onValue, HLiquity.strictEquals] <;>
    exact eq_comm

theorem DerivedKey.equals_trans {constants : Constants} (key : DerivedKey)
    {a b c : key.Value constants} (hab : key.equals a b = true) (hbc : key.equals b c = true) :
    key.equals a c = true := by
  cases key <;>
    simp_all [DerivedKey.equals, Obj.onValue, HLiquity.strictEquals]

end HLiquity
