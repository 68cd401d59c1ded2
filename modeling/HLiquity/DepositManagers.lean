import HLiquity.StabilityValidation
import HLiquity.Store

/-!
# Editing a stability deposit and a stake

Both managers hold the deposited amount of the store and an edited amount. The
manager of the stability deposit recognizes by four comparisons that an update
commits the pending change. The manager of the stake has no pending change: it
replays the edit on every new stake.
-/

namespace HLiquity

variable {constants : Constants} {E : ExtraState}

/-- The change between two stakes. -/
inductive HLQTStakeChange (T : Type) where
  | stakeHLQT (amount : T)
  | unstakeHLQT (amount : T) (unstakeAllHLQT : Bool)
  deriving DecidableEq, Repr

namespace HLQTStake

/-- The difference to a staked amount, if any. -/
def whatChanged (this : HLQTStake) (thatStakedHLQT : Decimal) :
    Result (Option (HLQTStakeChange Decimal)) :=
  if thatStakedHLQT.lt this.stakedHLQT then do
    let unstakeHLQT ← this.stakedHLQT.sub thatStakedHLQT
    return some (.unstakeHLQT unstakeHLQT thatStakedHLQT.isZero)
  else if thatStakedHLQT.gt this.stakedHLQT then do
    let stakeHLQT ← thatStakedHLQT.sub this.stakedHLQT
    return some (.stakeHLQT stakeHLQT)
  else return none

/-- The new staked amount after a change. -/
def apply (this : HLQTStake) (change : Option (HLQTStakeChange Decimal)) : Result Decimal :=
  match change with
  | none => .ok this.stakedHLQT
  | some (.unstakeHLQT unstakeHLQT unstakeAllHLQT) =>
      amountLeft this.stakedHLQT unstakeHLQT unstakeAllHLQT
  | some (.stakeHLQT stakeHLQT) => .ok (this.stakedHLQT.add stakeHLQT)

end HLQTStake

namespace StabilityDepositManager

/-- `StabilityDepositManagerState` -/
structure State where
  originalDeposit : StabilityDeposit
  editedHCHF : Decimal
  changePending : Bool
  deriving DecidableEq

/-- `StabilityDepositManagerAction` -/
inductive Action (constants : Constants) (E : ExtraState) where
  | updateStore (params : LiquityStoreListenerParams constants E)
  | startChange
  | finishChange
  | revert
  | setDeposit (newValue : Decimalish)

namespace State

def init (state : LiquityStoreState constants E) : State where
  originalDeposit := state.base.stabilityDeposit.value
  editedHCHF := state.base.stabilityDeposit.value.currentHCHF
  changePending := false

def finishChange (this : State) : State := { this with changePending := false }

def revert (this : State) : State := { this with editedHCHF := this.originalDeposit.currentHCHF }

/-- Whether an updated deposit shows that a change was committed: liquidations only lower
the current amount and raise the gains. -/
def changeCommitted (originalDeposit updatedDeposit : StabilityDeposit) : Bool :=
  !updatedDeposit.initialHCHF.eq originalDeposit.initialHCHF ||
    updatedDeposit.currentHCHF.gt originalDeposit.currentHCHF ||
    updatedDeposit.collateralGain.lt originalDeposit.collateralGain ||
    updatedDeposit.hlqtReward.lt originalDeposit.hlqtReward

/-- The arm `updateStore` with the deposit of the state change. -/
def updateStore (this : State) (updatedDeposit : Option StabilityDeposit) : Result State :=
  match updatedDeposit with
  | none => .ok this
  | some updatedDeposit =>
      let newState := { this with originalDeposit := updatedDeposit }
      if this.changePending && changeCommitted this.originalDeposit updatedDeposit then
        .ok newState.revert.finishChange
      else do
        let change ← this.originalDeposit.whatChanged this.editedHCHF
        let editedHCHF ← updatedDeposit.apply change
        return { newState with editedHCHF }

/-- `reduce` -/
def reduce (this : State) : Action constants E → Result State
  | .startChange => .ok { this with changePending := true }
  | .finishChange => .ok this.finishChange
  | .setDeposit newValue => do
      let editedHCHF ← Decimal.from newValue
      return { this with editedHCHF }
  | .revert => .ok this.revert
  | .updateStore params =>
      this.updateStore ((params.stateChange.base .stabilityDeposit).map Obj.value)

end State

end StabilityDepositManager

namespace StakingManager

/-- `StakeManagerState` -/
structure State where
  originalStake : HLQTStake
  editedLQTY : Decimal
  deriving DecidableEq, Repr

/-- `StakeManagerAction` -/
inductive Action (constants : Constants) (E : ExtraState) where
  | updateStore (params : LiquityStoreListenerParams constants E)
  | revert
  | setStake (newValue : Decimalish)

namespace State

def init (state : LiquityStoreState constants E) : State where
  originalStake := state.base.hlqtStake.value
  editedLQTY := state.base.hlqtStake.value.stakedHLQT

/-- The arm `updateStore` with the stake of the state change. -/
def updateStore (this : State) (updatedStake : Option HLQTStake) : Result State :=
  match updatedStake with
  | none => .ok this
  | some updatedStake => do
      let change ← this.originalStake.whatChanged this.editedLQTY
      let editedLQTY ← updatedStake.apply change
      return ⟨updatedStake, editedLQTY⟩

/-- `reduce` -/
def reduce (this : State) : Action constants E → Result State
  | .setStake newValue => do
      let editedLQTY ← Decimal.from newValue
      return { this with editedLQTY }
  | .revert => .ok { this with editedLQTY := this.originalStake.stakedHLQT }
  | .updateStore params =>
      this.updateStore ((params.stateChange.base .hlqtStake).map Obj.value)

end State

end StakingManager

end HLiquity
