import HLiquity.Store
import HLiquity.TroveValidation

/-!
# Validation of stability deposit changes

Withdrawals from the stability pool are refused while the store reports
undercollateralized troves.
-/

namespace HLiquity

/-- The change between two stability deposit states. -/
inductive StabilityDepositChange (T : Type) where
  | depositHCHF (amount : T)
  | withdrawHCHF (amount : T) (withdrawAllHCHF : Bool)
  deriving DecidableEq, Repr

/-- What a withdrawal leaves of an amount, as it is written out in the two methods `apply`. -/
def amountLeft (current withdrawn : Decimal) (withdrawAll : Bool) : Result Decimal :=
  if withdrawAll || current.lte withdrawn then .ok Decimal.zero else current.sub withdrawn

/-- It is nothing when everything is withdrawn, and the saturated difference otherwise. -/
theorem amountLeft_eq (current withdrawn : Decimal) (withdrawAll : Bool) :
    amountLeft current withdrawn withdrawAll =
      .ok (if withdrawAll = true then Decimal.zero else Trove.monus current withdrawn) := by
  unfold amountLeft
  cases withdrawAll with
  | true => rfl
  | false =>
      by_cases hle : current ≤ withdrawn
      · rw [if_pos (by simp [hle]), if_neg Bool.false_ne_true, Trove.monus_of_le hle]
      · rw [if_neg (by simpa using hle), if_neg Bool.false_ne_true,
          Decimal.sub_of_le (not_le.mp hle).le]
        rfl

namespace StabilityDeposit

/-- The difference to a deposited amount, if any. -/
def whatChanged (this : StabilityDeposit) (thatHCHF : Decimal) :
    Result (Option (StabilityDepositChange Decimal)) :=
  if thatHCHF.lt this.currentHCHF then do
    let withdrawHCHF ← this.currentHCHF.sub thatHCHF
    return some (.withdrawHCHF withdrawHCHF thatHCHF.isZero)
  else if thatHCHF.gt this.currentHCHF then do
    let depositHCHF ← thatHCHF.sub this.currentHCHF
    return some (.depositHCHF depositHCHF)
  else return none

/-- The new deposited amount after a change. -/
def apply (this : StabilityDeposit) (change : Option (StabilityDepositChange Decimal)) :
    Result Decimal :=
  match change with
  | none => .ok this.currentHCHF
  | some (.withdrawHCHF withdrawHCHF withdrawAllHCHF) =>
      amountLeft this.currentHCHF withdrawHCHF withdrawAllHCHF
  | some (.depositHCHF depositHCHF) => .ok (this.currentHCHF.add depositHCHF)

end StabilityDeposit

/-- The state selected for the validation. -/
structure StabilityDepositChangeValidationState (constants : Constants) where
  trove : UserTrove constants
  hchfBalance : Decimal
  haveOwnFrontend : Bool
  haveUndercollateralizedTroves : Bool
  deriving DecidableEq, Repr

def selectForStabilityDepositChangeValidation {constants : Constants} {E : ExtraState}
    (state : LiquityStoreState constants E) : StabilityDepositChangeValidationState constants where
  trove := state.derived.trove.value
  hchfBalance := state.base.hchfBalance.value
  haveOwnFrontend := state.base.ownFrontend.value != .unregistered
  haveUndercollateralizedTroves := state.derived.haveUndercollateralizedTroves

/-- The elements that the validation returns. A change is described together
with a hint when no wallet is connected. -/
inductive StabilityDescription where
  | errorDescription (children : List Fragment)
  | stabilityActionDescription (originalDeposit : StabilityDeposit)
      (change : StabilityDepositChange Decimal) (walletNotConnectedInfo : Bool)
  deriving DecidableEq

/-- The amount that a change deposits. -/
def StabilityDepositChange.deposited {T : Type} : StabilityDepositChange T → Option T
  | .depositHCHF amount => some amount
  | .withdrawHCHF _ _ => none

/-- The amount that a change withdraws. -/
def StabilityDepositChange.withdrawn {T : Type} : StabilityDepositChange T → Option T
  | .depositHCHF _ => none
  | .withdrawHCHF amount _ => some amount

/-- The valid change, if any, and the description to show. -/
def validateStabilityDepositChange {constants : Constants} (originalDeposit : StabilityDeposit)
    (editedLUSD : Decimal) (selectedState : StabilityDepositChangeValidationState constants)
    (hasConnection : Bool) :
    Result (Option (StabilityDepositChange Decimal) × Option StabilityDescription) := do
  let { hchfBalance, haveOwnFrontend, haveUndercollateralizedTroves, .. } := selectedState
  let change ← originalDeposit.whatChanged editedLUSD
  if haveOwnFrontend then
    return (none, some (.errorDescription
      [.text "You can’t deposit using a wallet address that is registered as a frontend."]))
  match change with
  | none => return (none, none)
  | some change =>
    let exceeding := change.deposited.filter fun amount => hasConnection && amount.gt hchfBalance
    match exceeding with
    | some depositHCHF => do
        let excess ← depositHCHF.sub hchfBalance
        let text ← excess.prettify none
        return (none, some (.errorDescription
          [.text "The amount you're trying to deposit exceeds your balance by ",
            .amount (String.ofList text ++ " " ++ coin), .text "."]))
    | none =>
      if change.withdrawn.isSome && haveUndercollateralizedTroves then
        return (none, some (.errorDescription
          [.text ("You're not allowed to withdraw HCHF from your Stability Deposit when there " ++
            "are undercollateralized Troves. Please liquidate those Troves or try again later.")]))
      return (some change,
        some (.stabilityActionDescription originalDeposit change (!hasConnection)))

/-- No withdrawal is valid while the selected state reports undercollateralized
troves. -/
theorem validateStabilityDepositChange_withdrawn {constants : Constants}
    {originalDeposit : StabilityDeposit} {editedLUSD : Decimal}
    {selectedState : StabilityDepositChangeValidationState constants} {hasConnection : Bool}
    {change : StabilityDepositChange Decimal} {description : Option StabilityDescription}
    (h : validateStabilityDepositChange originalDeposit editedLUSD selectedState hasConnection =
      .ok (some change, description)) (hwithdrawn : change.withdrawn.isSome = true) :
    selectedState.haveUndercollateralizedTroves = false := by
  unfold validateStabilityDepositChange at h
  obtain ⟨whatChanged, _, h⟩ := Result.bind_eq_ok.mp h
  by_contra hhave
  rw [Bool.not_eq_false] at hhave
  split at h
  · cases h
  · cases whatChanged with
    | none => cases h
    | some found =>
        cases found with
        | depositHCHF amount =>
            simp only [StabilityDepositChange.deposited, StabilityDepositChange.withdrawn,
              Option.isSome_none, Bool.false_and, Bool.false_eq_true, if_false] at h
            split at h
            · obtain ⟨excess, _, h⟩ := Result.bind_eq_ok.mp h
              obtain ⟨text, _, h⟩ := Result.bind_eq_ok.mp h
              cases h
            · cases h
              cases hwithdrawn
        | withdrawHCHF amount withdrawAllHCHF =>
            simp [StabilityDepositChange.deposited, StabilityDepositChange.withdrawn, hhave] at h

end HLiquity
