import HLiquity.Trove

/-!
# Changes between troves

`whatChanged` computes the change from one trove to another and `apply` replays
it. Parameter objects that arrive from outside are records of optional values;
normalization turns them into the parameters of a creation or an adjustment.
A change of each kind holds at least one amount by construction, and never both
directions of the same component.
-/

namespace HLiquity

/-- `_CollateralChange` -/
inductive CollateralChange (T : Type) where
  | depositCollateral (amount : T)
  | withdrawCollateral (amount : T)
  deriving DecidableEq, Repr

/-- `_DebtChange` -/
inductive DebtChange (T : Type) where
  | borrowHCHF (amount : T)
  | repayHCHF (amount : T)
  deriving DecidableEq, Repr

structure TroveCreationParams (T : Type) where
  depositCollateral : T
  borrowHCHF : T
  deriving DecidableEq, Repr

structure TroveClosureParams (T : Type) where
  withdrawCollateral : T
  repayHCHF : Option T
  deriving DecidableEq, Repr

/-- The three members of the union: one component changes, or both. -/
inductive TroveAdjustmentParams (T : Type) where
  | collateral (collateralChange : CollateralChange T)
  | debt (debtChange : DebtChange T)
  | both (collateralChange : CollateralChange T) (debtChange : DebtChange T)
  deriving DecidableEq, Repr

namespace TroveAdjustmentParams

variable {T U : Type}

def collateralChange : TroveAdjustmentParams T → Option (CollateralChange T)
  | .collateral c => some c
  | .debt _ => none
  | .both c _ => some c

def debtChange : TroveAdjustmentParams T → Option (DebtChange T)
  | .collateral _ => none
  | .debt d => some d
  | .both _ d => some d

def depositCollateral (params : TroveAdjustmentParams T) : Option T :=
  match params.collateralChange with
  | some (.depositCollateral amount) => some amount
  | _ => none

def withdrawCollateral (params : TroveAdjustmentParams T) : Option T :=
  match params.collateralChange with
  | some (.withdrawCollateral amount) => some amount
  | _ => none

def borrowHCHF (params : TroveAdjustmentParams T) : Option T :=
  match params.debtChange with
  | some (.borrowHCHF amount) => some amount
  | _ => none

def repayHCHF (params : TroveAdjustmentParams T) : Option T :=
  match params.debtChange with
  | some (.repayHCHF amount) => some amount
  | _ => none

end TroveAdjustmentParams

/-- `TroveCreationError` -/
inductive TroveCreationError where
  | missingLiquidationReserve
  deriving DecidableEq, Repr

/-- The marker of an adjustment that sets a component to zero. -/
inductive SetToZero where
  | collateral
  | debt
  deriving DecidableEq, Repr

/-- The change between two trove states. -/
inductive TroveChange (constants : Constants) where
  | invalidCreation (invalidTrove : Trove constants) (error : TroveCreationError)
  | creation (params : TroveCreationParams Decimal)
  | closure (params : TroveClosureParams Decimal)
  | adjustment (params : TroveAdjustmentParams Decimal) (setToZero : Option SetToZero)
  deriving DecidableEq, Repr

namespace TroveChange

variable {constants : Constants}

def depositCollateral : TroveChange constants → Option Decimal
  | .creation params => some params.depositCollateral
  | .adjustment params _ => params.depositCollateral
  | _ => none

def withdrawCollateral : TroveChange constants → Option Decimal
  | .closure params => some params.withdrawCollateral
  | .adjustment params _ => params.withdrawCollateral
  | _ => none

def borrowHCHF : TroveChange constants → Option Decimal
  | .creation params => some params.borrowHCHF
  | .adjustment params _ => params.borrowHCHF
  | _ => none

def repayHCHF : TroveChange constants → Option Decimal
  | .closure params => params.repayHCHF
  | .adjustment params _ => params.repayHCHF
  | _ => none

end TroveChange

/-- A parameter object from outside: its entries in insertion order, where a
property may be present and undefined. -/
abbrev ParamsRecord := List (String × Option Decimalish)

/-- `Object.entries(params).filter(valueIsDefined)` -/
def definedEntries (params : ParamsRecord) : List (String × Decimalish) :=
  params.filterMap fun entry => entry.2.map (entry.1, ·)

/-- A property of `Object.fromEntries(entries)`, where later entries win. -/
def property {T : Type} (entries : List (String × T)) (key : String) : Option T :=
  entries.reverse.lookup key

/-- The quoted keys of a message. -/
def quoteKeys (keys : List String) : String :=
  ", ".intercalate (keys.map fun k => "'" ++ k ++ "'")

/-- The check shared by `checkAllowedTroveCreationKeys` and
`checkAllowedTroveAdjustmentKeys`. -/
def checkAllowedKeys (name : String) (allowedKeys : List String)
    (entries : List (String × Decimalish)) : Result Unit :=
  let badKeys := (entries.filter fun entry => !allowedKeys.contains entry.1).map Prod.fst
  if badKeys.length > 0 then
    .error (.error (name ++ ": property " ++ quoteKeys badKeys ++ " not allowed"))
  else .ok ()

def allowedTroveCreationKeys : List String := ["depositCollateral", "borrowHCHF"]

def checkAllowedTroveCreationKeys (entries : List (String × Decimalish)) : Result Unit :=
  checkAllowedKeys "TroveCreationParams" allowedTroveCreationKeys entries

def troveCreationParamsFromEntries (entries : List (String × Decimal)) :
    Result (TroveCreationParams Decimal) :=
  match property entries "depositCollateral", property entries "borrowHCHF" with
  | some depositCollateral, some borrowHCHF => .ok ⟨depositCollateral, borrowHCHF⟩
  | _, _ =>
      let missingKeys := allowedTroveCreationKeys.filter fun k => (property entries k).isNone
      .error (.error
        ("TroveCreationParams: property " ++ quoteKeys missingKeys ++ " missing"))

def decimalize (entry : String × Decimalish) : Result (String × Decimal) := do
  let value ← Decimal.from entry.2
  return (entry.1, value)

/-- `_normalizeTroveCreation` -/
def normalizeTroveCreation (params : ParamsRecord) : Result (TroveCreationParams Decimal) := do
  let entries := definedEntries params
  checkAllowedTroveCreationKeys entries
  let nonZeroEntries ← entries.mapM decimalize
  troveCreationParamsFromEntries nonZeroEntries

def allowedTroveAdjustmentKeys : List String :=
  ["depositCollateral", "withdrawCollateral", "borrowHCHF", "repayHCHF"]

def checkAllowedTroveAdjustmentKeys (entries : List (String × Decimalish)) : Result Unit :=
  checkAllowedKeys "TroveAdjustmentParams" allowedTroveAdjustmentKeys entries

def collateralChangeFrom (depositCollateral withdrawCollateral : Option Decimal) :
    Result (Option (CollateralChange Decimal)) :=
  match depositCollateral, withdrawCollateral with
  | some _, some _ =>
      .error (.error ("TroveAdjustmentParams: 'depositCollateral' and 'withdrawCollateral' " ++
        "can't be present at the same time"))
  | some amount, none => .ok (some (.depositCollateral amount))
  | none, some amount => .ok (some (.withdrawCollateral amount))
  | none, none => .ok none

def debtChangeFrom (borrowHCHF repayHCHF : Option Decimal) :
    Result (Option (DebtChange Decimal)) :=
  match borrowHCHF, repayHCHF with
  | some _, some _ =>
      .error (.error
        "TroveAdjustmentParams: 'borrowHCHF' and 'repayHCHF' can't be present at the same time")
  | some amount, none => .ok (some (.borrowHCHF amount))
  | none, some amount => .ok (some (.repayHCHF amount))
  | none, none => .ok none

def troveAdjustmentParamsFromEntries (entries : List (String × Decimal)) :
    Result (TroveAdjustmentParams Decimal) := do
  let collateralChange ← collateralChangeFrom
    (property entries "depositCollateral") (property entries "withdrawCollateral")
  let debtChange ← debtChangeFrom
    (property entries "borrowHCHF") (property entries "repayHCHF")
  match collateralChange, debtChange with
  | some collateralChange, some debtChange => return .both collateralChange debtChange
  | some collateralChange, none => return .collateral collateralChange
  | none, some debtChange => return .debt debtChange
  | none, none =>
      throw (.error "TroveAdjustmentParams: must include at least one non-zero parameter")

/-- `_normalizeTroveAdjustment` -/
def normalizeTroveAdjustment (params : ParamsRecord) :
    Result (TroveAdjustmentParams Decimal) := do
  let entries := definedEntries params
  checkAllowedTroveAdjustmentKeys entries
  let decimals ← entries.mapM decimalize
  let nonZeroEntries := decimals.filter fun entry => !entry.2.isZero
  troveAdjustmentParamsFromEntries nonZeroEntries

/-- Creation parameters as the record that `create` passes on. -/
def TroveCreationParams.record (params : TroveCreationParams Decimalish) : ParamsRecord :=
  [("depositCollateral", some params.depositCollateral), ("borrowHCHF", some params.borrowHCHF)]

def CollateralChange.record : CollateralChange Decimalish → ParamsRecord
  | .depositCollateral amount => [("depositCollateral", some amount)]
  | .withdrawCollateral amount => [("withdrawCollateral", some amount)]

def DebtChange.record : DebtChange Decimalish → ParamsRecord
  | .borrowHCHF amount => [("borrowHCHF", some amount)]
  | .repayHCHF amount => [("repayHCHF", some amount)]

/-- Adjustment parameters as the record that `adjust` passes on. -/
def TroveAdjustmentParams.record : TroveAdjustmentParams Decimalish → ParamsRecord
  | .collateral c => c.record
  | .debt d => d.record
  | .both c d => c.record ++ d.record

/-- Decimal creation parameters used where any `Decimalish` is accepted. -/
def TroveCreationParams.ofDecimal (params : TroveCreationParams Decimal) :
    TroveCreationParams Decimalish :=
  ⟨.decimal params.depositCollateral, .decimal params.borrowHCHF⟩

def CollateralChange.ofDecimal : CollateralChange Decimal → CollateralChange Decimalish
  | .depositCollateral amount => .depositCollateral (.decimal amount)
  | .withdrawCollateral amount => .withdrawCollateral (.decimal amount)

def DebtChange.ofDecimal : DebtChange Decimal → DebtChange Decimalish
  | .borrowHCHF amount => .borrowHCHF (.decimal amount)
  | .repayHCHF amount => .repayHCHF (.decimal amount)

/-- Decimal adjustment parameters used where any `Decimalish` is accepted. -/
def TroveAdjustmentParams.ofDecimal :
    TroveAdjustmentParams Decimal → TroveAdjustmentParams Decimalish
  | .collateral c => .collateral c.ofDecimal
  | .debt d => .debt d.ofDecimal
  | .both c d => .both c.ofDecimal d.ofDecimal

def applyFee (borrowingRate debtIncrease : Decimal) : Decimal :=
  debtIncrease.mul (Decimal.one.add borrowingRate)

def unapplyFee (borrowingRate debtIncrease : Decimal) : Decimal :=
  debtIncrease.divCeil (Decimal.one.add borrowingRate)

namespace Trove

variable {constants : Constants}

/-- `_debtChange` -/
def debtChange (this that : Trove constants) (borrowingRate : Decimal) :
    Result (DebtChange Decimal) :=
  if that.debt.gt this.debt then do
    let debtIncrease ← that.debt.sub this.debt
    return .borrowHCHF (unapplyFee borrowingRate debtIncrease)
  else do
    let debtDecrease ← this.debt.sub that.debt
    return .repayHCHF debtDecrease

/-- `_collateralChange` -/
def collateralChange (this that : Trove constants) : Result (CollateralChange Decimal) :=
  if that.collateral.gt this.collateral then do
    let amount ← that.collateral.sub this.collateral
    return .depositCollateral amount
  else do
    let amount ← this.collateral.sub that.collateral
    return .withdrawCollateral amount

/-- Calculate the difference between this trove and another. An omitted rate is
the minimum borrowing rate. -/
def whatChanged (this that : Trove constants) (borrowingRate : Option Decimal) :
    Result (Option (TroveChange constants)) := do
  let borrowingRate := borrowingRate.getD constants.minimumBorrowingRate
  if this.collateral.eq that.collateral && this.debt.eq that.debt then
    return none
  else if this.isEmpty then
    if that.debt.lt constants.hchfLiquidationReserve then
      return some (.invalidCreation that .missingLiquidationReserve)
    else
      let netDebt ← that.netDebt
      return some (.creation ⟨that.collateral, unapplyFee borrowingRate netDebt⟩)
  else if that.isEmpty then
    let netDebt ← this.netDebt
    return some (.closure ⟨this.collateral, netDebt.nonZero⟩)
  else if this.collateral.eq that.collateral then
    let debtChange ← this.debtChange that borrowingRate
    return some (.adjustment (.debt debtChange) (that.debt.zero?.map fun _ => .debt))
  else if this.debt.eq that.debt then
    let collateralChange ← this.collateralChange that
    return some (.adjustment (.collateral collateralChange)
      (that.collateral.zero?.map fun _ => .collateral))
  else
    let debtChange ← this.debtChange that borrowingRate
    let collateralChange ← this.collateralChange that
    return some (.adjustment (.both collateralChange debtChange)
      ((that.debt.zero?.map fun _ => SetToZero.debt) <|>
        (that.collateral.zero?.map fun _ => SetToZero.collateral)))

/-- Make a new trove by applying a change to this trove. -/
def apply (this : Trove constants) (change : Option (TroveChange constants))
    (borrowingRate : Option Decimal) : Result (Trove constants) :=
  let borrowingRate := borrowingRate.getD constants.minimumBorrowingRate
  match change with
  | none => .ok this
  | some (.invalidCreation invalidTrove _) =>
      if !this.isEmpty then .error (.error "Can't create onto existing Trove")
      else .ok invalidTrove
  | some (.creation params) =>
      if !this.isEmpty then .error (.error "Can't create onto existing Trove")
      else .ok ⟨params.depositCollateral,
        constants.hchfLiquidationReserve.add (applyFee borrowingRate params.borrowHCHF)⟩
  | some (.closure _) =>
      if this.isEmpty then .error (.error "Can't close empty Trove") else .ok empty
  | some (.adjustment params setToZero) =>
      let collateralDecrease := params.withdrawCollateral.getD Decimal.zero
      let collateralIncrease := params.depositCollateral.getD Decimal.zero
      let debtDecrease := params.repayHCHF.getD Decimal.zero
      let debtIncrease :=
        match params.borrowHCHF with
        | some borrowHCHF => applyFee borrowingRate borrowHCHF
        | none => Decimal.zero
      match setToZero with
      | some .collateral =>
          ((this.setCollateral Decimal.zero).addDebt debtIncrease).subtractDebt debtDecrease
      | some .debt =>
          ((this.setDebt Decimal.zero).addCollateral collateralIncrease).subtractCollateral
            collateralDecrease
      | none =>
          (this.add ⟨collateralIncrease, debtIncrease⟩).subtract
            ⟨collateralDecrease, debtDecrease⟩

/-- `Trove.create` -/
def create (params : TroveCreationParams Decimalish) (borrowingRate : Option Decimal) :
    Result (Trove constants) := do
  let params ← normalizeTroveCreation params.record
  (empty : Trove constants).apply (some (.creation params)) borrowingRate

/-- `Trove.recreate` -/
def recreate (that : Trove constants) (borrowingRate : Option Decimal) :
    Result (TroveCreationParams Decimal) := do
  let change ← (empty : Trove constants).whatChanged that borrowingRate
  match change with
  | some (.creation params) => return params
  | _ => throw (.assertion "change?.type === \"creation\"")

def adjust (this : Trove constants) (params : TroveAdjustmentParams Decimalish)
    (borrowingRate : Option Decimal) : Result (Trove constants) := do
  let params ← normalizeTroveAdjustment params.record
  this.apply (some (.adjustment params none)) borrowingRate

def adjustTo (this that : Trove constants) (borrowingRate : Option Decimal) :
    Result (TroveAdjustmentParams Decimal) := do
  let change ← this.whatChanged that borrowingRate
  match change with
  | some (.adjustment params _) => return params
  | _ => throw (.assertion "change?.type === \"adjustment\"")

end Trove

end HLiquity
