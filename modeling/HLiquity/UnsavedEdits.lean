import HLiquity.AutomaticRatio
import HLiquity.Library.FallibleRun
import HLiquity.Library.PendingShift
import HLiquity.TroveReplay

/-!
# Unsaved edits of an open trove

While a trove is adjusted, the store may report that it has changed. An effect then applies the
unsaved differences of the two edited amounts to the reported trove. It does not know whether the
trove has changed because the edit was executed.
-/

namespace HLiquity

open Decimal

inductive Sign where
  | none
  | plus
  | minus
  deriving DecidableEq, Repr

structure DifferenceRepresentation where
  sign : Sign
  absoluteValue : Decimal
  deriving DecidableEq, Repr

structure Difference where
  number : Option DifferenceRepresentation
  deriving DecidableEq, Repr

namespace Difference

/-- `Difference.between` -/
def between : Option Decimal → Option Decimal → Result Difference
  | some d1, some d2 =>
      if d1.infinite.isSome && d2.infinite.isSome then return ⟨none⟩
      else if d1.infinite.isSome then return ⟨some ⟨.plus, d1⟩⟩
      else if d2.infinite.isSome then return ⟨some ⟨.minus, d2⟩⟩
      else if d1.gt d2 then return ⟨some ⟨.plus, ← d1.sub d2⟩⟩
      else if d2.gt d1 then return ⟨some ⟨.minus, ← d2.sub d1⟩⟩
      else return ⟨some ⟨.none, zero⟩⟩
  | _, _ => return ⟨none⟩

def positive (this : Difference) : Option Difference :=
  if this.number.map DifferenceRepresentation.sign = some .plus then some this else none

def negative (this : Difference) : Option Difference :=
  if this.number.map DifferenceRepresentation.sign = some .minus then some this else none

def absoluteValue (this : Difference) : Option Decimal :=
  this.number.map DifferenceRepresentation.absoluteValue

end Difference

/-- Unsaved changes of an amount, applied to another one. -/
def applyUnsavedChanges (unsavedChanges : Difference) (current : Decimal) : Result Decimal :=
  match unsavedChanges.absoluteValue with
  | some absoluteValue =>
      if unsavedChanges.positive.isSome then .ok (current.add absoluteValue)
      else if unsavedChanges.negative.isSome && absoluteValue.lt current then
        current.sub absoluteValue
      else .ok current
  | none => .ok current

variable {constants : Constants}

def applyUnsavedCollateralChanges (unsavedChanges : Difference) (trove : Trove constants) :
    Result Decimal :=
  applyUnsavedChanges unsavedChanges trove.collateral

def applyUnsavedNetDebtChanges (unsavedChanges : Difference) (trove : Trove constants) :
    Result Decimal := do
  applyUnsavedChanges unsavedChanges (← trove.netDebt)

/-- What a render selects from the store, with the rate of its fees. -/
structure AdjustingSelection (constants : Constants) where
  trove : Trove constants
  price : Decimal
  borrowingRate : Decimal

/-- The state of the editor, with what its last render has selected. -/
structure AdjustingEditor (constants : Constants) where
  selected : AdjustingSelection constants
  previousTrove : Trove constants
  edited : EditedAmounts
  auto : Bool

/-- A render, an amount that is typed, the option, or the button that resets the amounts. -/
inductive AdjustingEvent (constants : Constants) where
  | render (selected : AdjustingSelection constants)
  | collateral (amount : Text)
  | netDebt (amount : Text)
  | auto (checked : Bool)
  | reset

namespace AdjustingEditor

/-- What the last render shows. -/
def shown (this : AdjustingEditor constants) : Result (AdjustingRender constants) :=
  adjusting this.selected.trove this.edited.collateral this.edited.netDebt
    this.selected.borrowingRate

/-- The change that the last render validates and offers to send. -/
def offered (this : AdjustingEditor constants) : Result (Option (TroveChange constants)) := do
  this.selected.trove.whatChanged (← this.shown).updatedTrove (some this.selected.borrowingRate)

/-- A state is rendered. -/
def rendered (this : AdjustingEditor constants) : Result (AdjustingEditor constants) := do
  let _ ← this.shown
  return this

/-- The first render. -/
def mount (selected : AdjustingSelection constants) : Result (AdjustingEditor constants) := do
  rendered ⟨selected, selected.trove, ⟨selected.trove.collateral, ← selected.trove.netDebt⟩, false⟩

/-- The effect of one amount, which is set if that of the trove has changed. -/
def applyUnsavedTo (edited previous current : Decimal) (apply : Difference → Result Decimal) :
    Result Decimal :=
  if !previous.eq current then do
    let unsavedChanges ← Difference.between (some edited) (some previous)
    apply unsavedChanges
  else .ok edited

/-- The effect that applies the unsaved changes to the trove of the last render. -/
def applyUnsaved (this : AdjustingEditor constants) : Result (AdjustingEditor constants) := do
  let trove := this.selected.trove
  let collateral ← applyUnsavedTo this.edited.collateral this.previousTrove.collateral
    trove.collateral fun unsavedChanges => applyUnsavedCollateralChanges unsavedChanges trove
  let netDebt ← applyUnsavedTo this.edited.netDebt (← this.previousTrove.netDebt)
    (← trove.netDebt) fun unsavedChanges => applyUnsavedNetDebtChanges unsavedChanges trove
  return { this with previousTrove := trove, edited := ⟨collateral, netDebt⟩ }

/-- A render throws in its body, in its effect, or in the render that the effect leads to. -/
def step (this : AdjustingEditor constants) :
    AdjustingEvent constants → Result (AdjustingEditor constants)
  | .render selected => do
      let next ← rendered { this with selected := selected }
      rendered (← next.applyUnsaved)
  | .collateral amount =>
      rendered { this with
        edited := (Adjusting.collateralHandler this.selected.trove this.auto this.selected.price
          this.selected.borrowingRate this.edited amount).2 }
  | .netDebt amount =>
      rendered { this with
        edited := (Adjusting.netDebtHandler this.selected.trove this.auto this.selected.price
          this.selected.borrowingRate this.edited amount).2 }
  | .auto checked => rendered { this with auto := checked }
  | .reset => do
      rendered { this with
        edited := ⟨this.selected.trove.collateral, ← this.selected.trove.netDebt⟩ }

/-- An amount that is shown of a trove. -/
def current (trove : Trove constants) : SetToZero → Decimal
  | .collateral => trove.collateral
  | .debt => Trove.monus trove.debt constants.hchfLiquidationReserve

/-- An amount of the editor. -/
def amount (this : AdjustingEditor constants) : SetToZero → Decimal
  | .collateral => this.edited.collateral
  | .debt => this.edited.netDebt

/-- The shift from an amount to its edited one, in units. -/
def shiftOf (current amount : Decimal) : PendingShift.Pending Int :=
  ⟨current.bigNumber, amount.bigNumber - current.bigNumber⟩

def pending (this : AdjustingEditor constants) (component : SetToZero) :
    PendingShift.Pending Int :=
  shiftOf (current this.previousTrove component) (this.amount component)

/-- What a shift upwards adds to a component, with its fee. -/
def raised (borrowingRate : Decimal) (shift : Int) : SetToZero → Decimal
  | .collateral => ⟨shift.toNat⟩
  | .debt => unapplyFee borrowingRate
      ⟨shift.toNat + increaseFee borrowingRate.bigNumber shift.toNat⟩

/-- An open trove is not empty and holds the reserve. -/
def IsOpen (trove : Trove constants) : Prop :=
  trove ≠ .empty ∧ constants.hchfLiquidationReserve ≤ trove.debt

instance (trove : Trove constants) : Decidable (IsOpen trove) :=
  inferInstanceAs (Decidable (_ ∧ _))

/-- No amount is the one that stands for infinity. -/
def Finite (this : AdjustingEditor constants) : Prop :=
  ∀ component, this.amount component ≠ infinity ∧ current this.previousTrove component ≠ infinity

/-- The effect of the last render has run, and its trove is open. -/
structure Ready (this : AdjustingEditor constants) : Prop where
  synchronized : this.previousTrove = this.selected.trove
  isOpen : IsOpen this.selected.trove

/-- The trove of a render is open. -/
def Opens : AdjustingEvent constants → Prop
  | .render selected => IsOpen selected.trove
  | _ => True

theorem infinite_eq_none {a : Decimal} (h : a ≠ infinity) : a.infinite.isSome = false := by
  rw [infinite, eq_eq_false.mpr h]
  rfl

/-- The difference of two finite amounts. -/
theorem between_eq {d1 d2 : Decimal} (h1 : d1 ≠ infinity) (h2 : d2 ≠ infinity) :
    Difference.between (some d1) (some d2) = .ok ⟨some (
      if d2 < d1 then ⟨.plus, Trove.monus d1 d2⟩
      else if d1 < d2 then ⟨.minus, Trove.monus d2 d1⟩
      else ⟨.none, zero⟩)⟩ := by
  simp only [Difference.between, infinite_eq_none h1, infinite_eq_none h2, gt_iff,
    Bool.and_self, Bool.false_eq_true, if_false]
  split_ifs with hplus hminus
  · rw [sub_of_le hplus.le]
    rfl
  · rw [sub_of_le hminus.le]
    rfl
  · rfl

/-- The amount that unsaved changes make of a reported one. -/
def applied (previous edited current : Decimal) : Decimal :=
  if previous < edited then current.add (Trove.monus edited previous)
  else if edited < previous ∧ Trove.monus previous edited < current then
    Trove.monus current (Trove.monus previous edited)
  else current

theorem applyUnsavedChanges_between {previous edited : Decimal} (hedited : edited ≠ infinity)
    (hprevious : previous ≠ infinity) (current : Decimal) :
    (do
      let unsavedChanges ← Difference.between (some edited) (some previous)
      applyUnsavedChanges unsavedChanges current) = .ok (applied previous edited current) := by
  rw [between_eq hedited hprevious, Result.ok_bind, applied]
  by_cases hplus : previous < edited
  · rw [if_pos hplus, if_pos hplus]
    rfl
  · rw [if_neg hplus, if_neg hplus]
    by_cases hminus : edited < previous
    · rw [if_pos hminus]
      by_cases hleaves : Trove.monus previous edited < current
      · have hsub : current.sub (Trove.monus previous edited) =
            .ok (Trove.monus current (Trove.monus previous edited)) := sub_of_le hleaves.le
        simpa [applyUnsavedChanges, Difference.absoluteValue, Difference.positive,
          Difference.negative, hminus, hleaves] using hsub
      · simp [applyUnsavedChanges, Difference.absoluteValue, Difference.positive,
          Difference.negative, hleaves]
    · rw [if_neg hminus, if_neg fun h => hminus h.1]
      rfl

/-- Unsaved changes that are applied are the shift that is kept of a reported amount. -/
theorem shiftOf_applied {previous current : Decimal} (hdiffers : previous ≠ current)
    (edited : Decimal) : shiftOf current (applied previous edited current) =
      PendingShift.report (shiftOf previous edited) current.bigNumber := by
  have hne : (current.bigNumber : Int) ≠ previous.bigNumber := by
    intro heq
    exact hdiffers (Decimal.ext (Int.ofNat.inj heq).symm)
  have hkeeps : (current.bigNumber : Int) = (shiftOf previous edited).current ∨
      PendingShift.Fits (shiftOf previous edited).shift (current.bigNumber : Int) ↔
      previous ≤ edited ∨ Trove.monus previous edited < current := by
    simp only [shiftOf, PendingShift.Fits, le_def, lt_def, Trove.monus_bigNumber]
    omega
  rw [PendingShift.report, if_congr hkeeps rfl rfl, applied]
  simp only [shiftOf, PendingShift.Pending.mk.injEq, true_and]
  split_ifs <;>
    simp only [add_bigNumber, Trove.monus_bigNumber, le_def, lt_def] at * <;>
    omega

/-- The amount after the effect. -/
theorem applyUnsavedTo_eq {previous edited : Decimal} (hedited : edited ≠ infinity)
    (hprevious : previous ≠ infinity) (current : Decimal) : ∃ next : Decimal,
      applyUnsavedTo edited previous current
        (fun unsavedChanges => applyUnsavedChanges unsavedChanges current) = .ok next ∧
      shiftOf current next = PendingShift.report (shiftOf previous edited) current.bigNumber := by
  unfold applyUnsavedTo
  by_cases hsame : previous = current
  · subst hsame
    have hreport := @PendingShift.report_of_keeps Int _ _ (shiftOf previous edited)
      previous.bigNumber (.inl rfl)
    exact ⟨edited, by simp, hreport.symm⟩
  · have hcondition : (!previous.eq current) = true := by simpa using hsame
    rw [if_pos hcondition, applyUnsavedChanges_between hedited hprevious]
    exact ⟨_, rfl, shiftOf_applied hsame edited⟩

theorem rendered_eq {this : AdjustingEditor constants} (h : IsOpen this.selected.trove) :
    rendered this = .ok this := by
  rw [rendered, shown, adjusting_eq h.1 h.2]
  rfl

/-- The effect rebases both amounts. -/
theorem applyUnsaved_eq {this : AdjustingEditor constants} (hprevious : IsOpen this.previousTrove)
    (hopen : IsOpen this.selected.trove) (hfinite : this.Finite) :
    ∃ edited : EditedAmounts, this.applyUnsaved =
      .ok { this with previousTrove := this.selected.trove, edited := edited } ∧
      ∀ component, shiftOf (current this.selected.trove component)
        (({ this with edited := edited } : AdjustingEditor constants).amount component) =
          PendingShift.report (this.pending component)
            (current this.selected.trove component).bigNumber := by
  obtain ⟨collateral, hcollateral, hcollateralShift⟩ :=
    applyUnsavedTo_eq (hfinite .collateral).1 (hfinite .collateral).2
      this.selected.trove.collateral
  obtain ⟨netDebt, hnetDebt, hnetDebtShift⟩ :=
    applyUnsavedTo_eq (hfinite .debt).1 (hfinite .debt).2 (current this.selected.trove .debt)
  refine ⟨⟨collateral, netDebt⟩, ?_, ?_⟩
  · simp only [current, amount] at hcollateral hnetDebt
    simp only [applyUnsaved, applyUnsavedCollateralChanges, applyUnsavedNetDebtChanges,
      Trove.netDebt_of_le hprevious.2, Trove.netDebt_of_le hopen.2, Result.ok_bind, hcollateral,
      hnetDebt, Result.pure_eq]
  · intro component
    cases component with
    | collateral => exact hcollateralShift
    | debt => exact hnetDebtShift

/-- A render of an open trove keeps what fits it. -/
theorem Ready.render {this : AdjustingEditor constants} (h : this.Ready) (hfinite : this.Finite)
    {selected : AdjustingSelection constants} (hopen : IsOpen selected.trove) :
    ∃ next, this.step (.render selected) = .ok next ∧ next.Ready ∧ next.selected = selected ∧
      ∀ component, next.pending component =
        PendingShift.report (this.pending component)
          (current selected.trove component).bigNumber := by
  have hprevious : IsOpen this.previousTrove := by
    rw [h.synchronized]
    exact h.isOpen
  obtain ⟨edited, hedited, hpending⟩ :=
    @applyUnsaved_eq constants { this with selected := selected } hprevious hopen hfinite
  refine ⟨{ this with selected := selected, previousTrove := selected.trove, edited := edited },
    ?_, ⟨rfl, hopen⟩, rfl, hpending⟩
  rw [step, rendered_eq hopen, Result.ok_bind, hedited, Result.ok_bind]
  exact rendered_eq hopen

theorem eq_of_rendered {this next : AdjustingEditor constants} (h : rendered this = .ok next) :
    next = this := by
  obtain ⟨_, _, hnext⟩ := Result.bind_eq_ok.mp h
  exact (Except.ok.inj hnext).symm

theorem synchronized_of_applyUnsaved {this next : AdjustingEditor constants}
    (h : this.applyUnsaved = .ok next) :
    next.selected = this.selected ∧ next.previousTrove = this.selected.trove := by
  obtain ⟨_, _, h⟩ := Result.bind_eq_ok.mp h
  obtain ⟨_, _, h⟩ := Result.bind_eq_ok.mp h
  obtain ⟨_, _, h⟩ := Result.bind_eq_ok.mp h
  obtain ⟨_, _, h⟩ := Result.bind_eq_ok.mp h
  cases h
  exact ⟨rfl, rfl⟩

/-- Whatever happens to an editor of an open trove, its effect has run. -/
theorem Ready.step {this : AdjustingEditor constants} (h : this.Ready)
    {event : AdjustingEvent constants} (hopens : Opens event) {next : AdjustingEditor constants}
    (hnext : this.step event = .ok next) : next.Ready := by
  cases event with
  | render selected =>
      obtain ⟨_, hbody, hnext⟩ := Result.bind_eq_ok.mp hnext
      obtain ⟨_, heffect, hnext⟩ := Result.bind_eq_ok.mp hnext
      rw [eq_of_rendered hbody] at heffect
      obtain ⟨hselected, hprevious⟩ := synchronized_of_applyUnsaved heffect
      rw [eq_of_rendered hnext]
      exact ⟨hprevious.trans (congrArg _ hselected.symm), hselected ▸ hopens⟩
  | collateral amount =>
      rw [eq_of_rendered hnext]
      exact ⟨h.synchronized, h.isOpen⟩
  | netDebt amount =>
      rw [eq_of_rendered hnext]
      exact ⟨h.synchronized, h.isOpen⟩
  | auto checked =>
      rw [eq_of_rendered hnext]
      exact ⟨h.synchronized, h.isOpen⟩
  | reset =>
      obtain ⟨_, _, hnext⟩ := Result.bind_eq_ok.mp hnext
      rw [eq_of_rendered hnext]
      exact ⟨h.synchronized, h.isOpen⟩

theorem ready_mount {selected : AdjustingSelection constants} (hopen : IsOpen selected.trove)
    {this : AdjustingEditor constants} (h : mount selected = .ok this) : this.Ready := by
  obtain ⟨_, _, h⟩ := Result.bind_eq_ok.mp h
  rw [eq_of_rendered h]
  exact ⟨rfl, hopen⟩

/-- The states of an editor that was mounted with an open trove and is given open ones only. -/
def Reachable (this : AdjustingEditor constants) : Prop :=
  ∃ selected mounted events, IsOpen selected.trove ∧ mount selected = .ok mounted ∧
    (∀ event ∈ events, Opens event) ∧ FallibleRun.run step mounted events = .ok this

theorem Reachable.ready {this : AdjustingEditor constants} (h : this.Reachable) : this.Ready := by
  obtain ⟨selected, mounted, events, hopen, hmounted, hevents, hrun⟩ := h
  have hstep (state : AdjustingEditor constants) (event : AdjustingEvent constants)
      (next : AdjustingEditor constants) (h : state.Ready) (hopens : Opens event)
      (hnext : state.step event = .ok next) : next.Ready := h.step hopens hnext
  exact FallibleRun.run_invariant AdjustingEditor.step hstep (ready_mount hopen hmounted) hevents
    hrun

theorem nonZero_getD (a : Decimal) : a.nonZero.getD zero = a := by
  unfold nonZero
  split
  · next hzero => exact (isZero_iff.mp hzero).symm
  · rfl

/-- The amounts of the change between an open trove and an edited one that holds the reserve. -/
theorem whatChanged_amounts {trove edited : Trove constants} (h : IsOpen trove)
    (hreserve : constants.hchfLiquidationReserve ≤ edited.debt) (rate : Decimal) :
    ∃ change, trove.whatChanged edited (some rate) = .ok change ∧
      TroveChange.increase change .collateral = Trove.monus edited.collateral trove.collateral ∧
      TroveChange.decrease change .collateral = Trove.monus trove.collateral edited.collateral ∧
      TroveChange.increase change .debt = unapplyFee rate (Trove.monus edited.debt trove.debt) ∧
      TroveChange.decrease change .debt = Trove.monus trove.debt edited.debt := by
  rcases Trove.whatChanged_cases edited (.inr h.2) (some rate) with
    ⟨rfl, hchange⟩ | ⟨hempty, _⟩ | ⟨hempty, _⟩ | ⟨_, rfl, _, hchange⟩ | ⟨_, _, _, _, hchange⟩
  · refine ⟨none, hchange, ?_⟩
    simp only [Trove.monus_self, Trove.unapplyFee_zero]
    exact ⟨rfl, rfl, rfl, rfl⟩
  · exact absurd hempty h.1
  · exact absurd hempty h.1
  · -- a closure, without a reserve
    have hzero : constants.hchfLiquidationReserve = zero := le_antisymm hreserve (zero_le _)
    refine ⟨_, hchange, ?_⟩
    rw [hzero, Trove.empty_collateral, Trove.empty_debt, Trove.monus_of_le (zero_le _),
      Trove.monus_of_le (zero_le _), Trove.unapplyFee_zero]
    exact ⟨rfl, rfl, rfl, nonZero_getD _⟩
  · refine ⟨_, hchange, ?_⟩
    obtain ⟨hdeposit, hwithdraw⟩ := Trove.adjustmentTo_collateralAmounts trove edited rate
    obtain ⟨hborrow, hrepay⟩ := Trove.adjustmentTo_debtAmounts trove edited rate
    exact ⟨hdeposit, hwithdraw, hborrow, hrepay⟩

/-- A render submits the edited collateral, and the edited net debt with the reserve and a fee on
an increase. -/
theorem shown_eq {this : AdjustingEditor constants} (h : IsOpen this.selected.trove) :
    ∃ render, this.shown = .ok render ∧
      render.updatedTrove.collateral = this.edited.collateral ∧
      render.updatedTrove.debt.bigNumber =
        this.edited.netDebt.bigNumber + constants.hchfLiquidationReserve.bigNumber +
          increaseFee this.selected.borrowingRate.bigNumber (this.edited.netDebt.bigNumber +
            constants.hchfLiquidationReserve.bigNumber - this.selected.trove.debt.bigNumber) :=
  ⟨_, adjusting_eq h.1 h.2 _ _ _, rfl, rfl⟩

/-- The editor offers the pending shifts, and on an increase of the debt the shown fee. -/
theorem Ready.offers {this : AdjustingEditor constants} (h : this.Ready) :
    ∃ change, this.offered = .ok change ∧ ∀ component,
      TroveChange.increase change component =
        raised this.selected.borrowingRate (this.pending component).shift component ∧
      TroveChange.decrease change component = ⟨(-(this.pending component).shift).toNat⟩ := by
  have hreserve := le_def.mp h.isOpen.2
  obtain ⟨render, hshown, hcollateral, hdebt⟩ := shown_eq h.isOpen
  have hholds : constants.hchfLiquidationReserve ≤ render.updatedTrove.debt :=
    le_def.mpr (by omega)
  obtain ⟨change, hchange, hdeposit, hwithdraw, hborrow, hrepay⟩ :=
    whatChanged_amounts h.isOpen hholds this.selected.borrowingRate
  refine ⟨change, ?_, ?_⟩
  · rw [offered, hshown]
    exact hchange
  · intro component
    rw [pending, h.synchronized]
    cases component with
    | collateral =>
        rw [hdeposit, hwithdraw, hcollateral]
        constructor <;>
          · ext
            simp only [raised, shiftOf, current, amount, Trove.monus_bigNumber]
            omega
    | debt =>
        generalize hincrease : this.edited.netDebt.bigNumber +
          constants.hchfLiquidationReserve.bigNumber - this.selected.trove.debt.bigNumber =
            increase at hdebt
        have hup : (shiftOf (current this.selected.trove .debt) (this.amount .debt)).shift.toNat =
            increase := by
          simp only [shiftOf, current, amount, Trove.monus_bigNumber]
          omega
        have hdistance : Trove.monus render.updatedTrove.debt this.selected.trove.debt =
            ⟨increase + increaseFee this.selected.borrowingRate.bigNumber increase⟩ := by
          ext
          rw [Trove.monus_bigNumber, hdebt, ← hincrease]
          exact submitted_distance _ _ _
        rw [hborrow, hrepay, hdistance, raised, hup]
        refine ⟨rfl, ?_⟩
        ext
        rw [Trove.monus_bigNumber, hdebt]
        simp only [shiftOf, current, amount, Trove.monus_bigNumber]
        rcases Nat.eq_zero_or_pos increase with hzero | hpos
        · rw [hzero, increaseFee_zero]
          omega
        · omega

/-- The trove after the offered change has the edited amounts, or more debt than that if it has
been raised. -/
theorem Ready.executed {this : AdjustingEditor constants} (h : this.Ready)
    {change : Option (TroveChange constants)} (hoffered : this.offered = .ok change)
    {trove : Trove constants}
    (happlied : this.selected.trove.apply change (some this.selected.borrowingRate) = .ok trove)
    (component : SetToZero) :
    (current this.selected.trove component < this.amount component →
      this.amount component ≤ current trove component) ∧
    (this.amount component ≤ current this.selected.trove component →
      current trove component = this.amount component) := by
  have hreserve := le_def.mp h.isOpen.2
  obtain ⟨render, hshown, hcollateral, hdebt⟩ := shown_eq h.isOpen
  obtain ⟨change', hchange, _, happly⟩ :=
    whatChanged_borrows h.isOpen.1 h.isOpen.2 render.updatedTrove this.selected.borrowingRate
  rw [offered, hshown] at hoffered
  cases hoffered.symm.trans hchange
  cases happlied.symm.trans happly
  cases component with
  | collateral =>
      have hsame : (Trove.replayed this.selected.trove render.updatedTrove
          this.selected.borrowingRate).collateral = this.edited.collateral := hcollateral
      exact ⟨fun _ => hsame.ge, fun _ => hsame⟩
  | debt =>
      simp only [current, amount]
      constructor
      · intro hraised
        rw [lt_def, Trove.monus_bigNumber] at hraised
        have hle : this.selected.trove.debt ≤ render.updatedTrove.debt := le_def.mpr (by omega)
        have hcovers := le_def.mp (le_applyFee_unapplyFee this.selected.borrowingRate
          (Trove.monus render.updatedTrove.debt this.selected.trove.debt))
        rw [Trove.replayed_of_ge hle, le_def]
        simp only [Trove.monus_bigNumber, add_bigNumber] at hcovers ⊢
        omega
      · intro hlowered
        rw [le_def, Trove.monus_bigNumber] at hlowered
        have hincrease : this.edited.netDebt.bigNumber +
            constants.hchfLiquidationReserve.bigNumber -
              this.selected.trove.debt.bigNumber = 0 := by
          omega
        rw [hincrease, increaseFee_zero] at hdebt
        have hle : render.updatedTrove.debt ≤ this.selected.trove.debt := le_def.mpr (by omega)
        rw [Trove.replayed_of_le hle]
        ext
        rw [Trove.monus_bigNumber]
        omega

/-- What the renders of a run report of a component. -/
def reports (selections : List (AdjustingSelection constants)) (component : SetToZero) :
    List Int :=
  selections.map fun selected => (current selected.trove component).bigNumber

/-- Over a run of renders of open troves, each shift is kept as long as it fits. -/
theorem Ready.renders {this : AdjustingEditor constants} (h : this.Ready)
    {selections : List (AdjustingSelection constants)}
    (hopen : ∀ selected ∈ selections, IsOpen selected.trove)
    (hfinite : FallibleRun.Meets AdjustingEditor.step (fun state _ => state.Finite) this
      (selections.map .render)) :
    ∃ last, FallibleRun.run AdjustingEditor.step this (selections.map .render) = .ok last ∧
      last.Ready ∧
      last.selected = selections.getLast?.getD this.selected ∧ ∀ component,
        last.pending component =
          EventRun.run PendingShift.report (this.pending component)
            (reports selections component) := by
  induction selections generalizing this with
  | nil => exact ⟨this, rfl, h, rfl, fun _ => rfl⟩
  | cons selected selections ih =>
      obtain ⟨next, hnext, hready, hselected, hpending⟩ :=
        h.render hfinite.1 (hopen selected List.mem_cons_self)
      obtain ⟨last, hlast, hready, hlatest, hrun⟩ := ih hready
        (fun later hlater => hopen later (List.mem_cons_of_mem _ hlater)) (hfinite.2 next hnext)
      refine ⟨last, ?_, hready, ?_, ?_⟩
      · rw [List.map_cons, FallibleRun.run_cons_of_ok AdjustingEditor.step hnext, hlast]
      · rw [hlatest, hselected, List.getLast?_cons, Option.getD_some]
      · intro component
        rw [hrun, hpending]
        rfl

/-- The editor as it would be rendered with another rate. -/
def atRate (this : AdjustingEditor constants) (borrowingRate : Decimal) :
    AdjustingEditor constants :=
  { this with selected := { this.selected with borrowingRate := borrowingRate } }

/-- Two changes have the same amount of a component. -/
def SameAmounts (change next : Option (TroveChange constants)) (component : SetToZero) : Prop :=
  TroveChange.increase next component = TroveChange.increase change component ∧
    TroveChange.decrease next component = TroveChange.decrease change component

/-- A change leaves a component as it is. -/
def NoAmounts (change : Option (TroveChange constants)) (component : SetToZero) : Prop :=
  TroveChange.increase change component = zero ∧ TroveChange.decrease change component = zero

theorem raised_zero (borrowingRate : Decimal) (component : SetToZero) :
    raised borrowingRate 0 component = zero := by
  cases component with
  | collateral => rfl
  | debt =>
      rw [raised, Int.toNat_zero, increaseFee_zero]
      exact Trove.unapplyFee_zero _

/-- What an editor offers whose shifts have been kept of an earlier one, or dropped. -/
theorem Ready.offers_kept {this last : AdjustingEditor constants} (h : this.Ready)
    (hlast : last.Ready) {kept : SetToZero → Prop} [DecidablePred kept]
    (hshift : ∀ component, (last.pending component).shift =
      if kept component then (this.pending component).shift else 0) :
    ∃ change next, (this.atRate last.selected.borrowingRate).offered = .ok change ∧
      last.offered = .ok next ∧ ∀ component,
        if kept component then SameAmounts change next component
        else NoAmounts next component := by
  have hrate : (this.atRate last.selected.borrowingRate).Ready := ⟨h.synchronized, h.isOpen⟩
  obtain ⟨change, hchange, hamounts⟩ := hrate.offers
  obtain ⟨next, hnext, hnextAmounts⟩ := hlast.offers
  refine ⟨change, next, hchange, hnext, ?_⟩
  intro component
  obtain ⟨hincrease, hdecrease⟩ := hnextAmounts component
  rw [hshift component] at hincrease hdecrease
  split_ifs at hincrease hdecrease ⊢
  · exact ⟨hincrease.trans (hamounts component).1.symm,
      hdecrease.trans (hamounts component).2.symm⟩
  · exact ⟨hincrease.trans (raised_zero _ component), hdecrease⟩

/-- After renders, the editor offers to add to a component or to take from it what it has offered
before, if that fits every trove that is reported, and otherwise nothing. -/
def OffersKept (this : AdjustingEditor constants)
    (selections : List (AdjustingSelection constants)) : Prop :=
  ∃ last change next, FallibleRun.run step this (selections.map .render) = .ok last ∧
    last.selected = selections.getLast?.getD this.selected ∧
    (this.atRate last.selected.borrowingRate).offered = .ok change ∧
    last.offered = .ok next ∧ ∀ component,
      if PendingShift.Kept (this.pending component) (reports selections component) then
        SameAmounts change next component
      else NoAmounts next component

/-- In every run, unsaved edits are kept over all updates of the store that they fit. -/
theorem unsaved_run {this : AdjustingEditor constants} (h : this.Reachable)
    {selections : List (AdjustingSelection constants)}
    (hopen : ∀ selected ∈ selections, IsOpen selected.trove)
    (hfinite : FallibleRun.Meets step (fun state _ => state.Finite) this
      (selections.map .render)) : this.OffersKept selections := by
  obtain ⟨last, hrun, hready, hselected, hpending⟩ := h.ready.renders hopen hfinite
  have hshift (component : SetToZero) : (last.pending component).shift =
      if PendingShift.Kept (this.pending component) (reports selections component) then
        (this.pending component).shift else 0 := by
    rw [hpending, PendingShift.shift_run]
  obtain ⟨change, next, hchange, hnext, hamounts⟩ := h.ready.offers_kept hready hshift
  exact ⟨last, change, next, hrun, hselected, hchange, hnext, hamounts⟩

/-- An editor in which 1000 of 10000 HBAR are to be withdrawn. -/
def withdrawing1000 : AdjustingEditor defaults where
  selected := ⟨⟨⟨1000000000000⟩, ⟨200000000000⟩⟩, ⟨7000000⟩, ⟨500000⟩⟩
  previousTrove := ⟨⟨1000000000000⟩, ⟨200000000000⟩⟩
  edited := ⟨⟨900000000000⟩, ⟨198000000000⟩⟩
  auto := false

theorem withdrawing1000_reachable : withdrawing1000.Reachable :=
  ⟨withdrawing1000.selected, { withdrawing1000 with edited := ⟨⟨1000000000000⟩, ⟨198000000000⟩⟩ },
    [.collateral ['9', '0', '0', '0']], by decide, rfl, by simp [Opens], rfl⟩

theorem withdrawing1000_finite : withdrawing1000.Finite := by
  intro component
  cases component <;> decide

/-- A redistribution adds 500 HBAR and 100 HCHF to the trove. -/
theorem unsaved_run_redistribution : withdrawing1000.OffersKept
    [⟨⟨⟨1050000000000⟩, ⟨210000000000⟩⟩, ⟨7000000⟩, ⟨500000⟩⟩] :=
  unsaved_run withdrawing1000_reachable (by decide) ⟨withdrawing1000_finite, fun _ _ => trivial⟩

/-- After a render, the editor offers its change once more, at the new rate, except for what the
change has lowered to half or less. -/
def OffersAgain (this : AdjustingEditor constants) (selected : AdjustingSelection constants) :
    Prop :=
  ∃ last change next, this.step (.render selected) = .ok last ∧
    (this.atRate selected.borrowingRate).offered = .ok change ∧ last.offered = .ok next ∧
    ∀ component,
      if (current this.selected.trove component).bigNumber <
          2 * (this.amount component).bigNumber then
        SameAmounts change next component
      else NoAmounts next component

/-- In every run, the editor offers an executed change again when the store reports the trove after
that change, whatever the rate is by then. -/
theorem executed_run {this : AdjustingEditor constants} (h : this.Reachable)
    (hfinite : this.Finite) {change : Option (TroveChange constants)}
    (hoffered : this.offered = .ok change) {selected : AdjustingSelection constants}
    (hexecuted : this.selected.trove.apply change (some this.selected.borrowingRate) =
      .ok selected.trove)
    (hopen : IsOpen selected.trove) : this.OffersAgain selected := by
  obtain ⟨last, hstep, hready, hselected, hpending⟩ := h.ready.render hfinite hopen
  have hshift (component : SetToZero) : (last.pending component).shift =
      if (current this.selected.trove component).bigNumber <
          2 * (this.amount component).bigNumber then
        (this.pending component).shift else 0 := by
    obtain ⟨hraised, hlowered⟩ := h.ready.executed hoffered hexecuted component
    simp only [le_def, lt_def, Decimal.ext_iff] at hraised hlowered
    rw [hpending, pending, h.ready.synchronized, PendingShift.report]
    simp only [shiftOf, PendingShift.Fits]
    by_cases hzero : ((this.amount component).bigNumber : Int) -
        (current this.selected.trove component).bigNumber = 0
    · simp only [hzero, ite_self]
    · refine if_congr ?_ rfl rfl
      omega
  obtain ⟨again, next, hagain, hnext, hamounts⟩ := h.ready.offers_kept hready hshift
  rw [hselected] at hagain
  exact ⟨last, again, next, hstep, hagain, hnext, hamounts⟩

/-- The withdrawal of 1000 HBAR is offered again, at another rate. -/
theorem executed_run_withdrawal :
    withdrawing1000.OffersAgain ⟨⟨⟨900000000000⟩, ⟨200000000000⟩⟩, ⟨7000000⟩, ⟨600000⟩⟩ := by
  have hoffered : withdrawing1000.offered =
      .ok (some (.adjustment (.collateral (.withdrawCollateral ⟨100000000000⟩)) none)) := by
    decide
  exact executed_run withdrawing1000_reachable withdrawing1000_finite hoffered (by decide)
    (by decide)

end AdjustingEditor

end HLiquity
