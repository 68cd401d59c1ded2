import HLiquity.TroveRoundTrip

/-!
# Replaying a pending edit on another trove

A pending edit is the difference from a trove to an edited copy of it, without a
fee. Replayed on another trove it moves each component by the same distance, or
sets the component to zero when the edit does, and the difference to the result
is the same edit again.
-/

namespace HLiquity

open Decimal

@[simp] theorem applyFee_zero_rate (amount : Decimal) : applyFee zero amount = amount := by
  ext
  rw [applyFee_bigNumber, zero_bigNumber, Nat.add_zero, ScaledRounding.mulFloor_self digits_pos]

@[simp] theorem unapplyFee_zero_rate (amount : Decimal) : unapplyFee zero amount = amount := by
  have h := unapplyFee_applyFee zero amount
  rwa [applyFee_zero_rate] at h

namespace TroveChange

variable {constants : Constants}

/-- What a pending change, if any, adds to a component: its deposit or its borrowing. -/
def increase (change : Option (TroveChange constants)) : SetToZero → Decimal
  | .collateral => (change.bind depositCollateral).getD zero
  | .debt => (change.bind borrowHCHF).getD zero

/-- What a pending change, if any, takes from a component: its withdrawal or its repayment. -/
def decrease (change : Option (TroveChange constants)) : SetToZero → Decimal
  | .collateral => (change.bind withdrawCollateral).getD zero
  | .debt => (change.bind repayHCHF).getD zero

/-- `change?.type === "creation"` -/
def isCreation : Option (TroveChange constants) → Bool
  | some (.creation _) => true
  | _ => false

/-- `change?.type === "closure"` -/
def isClosure : Option (TroveChange constants) → Bool
  | some (.closure _) => true
  | _ => false

/-- Whether a pending change sets a component to zero: a closure sets both, and an
adjustment the one that it marks. -/
def setsToZero : Option (TroveChange constants) → SetToZero → Bool
  | some (.closure _), _ => true
  | some (.adjustment _ setToZero), component => decide (setToZero = some component)
  | _, _ => false

end TroveChange

namespace Trove

open TroveChange

variable {constants : Constants}

/-- One component of a trove. -/
def component (this : Trove constants) : SetToZero → Decimal
  | .collateral => this.collateral
  | .debt => this.debt

theorem ext_component {a b : Trove constants}
    (h : ∀ component, a.component component = b.component component) : a = b :=
  Trove.ext (h .collateral) (h .debt)

@[simp] theorem component_empty (component : SetToZero) :
    (empty : Trove constants).component component = zero := by
  cases component <;> rfl

/-- A trove that is empty or holds the liquidation reserve. -/
def HoldsReserve (this : Trove constants) : Prop :=
  this = empty ∨ constants.hchfLiquidationReserve ≤ this.debt

instance (this : Trove constants) : Decidable this.HoldsReserve :=
  inferInstanceAs (Decidable (_ ∨ _))

section Pending

variable {original edited : Trove constants}

/-- The pending change of an open trove is none, a closure or an adjustment. -/
theorem pending_cases (hreserve : original.HoldsReserve) (hopen : original ≠ empty) :
    (edited = original ∧ original.whatChanged edited (some zero) = .ok none) ∨
    (edited = empty ∧ original.whatChanged edited (some zero) = .ok (some (.closure
      ⟨original.collateral, (monus original.debt constants.hchfLiquidationReserve).nonZero⟩))) ∨
    (edited ≠ empty ∧ original ≠ edited ∧ original.whatChanged edited (some zero) =
      .ok (some (.adjustment (original.adjustmentTo edited zero) (original.zeroedBy edited)))) := by
  by_cases hedited : original = edited
  · left
    exact ⟨hedited.symm, hedited ▸ whatChanged_self original _⟩
  · right
    by_cases hempty : edited = empty
    · left
      subst hempty
      exact ⟨rfl, whatChanged_closure hopen (hreserve.resolve_left hopen) _⟩
    · right
      exact ⟨hempty, hedited, whatChanged_adjustment hedited hopen hempty _⟩

/-- An adjustment deposits or withdraws the distance of the collaterals. -/
theorem adjustmentTo_collateralAmounts (original edited : Trove constants) (rate : Decimal) :
    (original.adjustmentTo edited rate).depositCollateral.getD zero =
        monus edited.collateral original.collateral ∧
      (original.adjustmentTo edited rate).withdrawCollateral.getD zero =
        monus original.collateral edited.collateral := by
  unfold TroveAdjustmentParams.depositCollateral TroveAdjustmentParams.withdrawCollateral
  by_cases hc : original.collateral = edited.collateral
  · simp [adjustmentTo, hc, TroveAdjustmentParams.collateralChange]
  · have hchange : (original.adjustmentTo edited rate).collateralChange =
        some (original.collateralDistance edited) := by
      by_cases hd : original.debt = edited.debt <;>
        simp [adjustmentTo, hc, hd, TroveAdjustmentParams.collateralChange]
    rw [hchange, collateralDistance]
    by_cases hlt : original.collateral < edited.collateral
    · rw [if_pos hlt]
      exact ⟨rfl, (monus_of_le hlt.le).symm⟩
    · rw [if_neg hlt]
      exact ⟨(monus_of_le (not_lt.mp hlt)).symm, rfl⟩

/-- An adjustment raises each component by its distance upwards. -/
theorem increase_adjustmentTo (original edited : Trove constants) (setToZero : Option SetToZero)
    (component : SetToZero) :
    increase (some (.adjustment (original.adjustmentTo edited zero) setToZero :
      TroveChange constants)) component =
      monus (edited.component component) (original.component component) := by
  cases component with
  | collateral => exact (adjustmentTo_collateralAmounts original edited zero).1
  | debt => exact (adjustmentTo_debtAmounts original edited zero).1.trans (unapplyFee_zero_rate _)

/-- An adjustment lowers each component by its distance downwards. -/
theorem decrease_adjustmentTo (original edited : Trove constants) (setToZero : Option SetToZero)
    (component : SetToZero) :
    decrease (some (.adjustment (original.adjustmentTo edited zero) setToZero :
      TroveChange constants)) component =
      monus (original.component component) (edited.component component) := by
  cases component with
  | collateral => exact (adjustmentTo_collateralAmounts original edited zero).2
  | debt => exact (adjustmentTo_debtAmounts original edited zero).2

/-- A component of an open edited trove is marked if it is set to zero. -/
theorem zeroedBy_eq_some_iff (hedited : edited ≠ empty) (component : SetToZero) :
    original.zeroedBy edited = some component ↔
      edited.component component = zero ∧ original.component component ≠ zero := by
  have hsome : ¬ (edited.collateral = zero ∧ edited.debt = zero) := by
    simpa [Trove.ext_iff] using hedited
  unfold zeroedBy
  cases component with
  | collateral =>
      simp only [Trove.component]
      split_ifs with hdebt hcollateral <;> grind
  | debt =>
      simp only [Trove.component]
      split_ifs with hdebt hcollateral <;> grind

/-- What the pending change between two open troves says about their components. -/
structure Describes (original edited : Trove constants)
    (change : Option (TroveChange constants)) : Prop where
  none_iff : change = none ↔ edited = original
  increase (component : SetToZero) : TroveChange.increase change component =
    monus (edited.component component) (original.component component)
  decrease (component : SetToZero) : TroveChange.decrease change component =
    monus (original.component component) (edited.component component)
  setsToZero (component : SetToZero) : TroveChange.setsToZero change component = true ↔
    edited.component component = zero ∧ original.component component ≠ zero

theorem describes_none (original : Trove constants) : Describes original original none where
  none_iff := iff_of_true rfl rfl
  increase component := by
    rw [monus_self]
    cases component <;> rfl
  decrease component := by
    rw [monus_self]
    cases component <;> rfl
  setsToZero component := iff_of_false Bool.false_ne_true fun h => h.2 h.1

theorem describes_adjustment (hne : original ≠ edited) (hedited : edited ≠ empty) :
    Describes original edited
      (some (.adjustment (original.adjustmentTo edited zero) (original.zeroedBy edited))) where
  none_iff := iff_of_false (Option.some_ne_none _) fun heq => hne heq.symm
  increase := increase_adjustmentTo original edited _
  decrease := decrease_adjustmentTo original edited _
  setsToZero component := by
    rw [← zeroedBy_eq_some_iff hedited component]
    exact decide_eq_true_iff

/-- A trove moved by the amounts of a change, with the components that it sets to zero. -/
def moved (this : Trove constants) (change : Option (TroveChange constants)) : Trove constants :=
  let move (component : SetToZero) : Decimal :=
    if setsToZero change component = true then zero
    else monus ((this.component component).add (increase change component))
      (decrease change component)
  ⟨move .collateral, move .debt⟩

theorem moved_component (this : Trove constants) (change : Option (TroveChange constants))
    (component : SetToZero) :
    (this.moved change).component component =
      if setsToZero change component = true then zero
      else monus ((this.component component).add (increase change component))
        (decrease change component) := by
  cases component <;> rfl

/-- An adjustment without a fee moves the trove by its amounts. -/
theorem apply_adjustment_moved (this : Trove constants) (params : TroveAdjustmentParams Decimal)
    (setToZero : Option SetToZero) :
    this.apply (some (.adjustment params setToZero)) (some zero) =
      .ok (this.moved (some (.adjustment params setToZero))) := by
  have hincrease : debtIncrease params zero = params.borrowHCHF.getD zero := by
    unfold debtIncrease
    cases params.borrowHCHF with
    | none => rfl
    | some borrowHCHF => exact applyFee_zero_rate borrowHCHF
  rw [apply_adjustment, Option.getD_some, hincrease]
  simp only [moved, setsToZero, decide_eq_true_eq]
  rfl

/-- Whether a trove strictly exceeds every pending decrease of a component that the change
does not set to zero. -/
def Exceeds (this : Trove constants) (change : Option (TroveChange constants)) : Prop :=
  ∀ component, setsToZero change component = false → decrease change component ≠ zero →
    decrease change component < this.component component

/-- What an edit that is replayed on a trove keeps: that there is none or that it is a
closure, the amounts of every component that it does not set to zero, and every component
that it sets to zero, as a pending change unless the component is zero already. -/
structure EditKept (trove replayed : Trove constants)
    (change next : Option (TroveChange constants)) : Prop where
  none : change = none → next = none
  closure : isClosure change = true → isClosure next = true
  amounts (component : SetToZero) : setsToZero change component = false →
    increase next component = increase change component ∧
      decrease next component = decrease change component
  zeroed (component : SetToZero) : setsToZero change component = true →
    replayed.component component = zero ∧
      (trove.component component ≠ zero → setsToZero next component = true)

/-- Moving a component up or down, by less than it holds, moves it by that distance. -/
theorem distance_of_move {start up down : Decimal} (hone : up = zero ∨ down = zero)
    (hless : down ≠ zero → down < start) :
    monus (monus (start.add up) down) start = up ∧
      monus start (monus (start.add up) down) = down := by
  have hless' : down.bigNumber = 0 ∨ down.bigNumber < start.bigNumber := by
    by_cases hdown : down = zero
    · exact .inl (congrArg bigNumber hdown)
    · exact .inr (lt_def.mp (hless hdown))
  have hone' : up.bigNumber = 0 ∨ down.bigNumber = 0 :=
    hone.imp (congrArg bigNumber) (congrArg bigNumber)
  constructor
  · ext
    simp only [monus_bigNumber, add_bigNumber]
    omega
  · ext
    simp only [monus_bigNumber, add_bigNumber]
    omega

/-- Moving a component by less than it holds leaves nothing only of nothing. -/
theorem zero_of_move {start up down : Decimal} (hless : down ≠ zero → down < start)
    (hmove : monus (start.add up) down = zero) : start = zero ∧ up = zero ∧ down = zero := by
  have hless' : down.bigNumber = 0 ∨ down.bigNumber < start.bigNumber := by
    by_cases hdown : down = zero
    · exact .inl (congrArg bigNumber hdown)
    · exact .inr (lt_def.mp (hless hdown))
  have hmove' : start.bigNumber + up.bigNumber - down.bigNumber = 0 := congrArg bigNumber hmove
  refine ⟨?_, ?_, ?_⟩ <;> ext <;> simp only [zero_bigNumber] <;> omega

theorem Describes.increase_or_decrease {change : Option (TroveChange constants)}
    (h : Describes original edited change) (component : SetToZero) :
    TroveChange.increase change component = zero ∨
      TroveChange.decrease change component = zero := by
  rw [h.increase, h.decrease]
  rcases le_total (edited.component component) (original.component component) with hle | hle
  · exact .inl (monus_of_le hle)
  · exact .inr (monus_of_le hle)

theorem Describes.not_isClosure {change : Option (TroveChange constants)}
    (h : Describes original edited change) (hedited : edited ≠ empty) :
    isClosure change = false := by
  cases hchange : isClosure change with
  | false => rfl
  | true =>
      have hall (component : SetToZero) : edited.component component = zero := by
        apply ((h.setsToZero component).mp ?_).1
        cases change with
        | none => cases hchange
        | some change =>
            cases change with
            | closure params => rfl
            | _ => cases hchange
      exact absurd (ext_component fun component => by rw [hall, component_empty]) hedited

/-- The pending change that closes a trove lowers no component that is zero. -/
theorem decrease_closure (this : Trove constants) {component : SetToZero}
    (hzero : this.component component = zero) :
    decrease (some (.closure ⟨this.collateral,
      (monus this.debt constants.hchfLiquidationReserve).nonZero⟩ : TroveChange constants))
        component = zero := by
  cases component with
  | collateral => exact hzero
  | debt =>
      have hdebt : this.debt = zero := hzero
      have hnet : monus this.debt constants.hchfLiquidationReserve = zero := by
        rw [hdebt]
        exact monus_of_le (zero_le _)
      rw [hnet]
      rfl

theorem moved_component_of_zeroed (this : Trove constants)
    {change : Option (TroveChange constants)} {component : SetToZero}
    (h : setsToZero change component = true) :
    (this.moved change).component component = zero := by
  rw [moved_component, if_pos h]

theorem moved_component_of_kept (this : Trove constants)
    {change : Option (TroveChange constants)} {component : SetToZero}
    (h : setsToZero change component = false) :
    (this.moved change).component component =
      monus ((this.component component).add (increase change component))
        (decrease change component) := by
  rw [moved_component, h, if_neg Bool.false_ne_true]

/-- An edit that leaves its trove open, and the trove that it is replayed on as well, is
kept. -/
theorem editKept_of_describes {trove : Trove constants}
    {change next : Option (TroveChange constants)} (hchange : Describes original edited change)
    (hedited : edited ≠ empty) (hexceeds : trove.Exceeds change)
    (hnext : Describes trove (trove.moved change) next) :
    EditKept trove (trove.moved change) change next where
  none := by
    rintro rfl
    exact hnext.none_iff.mpr rfl
  closure h := by
    rw [hchange.not_isClosure hedited] at h
    cases h
  amounts component h := by
    rw [hnext.increase, hnext.decrease, moved_component_of_kept trove h]
    exact distance_of_move (hchange.increase_or_decrease component) (hexceeds component h)
  zeroed component h := by
    have hzero := moved_component_of_zeroed trove h
    exact ⟨hzero, fun hne => (hnext.setsToZero component).mpr ⟨hzero, hne⟩⟩

/-- An edit that leaves its trove open becomes a closure only of what it leaves unchanged. -/
theorem editKept_of_closed {trove : Trove constants} {change : Option (TroveChange constants)}
    (hopen : trove ≠ empty) (hchange : Describes original edited change) (hedited : edited ≠ empty)
    (hexceeds : trove.Exceeds change) (hclosed : trove.moved change = empty) :
    EditKept trove (trove.moved change) change (some (.closure ⟨trove.collateral,
      (monus trove.debt constants.hchfLiquidationReserve).nonZero⟩)) where
  none := by
    rintro rfl
    exact absurd hclosed hopen
  closure h := by
    rw [hchange.not_isClosure hedited] at h
    cases h
  amounts component h := by
    have hmove := moved_component_of_kept trove h
    rw [hclosed, component_empty] at hmove
    obtain ⟨hstart, hup, hdown⟩ := zero_of_move (hexceeds component h) hmove.symm
    rw [hup, hdown]
    constructor
    · cases component <;> rfl
    · exact decrease_closure trove hstart
  zeroed component _ := by
    rw [hclosed, component_empty]
    exact ⟨rfl, fun _ => rfl⟩

/-- The pending edit of an open trove can be replayed on every open trove that exceeds its
decreases, and is kept. -/
theorem apply_keeps_edit {trove : Trove constants} (horiginal : original.HoldsReserve)
    (horiginalOpen : original ≠ empty) (htrove : trove.HoldsReserve) (hopen : trove ≠ empty)
    {change : Option (TroveChange constants)}
    (hchange : original.whatChanged edited (some zero) = .ok change)
    (hexceeds : trove.Exceeds change) :
    ∃ replayed next, trove.apply change (some zero) = .ok replayed ∧
      trove.whatChanged replayed (some zero) = .ok next ∧
      EditKept trove replayed change next := by
  have hmoves (hdescribes : Describes original edited change) (hedited : edited ≠ empty)
      (happly : trove.apply change (some zero) = .ok (trove.moved change)) :
      ∃ replayed next, trove.apply change (some zero) = .ok replayed ∧
        trove.whatChanged replayed (some zero) = .ok next ∧
        EditKept trove replayed change next := by
    rcases @pending_cases _ trove (trove.moved change) htrove hopen with
      ⟨hsame, hnext⟩ | ⟨hempty, hnext⟩ | ⟨hmoved, hne, hnext⟩
    · have hdescribesNext : Describes trove (trove.moved change) none := by
        rw [hsame]
        exact describes_none trove
      exact ⟨_, _, happly, hnext,
        editKept_of_describes hdescribes hedited hexceeds hdescribesNext⟩
    · exact ⟨_, _, happly, hnext, editKept_of_closed hopen hdescribes hedited hexceeds hempty⟩
    · exact ⟨_, _, happly, hnext,
        editKept_of_describes hdescribes hedited hexceeds (describes_adjustment hne hmoved)⟩
  rcases @pending_cases _ original edited horiginal horiginalOpen with
    ⟨rfl, hfound⟩ | ⟨rfl, hfound⟩ | ⟨hedited, hne, hfound⟩
  all_goals
    obtain rfl := Except.ok.inj (hchange.symm.trans hfound)
  · exact hmoves (describes_none edited) horiginalOpen rfl
  · refine ⟨empty, _, ?_, whatChanged_closure hopen (htrove.resolve_left hopen) _, ?_⟩
    · rw [apply, if_neg (by simpa using hopen)]
    · constructor
      · rintro ⟨⟩
      · exact fun _ => rfl
      · rintro component ⟨⟩
      · intro component _
        exact ⟨component_empty component, fun _ => rfl⟩
  · exact hmoves (describes_adjustment hne hedited) hedited (apply_adjustment_moved trove _ _)

end Pending

end Trove

end HLiquity
