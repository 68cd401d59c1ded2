import HLiquity.Library.EventRun
import HLiquity.Store
import HLiquity.TroveReplay

/-!
# Editing a trove

The trove manager holds the trove of the store and an edited copy of it. A store
update that commits the pending change reverts the edit, and every other one
replays it on the new trove. Only the replay of a creation that lacks the
liquidation reserve throws, on a trove that is open by then.
-/

namespace HLiquity

namespace TroveManager

variable {constants : Constants} {E : ExtraState}

/-- `TroveManagerState`: the trove of the store, its edited copy and the flags of the edit. -/
structure State (constants : Constants) where
  original : UserTrove constants
  edited : Trove constants
  changePending : Bool
  debtDirty : Bool
  addedMinimumDebt : Bool
  deriving DecidableEq, Repr

/-- `TroveManagerAction` -/
inductive Action (constants : Constants) (E : ExtraState) where
  | updateStore (params : LiquityStoreListenerParams constants E)
  | startChange
  | finishChange
  | revert
  | addMinimumDebt
  | removeMinimumDebt
  | setCollateral (newValue : Decimalish)
  | setDebt (newValue : Decimalish)

namespace State

/-- `getInitializer` -/
def getInitializer (state : LiquityStoreState constants E) : State constants where
  original := state.derived.trove.value
  edited := ⟨state.derived.trove.value.collateral, state.derived.trove.value.debt⟩
  changePending := false
  debtDirty := false
  addedMinimumDebt := false

def addMinimumDebt (this : State constants) : State constants :=
  { this with
    edited := this.edited.setDebt constants.hchfMinimumDebt
    addedMinimumDebt := true }

def removeMinimumDebt (this : State constants) : State constants :=
  { this with edited := this.edited.setDebt Decimal.zero, addedMinimumDebt := false }

def finishChange (this : State constants) : State constants :=
  { this with changePending := false }

def revert (this : State constants) : State constants :=
  { this with
    edited := ⟨this.original.collateral, this.original.debt⟩
    debtDirty := false
    addedMinimumDebt := false }

/-- The arm `setCollateral` with the parsed amount. -/
def setCollateral (this : State constants) (newCollateral : Decimal) :
    State constants :=
  let newState := { this with edited := this.edited.setCollateral newCollateral }
  if !this.debtDirty && (this.edited.isEmpty && newCollateral.nonZero.isSome) then
    newState.addMinimumDebt
  else if !this.debtDirty && (this.addedMinimumDebt && newCollateral.isZero) then
    newState.removeMinimumDebt
  else newState

/-- The arm `updateStore` with the new trove and whether a change is committed. -/
def updateStore (this : State constants) (trove : UserTrove constants)
    (changeCommitted : Bool) : Result (State constants) :=
  let newState := { this with original := trove }
  if this.changePending && changeCommitted then .ok newState.revert.finishChange
  else do
    let change ← this.original.toTrove.whatChanged this.edited (some Decimal.zero)
    if (TroveChange.isCreation change && !trove.isEmpty) ||
        (TroveChange.isClosure change && trove.isEmpty) then
      return newState.revert
    else
      let edited ← trove.toTrove.apply change (some Decimal.zero)
      return { newState with edited }

/-- `getReducer` -/
def reduce (this : State constants) :
    Action constants E → Result (State constants)
  | .startChange => .ok { this with changePending := true }
  | .finishChange => .ok this.finishChange
  | .setCollateral newValue => do
      let newCollateral ← Decimal.from newValue
      return this.setCollateral newCollateral
  | .setDebt newValue => do
      let newDebt ← Decimal.from newValue
      return { this with edited := this.edited.setDebt newDebt, debtDirty := true }
  | .addMinimumDebt => .ok this.addMinimumDebt
  | .removeMinimumDebt => .ok this.removeMinimumDebt
  | .revert => .ok this.revert
  | .updateStore params =>
      this.updateStore params.newState.derived.trove.value
        (params.stateChange.base .troveBeforeRedistribution).isSome

/-- The state after an action, which is the old one when the reducer throws. -/
def step (this : State constants) (action : Action constants E) :
    State constants :=
  match this.reduce action with
  | .ok next => next
  | .error _ => this

/-- Whether a store update commits the pending change. -/
def commits (this : State constants) (changeCommitted : Bool) : Bool :=
  this.changePending && changeCommitted

/-- Whether a trove arrives, without committing a change, while an invalid creation is
edited. -/
def Collides (this : State constants) (trove : UserTrove constants) (changeCommitted : Bool) :
    Prop :=
  this.commits changeCommitted = false ∧ trove.toTrove ≠ Trove.empty ∧
    this.original.toTrove = Trove.empty ∧ this.edited ≠ Trove.empty ∧
    this.edited.debt < constants.hchfLiquidationReserve

instance (this : State constants) (trove : UserTrove constants) (changeCommitted : Bool) :
    Decidable (this.Collides trove changeCommitted) :=
  inferInstanceAs (Decidable (_ ∧ _))

variable {this : State constants} {trove : UserTrove constants} {changeCommitted : Bool}

/-- A store update that commits the pending change shows the new trove. -/
theorem updateStore_of_commits (h : this.commits changeCommitted = true) :
    this.updateStore trove changeCommitted =
      .ok ({ this with original := trove } : State constants).revert.finishChange :=
  if_pos h

/-- Any other store update replays the edit, or drops it. -/
theorem updateStore_of_not_commits (h : this.commits changeCommitted = false)
    {change : Option (TroveChange constants)}
    (hchange : this.original.toTrove.whatChanged this.edited (some Decimal.zero) = .ok change) :
    this.updateStore trove changeCommitted =
      if (TroveChange.isCreation change && !trove.isEmpty) ||
          (TroveChange.isClosure change && trove.isEmpty) then
        .ok ({ this with original := trove } : State constants).revert
      else (trove.toTrove.apply change (some Decimal.zero)).map fun edited =>
        { this with original := trove, edited } := by
  have hnot : ¬ (this.changePending && changeCommitted) = true := by
    rw [← commits, h]
    exact Bool.false_ne_true
  simp only [updateStore]
  rw [if_neg hnot, hchange, Result.ok_bind]
  split
  · rfl
  · cases trove.toTrove.apply change (some Decimal.zero) <;> rfl

theorem ok_of_map {edited : Result (Trove constants)} (h : ∃ value, edited = .ok value) :
    ∃ next, (edited.map fun edited =>
      ({ this with original := trove, edited } : State constants)) = .ok next := by
  obtain ⟨value, rfl⟩ := h
  exact ⟨_, rfl⟩

/-- A store update throws exactly if it collides. -/
theorem updateStore_ok_iff (hreserve : this.original.toTrove.HoldsReserve) :
    (∃ next, this.updateStore trove changeCommitted = .ok next) ↔
      ¬ this.Collides trove changeCommitted := by
  cases hcommits : this.commits changeCommitted with
  | true =>
      refine iff_of_true ⟨_, updateStore_of_commits hcommits⟩ ?_
      intro hcollides
      cases hcommits.symm.trans hcollides.1
  | false =>
      rcases Trove.whatChanged_cases this.edited hreserve (some Decimal.zero) with
        ⟨hsame, hchange⟩ | ⟨hempty, hne, hdebt, hchange⟩ | ⟨hempty, hne, hdebt, hchange⟩ |
        ⟨hopen, hedited, hdebt, hchange⟩ | ⟨hopen, hedited, hne, hdebt, hchange⟩
      all_goals
        rw [updateStore_of_not_commits hcommits hchange]
      · refine iff_of_true ⟨_, rfl⟩ ?_
        rintro ⟨_, _, hempty, hedited, _⟩
        exact hedited (hsame ▸ hempty)
      · by_cases htrove : trove.toTrove = Trove.empty
        · refine iff_of_true (ok_of_map ⟨this.edited, ?_⟩) fun hcollides => hcollides.2.1 htrove
          simp [Trove.apply, htrove]
        · refine iff_of_false ?_ fun h =>
            h ⟨hcommits, htrove, hempty, fun heq => hne (hempty.trans heq.symm), hdebt⟩
          rintro ⟨next, hnext⟩
          simp [TroveChange.isCreation, TroveChange.isClosure, Trove.apply, htrove,
            Except.map] at hnext
      · refine iff_of_true ?_ fun hcollides => absurd hdebt (not_le.mpr hcollides.2.2.2.2)
        by_cases htrove : trove.toTrove = Trove.empty
        · rw [if_neg (by simp [htrove, TroveChange.isClosure])]
          apply ok_of_map
          rw [htrove]
          exact ⟨_, rfl⟩
        · exact ⟨_, if_pos (by simp [htrove, TroveChange.isCreation])⟩
      · refine iff_of_true ?_ fun hcollides => hopen hcollides.2.2.1
        by_cases htrove : trove.toTrove = Trove.empty
        · exact ⟨_, if_pos (by simp [htrove, TroveChange.isClosure])⟩
        · rw [if_neg (by simp [htrove, TroveChange.isCreation])]
          apply ok_of_map
          simp [Trove.apply, htrove]
      · refine iff_of_true ?_ fun hcollides => hopen hcollides.2.2.1
        rw [if_neg (by simp [TroveChange.isCreation, TroveChange.isClosure])]
        exact ok_of_map ⟨_, Trove.apply_adjustment_moved _ _ _⟩

/-- A store update always takes over the new trove. -/
theorem updateStore_original {next : State constants}
    (h : this.updateStore trove changeCommitted = .ok next) : next.original = trove := by
  cases hcommits : this.commits changeCommitted with
  | true =>
      rw [updateStore_of_commits hcommits] at h
      exact congrArg original (Except.ok.inj h).symm
  | false =>
      cases hchange : this.original.toTrove.whatChanged this.edited (some Decimal.zero) with
      | error failure =>
          simp only [updateStore] at h
          rw [if_neg (by rw [← commits, hcommits]; exact Bool.false_ne_true), hchange] at h
          cases h
      | ok change =>
          rw [updateStore_of_not_commits hcommits hchange] at h
          split at h
          · exact congrArg original (Except.ok.inj h).symm
          · cases happly : trove.toTrove.apply change (some Decimal.zero) with
            | error failure =>
                rw [happly] at h
                cases h
            | ok edited =>
                rw [happly] at h
                exact congrArg original (Except.ok.inj h).symm

/-- A store update that commits no pending change, between open troves, keeps the edit. -/
theorem updateStore_keeps_edit (hcommits : this.commits changeCommitted = false)
    (hreserve : this.original.toTrove.HoldsReserve) (hopen : this.original.toTrove ≠ Trove.empty)
    (htrove : trove.toTrove.HoldsReserve) (htroveOpen : trove.toTrove ≠ Trove.empty)
    {change : Option (TroveChange constants)}
    (hchange : this.original.toTrove.whatChanged this.edited (some Decimal.zero) = .ok change)
    (hexceeds : trove.toTrove.Exceeds change) :
    ∃ next pending, this.updateStore trove changeCommitted = .ok next ∧
      trove.toTrove.whatChanged next.edited (some Decimal.zero) = .ok pending ∧
      Trove.EditKept trove.toTrove next.edited change pending := by
  obtain ⟨replayed, pending, happly, hpending, hkept⟩ :=
    Trove.apply_keeps_edit hreserve hopen htrove htroveOpen hchange hexceeds
  refine ⟨{ this with original := trove, edited := replayed }, pending, ?_, hpending, hkept⟩
  have hcreation : TroveChange.isCreation change = false := by
    rcases Trove.pending_cases hreserve hopen with ⟨_, hfound⟩ | ⟨_, hfound⟩ | ⟨_, _, hfound⟩
    all_goals
      obtain rfl := Except.ok.inj (hchange.symm.trans hfound)
      rfl
  have hempty : trove.isEmpty = false := Trove.isEmpty_eq_false.mpr htroveOpen
  rw [updateStore_of_not_commits hcommits hchange, hcreation, hempty, happly]
  simp only [Bool.false_and, Bool.and_false, Bool.or_self, Bool.false_eq_true, if_false]
  rfl

end State

section Runs

/-- The trove that a store update brings. -/
def Action.trove : Action constants E → Option (UserTrove constants)
  | .updateStore params => some params.newState.derived.trove.value
  | _ => none

/-- The trove of the last store update, if there is any. -/
def lastTrove (trove : UserTrove constants) (actions : List (Action constants E)) :
    UserTrove constants :=
  actions.foldl (fun trove action => action.trove.getD trove) trove

/-- An action with a well-formed amount, or with a trove that is empty or holds its
reserve. -/
def Action.WellFormed : Action constants E → Prop
  | .setCollateral newValue | .setDebt newValue => ∃ amount, Decimal.from newValue = .ok amount
  | .updateStore params => params.newState.derived.trove.value.toTrove.HoldsReserve
  | _ => True

/-- Whether a store update commits some change of the trove. -/
def changeCommitted (params : LiquityStoreListenerParams constants E) : Bool :=
  (params.stateChange.base .troveBeforeRedistribution).isSome

/-- Whether an action brings a trove onto an invalid creation. -/
def State.CollidesOn (this : State constants) : Action constants E → Prop
  | .updateStore params =>
      this.Collides params.newState.derived.trove.value (changeCommitted params)
  | _ => False

instance (this : State constants) :
    (action : Action constants E) → Decidable (this.CollidesOn action)
  | .updateStore _ => inferInstanceAs (Decidable (State.Collides _ _ _))
  | .startChange | .finishChange | .revert | .addMinimumDebt | .removeMinimumDebt
  | .setCollateral _ | .setDebt _ => .isFalse id

/-- The action does not throw, leaves the trove of the last store update as the original
and, when it is a store update between open troves that commits no pending change, keeps
the edit whose decreases the new trove exceeds. -/
def State.Handles (this : State constants) (action : Action constants E)
    (last : UserTrove constants) : Prop :=
  ∃ next, this.reduce action = .ok next ∧ next.original = last ∧
    ∀ params, action = .updateStore params → this.commits (changeCommitted params) = false →
      this.original.toTrove ≠ Trove.empty → next.original.toTrove ≠ Trove.empty →
      ∀ change, this.original.toTrove.whatChanged this.edited (some Decimal.zero) = .ok change →
        next.original.toTrove.Exceeds change →
        ∃ pending, next.original.toTrove.whatChanged next.edited (some Decimal.zero) =
            .ok pending ∧
          Trove.EditKept next.original.toTrove next.edited change pending

variable {this : State constants} {action : Action constants E}

theorem setCollateral_original (this : State constants) (newCollateral : Decimal) :
    (this.setCollateral newCollateral).original = this.original := by
  unfold State.setCollateral
  split_ifs <;> rfl

/-- Only a store update replaces the original. -/
theorem reduce_original {next : State constants} (h : this.reduce action = .ok next) :
    next.original = action.trove.getD this.original := by
  cases action with
  | updateStore params => exact State.updateStore_original h
  | setCollateral newValue =>
      obtain ⟨newCollateral, _, hnext⟩ := Result.bind_eq_ok.mp h
      obtain rfl := Except.ok.inj hnext
      exact setCollateral_original this newCollateral
  | setDebt newValue =>
      obtain ⟨newDebt, _, hnext⟩ := Result.bind_eq_ok.mp h
      obtain rfl := Except.ok.inj hnext
      rfl
  | _ =>
      obtain rfl := Except.ok.inj h
      rfl

/-- The reducer returns on every well-formed action that does not collide. -/
theorem reduce_ok_iff (hreserve : this.original.toTrove.HoldsReserve)
    (haction : action.WellFormed) : (∃ next, this.reduce action = .ok next) ↔
      ¬ this.CollidesOn action := by
  cases action with
  | updateStore params => exact State.updateStore_ok_iff hreserve
  | setCollateral newValue =>
      obtain ⟨newCollateral, hnew⟩ := haction
      refine iff_of_true ⟨this.setCollateral newCollateral, ?_⟩ id
      simp only [State.reduce, hnew, Result.ok_bind, Result.pure_eq]
  | setDebt newValue =>
      obtain ⟨newDebt, hnew⟩ := haction
      refine iff_of_true ?_ id
      simp only [State.reduce, hnew, Result.ok_bind, Result.pure_eq]
      exact ⟨_, rfl⟩
  | _ => exact iff_of_true ⟨_, rfl⟩ id

/-- An action that does not collide is handled as it should be. -/
theorem handles_of_not_collides (hreserve : this.original.toTrove.HoldsReserve)
    (haction : action.WellFormed) (hcollides : ¬ this.CollidesOn action) :
    this.Handles action (action.trove.getD this.original) := by
  obtain ⟨next, hnext⟩ := (reduce_ok_iff hreserve haction).mpr hcollides
  refine ⟨next, hnext, reduce_original hnext, ?_⟩
  rintro params rfl hcommits hopen htroveOpen change hchange hexceeds
  rw [reduce_original hnext] at htroveOpen hexceeds ⊢
  obtain ⟨kept, pending, hkept, hpending, heditKept⟩ :=
    State.updateStore_keeps_edit hcommits hreserve hopen haction htroveOpen hchange hexceeds
  obtain rfl : kept = next := Except.ok.inj (hkept.symm.trans hnext)
  exact ⟨pending, hpending, heditKept⟩

theorem step_eq_of_reduce {next : State constants} (h : this.reduce action = .ok next) :
    this.step action = next := by
  rw [State.step, h]

theorem holdsReserve_step (hreserve : this.original.toTrove.HoldsReserve)
    (haction : action.WellFormed) : (this.step action).original.toTrove.HoldsReserve := by
  cases hreduce : this.reduce action with
  | error failure =>
      rw [State.step, hreduce]
      exact hreserve
  | ok next =>
      rw [step_eq_of_reduce hreduce, reduce_original hreduce]
      cases action with
      | updateStore params => exact haction
      | _ => exact hreserve

theorem holdsReserve_run (this : State constants) {actions : List (Action constants E)}
    (hreserve : this.original.toTrove.HoldsReserve)
    (hactions : ∀ action ∈ actions, action.WellFormed) :
    (EventRun.run State.step this actions).original.toTrove.HoldsReserve := by
  induction actions generalizing this with
  | nil => exact hreserve
  | cons action actions ih =>
      apply ih
      · exact holdsReserve_step hreserve (hactions action List.mem_cons_self)
      · exact fun later hlater => hactions later (List.mem_cons_of_mem _ hlater)

/-- After a run without a collision the original is the trove of the last store update. -/
theorem original_run {actions : List (Action constants E)}
    (hreserve : this.original.toTrove.HoldsReserve)
    (hactions : ∀ action ∈ actions, action.WellFormed)
    (hmeets : EventRun.Meets State.step (fun this action => ¬ this.CollidesOn action)
      this actions) :
    (EventRun.run State.step this actions).original = lastTrove this.original actions := by
  induction actions generalizing this with
  | nil => rfl
  | cons action actions ih =>
      have haction := hactions action List.mem_cons_self
      obtain ⟨next, hnext⟩ := (reduce_ok_iff hreserve haction).mpr hmeets.1
      have horiginal : (this.step action).original = action.trove.getD this.original := by
        rw [step_eq_of_reduce hnext, reduce_original hnext]
      calc
        (EventRun.run State.step this (action :: actions)).original
            = lastTrove (this.step action).original actions :=
          ih (holdsReserve_step hreserve haction)
            (fun later hlater => hactions later (List.mem_cons_of_mem _ hlater)) hmeets.2
        _ = lastTrove this.original (action :: actions) := by
          rw [horiginal]
          rfl

/-- Every action of a run from the initial state on is handled as it should be. -/
def HandlesAll (state : LiquityStoreState constants E) (actions : List (Action constants E)) :
    Prop :=
  ∀ earlier action later, actions = earlier ++ action :: later →
    (EventRun.run State.step (State.getInitializer state) earlier).Handles action
      (lastTrove state.derived.trove.value (earlier ++ [action]))

/-- The actions of a run are all handled as they should be exactly if none of them brings a
trove onto an invalid creation. -/
theorem handles_run_iff (state : LiquityStoreState constants E)
    (hstate : state.derived.trove.value.toTrove.HoldsReserve)
    (actions : List (Action constants E)) (hactions : ∀ action ∈ actions, action.WellFormed) :
    HandlesAll state actions ↔
      EventRun.Meets State.step (fun this action => ¬ this.CollidesOn action)
        (State.getInitializer state) actions := by
  have hrun (earlier : List (Action constants E))
      (hearlier : ∀ action ∈ earlier, action.WellFormed) :=
    holdsReserve_run (State.getInitializer state) hstate hearlier
  constructor
  · rw [EventRun.meets_iff_forall]
    rintro hall earlier action later rfl
    obtain ⟨next, hnext, _⟩ := hall earlier action later rfl
    have hearlier := hrun earlier fun before hbefore =>
      hactions before (List.mem_append_left _ hbefore)
    exact (reduce_ok_iff hearlier (hactions action (by simp))).mp ⟨next, hnext⟩
  · rintro hmeets earlier action later rfl
    obtain ⟨hbefore, hcollides, _⟩ := (EventRun.meets_append _ _ _ _ _).mp hmeets
    have hearlier : ∀ action ∈ earlier, action.WellFormed := fun before hmem =>
      hactions before (List.mem_append_left _ hmem)
    have hlast : lastTrove state.derived.trove.value (earlier ++ [action]) =
        action.trove.getD
          (EventRun.run State.step (State.getInitializer state) earlier).original := by
      rw [lastTrove, List.foldl_append, original_run hstate hearlier hbefore]
      rfl
    rw [hlast]
    exact handles_of_not_collides (hrun earlier hearlier) (hactions action (by simp)) hcollides

/-- A store without extra state. -/
def noExtraState : ExtraState := ⟨Unit, Unit, fun state _ => state, fun _ _ => ()⟩

/-- A state of the store with a trove that was read as its `index`-th object. -/
def shown (index : Nat) (trove : Trove defaults) : LiquityStoreState defaults noExtraState :=
  let owned : UserTrove defaults := ⟨trove, "0x0", .open⟩
  ⟨{ defaultBaseState with
      troveBeforeRedistribution := ⟨.supplied 0 index, ⟨owned, trove.collateral, Trove.empty⟩⟩ },
    { defaultDerivedState with trove := ⟨.allocated index, owned⟩ }, none⟩

/-- The store update from one trove to another. -/
def showing (before after : Trove defaults) : Action defaults noExtraState :=
  .updateStore ⟨shown 1 after, shown 0 before, difference (shown 1 after) (shown 0 before)⟩

/-- A deposit that is edited while 1 of 3 HBAR are redeemed is kept. -/
theorem handles_run_iff_redemption :
    HandlesAll (shown 0 ⟨⟨300000000⟩, ⟨180000000000⟩⟩)
      [.setCollateral (.string ['5']),
        showing ⟨⟨300000000⟩, ⟨180000000000⟩⟩ ⟨⟨200000000⟩, ⟨170000000000⟩⟩] :=
  (handles_run_iff (shown 0 ⟨⟨300000000⟩, ⟨180000000000⟩⟩) (.inr (by decide)) _ (by
    intro action haction
    simp only [List.mem_cons, List.not_mem_nil, or_false] at haction
    rcases haction with rfl | rfl
    · exact ⟨⟨500000000⟩, by decide⟩
    · exact .inr (by decide))).mpr (by decide)

/-- A trove that is opened elsewhere while a debt of 5 HCHF is edited makes the reducer
throw. -/
theorem reducer_throws :
    let edits : List (Action defaults noExtraState) :=
      [.setCollateral (.string ['3']), .setDebt (.string ['5'])]
    let opened : Trove defaults := ⟨⟨300000000⟩, ⟨180000000000⟩⟩
    (∀ action ∈ edits ++ [showing Trove.empty opened], action.WellFormed) ∧
      (EventRun.run State.step (State.getInitializer (shown 0 Trove.empty)) edits).reduce
        (showing Trove.empty opened) =
        .error (.error "Can't create onto existing Trove") := by
  constructor
  · intro action haction
    simp only [List.cons_append, List.nil_append, List.mem_cons, List.not_mem_nil,
      or_false] at haction
    rcases haction with rfl | rfl | rfl
    · exact ⟨⟨300000000⟩, by decide⟩
    · exact ⟨⟨500000000⟩, by decide⟩
    · exact .inr (by decide)
  · rfl

end Runs

end TroveManager

end HLiquity
