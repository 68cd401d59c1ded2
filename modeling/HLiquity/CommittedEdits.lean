import HLiquity.DepositManagers
import HLiquity.StateChange
import HLiquity.TroveManager

/-!
# Edits that are committed

An update of the store reports that the pending change of an editor has been
executed. The editors of the trove and of the stability deposit show the new
value then. The editor of the stake adds its change to the stake that contains
it already, unless it has unstaked everything.
-/

namespace HLiquity

open Decimal

variable {constants : Constants} {E : ExtraState}

/-- The state change of an update reports a base variable exactly. -/
def LiquityStoreListenerParams.Reports (params : LiquityStoreListenerParams constants E)
    (key : BaseKey) : Prop :=
  key.ReportedExactly (params.oldState.base.get key) (params.newState.base.get key)
    (params.stateChange.base key)

namespace TroveManager

/-- An update reports that the pending change was executed, at any rate: the trove of the
store, with the redistributions as before, is the one that the change leads to. -/
structure Executes (this : State constants) (params : LiquityStoreListenerParams constants E) :
    Prop where
  original : params.oldState.derived.trove.value = this.original
  executed : ∃ rate change,
    this.original.toTrove.whatChanged this.edited (some rate) = .ok (some change) ∧
      this.original.toTrove.apply (some change) (some rate) =
        .ok params.newState.derived.trove.value.toTrove
  before : params.oldState.base.troveBeforeRedistribution.value.applyRedistribution
    params.oldState.base.totalRedistributed.value = .ok params.oldState.derived.trove.value
  after : params.newState.base.troveBeforeRedistribution.value.applyRedistribution
    params.newState.base.totalRedistributed.value = .ok params.newState.derived.trove.value
  redistributed : params.newState.base.totalRedistributed.value =
    params.oldState.base.totalRedistributed.value
  reported : params.Reports .troveBeforeRedistribution

/-- After the start of the change and the update the edited trove is the new original. -/
def Settles (this : State constants) (params : LiquityStoreListenerParams constants E) : Prop :=
  ∃ started next, this.reduce (.startChange : Action constants E) = .ok started ∧
    started.reduce (.updateStore params) = .ok next ∧
    next.original = params.newState.derived.trove.value ∧ next.edited = next.original.toTrove

end TroveManager

namespace Trove

/-- The debt that a replayed adjustment reaches differs from the debt that it starts from
if the edited debt does. -/
theorem replayed_ne {a b : Trove constants} (hab : a ≠ b) (rate : Decimal) :
    a.replayed b rate ≠ a := by
  intro heq
  have hcollateral : (a.replayed b rate).collateral = a.collateral := congrArg collateral heq
  have hdebt : (a.replayed b rate).debt = a.debt := congrArg debt heq
  by_cases hlt : a.debt < b.debt
  · have hle := le_def.mp (le_applyFee_unapplyFee rate (monus b.debt a.debt))
    have hlt' := lt_def.mp hlt
    have hunits := congrArg bigNumber hdebt
    simp only [replayed, if_pos hlt, add_bigNumber, monus_bigNumber] at hle hunits
    omega
  · rw [replayed_of_le (not_lt.mp hlt)] at hdebt
    exact hab (Trove.ext hcollateral.symm hdebt.symm)

/-- A created trove is not empty. -/
theorem created_ne_empty {b : Trove constants} (hb : b ≠ empty)
    (hdebt : constants.hchfLiquidationReserve ≤ b.debt) (rate : Decimal) :
    (⟨b.collateral, constants.hchfLiquidationReserve.add (applyFee rate (unapplyFee rate
      (monus b.debt constants.hchfLiquidationReserve)))⟩ : Trove constants) ≠ empty := by
  intro heq
  have hcollateral : b.collateral = zero := congrArg collateral heq
  have hunits := congrArg (fun trove : Trove constants => trove.debt.bigNumber) heq
  have hle := le_def.mp
    (le_applyFee_unapplyFee rate (monus b.debt constants.hchfLiquidationReserve))
  have hreserve := le_def.mp hdebt
  simp only [empty_debt, zero_bigNumber, add_bigNumber, monus_bigNumber] at hunits hle
  apply hb
  apply Trove.ext hcollateral
  ext
  rw [empty_debt, zero_bigNumber]
  omega

/-- What changes from an open trove to the empty one is a closure. -/
theorem closure_of_whatChanged {a : Trove constants} (ha : a ≠ empty) {rate : Option Decimal}
    {change : TroveChange constants} (h : a.whatChanged empty rate = .ok (some change)) :
    ∃ params, change = .closure params := by
  rw [whatChanged, componentsDiffer ha, isEmpty_eq_false.mpr ha, isEmpty_iff.mpr rfl] at h
  obtain ⟨netDebt, _, hsome⟩ := Result.bind_eq_ok.mp h
  cases hsome
  exact ⟨_, rfl⟩

/-- Executing a change, at any rate, changes the trove. -/
theorem apply_ne {a b result : Trove constants} {rate : Decimal} {change : TroveChange constants}
    (hchange : a.whatChanged b (some rate) = .ok (some change))
    (happly : a.apply (some change) (some rate) = .ok result) : result ≠ a := by
  have hab : a ≠ b := by
    rintro rfl
    rw [whatChanged_self] at hchange
    cases hchange
  by_cases ha : a = empty
  · subst ha
    rcases lt_or_ge b.debt constants.hchfLiquidationReserve with hdebt | hdebt
    · rw [whatChanged_invalidCreation hab.symm hdebt] at hchange
      cases hchange
      cases happly
      exact hab.symm
    · rw [whatChanged_creation hab.symm hdebt] at hchange
      cases hchange
      cases happly
      exact created_ne_empty hab.symm hdebt rate
  · by_cases hb : b = empty
    · subst hb
      obtain ⟨params, rfl⟩ := closure_of_whatChanged ha hchange
      rw [apply, if_neg (by simpa using ha)] at happly
      cases happly
      exact Ne.symm ha
    · rw [whatChanged_adjustment hab ha hb] at hchange
      cases hchange
      rw [Option.getD_some, apply_adjustmentTo a b rate (.inr rfl)] at happly
      cases happly
      exact replayed_ne hab rate

end Trove

namespace TroveManager

variable {this : State constants} {params : LiquityStoreListenerParams constants E}

/-- The execution of a change is reported as a change of the trove before redistribution. -/
theorem Executes.changeCommitted (h : Executes this params) : changeCommitted params = true := by
  obtain ⟨rate, change, hchange, happly⟩ := h.executed
  have hdiffers : ¬ BaseKey.troveBeforeRedistribution.SameValue
      (params.oldState.base.get .troveBeforeRedistribution)
      (params.newState.base.get .troveBeforeRedistribution) := by
    intro hsame
    have hvalue : params.oldState.base.troveBeforeRedistribution.value =
        params.newState.base.troveBeforeRedistribution.value := hsame
    have hafter := h.after
    rw [← hvalue, h.redistributed, h.before, h.original] at hafter
    have hkept : this.original = params.newState.derived.trove.value := Except.ok.inj hafter
    exact Trove.apply_ne hchange happly (congrArg UserTrove.toTrove hkept.symm)
  rw [TroveManager.changeCommitted, h.reported.2 hdiffers]
  rfl

/-- The editor of the trove has no pending edit after the execution. -/
theorem settles_of_executes (h : Executes this params) : Settles this params := by
  refine ⟨_, _, rfl, State.updateStore_of_commits ?_, rfl, rfl⟩
  exact h.changeCommitted

end TroveManager

namespace StabilityDepositManager

/-- An update reports that the pending change was executed: the edited amount is deposited,
and it is the initial amount as well. -/
structure Executes (this : State) (params : LiquityStoreListenerParams constants E) : Prop where
  original : params.oldState.base.stabilityDeposit.value = this.originalDeposit
  pending : ∃ change, this.originalDeposit.whatChanged this.editedHCHF = .ok (some change)
  current : params.newState.base.stabilityDeposit.value.currentHCHF = this.editedHCHF
  initial : params.newState.base.stabilityDeposit.value.initialHCHF = this.editedHCHF
  reported : params.Reports .stabilityDeposit

/-- After the start of the change and the update the edited amount is the new original one. -/
def Settles (this : State) (params : LiquityStoreListenerParams constants E) : Prop :=
  ∃ started next, this.reduce (.startChange : Action constants E) = .ok started ∧
    started.reduce (.updateStore params) = .ok next ∧
    next.originalDeposit = params.newState.base.stabilityDeposit.value ∧
    next.editedHCHF = next.originalDeposit.currentHCHF

end StabilityDepositManager

theorem StabilityDeposit.whatChanged_self (this : StabilityDeposit) :
    this.whatChanged this.currentHCHF = .ok none := by
  simp [StabilityDeposit.whatChanged]

/-- A deposit or a withdrawal always shows that a change was committed. -/
theorem StabilityDepositManager.State.changeCommitted_of_ne {original updated : StabilityDeposit}
    (hinitial : updated.initialHCHF = updated.currentHCHF)
    (hne : updated.currentHCHF ≠ original.currentHCHF) :
    changeCommitted original updated = true := by
  rcases lt_or_gt_of_ne hne with hless | hmore
  · have hdiffers : updated.initialHCHF ≠ original.initialHCHF := by
      rw [hinitial]
      exact (lt_of_lt_of_le hless original.current_le).ne
    simp [changeCommitted, hdiffers]
  · simp [changeCommitted, hmore]

namespace StabilityDepositManager

variable {this : State} {params : LiquityStoreListenerParams constants E}

/-- The editor of the stability deposit has no pending edit after the execution. -/
theorem settles_of_executes (h : Executes this params) : Settles this params := by
  obtain ⟨change, hchange⟩ := h.pending
  have hcommitted : State.changeCommitted this.originalDeposit
      params.newState.base.stabilityDeposit.value = true := by
    apply State.changeCommitted_of_ne (h.initial.trans h.current.symm)
    rintro hsame
    rw [← h.current, hsame, StabilityDeposit.whatChanged_self] at hchange
    cases hchange
  have hdiffers : ¬ BaseKey.stabilityDeposit.SameValue
      (params.oldState.base.get .stabilityDeposit)
      (params.newState.base.get .stabilityDeposit) := by
    intro hsame
    have hvalue : params.oldState.base.stabilityDeposit.value =
        params.newState.base.stabilityDeposit.value := hsame
    rw [← h.current, ← hvalue, h.original, StabilityDeposit.whatChanged_self] at hchange
    cases hchange
  let started : State := { this with changePending := true }
  let next : State :=
    { started with originalDeposit := params.newState.base.stabilityDeposit.value }
  refine ⟨started, next.revert.finishChange, rfl, ?_, rfl, rfl⟩
  rw [State.reduce, h.reported.2 hdiffers]
  exact if_pos hcommitted

end StabilityDepositManager

namespace HLQTStake

theorem whatChanged_self (this : HLQTStake) : this.whatChanged this.stakedHLQT = .ok none := by
  simp [whatChanged]

/-- The change from one staked amount to an edited one, replayed on another staked amount. -/
def replayed (original updated edited : Decimal) : Decimal :=
  if edited = zero ∧ edited < original then zero
  else Trove.monus (updated.add (Trove.monus edited original)) (Trove.monus original edited)

/-- Replayed on the amount that it leads to, a change leads to the same amount only if it
unstakes everything. -/
theorem replayed_self_iff {original edited : Decimal} (hne : edited ≠ original) :
    replayed original edited edited = edited ↔ edited = zero := by
  constructor
  · intro heq
    by_contra hzero
    rw [replayed, if_neg fun h => hzero h.1] at heq
    have hunits := congrArg bigNumber heq
    simp only [Trove.monus_bigNumber, add_bigNumber] at hunits
    have hpos : 0 < edited.bigNumber := ne_zero_iff.mp hzero
    apply hne
    ext
    omega
  · rintro rfl
    exact if_pos ⟨rfl, lt_of_le_of_ne (zero_le _) hne⟩

/-- What replaying an edit on an updated stake computes. -/
theorem replay_eq (original updated : HLQTStake) (edited : Decimal) :
    ∃ change, original.whatChanged edited = .ok change ∧
      updated.apply change = .ok (replayed original.stakedHLQT updated.stakedHLQT edited) := by
  unfold replayed
  rcases lt_trichotomy edited original.stakedHLQT with hless | hsame | hmore
  · refine ⟨some (.unstakeHLQT (Trove.monus original.stakedHLQT edited) edited.isZero), ?_, ?_⟩
    · rw [whatChanged, if_pos (lt_iff.mpr hless), sub_of_le hless.le]
      rfl
    · rw [apply, amountLeft_eq, Trove.monus_of_le hless.le, add_zero]
      simp only [isZero_iff, hless, and_true]
  · subst hsame
    refine ⟨none, whatChanged_self original, ?_⟩
    rw [if_neg fun h => h.2.ne rfl, Trove.monus_self]
    rfl
  · refine ⟨some (.stakeHLQT (Trove.monus edited original.stakedHLQT)), ?_, ?_⟩
    · rw [whatChanged, if_neg (by simpa using hmore.le), if_pos (gt_iff.mpr hmore),
        sub_of_le hmore.le]
      rfl
    · rw [if_neg fun h => h.2.not_gt hmore, Trove.monus_of_le hmore.le]
      rfl

end HLQTStake

namespace StakingManager

/-- An update reports that the pending change was executed: the edited amount is staked. -/
structure Executes (this : State) (params : LiquityStoreListenerParams constants E) : Prop where
  original : params.oldState.base.hlqtStake.value = this.originalStake
  pending : ∃ change, this.originalStake.whatChanged this.editedLQTY = .ok (some change)
  staked : params.newState.base.hlqtStake.value.stakedHLQT = this.editedLQTY
  reported : params.Reports .hlqtStake

/-- After the update the edited amount is the new staked one. -/
def Settles (this : State) (params : LiquityStoreListenerParams constants E) : Prop :=
  ∃ next, this.reduce (.updateStore params : Action constants E) = .ok next ∧
    next.originalStake = params.newState.base.hlqtStake.value ∧
    next.editedLQTY = next.originalStake.stakedHLQT

variable {this : State} {params : LiquityStoreListenerParams constants E}

theorem Executes.ne (h : Executes this params) :
    this.editedLQTY ≠ this.originalStake.stakedHLQT := by
  intro hsame
  obtain ⟨change, hchange⟩ := h.pending
  rw [hsame, HLQTStake.whatChanged_self] at hchange
  cases hchange

/-- The editor of the stake has no pending edit after the execution exactly if everything
is unstaked. -/
theorem settles_iff_of_executes (h : Executes this params) :
    Settles this params ↔ this.editedLQTY = zero := by
  have hdiffers : ¬ BaseKey.hlqtStake.SameValue (params.oldState.base.get .hlqtStake)
      (params.newState.base.get .hlqtStake) := by
    intro hsame
    have hvalue : params.oldState.base.hlqtStake.value =
        params.newState.base.hlqtStake.value := hsame
    apply h.ne
    rw [← h.staked, ← hvalue, h.original]
  obtain ⟨change, hchange, happly⟩ := HLQTStake.replay_eq this.originalStake
    params.newState.base.hlqtStake.value this.editedLQTY
  have hreduce : this.reduce (.updateStore params : Action constants E) =
      .ok ⟨params.newState.base.hlqtStake.value,
        HLQTStake.replayed this.originalStake.stakedHLQT this.editedLQTY this.editedLQTY⟩ := by
    rw [State.reduce, h.reported.2 hdiffers]
    rw [h.staked] at happly
    simp only [Option.map_some, State.updateStore, hchange, Result.ok_bind]
    exact (Result.bind_eq_ok.mpr ⟨_, happly, rfl⟩)
  rw [Settles, hreduce, ← HLQTStake.replayed_self_iff h.ne]
  constructor
  · rintro ⟨next, hnext, _, hsettled⟩
    cases hnext
    rwa [h.staked] at hsettled
  · intro hsettled
    exact ⟨_, rfl, rfl, hsettled.trans h.staked.symm⟩

end StakingManager

/-- An editor with a pending edit, and the update that reports the execution of it. -/
inductive CommittedEdit (constants : Constants) (E : ExtraState) where
  | trove (editor : TroveManager.State constants) (params : LiquityStoreListenerParams constants E)
      (executes : TroveManager.Executes editor params)
  | stabilityDeposit (editor : StabilityDepositManager.State)
      (params : LiquityStoreListenerParams constants E)
      (executes : StabilityDepositManager.Executes editor params)
  | stake (editor : StakingManager.State) (params : LiquityStoreListenerParams constants E)
      (executes : StakingManager.Executes editor params)

namespace CommittedEdit

/-- The editor has no pending edit after the update. -/
def Settles : CommittedEdit constants E → Prop
  | trove editor params _ => TroveManager.Settles editor params
  | stabilityDeposit editor params _ => StabilityDepositManager.Settles editor params
  | stake editor params _ => StakingManager.Settles editor params

/-- The edit does not leave anything staked. -/
def LeavesNoStake : CommittedEdit constants E → Prop
  | trove _ _ _ | stabilityDeposit _ _ _ => True
  | stake editor _ _ => editor.editedLQTY = zero

/-- No edit is applied twice exactly if it does not leave anything staked. -/
theorem settles_iff (edit : CommittedEdit constants E) : edit.Settles ↔ edit.LeavesNoStake := by
  cases edit with
  | trove editor params executes =>
      exact iff_of_true (TroveManager.settles_of_executes executes) trivial
  | stabilityDeposit editor params executes =>
      exact iff_of_true (StabilityDepositManager.settles_of_executes executes) trivial
  | stake editor params executes => exact StakingManager.settles_iff_of_executes executes

/-- A trove of 3 HBAR, edited to 5 HBAR. -/
def editedTo5 : TroveManager.State defaults where
  original := ⟨⟨⟨300000000⟩, ⟨180000000000⟩⟩, "0x0", .open⟩
  edited := ⟨⟨500000000⟩, ⟨180000000000⟩⟩
  changePending := false
  debtDirty := false
  addedMinimumDebt := false

/-- The update that reports the deposit of 2 HBAR. -/
def deposited2 : LiquityStoreListenerParams defaults TroveManager.noExtraState :=
  let before := TroveManager.shown 0 ⟨⟨300000000⟩, ⟨180000000000⟩⟩
  let after := TroveManager.shown 1 ⟨⟨500000000⟩, ⟨180000000000⟩⟩
  ⟨after, before, difference after before⟩

theorem executes_deposited2 : TroveManager.Executes editedTo5 deposited2 where
  original := rfl
  executed := ⟨zero, _, rfl, rfl⟩
  before := rfl
  after := rfl
  redistributed := rfl
  reported := by
    constructor
    · intro hsame
      cases hsame
    · exact fun _ => rfl

/-- After the deposit of 2 HBAR no edit is pending. -/
theorem settles_iff_deposited2 : (trove editedTo5 deposited2 executes_deposited2).Settles :=
  (settles_iff (trove editedTo5 deposited2 executes_deposited2)).mpr trivial

/-- A state of the store with a stake that was read as its `index`-th object. -/
def showingStake (index : Nat) (stakedHLQT : Decimal) :
    LiquityStoreState defaults TroveManager.noExtraState :=
  ⟨{ defaultBaseState with hlqtStake := ⟨.supplied 0 index, ⟨stakedHLQT, zero, zero⟩⟩ },
    defaultDerivedState, none⟩

/-- After 5 HLQT are staked the editor shows 10 HLQT, so 5 HLQT more are pending. -/
theorem stake_applied_twice :
    let editor : StakingManager.State := ⟨⟨zero, zero, zero⟩, ⟨500000000⟩⟩
    let params : LiquityStoreListenerParams defaults TroveManager.noExtraState :=
      ⟨showingStake 1 ⟨500000000⟩, showingStake 0 zero,
        difference (showingStake 1 ⟨500000000⟩) (showingStake 0 zero)⟩
    StakingManager.Executes editor params ∧
      editor.reduce (.updateStore params) =
        .ok ⟨⟨⟨500000000⟩, zero, zero⟩, ⟨1000000000⟩⟩ ∧
      ¬ StakingManager.Settles editor params := by
  refine ⟨⟨rfl, ⟨_, rfl⟩, rfl, ?_, fun _ => rfl⟩, rfl, ?_⟩
  · intro hsame
    cases hsame
  · rintro ⟨next, hnext, _, hsettled⟩
    cases hnext
    cases hsettled

end CommittedEdit

end HLiquity
