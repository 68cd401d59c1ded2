import HLiquity.CommittedEdits
import HLiquity.Library.FallibleRun
import HLiquity.Library.PendingEdit

/-!
# Edits that stay pending

The managers of the deposit and of the stake never store the pending change.
They compute it before each update of the store and apply it after the update.
Both methods together are the replay of one edit of an amount, so a run of
updates keeps what is pending.
-/

namespace HLiquity

open Decimal PendingEdit

variable {constants : Constants} {E : ExtraState}

theorem edit_eq_raise {original edited : Decimal} (h : original < edited) :
    edit original.bigNumber edited.bigNumber =
      .raise (Trove.monus edited original).bigNumber :=
  edit_of_lt (lt_def.mp h)

theorem edit_eq_lower {original edited : Decimal} (hlt : edited < original)
    (hne : edited ≠ zero) :
    edit original.bigNumber edited.bigNumber =
      .lower (Trove.monus original edited).bigNumber :=
  edit_of_gt (lt_def.mp hlt) (lt_def.mp (ne_zero_iff.mp hne)).ne'

theorem edit_eq_clear {original : Decimal} (h : zero < original) :
    edit original.bigNumber zero.bigNumber = .clear :=
  edit_zero (lt_def.mp h)

namespace StabilityDeposit

/-- The change that an edit of a deposited amount is. -/
def changeOfEdit (currentHCHF : Decimal) : Edit Nat → Option (StabilityDepositChange Decimal)
  | .keep => none
  | .raise amount => some (.depositHCHF ⟨amount⟩)
  | .lower amount => some (.withdrawHCHF ⟨amount⟩ false)
  | .clear => some (.withdrawHCHF currentHCHF true)

variable {currentHCHF amount : Decimal} {e : Edit Nat}

theorem changeOfEdit_eq_none : changeOfEdit currentHCHF e = none ↔ e = .keep := by
  cases e <;> simp [changeOfEdit]

theorem changeOfEdit_eq_depositHCHF :
    changeOfEdit currentHCHF e = some (.depositHCHF amount) ↔ e = .raise amount.bigNumber := by
  cases e <;> simp [changeOfEdit, Decimal.ext_iff]

theorem changeOfEdit_eq_withdrawHCHF :
    changeOfEdit currentHCHF e = some (.withdrawHCHF amount false) ↔
      e = .lower amount.bigNumber := by
  cases e <;> simp [changeOfEdit, Decimal.ext_iff]

theorem changeOfEdit_eq_withdrawAll :
    changeOfEdit currentHCHF e = some (.withdrawHCHF amount true) ↔
      e = .clear ∧ amount = currentHCHF := by
  cases e <;> simp [changeOfEdit, eq_comm]

/-- The difference to an amount is the edit that leads to it. -/
theorem whatChanged_eq (this : StabilityDeposit) (thatHCHF : Decimal) :
    this.whatChanged thatHCHF = .ok (changeOfEdit this.currentHCHF
      (edit this.currentHCHF.bigNumber thatHCHF.bigNumber)) := by
  rcases lt_trichotomy thatHCHF this.currentHCHF with hlower | hsame | hraise
  · rw [whatChanged, if_pos (lt_iff.mpr hlower), sub_of_le hlower.le]
    by_cases hzero : thatHCHF = zero
    · subst hzero
      rw [edit_eq_clear hlower]
      rfl
    · rw [edit_eq_lower hlower hzero, isZero_eq_false.mpr hzero]
      rfl
  · rw [hsame, whatChanged_self, edit_self]
    rfl
  · rw [whatChanged, if_neg (by simpa using hraise.le), if_pos (gt_iff.mpr hraise),
      sub_of_le hraise.le, edit_eq_raise hraise]
    rfl

/-- Applying the change replays the edit. -/
theorem apply_changeOfEdit (this : StabilityDeposit) (currentHCHF : Decimal) (e : Edit Nat) :
    this.apply (changeOfEdit currentHCHF e) =
      .ok ⟨e.replay this.currentHCHF.bigNumber⟩ := by
  cases e with
  | keep => rfl
  | raise amount => rfl
  | lower amount =>
      rw [changeOfEdit, apply, amountLeft_eq]
      rfl
  | clear =>
      rw [changeOfEdit, apply, amountLeft_eq]
      rfl

end StabilityDeposit

namespace StabilityDepositManager

/-- The deposit that an update of the store reports. -/
def reportedDeposit (params : LiquityStoreListenerParams constants E) :
    Option StabilityDeposit :=
  (params.stateChange.base .stabilityDeposit).map Obj.value

namespace State

/-- The pending change. -/
def pendingChange (this : State) : Result (Option (StabilityDepositChange Decimal)) :=
  this.originalDeposit.whatChanged this.editedHCHF

/-- The reaction to an update of the store. -/
def reduceUpdate (this : State) (params : LiquityStoreListenerParams constants E) :
    Result State :=
  this.reduce (.updateStore params)

/-- The update is the commit of a pending change. -/
def Commits (this : State) (params : LiquityStoreListenerParams constants E) : Prop :=
  ∃ updatedDeposit, reportedDeposit params = some updatedDeposit ∧
    (this.changePending && changeCommitted this.originalDeposit updatedDeposit) = true

/-- The original and the edited amount. -/
def amounts (this : State) : Nat × Nat :=
  (this.originalDeposit.currentHCHF.bigNumber, this.editedHCHF.bigNumber)

/-- An update that commits nothing replays the pending edit. -/
theorem reduceUpdate_of_not_commits (this : State)
    {params : LiquityStoreListenerParams constants E} (h : ¬ this.Commits params) :
    ∃ next, this.reduceUpdate params = .ok next ∧
      next.amounts = update this.amounts
        ((reportedDeposit params).map fun updated => updated.currentHCHF.bigNumber) := by
  obtain ⟨reported, hreported⟩ : ∃ reported, reportedDeposit params = reported := ⟨_, rfl⟩
  have hreduce : this.reduceUpdate params = this.updateStore reported := by
    rw [← hreported]
    rfl
  rw [hreduce, hreported]
  cases reported with
  | none => exact ⟨this, rfl, rfl⟩
  | some updated =>
      have hcommits : ¬ (this.changePending &&
          changeCommitted this.originalDeposit updated) = true :=
        fun hcommits => h ⟨updated, hreported, hcommits⟩
      rw [updateStore, if_neg hcommits, StabilityDeposit.whatChanged_eq, Result.ok_bind,
        StabilityDeposit.apply_changeOfEdit]
      exact ⟨_, rfl, rfl⟩

theorem pendingChange_eq (this : State) :
    this.pendingChange = .ok (StabilityDeposit.changeOfEdit this.originalDeposit.currentHCHF
      (edit this.amounts.1 this.amounts.2)) :=
  this.originalDeposit.whatChanged_eq this.editedHCHF

/-- No update of the run is the commit of a pending change. -/
def Uncommitted (this : State) (updates : List (LiquityStoreListenerParams constants E)) :
    Prop :=
  FallibleRun.Meets reduceUpdate (fun state params => ¬ state.Commits params) this updates

end State

/-- What is pending survives a run of updates. -/
structure Survives (before after : State)
    (updates : List (LiquityStoreListenerParams constants E)) : Prop where
  depositHCHF : ∀ amount, before.pendingChange = .ok (some (.depositHCHF amount)) →
    after.pendingChange = .ok (some (.depositHCHF amount))
  withdrawHCHF : ∀ amount, before.pendingChange = .ok (some (.withdrawHCHF amount false)) →
    (∀ params ∈ updates, ∀ updated, reportedDeposit params = some updated →
      amount < updated.currentHCHF) →
    after.pendingChange = .ok (some (.withdrawHCHF amount false))
  withdrawAllHCHF : ∀ amount, before.pendingChange = .ok (some (.withdrawHCHF amount true)) →
    (∀ params ∈ updates, ∀ updated, reportedDeposit params = some updated →
      updated.currentHCHF ≠ zero) →
    after.pendingChange = .ok (some (.withdrawHCHF after.originalDeposit.currentHCHF true))
  noChange : before.pendingChange = .ok none → after.pendingChange = .ok none

/-- The amounts that updates report. -/
def reportedAmounts (updates : List (LiquityStoreListenerParams constants E)) :
    List (Option Nat) :=
  updates.map fun params =>
    (reportedDeposit params).map fun updated => updated.currentHCHF.bigNumber

/-- A condition on the reported deposits is one on the reported amounts. -/
theorem of_mem_reportedAmounts {updates : List (LiquityStoreListenerParams constants E)}
    {P : Nat → Prop}
    (h : ∀ params ∈ updates, ∀ updated, reportedDeposit params = some updated →
      P updated.currentHCHF.bigNumber) :
    ∀ current, some current ∈ reportedAmounts updates → P current := by
  intro current hmem
  obtain ⟨params, hparams, hreported⟩ := List.mem_map.mp hmem
  obtain ⟨updated, hupdated, rfl⟩ := Option.map_eq_some_iff.mp hreported
  exact h params hparams updated hupdated

/-- Updates that commit nothing never throw, and what is pending survives them. -/
theorem State.survives_run (this : State) {updates : List (LiquityStoreListenerParams constants E)}
    (h : this.Uncommitted updates) :
    ∃ next, FallibleRun.run State.reduceUpdate this updates = .ok next ∧
      Survives this next updates := by
  obtain ⟨next, hnext, hamounts⟩ := FallibleRun.run_simulates State.reduceUpdate
    (fun state _ hcommits => state.reduceUpdate_of_not_commits hcommits) h
  have hend : next.amounts =
      EventRun.run update (this.amounts.1, this.amounts.2) (reportedAmounts updates) := hamounts
  have hsurvives := PendingEdit.survives_run this.amounts.1 this.amounts.2
    (reportedAmounts updates)
  rw [← hend] at hsurvives
  refine ⟨next, hnext, ?_⟩
  constructor <;> simp only [State.pendingChange_eq, Except.ok.injEq,
    StabilityDeposit.changeOfEdit_eq_depositHCHF, StabilityDeposit.changeOfEdit_eq_withdrawHCHF,
    StabilityDeposit.changeOfEdit_eq_withdrawAll, StabilityDeposit.changeOfEdit_eq_none]
  · exact fun amount => hsurvives.raise amount.bigNumber
  · intro amount hlower hmore
    exact hsurvives.lower _ hlower (of_mem_reportedAmounts fun params hmem updated hupdated =>
      lt_def.mp (hmore params hmem updated hupdated))
  · rintro amount ⟨hclear, _⟩ hpos
    have hcleared := hsurvives.clear hclear
      (of_mem_reportedAmounts fun params hmem updated hupdated =>
        lt_def.mp (ne_zero_iff.mp (hpos params hmem updated hupdated)))
    simpa using hcleared
  · exact hsurvives.keep

end StabilityDepositManager

namespace HLQTStake

/-- The change that an edit of a staked amount is. -/
def changeOfEdit (stakedHLQT : Decimal) : Edit Nat → Option (HLQTStakeChange Decimal)
  | .keep => none
  | .raise amount => some (.stakeHLQT ⟨amount⟩)
  | .lower amount => some (.unstakeHLQT ⟨amount⟩ false)
  | .clear => some (.unstakeHLQT stakedHLQT true)

variable {stakedHLQT amount : Decimal} {e : Edit Nat}

theorem changeOfEdit_eq_none : changeOfEdit stakedHLQT e = none ↔ e = .keep := by
  cases e <;> simp [changeOfEdit]

theorem changeOfEdit_eq_stakeHLQT :
    changeOfEdit stakedHLQT e = some (.stakeHLQT amount) ↔ e = .raise amount.bigNumber := by
  cases e <;> simp [changeOfEdit, Decimal.ext_iff]

theorem changeOfEdit_eq_unstakeHLQT :
    changeOfEdit stakedHLQT e = some (.unstakeHLQT amount false) ↔
      e = .lower amount.bigNumber := by
  cases e <;> simp [changeOfEdit, Decimal.ext_iff]

theorem changeOfEdit_eq_unstakeAll :
    changeOfEdit stakedHLQT e = some (.unstakeHLQT amount true) ↔
      e = .clear ∧ amount = stakedHLQT := by
  cases e <;> simp [changeOfEdit, eq_comm]

/-- The difference to an amount is the edit that leads to it. -/
theorem whatChanged_eq (this : HLQTStake) (thatStakedHLQT : Decimal) :
    this.whatChanged thatStakedHLQT = .ok (changeOfEdit this.stakedHLQT
      (edit this.stakedHLQT.bigNumber thatStakedHLQT.bigNumber)) := by
  rcases lt_trichotomy thatStakedHLQT this.stakedHLQT with hlower | hsame | hraise
  · rw [whatChanged, if_pos (lt_iff.mpr hlower), sub_of_le hlower.le]
    by_cases hzero : thatStakedHLQT = zero
    · subst hzero
      rw [edit_eq_clear hlower]
      rfl
    · rw [edit_eq_lower hlower hzero, isZero_eq_false.mpr hzero]
      rfl
  · rw [hsame, whatChanged_self, edit_self]
    rfl
  · rw [whatChanged, if_neg (by simpa using hraise.le), if_pos (gt_iff.mpr hraise),
      sub_of_le hraise.le, edit_eq_raise hraise]
    rfl

/-- Applying the change replays the edit. -/
theorem apply_changeOfEdit (this : HLQTStake) (stakedHLQT : Decimal) (e : Edit Nat) :
    this.apply (changeOfEdit stakedHLQT e) = .ok ⟨e.replay this.stakedHLQT.bigNumber⟩ := by
  cases e with
  | keep => rfl
  | raise amount => rfl
  | lower amount =>
      rw [changeOfEdit, apply, amountLeft_eq]
      rfl
  | clear =>
      rw [changeOfEdit, apply, amountLeft_eq]
      rfl

end HLQTStake

namespace StakingManager

/-- The stake that an update of the store reports. -/
def reportedStake (params : LiquityStoreListenerParams constants E) : Option HLQTStake :=
  (params.stateChange.base .hlqtStake).map Obj.value

namespace State

/-- The pending change. -/
def pendingChange (this : State) : Result (Option (HLQTStakeChange Decimal)) :=
  this.originalStake.whatChanged this.editedLQTY

/-- The reaction to an update of the store. -/
def reduceUpdate (this : State) (params : LiquityStoreListenerParams constants E) :
    Result State :=
  this.reduce (.updateStore params)

/-- The original and the edited amount. -/
def amounts (this : State) : Nat × Nat :=
  (this.originalStake.stakedHLQT.bigNumber, this.editedLQTY.bigNumber)

/-- Every update replays the pending edit. -/
theorem reduceUpdate_ok (this : State) (params : LiquityStoreListenerParams constants E) :
    ∃ next, this.reduceUpdate params = .ok next ∧
      next.amounts = update this.amounts
        ((reportedStake params).map fun updated => updated.stakedHLQT.bigNumber) := by
  obtain ⟨reported, hreported⟩ : ∃ reported, reportedStake params = reported := ⟨_, rfl⟩
  have hreduce : this.reduceUpdate params = this.updateStore reported := by
    rw [← hreported]
    rfl
  rw [hreduce, hreported]
  cases reported with
  | none => exact ⟨this, rfl, rfl⟩
  | some updated =>
      rw [updateStore, HLQTStake.whatChanged_eq, Result.ok_bind, HLQTStake.apply_changeOfEdit]
      exact ⟨_, rfl, rfl⟩

theorem pendingChange_eq (this : State) :
    this.pendingChange = .ok (HLQTStake.changeOfEdit this.originalStake.stakedHLQT
      (edit this.amounts.1 this.amounts.2)) :=
  this.originalStake.whatChanged_eq this.editedLQTY

end State

/-- What is pending survives a run of updates. -/
structure Survives (before after : State)
    (updates : List (LiquityStoreListenerParams constants E)) : Prop where
  stakeHLQT : ∀ amount, before.pendingChange = .ok (some (.stakeHLQT amount)) →
    after.pendingChange = .ok (some (.stakeHLQT amount))
  unstakeHLQT : ∀ amount, before.pendingChange = .ok (some (.unstakeHLQT amount false)) →
    (∀ params ∈ updates, ∀ updated, reportedStake params = some updated →
      amount < updated.stakedHLQT) →
    after.pendingChange = .ok (some (.unstakeHLQT amount false))
  unstakeAllHLQT : ∀ amount, before.pendingChange = .ok (some (.unstakeHLQT amount true)) →
    (∀ params ∈ updates, ∀ updated, reportedStake params = some updated →
      updated.stakedHLQT ≠ zero) →
    after.pendingChange = .ok (some (.unstakeHLQT after.originalStake.stakedHLQT true))
  noChange : before.pendingChange = .ok none → after.pendingChange = .ok none

/-- The amounts that updates report. -/
def reportedAmounts (updates : List (LiquityStoreListenerParams constants E)) :
    List (Option Nat) :=
  updates.map fun params =>
    (reportedStake params).map fun updated => updated.stakedHLQT.bigNumber

/-- A condition on the reported stakes is one on the reported amounts. -/
theorem of_mem_reportedAmounts {updates : List (LiquityStoreListenerParams constants E)}
    {P : Nat → Prop}
    (h : ∀ params ∈ updates, ∀ updated, reportedStake params = some updated →
      P updated.stakedHLQT.bigNumber) :
    ∀ current, some current ∈ reportedAmounts updates → P current := by
  intro current hmem
  obtain ⟨params, hparams, hreported⟩ := List.mem_map.mp hmem
  obtain ⟨updated, hupdated, rfl⟩ := Option.map_eq_some_iff.mp hreported
  exact h params hparams updated hupdated

/-- Updates never throw, and what is pending survives them. -/
theorem State.survives_run (this : State)
    (updates : List (LiquityStoreListenerParams constants E)) :
    ∃ next, FallibleRun.run State.reduceUpdate this updates = .ok next ∧
      Survives this next updates := by
  obtain ⟨next, hnext, hamounts⟩ := FallibleRun.run_simulates State.reduceUpdate
    (fun state params _ => state.reduceUpdate_ok params)
    (FallibleRun.meets_of_forall State.reduceUpdate
      (fun params (_ : params ∈ updates) => trivial) this)
  have hend : next.amounts =
      EventRun.run update (this.amounts.1, this.amounts.2) (reportedAmounts updates) := hamounts
  have hsurvives := PendingEdit.survives_run this.amounts.1 this.amounts.2
    (reportedAmounts updates)
  rw [← hend] at hsurvives
  refine ⟨next, hnext, ?_⟩
  constructor <;> simp only [State.pendingChange_eq, Except.ok.injEq,
    HLQTStake.changeOfEdit_eq_stakeHLQT, HLQTStake.changeOfEdit_eq_unstakeHLQT,
    HLQTStake.changeOfEdit_eq_unstakeAll, HLQTStake.changeOfEdit_eq_none]
  · exact fun amount => hsurvives.raise amount.bigNumber
  · intro amount hlower hmore
    exact hsurvives.lower _ hlower (of_mem_reportedAmounts fun params hmem updated hupdated =>
      lt_def.mp (hmore params hmem updated hupdated))
  · rintro amount ⟨hclear, _⟩ hpos
    have hcleared := hsurvives.clear hclear
      (of_mem_reportedAmounts fun params hmem updated hupdated =>
        lt_def.mp (ne_zero_iff.mp (hpos params hmem updated hupdated)))
    simpa using hcleared
  · exact hsurvives.keep

end StakingManager

/-- In both managers what is pending survives every run of updates that are not the commit of
a pending change, and no update throws. The stake has no pending change that is committed. -/
theorem pendingEdits_survive
    (deposit : StabilityDepositManager.State) (stake : StakingManager.State)
    (updates : List (LiquityStoreListenerParams constants E)) :
    (deposit.Uncommitted updates →
      ∃ next, FallibleRun.run StabilityDepositManager.State.reduceUpdate deposit updates =
          .ok next ∧ StabilityDepositManager.Survives deposit next updates) ∧
    ∃ next, FallibleRun.run StakingManager.State.reduceUpdate stake updates = .ok next ∧
      StakingManager.Survives stake next updates :=
  ⟨deposit.survives_run, stake.survives_run updates⟩

/-- A deposit of 100 HCHF of which 30 HCHF are to be withdrawn. -/
def withdrawing30 : StabilityDepositManager.State :=
  ⟨⟨⟨10000000000⟩, ⟨10000000000⟩, zero, zero, "", by decide⟩, ⟨7000000000⟩, true⟩

/-- A liquidation takes 20 HCHF of the deposit and adds 10 HBAR to its gain. -/
def liquidated20 : LiquityStoreListenerParams defaults TroveManager.noExtraState :=
  let state (index : Nat) (deposit : StabilityDeposit) :
      LiquityStoreState defaults TroveManager.noExtraState :=
    ⟨{ defaultBaseState with stabilityDeposit := ⟨.supplied 0 index, deposit⟩ },
      defaultDerivedState, none⟩
  let before := state 0 ⟨⟨10000000000⟩, ⟨10000000000⟩, zero, zero, "", by decide⟩
  let after := state 1 ⟨⟨10000000000⟩, ⟨8000000000⟩, ⟨1000000000⟩, zero, "", by decide⟩
  ⟨after, before, difference after before⟩

theorem uncommitted_liquidated20 : withdrawing30.Uncommitted [liquidated20, liquidated20] := by
  refine ⟨?_, fun next hnext => ⟨?_, fun _ _ => trivial⟩⟩
  · rintro ⟨updated, hupdated, hcommitted⟩
    cases hupdated
    exact absurd hcommitted (by decide)
  · cases hnext
    rintro ⟨updated, hupdated, hcommitted⟩
    cases hupdated
    exact absurd hcommitted (by decide)

theorem pendingEdits_survive_liquidated20 :
    ∃ next, FallibleRun.run StabilityDepositManager.State.reduceUpdate withdrawing30
        [liquidated20, liquidated20] = .ok next ∧
      next.pendingChange = .ok (some (.withdrawHCHF ⟨3000000000⟩ false)) := by
  obtain ⟨hdeposit, _⟩ := pendingEdits_survive withdrawing30 ⟨⟨zero, zero, zero⟩, zero⟩
    [liquidated20, liquidated20]
  obtain ⟨next, hnext, hsurvives⟩ := hdeposit uncommitted_liquidated20
  refine ⟨next, hnext, hsurvives.withdrawHCHF _ rfl ?_⟩
  intro params hmem updated hupdated
  simp only [List.mem_cons, List.not_mem_nil, or_false, or_self] at hmem
  subst hmem
  cases hupdated
  decide

end HLiquity
