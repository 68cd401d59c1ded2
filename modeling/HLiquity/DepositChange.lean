import HLiquity.PendingEdits

/-!
# Changes of deposits and stakes

The change that a deposit or a stake computes to an amount leads it to this
amount. Applied to another deposit or stake it takes everything or shifts the
other amount by the same difference.
-/

namespace HLiquity

open Decimal PendingEdit

/-- What a change between two amounts makes of a base: nothing if it withdraws
everything, and otherwise the base shifted by the difference, at least to zero. -/
structure Shifts (base before after amount : Decimal) : Prop where
  zeroed : after = zero → before ≠ zero → amount = zero
  shifted : ¬ (after = zero ∧ before ≠ zero) →
    (amount.bigNumber : ℤ) = max 0 (base.bigNumber + (after.bigNumber - before.bigNumber : ℤ))

/-- Replaying the edit between two amounts shifts the base. -/
theorem shifts_replay (base before after : Decimal) :
    Shifts base before after ⟨(edit before.bigNumber after.bigNumber).replay base.bigNumber⟩ := by
  have hzero : ∀ d : Decimal, d.bigNumber = 0 ↔ d = zero := fun d => Decimal.ext_iff.symm
  constructor
  · intro hafter hbefore
    apply Decimal.ext
    change (edit before.bigNumber after.bigNumber).replay base.bigNumber = 0
    rw [replay_edit, if_pos ⟨(hzero after).mpr hafter, mt (hzero before).mp hbefore⟩]
  · intro hnot
    have hshift : (edit before.bigNumber after.bigNumber).replay base.bigNumber =
        base.bigNumber + after.bigNumber - before.bigNumber := by
      rw [replay_edit, if_neg]
      exact fun h => hnot ⟨(hzero after).mp h.1, mt (hzero before).mpr h.2⟩
    rw [hshift]
    change ((base.bigNumber + after.bigNumber - before.bigNumber : ℕ) : ℤ) = _
    omega

/-- A deposit's change to an amount leads it there. -/
theorem StabilityDeposit.apply_change (s : StabilityDeposit) (x : Decimal) :
    (s.whatChanged x >>= s.apply) = .ok x := by
  rw [s.whatChanged_eq, Result.ok_bind, s.apply_changeOfEdit, replay_edit_self]

/-- A stake's change to an amount leads it there. -/
theorem HLQTStake.apply_change (s : HLQTStake) (x : Decimal) :
    (s.whatChanged x >>= s.apply) = .ok x := by
  rw [s.whatChanged_eq, Result.ok_bind, s.apply_changeOfEdit, replay_edit_self]

/-- The change that a deposit or a stake computes to an amount leads it to the amount
and shifts every other deposit or stake. -/
theorem changes_shift (x : Decimal) :
    (∀ s : StabilityDeposit, (s.whatChanged x >>= s.apply) = .ok x) ∧
    (∀ s t : StabilityDeposit, ∃ change amount, s.whatChanged x = .ok change ∧
      t.apply change = .ok amount ∧ Shifts t.currentHCHF s.currentHCHF x amount) ∧
    (∀ s : HLQTStake, (s.whatChanged x >>= s.apply) = .ok x) ∧
    (∀ s t : HLQTStake, ∃ change amount, s.whatChanged x = .ok change ∧
      t.apply change = .ok amount ∧ Shifts t.stakedHLQT s.stakedHLQT x amount) := by
  refine ⟨fun s => s.apply_change x, ?_, fun s => s.apply_change x, ?_⟩
  · intro s t
    exact ⟨_, _, s.whatChanged_eq x, t.apply_changeOfEdit _ _, shifts_replay _ _ _⟩
  · intro s t
    exact ⟨_, _, s.whatChanged_eq x, t.apply_changeOfEdit _ _, shifts_replay _ _ _⟩

end HLiquity
