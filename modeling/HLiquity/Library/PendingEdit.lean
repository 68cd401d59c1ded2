import HLiquity.Library.EventRun
import Mathlib.Algebra.Order.Sub.Basic
import Mathlib.Algebra.Order.Monoid.Canonical.Defs

/-!
# Edits of an amount that changes underneath

An editor holds an original amount and an edited one. What is pending is the
edit between the two. When another amount is reported the pending edit is
replayed on it. Replayed on an amount that it fits, an edit stays the same edit,
so it stays the same over every run of reports.
-/

namespace PendingEdit

variable {α : Type*}

/-- An edit of an amount: raise it, lower it to something, clear it, or nothing. -/
inductive Edit (α : Type*) where
  | keep
  | raise (amount : α)
  | lower (amount : α)
  | clear
  deriving DecidableEq, Repr

section Replay

variable [AddCommMonoid α] [Sub α]

/-- The edited amount that an edit makes of an amount. -/
def Edit.replay (current : α) : Edit α → α
  | keep => current
  | raise amount => current + amount
  | lower amount => current - amount
  | clear => 0

variable [LinearOrder α]

/-- The edit that leads from one amount to another. -/
def edit (original edited : α) : Edit α :=
  if edited < original then
    if edited = 0 then .clear else .lower (original - edited)
  else if original < edited then .raise (edited - original)
  else .keep

/-- Lowering an amount leaves something of it, and clearing it takes something. -/
def Edit.Fits (current : α) : Edit α → Prop
  | keep | raise _ => True
  | lower amount => amount < current
  | clear => 0 < current

/-- The reaction of an editor, an original and an edited amount, to an update that
reports another amount or none. -/
def update (state : α × α) : Option α → α × α
  | none => state
  | some current => (current, (edit state.1 state.2).replay current)

end Replay

variable [AddCommMonoid α] [LinearOrder α] [Sub α]

@[simp] theorem edit_self (original : α) : edit original original = .keep := by
  simp [edit]

theorem edit_of_lt {original edited : α} (h : original < edited) :
    edit original edited = .raise (edited - original) := by
  rw [edit, if_neg h.not_gt, if_pos h]

theorem edit_zero {original : α} (h : 0 < original) : edit original 0 = .clear := by
  rw [edit, if_pos h, if_pos rfl]

theorem edit_of_gt {original edited : α} (hlt : edited < original) (hne : edited ≠ 0) :
    edit original edited = .lower (original - edited) := by
  rw [edit, if_pos hlt, if_neg hne]

section Preserved

variable [IsOrderedCancelAddMonoid α] [CanonicallyOrderedAdd α] [OrderedSub α]

/-- The edit between two amounts, replayed on an amount that it fits, is the edit again. -/
theorem edit_replay (original edited : α) {current : α}
    (h : (edit original edited).Fits current) :
    edit current ((edit original edited).replay current) = edit original edited := by
  rcases lt_trichotomy edited original with hlower | hsame | hraise
  · by_cases hzero : edited = 0
    · subst hzero
      rw [edit_zero hlower] at h ⊢
      exact edit_zero h
    · rw [edit_of_gt hlower hzero] at h ⊢
      have hlt : original - edited < current := h
      have hpos : 0 < original - edited := tsub_pos_of_lt hlower
      have hless : current - (original - edited) < current :=
        tsub_lt_self (hpos.trans hlt) hpos
      have hleft : current - (original - edited) ≠ 0 := (tsub_pos_of_lt hlt).ne'
      rw [Edit.replay, edit_of_gt hless hleft, tsub_tsub_cancel_of_le hlt.le]
  · subst hsame
    rw [edit_self]
    exact edit_self current
  · rw [edit_of_lt hraise]
    have hpos : 0 < edited - original := tsub_pos_of_lt hraise
    have hmore : current < current + (edited - original) := lt_add_of_pos_right current hpos
    rw [Edit.replay, edit_of_lt hmore, add_tsub_cancel_left]

/-- An edit leads from the original amount to the edited one. -/
theorem replay_edit_self (original edited : α) :
    (edit original edited).replay original = edited := by
  rcases lt_trichotomy edited original with hlower | hsame | hraise
  · by_cases hzero : edited = 0
    · subst hzero
      rw [edit_zero hlower]
      rfl
    · rw [edit_of_gt hlower hzero]
      exact tsub_tsub_cancel_of_le hlower.le
  · rw [hsame, edit_self]
    rfl
  · rw [edit_of_lt hraise]
    exact add_tsub_cancel_of_le hraise.le

/-- An edit clears every amount or shifts it by the edited difference, at least to
zero. -/
theorem replay_edit (original edited current : α) :
    (edit original edited).replay current =
      if edited = 0 ∧ original ≠ 0 then 0 else current + edited - original := by
  rcases lt_trichotomy edited original with hlower | hsame | hraise
  · by_cases hzero : edited = 0
    · subst hzero
      rw [edit_zero hlower, if_pos ⟨rfl, hlower.ne'⟩]
      rfl
    · rw [edit_of_gt hlower hzero, if_neg fun h => hzero h.1]
      exact tsub_tsub_eq_add_tsub_of_le hlower.le
  · subst hsame
    rw [edit_self, if_neg fun h => h.2 h.1, add_tsub_cancel_right]
    rfl
  · have hpositive : edited ≠ 0 := (pos_of_gt hraise).ne'
    rw [edit_of_lt hraise, if_neg fun h => hpositive h.1]
    exact (add_tsub_assoc_of_le hraise.le current).symm

/-- What is pending stays pending over every run of updates whose amounts it fits. -/
theorem edit_run {original edited : α} {updates : List (Option α)}
    (h : ∀ current, some current ∈ updates → (edit original edited).Fits current) :
    edit (EventRun.run update (original, edited) updates).1
      (EventRun.run update (original, edited) updates).2 = edit original edited := by
  have hstep : ∀ (state : α × α) (reported : Option α),
      edit state.1 state.2 = edit original edited →
      (∀ current, reported = some current → (edit original edited).Fits current) →
      edit (update state reported).1 (update state reported).2 = edit original edited := by
    intro state reported hstate hfits
    cases reported with
    | none => exact hstate
    | some current =>
        have hfit := hfits current rfl
        rw [← hstate] at hfit ⊢
        exact edit_replay state.1 state.2 hfit
  have hmeets : ∀ reported ∈ updates, ∀ current, reported = some current →
      (edit original edited).Fits current := by
    rintro reported hmem current rfl
    exact h current hmem
  have hrun := @EventRun.run_invariant_of_meets _ _ update _
    (fun state => edit state.1 state.2 = edit original edited) hstep (original, edited) rfl updates
  exact hrun (EventRun.meets_of_forall update hmeets _)

/-- What a run of updates keeps of each kind of edit. -/
structure Survives (before after : Edit α) (updates : List (Option α)) : Prop where
  keep : before = .keep → after = .keep
  raise : ∀ amount, before = .raise amount → after = .raise amount
  lower : ∀ amount, before = .lower amount →
    (∀ current, some current ∈ updates → amount < current) → after = .lower amount
  clear : before = .clear → (∀ current, some current ∈ updates → 0 < current) → after = .clear

theorem survives_run (original edited : α) (updates : List (Option α)) :
    Survives (edit original edited)
      (edit (EventRun.run update (original, edited) updates).1
        (EventRun.run update (original, edited) updates).2) updates := by
  constructor
  · intro hkeep
    exact (edit_run fun current _ => hkeep ▸ trivial).trans hkeep
  · intro amount hraise
    exact (edit_run fun current _ => hraise ▸ trivial).trans hraise
  · intro amount hlower hmore
    exact (edit_run fun current hmem => hlower ▸ hmore current hmem).trans hlower
  · intro hclear hpos
    exact (edit_run fun current hmem => hclear ▸ hpos current hmem).trans hclear

end Preserved

end PendingEdit
