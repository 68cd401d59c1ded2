import HLiquity.Library.EventRun
import Mathlib.Algebra.Group.Defs
import Mathlib.Order.Lattice

/-!
# Shifts of an amount that changes underneath

What is pending is a shift of a current amount. When another amount is reported, the shift is
kept if it leaves something of that amount, and dropped otherwise. Once dropped it stays so.
-/

namespace PendingShift

variable {α : Type*} [AddZeroClass α] [LinearOrder α]

/-- A current amount and the shift that is pending for it. -/
structure Pending (α : Type*) where
  current : α
  shift : α

/-- A shift downwards leaves something. -/
def Fits (shift current : α) : Prop := 0 ≤ shift ∨ 0 < current + shift

instance (shift current : α) : Decidable (Fits shift current) :=
  inferInstanceAs (Decidable (_ ∨ _))

/-- What becomes of a shift when an amount is reported. -/
def report (this : Pending α) (current : α) : Pending α where
  current := current
  shift := if current = this.current ∨ Fits this.shift current then this.shift else 0

/-- A shift fits every reported amount that differs from the one before. -/
def Kept (this : Pending α) (reports : List α) : Prop :=
  EventRun.Meets report
    (fun state current => current = state.current ∨ Fits this.shift current) this reports

instance (this : Pending α) (reports : List α) : Decidable (Kept this reports) :=
  inferInstanceAs (Decidable (EventRun.Meets _ _ _ _))

theorem report_of_keeps {this : Pending α} {current : α}
    (h : current = this.current ∨ Fits this.shift current) :
    report this current = ⟨current, this.shift⟩ := by
  rw [report, if_pos h]

theorem report_of_drops {this : Pending α} {current : α}
    (h : ¬(current = this.current ∨ Fits this.shift current)) :
    report this current = ⟨current, 0⟩ := by
  rw [report, if_neg h]

/-- Nothing is pending after nothing has been. -/
theorem shift_run_zero (current : α) (reports : List α) :
    (EventRun.run report ⟨current, 0⟩ reports).shift = 0 := by
  have hstep (state : Pending α) (reported : α) (h : state.shift = 0) :
      (report state reported).shift = 0 := by
    rw [report, h, ite_self]
  exact EventRun.run_invariant report hstep rfl reports

/-- A shift is pending after a run of reports if it fits all of them, and nothing is otherwise. -/
theorem shift_run (this : Pending α) (reports : List α) :
    (EventRun.run report this reports).shift = if Kept this reports then this.shift else 0 := by
  induction reports generalizing this with
  | nil => exact (if_pos trivial).symm
  | cons current reports ih =>
      rw [EventRun.run_cons]
      by_cases hkeeps : current = this.current ∨ Fits this.shift current
      · have hkept : Kept this (current :: reports) ↔ Kept (report this current) reports := by
          rw [Kept, EventRun.Meets, Kept, report_of_keeps hkeeps]
          exact and_iff_right hkeeps
        rw [ih, if_congr hkept rfl rfl, report_of_keeps hkeeps]
      · rw [report_of_drops hkeeps, shift_run_zero, if_neg fun hkept => hkeeps hkept.1]

end PendingShift
