import Mathlib.Logic.Basic

/-!
# Cycles of rounds

A round leads to another round, or it is the last one. A cycle terminates when
finitely many rounds lead to a last one, and it does not when every round of
some invariant leads to another one that has it.
-/

namespace RenderCycle

variable {State : Type*} (round : State → Option State)

/-- The start of the round after `n` rounds, if the cycle has not ended before. -/
def after : Nat → State → Option State
  | 0, state => some state
  | n + 1, state => (round state).bind (after n)

/-- After finitely many rounds there is no other one. -/
def Terminates (state : State) : Prop := ∃ n, after round n state = none

variable {round} {state next : State}

theorem after_succ_of_some (h : round state = some next) (n : Nat) :
    after round (n + 1) state = after round n next := by
  rw [after, h, Option.bind_some]

theorem terminates_of_none (h : round state = none) : Terminates round state :=
  ⟨1, by rw [after, h, Option.bind_none]⟩

theorem terminates_of_some (h : round state = some next) (hnext : Terminates round next) :
    Terminates round state := by
  obtain ⟨n, hn⟩ := hnext
  exact ⟨n + 1, (after_succ_of_some h n).trans hn⟩

/-- A cycle terminates if it does after the round that the first one leads to. -/
theorem terminates_of_forall (h : ∀ next, round state = some next → Terminates round next) :
    Terminates round state := by
  cases hround : round state with
  | none => exact terminates_of_none hround
  | some next => exact terminates_of_some hround (h next hround)

/-- An invariant whose rounds all lead to another one keeps the cycle going. -/
theorem not_terminates {Inv : State → Prop}
    (hround : ∀ state, Inv state → ∃ next, round state = some next ∧ Inv next)
    (h : Inv state) : ¬ Terminates round state := by
  rintro ⟨n, hn⟩
  induction n generalizing state with
  | zero => cases hn
  | succ n ih =>
      obtain ⟨next, hnext, hinv⟩ := hround state h
      rw [after_succ_of_some hnext] at hn
      exact ih hinv hn

end RenderCycle
