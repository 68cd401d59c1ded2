import Mathlib.Data.List.Basic

/-!
# Cells that are read as committed

A dispatch reads the committed value of a cell and writes its successor, so that of several
dispatches between two commits the last one alone counts. The cell is what the dispatches that
count make of its first value, one after the other.
-/

namespace CommittedCell

inductive Act (Event : Type*) where
  | dispatch (event : Event)
  | commit
  deriving DecidableEq, Repr

structure Cell (Value : Type*) where
  value : Value
  committed : Value
  deriving DecidableEq, Repr

variable {Value Event : Type*} (transition : Value → Event → Value)

def act (cell : Cell Value) : Act Event → Cell Value
  | .dispatch event => ⟨transition cell.committed event, cell.committed⟩
  | .commit => ⟨cell.value, cell.value⟩

/-- The dispatches that count, where `last` is that since the last commit. -/
def countedFrom : Option Event → List (Act Event) → List Event
  | last, [] => last.toList
  | _, .dispatch event :: acts => countedFrom (some event) acts
  | last, .commit :: acts => last.toList ++ countedFrom none acts

/-- The last dispatch between any two commits, and the last one of all. -/
def counted (acts : List (Act Event)) : List Event := countedFrom none acts

/-- The value of a cell, where `last` has been dispatched since the last commit. -/
theorem value_foldl_act (committed : Value) (last : Option Event) (acts : List (Act Event)) :
    (acts.foldl (act transition)
      ⟨last.toList.foldl transition committed, committed⟩).value =
        (countedFrom last acts).foldl transition committed := by
  induction acts generalizing committed last with
  | nil => rfl
  | cons first acts ih =>
      cases first with
      | dispatch event => exact ih committed (some event)
      | commit =>
          rw [countedFrom, List.foldl_append]
          exact ih (last.toList.foldl transition committed) none

/-- A cell is what the dispatches that count make of its first value. -/
theorem value_run (value : Value) (acts : List (Act Event)) :
    (acts.foldl (act transition) ⟨value, value⟩).value =
      (counted acts).foldl transition value :=
  value_foldl_act transition value none acts

end CommittedCell
