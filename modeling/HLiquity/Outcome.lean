import Mathlib.Logic.Basic

/-!
# Outcomes of source calls

A call of the source returns a value or throws. A throw is either an `Error`
with a message or a failed assertion. A method that assigns fields of its
object keeps the assignments made before a throw, so its outcome carries the
object's state on both paths.
-/

namespace HLiquity

/-- What a call of the source throws. -/
inductive Failure where
  | error (message : String)
  | assertion (condition : String)
  deriving DecidableEq, Repr

/-- The outcome of a function without side effects. -/
abbrev Result (α : Type) := Except Failure α

namespace Result

variable {α β : Type}

@[simp] theorem ok_bind (a : α) (f : α → Result β) : (Except.ok a >>= f) = f a := rfl

@[simp] theorem error_bind (e : Failure) (f : α → Result β) :
    ((Except.error e : Result α) >>= f) = Except.error e := rfl

@[simp] theorem pure_eq (a : α) : (pure a : Result α) = Except.ok a := rfl

@[simp] theorem throw_eq (e : Failure) : (throw e : Result α) = Except.error e := rfl

/-- A sequence of two calls returns exactly when both do. -/
theorem bind_eq_ok {x : Result α} {f : α → Result β} {b : β} :
    (x >>= f) = Except.ok b ↔ ∃ a, x = Except.ok a ∧ f a = Except.ok b := by
  cases x with
  | error e => simp
  | ok a => simp

/-- A sequence of two calls throws when the first does, or else the second. -/
theorem bind_eq_error {x : Result α} {f : α → Result β} {e : Failure} :
    (x >>= f) = Except.error e ↔
      x = Except.error e ∨ ∃ a, x = Except.ok a ∧ f a = Except.error e := by
  cases x with
  | error e => simp
  | ok a => simp

end Result

/-- `assert(condition)`, with the text of the asserted expression. -/
def assert (condition : Bool) (text : String) : Result Unit :=
  if condition then .ok () else .error (.assertion text)

@[simp] theorem assert_true (text : String) : assert true text = .ok () := rfl

@[simp] theorem assert_false (text : String) :
    assert false text = .error (.assertion text) := rfl

end HLiquity
