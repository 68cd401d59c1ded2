import Mathlib.Data.List.Basic

/-!
# Effects with a clean-up

An effect starts an instance, which goes on by itself, and cleans it up before it
starts the next one. An instance is live until it has ended or has been cleaned up.
In a good slot no instance but the current one is live, so that only what the last
start has begun can still do anything.
-/

namespace EffectSlot

/-- The instances that have been started, and the one that has not been cleaned up. -/
structure Slot (α : Type*) where
  instances : List α
  current : Option Nat
  deriving DecidableEq, Repr

variable {α : Type*}

namespace Slot

def empty : Slot α := ⟨[], none⟩

def start (slot : Slot α) (a : α) : Slot α :=
  ⟨slot.instances ++ [a], some slot.instances.length⟩

/-- An instance goes on. -/
def put (slot : Slot α) (number : Nat) (a : α) : Slot α :=
  { slot with instances := slot.instances.set number a }

/-- The clean-up leaves the current instance as `a`. -/
def cleanUp (slot : Slot α) (number : Nat) (a : α) : Slot α :=
  ⟨slot.instances.set number a, none⟩

/-- The current instance. -/
def running (slot : Slot α) : Option α := slot.current.bind fun number => slot.instances[number]?

/-- Only the current instance is live, and it is one that has been started. -/
structure Good (live : α → Bool) (slot : Slot α) : Prop where
  only : ∀ number a, slot.instances[number]? = some a → live a = true →
    slot.current = some number
  started : ∀ number, slot.current = some number → number < slot.instances.length

variable {live : α → Bool} {slot : Slot α} {number : Nat} {a b : α}

theorem good_empty : Good live (empty : Slot α) where
  only number a h := by simp [empty] at h
  started number h := by cases h

@[simp] theorem running_start (slot : Slot α) (a : α) : (slot.start a).running = some a := by
  simp [running, start]

@[simp] theorem running_cleanUp (slot : Slot α) (number : Nat) (a : α) :
    (slot.cleanUp number a).running = none := rfl

/-- The instance that a good slot can do something with is the current one. -/
theorem Good.running_eq (h : Good live slot) (hget : slot.instances[number]? = some a)
    (hlive : live a = true) : slot.running = some a := by
  rw [running, h.only number a hget hlive, Option.bind_some, hget]

/-- A slot without a current instance has no live one. -/
theorem Good.not_live (h : Good live slot) (hcurrent : slot.current = none)
    (hget : slot.instances[number]? = some a) : live a = false := by
  by_contra hlive
  have hsome := h.only number a hget (eq_true_of_ne_false hlive)
  rw [hcurrent] at hsome
  cases hsome

/-- The current instance of a good slot is there. -/
theorem Good.exists_running (h : Good live slot) (hcurrent : slot.current = some number) :
    ∃ a, slot.instances[number]? = some a ∧ slot.running = some a := by
  have hlt := h.started number hcurrent
  refine ⟨slot.instances[number], List.getElem?_eq_getElem hlt, ?_⟩
  rw [running, hcurrent, Option.bind_some, List.getElem?_eq_getElem hlt]

theorem Good.start (h : Good live slot) (hcurrent : slot.current = none) (a : α) :
    Good live (slot.start a) where
  only other b hget hlive := by
    rw [Slot.start, List.getElem?_append] at hget
    split at hget
    · rw [h.not_live hcurrent hget] at hlive
      cases hlive
    · have hlt := (List.getElem?_eq_some_iff.mp hget).1
      rw [List.length_singleton] at hlt
      exact congrArg some (by omega)
  started other hother := by
    rw [← Option.some.inj hother, Slot.start, List.length_append]
    exact Nat.lt_succ_self _

/-- An instance that is over does not begin again. -/
theorem Good.put (h : Good live slot) (hget : slot.instances[number]? = some a)
    (hlive : live b = true → live a = true) : Good live (slot.put number b) where
  only other c hother hc := by
    rw [Slot.put, List.getElem?_set] at hother
    split at hother
    · next heq =>
        subst heq
        split at hother
        · cases hother
          exact h.only number a hget (hlive hc)
        · cases hother
    · exact h.only other c hother hc
  started other hother := by
    rw [Slot.put, List.length_set]
    exact h.started other hother

/-- The clean-up ends the current instance. -/
theorem Good.cleanUp (h : Good live slot) (hcurrent : slot.current = some number)
    (hb : live b = false) : Good live (slot.cleanUp number b) where
  only other c hother hc := by
    rw [Slot.cleanUp, List.getElem?_set] at hother
    split at hother
    · split at hother
      · cases hother
        rw [hb] at hc
        cases hc
      · cases hother
    · next hne =>
        have hsame := h.only other c hother hc
        rw [hcurrent] at hsame
        exact absurd (Option.some.inj hsame) hne
  started other hother := by cases hother

theorem running_put_of_current (h : Good live slot) (hcurrent : slot.current = some number)
    (b : α) : (slot.put number b).running = some b := by
  have hlt := h.started number hcurrent
  simp [running, put, hcurrent, hlt]

theorem running_put_of_ne (hcurrent : slot.current ≠ some number) (b : α) :
    (slot.put number b).running = slot.running := by
  unfold running put
  cases hother : slot.current with
  | none => rfl
  | some other =>
      have hne : number ≠ other := fun heq => hcurrent (heq ▸ hother)
      simp [List.getElem?_set_ne hne]

end Slot

end EffectSlot
