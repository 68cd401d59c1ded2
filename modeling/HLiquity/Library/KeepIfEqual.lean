import Mathlib.Data.List.Induction
import Mathlib.Logic.Basic

/-!
# Reducers that keep the old value when the new one is equal

A cell is updated by optional values and keeps its old value whenever an
update equals it. Whatever the equality is, as long as it is reflexive, the
cell is equal to the last value supplied.
-/

namespace KeepIfEqual

variable {α : Type*} (equals : α → α → Bool)

/-- Replace the old value only by a different one. -/
def keep (prev : α) : Option α → α
  | some next => if equals prev next then prev else next
  | none => prev

/-- The last value supplied, or the first value when there is none. -/
def last (first : α) (updates : List (Option α)) : α :=
  updates.foldl (fun value update => update.getD value) first

@[simp] theorem keep_none (prev : α) : keep equals prev none = prev := rfl

/-- What holds of the old value if it equals the new one, and of the new one, holds
of the kept one. -/
theorem keep_induction {motive : α → Prop} {prev next : α}
    (hprev : equals prev next = true → motive prev) (hnext : motive next) :
    motive (keep equals prev (some next)) := by
  by_cases h : equals prev next = true
  · rw [keep, if_pos h]
    exact hprev h
  · rw [keep, if_neg h]
    exact hnext

/-- The kept value equals the supplied one. -/
theorem equals_keep (hrefl : ∀ a, equals a a = true) (prev next : α) :
    equals (keep equals prev (some next)) next = true :=
  keep_induction (motive := fun kept => equals kept next = true) equals id (hrefl next)

/-- The kept value is the old one or the new one. -/
theorem keep_eq_or (prev next : α) :
    keep equals prev (some next) = prev ∨ keep equals prev (some next) = next :=
  keep_induction (motive := fun kept => kept = prev ∨ kept = next) equals
    (fun _ => .inl rfl) (.inr rfl)

/-- A kept value is identical to the old one exactly if the new one equals that, as long
as what is identical is equal. -/
theorem identical_keep {identical : α → α → Bool} (hrefl : ∀ a, identical a a = true)
    {prev next : α} (hequal : identical next prev = true → equals prev next = true) :
    identical (keep equals prev (some next)) prev = equals prev next := by
  by_cases h : equals prev next = true
  · rw [keep, if_pos h, hrefl, h]
  · rw [keep, if_neg h, Bool.eq_iff_iff]
    exact ⟨hequal, fun hequals => absurd hequals h⟩

@[simp] theorem last_nil (first : α) : last first [] = first := rfl

@[simp] theorem last_append (first : α) (updates : List (Option α)) (update : Option α) :
    last first (updates ++ [update]) = update.getD (last first updates) := by
  simp [last]

/-- After any updates the cell equals the last value supplied. -/
theorem equals_foldl_keep (hrefl : ∀ a, equals a a = true) (first : α)
    (updates : List (Option α)) :
    equals (updates.foldl (keep equals) first) (last first updates) = true := by
  induction updates using List.reverseRecOn with
  | nil => exact hrefl first
  | append_singleton updates update ih =>
      rw [List.foldl_append, last_append]
      cases update with
      | none => exact ih
      | some next => exact equals_keep equals hrefl _ next

end KeepIfEqual
