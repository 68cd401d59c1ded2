import Mathlib.Algebra.Order.Field.Basic
import Mathlib.Algebra.Order.Group.Abs
import Mathlib.Data.Nat.Cast.Order.Field
import Mathlib.Tactic.FieldSimp
import Mathlib.Tactic.Linarith
import Mathlib.Tactic.Ring

/-!
# Rounding half up

A value is rounded half up to a multiple of a unit that lies within half a unit
of it, the upper one of two that do. The multiple is the nearest one and grows
with the value. Adding half a unit and rounding down computes it.
-/

namespace HalfUp

variable {K : Type*} [Field K] [LinearOrder K] [IsStrictOrderedRing K]

/-- The value is rounded half up to a multiple of the unit. -/
structure Rounds (unit value rounded : K) : Prop where
  multiple : ∃ n : ℕ, rounded = n * unit
  le : rounded ≤ value + unit / 2
  lt : value + unit / 2 < rounded + unit

variable {unit value value' rounded rounded' : K}

/-- The distance is at most half a unit. -/
theorem Rounds.abs_sub_le (h : Rounds unit value rounded) : |value - rounded| ≤ unit / 2 := by
  have hle := h.le
  have hlt := h.lt
  rw [abs_le]
  constructor <;> linarith

/-- A multiple below another one is below it by a unit. -/
theorem add_le_of_lt (hunit : 0 < unit) {m n : ℕ} (h : (m : K) * unit < n * unit) :
    m * unit + unit ≤ n * unit := by
  have hlt : m < n := Nat.cast_lt.mp (lt_of_mul_lt_mul_right h hunit.le)
  have hcast : ((m + 1 : ℕ) : K) ≤ n := Nat.cast_le.mpr hlt
  calc
    (m : K) * unit + unit = ((m + 1 : ℕ) : K) * unit := by push_cast; ring
    _ ≤ n * unit := mul_le_mul_of_nonneg_right hcast hunit.le

/-- No multiple is nearer to the value, and one that is as near is not above. -/
theorem Rounds.nearest (hunit : 0 < unit) (h : Rounds unit value rounded) (n : ℕ) :
    |value - rounded| ≤ |value - n * unit| ∧
      (|value - rounded| = |value - n * unit| → n * unit ≤ rounded) := by
  obtain ⟨m, rfl⟩ := h.multiple
  have hle := h.le
  have hlt := h.lt
  have hhalf := h.abs_sub_le
  rcases lt_trichotomy ((n : K) * unit) (m * unit) with hbelow | hsame | habove
  · -- a multiple below is at least half a unit away
    have hgap := add_le_of_lt hunit hbelow
    have hfar : unit / 2 ≤ |value - n * unit| := by
      calc
        unit / 2 ≤ value - n * unit := by linarith
        _ ≤ |value - n * unit| := le_abs_self _
    exact ⟨hhalf.trans hfar, fun _ => hbelow.le⟩
  · rw [hsame]
    exact ⟨le_refl _, fun _ => le_refl _⟩
  · -- a multiple above is more than half a unit away
    have hgap := add_le_of_lt hunit habove
    have hfar : unit / 2 < |value - n * unit| := by
      calc
        unit / 2 < -(value - n * unit) := by linarith
        _ ≤ |value - n * unit| := neg_le_abs _
    exact ⟨(hhalf.trans_lt hfar).le, fun heq => absurd heq (hhalf.trans_lt hfar).ne⟩

/-- A larger value is not rounded to a smaller multiple. -/
theorem Rounds.mono (hunit : 0 < unit) (h : Rounds unit value rounded)
    (h' : Rounds unit value' rounded') (hle : value ≤ value') : rounded ≤ rounded' := by
  obtain ⟨m, rfl⟩ := h.multiple
  obtain ⟨n, rfl⟩ := h'.multiple
  by_contra hlt
  have hgap := add_le_of_lt hunit (not_le.mp hlt)
  have hupper := h'.lt
  have hlower := h.le
  linarith

/-- A multiple of the unit is rounded to itself. -/
theorem rounds_self (hunit : 0 < unit) (n : ℕ) : Rounds unit ((n : K) * unit) (n * unit) where
  multiple := ⟨n, rfl⟩
  le := by linarith
  lt := by linarith

/-- Adding half a unit and rounding down rounds half up, for a unit that is an even
number of parts. -/
theorem rounds_add_div {parts half x : ℕ} (hparts : 0 < parts) (hhalf : 0 < half) :
    Rounds ((2 * half : ℕ) / parts : K) (x / parts)
      (((x + half) / (2 * half) : ℕ) * ((2 * half : ℕ) / parts)) := by
  have hpos : (0 : K) < parts := Nat.cast_pos.mpr hparts
  have hlow : (((x + half) / (2 * half) * (2 * half) : ℕ) : K) ≤ (x + half : ℕ) :=
    Nat.cast_le.mpr (Nat.div_mul_le_self _ _)
  have hhigh : ((x + half : ℕ) : K) < ((x + half) / (2 * half) * (2 * half) + 2 * half : ℕ) := by
    refine Nat.cast_lt.mpr ?_
    rw [← Nat.succ_mul]
    exact Nat.lt_mul_of_div_lt (Nat.lt_succ_self _) (by omega)
  push_cast at hlow hhigh
  refine ⟨⟨_, rfl⟩, ?_, ?_⟩
  · have hscaled := div_le_div_of_nonneg_right hlow hpos.le
    push_cast
    calc
      (((x + half) / (2 * half) : ℕ) : K) * (2 * half / parts)
          = ((x + half) / (2 * half) : ℕ) * (2 * half) / parts := by ring
      _ ≤ (x + half) / parts := hscaled
      _ = x / parts + 2 * half / parts / 2 := by ring
  · have hscaled := div_lt_div_of_pos_right hhigh hpos
    push_cast
    calc
      (x : K) / parts + 2 * half / parts / 2 = (x + half) / parts := by ring
      _ < (((x + half) / (2 * half) : ℕ) * (2 * half) + 2 * half) / parts := hscaled
      _ = ((x + half) / (2 * half) : ℕ) * (2 * half / parts) + 2 * half / parts := by ring

end HalfUp
