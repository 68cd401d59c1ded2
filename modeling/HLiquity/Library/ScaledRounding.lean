import Mathlib.Algebra.Order.Floor.Div
import Mathlib.Order.GaloisConnection.Basic
import Mathlib.Tactic.Ring
import Mathlib.Tactic.Linarith

/-!
# Compensating roundings of a scaled ratio

A quantity is multiplied by the ratio `factor / scale` and rounded down, or
divided by it and rounded up. The two roundings are adjoint, so each error of
one is bounded by a step of the other. When the ratio is at least one the
rounded product separates points and the rounded quotient undoes it exactly.
-/

namespace ScaledRounding

/-- Multiply by `factor / scale`, rounding down. -/
def mulFloor (scale factor x : Nat) : Nat := x * factor / scale

/-- Divide by `factor / scale`, rounding up. -/
def divCeil (scale factor x : Nat) : Nat := x * scale ⌈/⌉ factor

variable {scale factor : Nat}

theorem divCeil_le_iff (hs : 0 < scale) (hf : 0 < factor) (x y : Nat) :
    divCeil scale factor x ≤ y ↔ x ≤ mulFloor scale factor y := by
  rw [divCeil, mulFloor, ceilDiv_le_iff_le_mul hf, Nat.le_div_iff_mul_le hs, Nat.mul_comm factor y]

/-- Rounding a quotient up is left adjoint to rounding the product down. -/
theorem gc_divCeil_mulFloor (hs : 0 < scale) (hf : 0 < factor) :
    GaloisConnection (divCeil scale factor) (mulFloor scale factor) :=
  fun x y => divCeil_le_iff hs hf x y

/-- Dividing and multiplying back never loses any of the quantity. -/
theorem le_mulFloor_divCeil (hs : 0 < scale) (hf : 0 < factor) (x : Nat) :
    x ≤ mulFloor scale factor (divCeil scale factor x) :=
  (gc_divCeil_mulFloor hs hf).le_u_l x

/-- The quotient rounded up exceeds the exact quotient by less than one unit. -/
theorem divCeil_mul_lt (hf : 0 < factor) (x : Nat) :
    divCeil scale factor x * factor < x * scale + factor := by
  have hle : (x * scale + factor - 1) / factor * factor ≤ x * scale + factor - 1 :=
    Nat.div_mul_le_self _ _
  rw [divCeil, Nat.ceilDiv_eq_add_pred_div]
  omega

/-- Dividing and multiplying back overshoots by less than the ratio itself. -/
theorem mulFloor_divCeil_mul_lt (hf : 0 < factor) (x : Nat) :
    mulFloor scale factor (divCeil scale factor x) * scale < x * scale + factor :=
  (Nat.div_mul_le_self _ _).trans_lt (divCeil_mul_lt hf x)

/-- For a ratio below two the overshoot is at most one unit. -/
theorem mulFloor_divCeil_le_succ (hf : 0 < factor) (hlt : factor < 2 * scale) (x : Nat) :
    mulFloor scale factor (divCeil scale factor x) ≤ x + 1 := by
  have h : mulFloor scale factor (divCeil scale factor x) * scale < x * scale + factor :=
    mulFloor_divCeil_mul_lt hf x
  have hlt' : mulFloor scale factor (divCeil scale factor x) * scale < (x + 2) * scale := by
    calc
      _ < x * scale + factor := h
      _ < x * scale + 2 * scale := by omega
      _ = (x + 2) * scale := by ring
  have := Nat.lt_of_mul_lt_mul_right hlt'
  omega

/-- The trivial ratio changes nothing. -/
@[simp] theorem mulFloor_self (hs : 0 < scale) (x : Nat) : mulFloor scale scale x = x :=
  Nat.mul_div_cancel x hs

@[simp] theorem mulFloor_zero : mulFloor scale factor 0 = 0 := by simp [mulFloor]

theorem mulFloor_mono : Monotone (mulFloor scale factor) :=
  fun _ _ h => Nat.div_le_div_right (Nat.mul_le_mul_right factor h)

/-- Multiplying by one more is adding the quantity. -/
theorem mulFloor_add_scale (hs : 0 < scale) (x : Nat) :
    mulFloor scale (scale + factor) x = x + mulFloor scale factor x := by
  unfold mulFloor
  calc x * (scale + factor) / scale
      = (x * factor + x * scale) / scale := by rw [Nat.mul_add, Nat.add_comm]
    _ = x * factor / scale + x := Nat.add_mul_div_right _ _ hs
    _ = x + x * factor / scale := Nat.add_comm _ _

/-- A product rounded down, by the interval of the exact one. -/
theorem mulFloor_eq_iff (hs : 0 < scale) (x y : Nat) :
    mulFloor scale factor x = y ↔ y * scale ≤ x * factor ∧ x * factor < (y + 1) * scale := by
  rw [mulFloor, ← Nat.le_div_iff_mul_le hs, ← Nat.div_lt_iff_lt_mul hs]
  omega

/-- A ratio of at least one never shrinks a quantity. -/
theorem le_mulFloor (hs : 0 < scale) (hle : scale ≤ factor) (x : Nat) :
    x ≤ mulFloor scale factor x :=
  (Nat.le_div_iff_mul_le hs).mpr (Nat.mul_le_mul_left x hle)

/-- A ratio of at least one keeps different quantities apart. -/
theorem mulFloor_strictMono (hs : 0 < scale) (hle : scale ≤ factor) :
    StrictMono (mulFloor scale factor) := by
  refine strictMono_nat_of_lt_succ fun x => ?_
  have hstep : x * factor + scale ≤ (x + 1) * factor := by
    calc
      x * factor + scale ≤ x * factor + factor := by omega
      _ = (x + 1) * factor := by ring
  calc
    mulFloor scale factor x < mulFloor scale factor x + 1 := Nat.lt_succ_self _
    _ = (x * factor + scale) / scale := by rw [mulFloor, Nat.add_div_right _ hs]
    _ ≤ mulFloor scale factor (x + 1) := Nat.div_le_div_right hstep

/-- For a ratio of at least one the rounded quotient undoes the rounded product. -/
theorem divCeil_mulFloor (hs : 0 < scale) (hle : scale ≤ factor) (x : Nat) :
    divCeil scale factor (mulFloor scale factor x) = x := by
  have hgc := gc_divCeil_mulFloor hs (hs.trans_le hle)
  exact (mulFloor_strictMono hs hle).injective (hgc.u_l_u_eq_u x)

theorem divCeil_pos (hs : 0 < scale) (hf : 0 < factor) {x : Nat} (hx : 0 < x) :
    0 < divCeil scale factor x := by
  by_contra h
  have h0 : divCeil scale factor x ≤ 0 := Nat.le_of_not_lt h
  have := (divCeil_le_iff hs hf x 0).mp h0
  simp at this
  omega

/-- What rounding a quotient up adds, as a product with the factor. -/
def excess (scale factor x : Nat) : Nat := divCeil scale factor x * factor - x * scale

theorem mul_add_excess (hf : 0 < factor) (x : Nat) :
    x * scale + excess scale factor x = divCeil scale factor x * factor := by
  have hle : x * scale ≤ factor * divCeil scale factor x :=
    (ceilDiv_le_iff_le_mul hf).mp (le_refl (divCeil scale factor x))
  rw [excess, Nat.mul_comm _ factor]
  omega

/-- A further quantity raises the quotient by what exceeds the last rounding, rounded up. -/
theorem divCeil_add (hf : 0 < factor) (x y : Nat) :
    divCeil scale factor (x + y) =
      divCeil scale factor x + (y * scale - excess scale factor x) ⌈/⌉ factor := by
  have hexcess := @mul_add_excess scale factor hf x
  apply eq_of_forall_ge_iff
  intro bound
  rw [divCeil, ceilDiv_le_iff_le_mul hf, Nat.add_mul]
  rcases Nat.lt_or_ge bound (divCeil scale factor x) with hlt | hle
  · have hless : factor * bound < x * scale := by
      rw [← not_le, ← ceilDiv_le_iff_le_mul hf, not_le]
      exact hlt
    omega
  · obtain ⟨more, rfl⟩ := Nat.exists_eq_add_of_le hle
    rw [Nat.add_le_add_iff_left, ceilDiv_le_iff_le_mul hf, Nat.mul_add,
      Nat.mul_comm factor (divCeil scale factor x), ← hexcess]
    omega

/-- A further quantity raises the product by its own product and the last remainder. -/
theorem mulFloor_add (hs : 0 < scale) (x y : Nat) :
    mulFloor scale factor (x + y) =
      mulFloor scale factor x + (y * factor + x * factor % scale) / scale := by
  have hsplit := Nat.div_add_mod (x * factor) scale
  calc
    mulFloor scale factor (x + y)
        = ((y * factor + x * factor % scale) + scale * (x * factor / scale)) / scale := by
          rw [mulFloor, Nat.add_mul]
          congr 1
          omega
    _ = (y * factor + x * factor % scale) / scale + x * factor / scale :=
          Nat.add_mul_div_left _ _ hs
    _ = mulFloor scale factor x + (y * factor + x * factor % scale) / scale := Nat.add_comm _ _

/-- A rounded product and its remainder, less than one unit. -/
theorem mulFloor_mul_bounds (hs : 0 < scale) (x : Nat) :
    mulFloor scale factor x * scale ≤ x * factor ∧
      x * factor ≤ mulFloor scale factor x * scale + (scale - 1) := by
  have h := (mulFloor_eq_iff hs x (mulFloor scale factor x)).mp rfl
  rw [Nat.add_mul, Nat.one_mul] at h
  omega

/-- Rounding two parts loses at most one unit against rounding their sum. -/
theorem mulFloor_add_bounds (hs : 0 < scale) (x y : Nat) :
    mulFloor scale factor x + mulFloor scale factor y ≤ mulFloor scale factor (x + y) ∧
      mulFloor scale factor (x + y) ≤ mulFloor scale factor x + mulFloor scale factor y + 1 := by
  have hx := (mulFloor_eq_iff hs x (mulFloor scale factor x)).mp rfl
  have hy := (mulFloor_eq_iff hs y (mulFloor scale factor y)).mp rfl
  have hsum := Nat.add_mul x y factor
  simp only [Nat.add_mul, Nat.one_mul] at hx hy
  constructor
  · apply (Nat.le_div_iff_mul_le hs).mpr
    rw [Nat.add_mul]
    omega
  · apply Nat.le_of_lt_succ
    apply (Nat.div_lt_iff_lt_mul hs).mpr
    simp only [Nat.succ_eq_add_one, Nat.add_mul, Nat.one_mul]
    omega

/-- The rounded products of a list add up to the product of the sum, short of it
by less than one unit for each. -/
theorem sum_mulFloor_bounds (hs : 0 < scale) (xs : List Nat) :
    (xs.map (mulFloor scale factor)).sum * scale ≤ xs.sum * factor ∧
      xs.sum * factor ≤
        (xs.map (mulFloor scale factor)).sum * scale + xs.length * (scale - 1) := by
  induction xs with
  | nil => simp
  | cons x xs ih =>
      have hx := @mulFloor_mul_bounds scale factor hs x
      simp only [List.map_cons, List.sum_cons, List.length_cons, Nat.add_mul, Nat.one_mul]
      omega

end ScaledRounding
