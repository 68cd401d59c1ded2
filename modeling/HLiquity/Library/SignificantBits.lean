import Mathlib.Data.Nat.Log
import Mathlib.Tactic.Ring

/-!
# Numbers of bounded significance

A whole number that is kept with a bounded number of significant bits is rounded
to the nearest multiple of its last significant place, two equally near ones to
the even one. It is kept exactly if it is such a multiple.
-/

namespace SignificantBits

/-- The last significant place of a number. -/
def unit (bits n : Nat) : Nat := 2 ^ (Nat.log2 n + 1 - bits)

/-- The nearest number with a number of significant bits. -/
def nearest (bits n : Nat) : Nat :=
  let unit := unit bits n
  let below := n / unit * unit
  if 2 * (n % unit) < unit ∨ (2 * (n % unit) = unit ∧ n / unit % 2 = 0) then below
  else below + unit

theorem unit_pos (bits n : Nat) : 0 < unit bits n := Nat.two_pow_pos _

/-- A number is kept exactly if its last significant place divides it. -/
theorem nearest_eq_self_iff (bits n : Nat) : nearest bits n = n ↔ unit bits n ∣ n := by
  have hpos := unit_pos bits n
  have hsum := Nat.div_add_mod' n (unit bits n)
  have hlt := Nat.mod_lt n hpos
  rw [Nat.dvd_iff_mod_eq_zero, nearest]
  split <;> omega

/-- Numbers of few enough bits are kept. -/
theorem nearest_of_lt {bits n : Nat} (h : n < 2 ^ bits) : nearest bits n = n := by
  rw [nearest_eq_self_iff]
  rcases Nat.eq_zero_or_pos n with rfl | hpos
  · exact Nat.dvd_zero _
  · have hlog : Nat.log2 n < bits := (Nat.log2_lt hpos.ne').mpr h
    have hone : unit bits n = 1 := by
      rw [unit, Nat.sub_eq_zero_of_le hlog, pow_zero]
    rw [hone]
    exact Nat.one_dvd n

/-- The last significant place is finer for smaller numbers. -/
theorem unit_dvd_unit (bits : Nat) {m n : Nat} (h : m ≤ n) : unit bits m ∣ unit bits n := by
  refine pow_dvd_pow 2 (Nat.sub_le_sub_right (Nat.succ_le_succ ?_) bits)
  rw [Nat.log2_eq_log_two, Nat.log2_eq_log_two]
  exact Nat.log_mono_right h

/-- Below a power of two the last significant place has few trailing bits. -/
theorem unit_dvd_of_lt {bits places n : Nat} (hne : n ≠ 0) (h : n < 2 ^ (bits + places)) :
    unit bits n ∣ 2 ^ places := by
  refine pow_dvd_pow 2 ?_
  have hlog : Nat.log2 n < bits + places := (Nat.log2_lt hne).mpr h
  omega

/-- From a power of two on it has at least as many. -/
theorem dvd_unit_of_le {bits places n : Nat} (h : 2 ^ (bits + places) ≤ n) :
    2 ^ (places + 1) ∣ unit bits n := by
  refine pow_dvd_pow 2 ?_
  have hlog : bits + places ≤ Nat.log2 n :=
    (Nat.le_log2 (Nat.two_pow_pos _ |>.trans_le h).ne').mpr h
  omega

/-- A difference to a multiple of the last significant place is kept. -/
theorem unit_dvd_sub {bits places n d : Nat} (hd : 2 ^ places ∣ d)
    (hlt : n - d < 2 ^ (bits + places)) (hn : unit bits n ∣ n) :
    unit bits (n - d) ∣ n - d := by
  have hfiner : unit bits (n - d) ∣ n := (unit_dvd_unit bits (Nat.sub_le n d)).trans hn
  by_cases hzero : n - d = 0
  · rw [hzero]
    exact Nat.dvd_zero _
  · exact Nat.dvd_sub hfiner ((unit_dvd_of_lt hzero hlt).trans hd)

/-- A difference of less than half a place is lost. -/
theorem nearest_sub_eq_self {bits n d : Nat} (hn : unit bits n ∣ n)
    (h : 2 * d < unit bits (n - d)) (hle : d ≤ n) : nearest bits (n - d) = n := by
  rcases Nat.eq_zero_or_pos d with rfl | hpos
  · exact (nearest_eq_self_iff bits n).mpr hn
  · have hplace : unit bits (n - d) ∣ n := (unit_dvd_unit bits (Nat.sub_le n d)).trans hn
    obtain ⟨quotient, hquotient⟩ := hplace
    generalize hu : unit bits (n - d) = unit at *
    obtain ⟨before, rfl⟩ : ∃ before, quotient = before + 1 := by
      refine Nat.exists_eq_succ_of_ne_zero ?_
      rintro rfl
      omega
    rw [Nat.mul_succ] at hquotient
    -- the difference lies above the middle of its place
    have hsplit : n - d = (unit - d) + unit * before := by omega
    have hmod : (n - d) % unit = unit - d := by
      rw [hsplit, Nat.add_mul_mod_self_left, Nat.mod_eq_of_lt (by omega)]
    have hdiv : (n - d) / unit = before := by
      rw [hsplit, Nat.add_mul_div_left _ _ (by omega), Nat.div_eq_of_lt (by omega), Nat.zero_add]
    rw [nearest, hu, hmod, hdiv, if_neg (by omega), Nat.mul_comm]
    exact hquotient.symm

end SignificantBits
