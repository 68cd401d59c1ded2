import Mathlib.Data.List.Basic
import Mathlib.Tactic.Positivity
import Mathlib.Tactic.Ring

/-!
# Texts of decimal digits

A text of digits has a value, and cutting the text after some places rounds a
decimal fraction down. Scaling the cut fraction up again loses exactly the
digits that were cut.
-/

namespace DigitText

/-- The value of a text of digits. -/
def value (text : List Char) : Nat := Nat.ofDigitChars 10 text 0

@[simp] theorem value_nil : value [] = 0 := rfl

theorem value_append (text more : List Char) :
    value (text ++ more) = value text * 10 ^ more.length + value more := by
  rw [value, Nat.ofDigitChars_append, Nat.ofDigitChars_eq_ofDigitChars_zero, Nat.mul_comm]
  rfl

theorem value_cons (c : Char) (text : List Char) :
    value (c :: text) = value [c] * 10 ^ text.length + value text :=
  value_append [c] text

@[simp] theorem value_replicate_zero (n : Nat) : value (List.replicate n '0') = 0 := by
  rw [value, Nat.ofDigitChars_replicate_zero, Nat.mul_zero]

/-- Trailing zeros scale the value. -/
theorem value_append_zeros (text : List Char) {zeros : List Char} (h : ∀ c ∈ zeros, c = '0') :
    value (text ++ zeros) = value text * 10 ^ zeros.length := by
  rw [value_append, List.eq_replicate_of_mem h, value_replicate_zero, Nat.add_zero,
    List.length_replicate]

theorem value_singleton (c : Char) : value [c] = c.toNat - '0'.toNat := by
  simp [value, Nat.ofDigitChars_cons]

/-- A digit is at most nine, and zero only if it is `'0'`. -/
theorem value_digit {c : Char} (h : c.isDigit = true) :
    value [c] ≤ 9 ∧ (value [c] = 0 ↔ c = '0') := by
  have hbounds : 48 ≤ c.toNat ∧ c.toNat ≤ 57 := by
    simp only [Char.isDigit, Bool.and_eq_true, decide_eq_true_eq] at h
    exact h
  rw [value_singleton]
  constructor
  · show c.toNat - 48 ≤ 9
    omega
  · constructor
    · intro hzero
      have : c.toNat = 48 := by
        change c.toNat - 48 = 0 at hzero
        omega
      exact Char.toNat_inj.mp this
    · rintro rfl
      rfl

/-- A text of digits is worth less than a one in the next place. -/
theorem value_lt {text : List Char} (h : ∀ c ∈ text, c.isDigit = true) :
    value text < 10 ^ text.length := by
  induction text with
  | nil => exact Nat.one_pos
  | cons c text ih =>
      have hc := (value_digit (h c List.mem_cons_self)).1
      have htext := ih fun d hd => h d (List.mem_cons_of_mem c hd)
      rw [value_cons, List.length_cons, pow_succ]
      calc
        value [c] * 10 ^ text.length + value text
            < value [c] * 10 ^ text.length + 10 ^ text.length := by omega
        _ = (value [c] + 1) * 10 ^ text.length := by ring
        _ ≤ 10 * 10 ^ text.length := Nat.mul_le_mul_right _ (by omega)
        _ = 10 ^ text.length * 10 := by ring

/-- A text of digits is worth nothing only if all of them are zeros. -/
theorem value_eq_zero_iff {text : List Char} (h : ∀ c ∈ text, c.isDigit = true) :
    value text = 0 ↔ ∀ c ∈ text, c = '0' := by
  induction text with
  | nil => simp
  | cons c text ih =>
      have hc := (value_digit (h c List.mem_cons_self)).2
      have htext := ih fun d hd => h d (List.mem_cons_of_mem c hd)
      rw [value_cons, Nat.add_eq_zero_iff, Nat.mul_eq_zero, htext, hc, List.forall_mem_cons]
      simp

/-- Moving the point of a fraction by some places keeps that many digits. -/
theorem value_mul_div {text : List Char} (h : ∀ c ∈ text, c.isDigit = true) (places : Nat) :
    value text * 10 ^ places / 10 ^ text.length =
      value (text.take places) * 10 ^ (places - text.length) := by
  by_cases hle : text.length ≤ places
  · obtain ⟨more, rfl⟩ := Nat.exists_eq_add_of_le hle
    rw [List.take_of_length_le hle, Nat.add_sub_cancel_left, pow_add, ← mul_assoc,
      mul_right_comm, Nat.mul_div_cancel _ (by positivity)]
  · have hlt : places < text.length := Nat.lt_of_not_le hle
    have hdrop : value (text.drop places) < 10 ^ (text.drop places).length :=
      value_lt fun c hc => h c (List.mem_of_mem_drop hc)
    have hvalue : value text =
        value (text.take places) * 10 ^ (text.drop places).length + value (text.drop places) := by
      rw [← value_append, List.take_append_drop]
    have hpow : 10 ^ text.length = 10 ^ (text.drop places).length * 10 ^ places := by
      rw [← pow_add, List.length_drop, Nat.sub_add_cancel hlt.le]
    rw [Nat.sub_eq_zero_of_le hlt.le, pow_zero, mul_one, hvalue, hpow,
      Nat.mul_div_mul_right _ _ (by positivity), Nat.add_comm,
      Nat.add_mul_div_right _ _ (by positivity), Nat.div_eq_of_lt hdrop, zero_add]

/-- Cutting a fraction before the point is moved loses the digits in between. -/
theorem value_mul_div_add {text : List Char} (h : ∀ c ∈ text, c.isDigit = true)
    (places more : Nat) :
    value text * 10 ^ (places + more) / 10 ^ text.length =
      value text * 10 ^ places / 10 ^ text.length * 10 ^ more +
        value ((text.drop places).take more) * 10 ^ (places + more - text.length) := by
  have htake : text.take (places + more) = text.take places ++ (text.drop places).take more :=
    List.take_add
  rw [value_mul_div h, value_mul_div h, htake, value_append, Nat.add_mul]
  congr 1
  rw [mul_assoc, mul_assoc, ← pow_add, ← pow_add]
  congr 2
  rw [List.length_take, List.length_drop]
  omega

end DigitText
