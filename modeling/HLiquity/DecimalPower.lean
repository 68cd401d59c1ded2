import HLiquity.Decimal
import HLiquity.Library.SquareMultiply

/-!
# The rounded power

The loop of `pow` is the square-and-multiply of the library at the product of
counts of units rounded to nearest. That product is monotone and a factor up to
one never increases it, so the power is monotone in the base and, up to a base
of one, decreasing in the exponent.
-/

namespace HLiquity

namespace Decimal

@[simp] theorem half_bigNumber : half.bigNumber = 50000000 := rfl

/-- A product by one is not rounded. -/
@[simp] theorem roundedMul_digits (x : Nat) : roundedMul x digits = x := by
  have hhalf : half.bigNumber / digits = 0 := by decide
  rw [roundedMul, Nat.add_comm, Nat.add_mul_div_right _ _ digits_pos, hhalf, Nat.zero_add]

theorem roundedMul_mono {x x' y y' : Nat} (hx : x ≤ x') (hy : y ≤ y') :
    roundedMul x y ≤ roundedMul x' y' := by
  apply Nat.div_le_div_right
  apply Nat.add_le_add_right
  exact Nat.mul_le_mul hx hy

/-- A factor up to one never increases a product. -/
theorem roundedMul_le {x : Nat} (y : Nat) (hx : x ≤ digits) : roundedMul x y ≤ y := by
  calc
    roundedMul x y ≤ roundedMul digits y := roundedMul_mono hx (Nat.le_refl y)
    _ = roundedMul y digits := by rw [roundedMul, roundedMul, Nat.mul_comm]
    _ = y := roundedMul_digits y

theorem contracting_roundedMul : SquareMultiply.Contracting roundedMul digits where
  mono := roundedMul_mono
  mul_one := roundedMul_digits
  mul_le := roundedMul_le

/-- The loop of the source is the one of the library. -/
theorem powLoop_eq (x y exponent : Nat) :
    powLoop x y exponent = SquareMultiply.loop roundedMul x y exponent := by
  fun_induction powLoop x y exponent with
  | case1 x y exponent h ih =>
      rw [SquareMultiply.loop, if_pos h]
      exact ih
  | case2 x y exponent h => rw [SquareMultiply.loop, if_neg h]

/-- Up to an exponent of 32 bits the power is the one of the library. -/
theorem pow_eq (a : Decimal) {exponent : Nat} (h : exponent ≤ 0xffffffff) :
    a.pow exponent = .ok ⟨SquareMultiply.pow roundedMul digits a.bigNumber exponent⟩ := by
  have hassert : assert (exponent ≤ 0xffffffff) "0 <= exponent && exponent <= 0xffffffff" =
      .ok () := by simp [assert, h]
  rw [pow, hassert, Result.ok_bind, SquareMultiply.pow]
  by_cases h0 : exponent = 0
  · rw [if_pos h0, if_pos h0]
    rfl
  · rw [if_neg h0, if_neg h0]
    by_cases h1 : exponent = 1
    · subst h1
      rw [if_pos rfl, SquareMultiply.loop_one, roundedMul_digits]
      rfl
    · rw [if_neg h1, powLoop_eq]
      rfl

/-- Up to a base of one, a larger exponent never gives a larger power, and no
power exceeds one. -/
theorem pow_antitone (x : Decimal) (hx : x ≤ one) {m n : Nat} (hmn : m ≤ n)
    (hn : n ≤ 0xffffffff) :
    ∃ powerM powerN, x.pow m = .ok powerM ∧ x.pow n = .ok powerN ∧
      powerN ≤ powerM ∧ powerM ≤ one := by
  have hanti : Antitone (SquareMultiply.pow roundedMul digits x.bigNumber) :=
    contracting_roundedMul.pow_antitone (le_def.mp hx)
  refine ⟨_, _, pow_eq x (hmn.trans hn), pow_eq x hn, le_def.mpr (hanti hmn), ?_⟩
  exact le_def.mpr (hanti (Nat.zero_le m))

/-- The power is monotone in the base and, up to a base of one, decreasing in
the exponent. -/
theorem pow_monotone :
    (∀ x : Decimal, x ≤ one → ∀ m n : Nat, m ≤ n → n ≤ 0xffffffff →
      ∃ powerM powerN, x.pow m = .ok powerM ∧ x.pow n = .ok powerN ∧
        powerN ≤ powerM ∧ powerM ≤ one) ∧
    ∀ x y : Decimal, x ≤ y → ∀ n : Nat, n ≤ 0xffffffff →
      ∃ powerX powerY, x.pow n = .ok powerX ∧ y.pow n = .ok powerY ∧ powerX ≤ powerY := by
  constructor
  · intro x hx m n hmn hn
    exact pow_antitone x hx hmn hn
  · intro x y hxy n hn
    refine ⟨_, _, pow_eq x hn, pow_eq y hn, le_def.mpr ?_⟩
    exact contracting_roundedMul.pow_mono (le_def.mp hxy) n

/-- The decay factor over one hour and one minute more, and the power of half
of it. -/
theorem pow_monotone_hour :
    (∃ hour more, (⟨99903775⟩ : Decimal).pow 60 = .ok hour ∧
      (⟨99903775⟩ : Decimal).pow 61 = .ok more ∧ more ≤ hour ∧ hour ≤ one) ∧
    ∃ powerHalf power, half.pow 60 = .ok powerHalf ∧
      (⟨99903775⟩ : Decimal).pow 60 = .ok power ∧ powerHalf ≤ power :=
  ⟨pow_monotone.1 ⟨99903775⟩ (by decide) 60 61 (by decide) (by decide),
    pow_monotone.2 half ⟨99903775⟩ (by decide) 60 (by decide)⟩

end Decimal

end HLiquity
