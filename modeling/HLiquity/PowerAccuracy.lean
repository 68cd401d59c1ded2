import HLiquity.DecimalPower
import Mathlib.Data.Rat.Cast.Order
import Mathlib.Tactic.FieldSimp
import Mathlib.Tactic.GCongr
import Mathlib.Tactic.NormNum

/-!
# Accuracy of the rounded power

Near a base of one each square doubles the relative error, but the power decays
as fast, so what a rounded square adds to any later power is its rounding error
divided by the distance of the base from one. While twice the square of that
distance stays below one unit the square is rounded by the distance squared, and
afterwards by half a unit. A potential of the distance sums both regimes.
-/

namespace HLiquity

namespace Decimal

/-- The number that a count of units stands for. -/
def ratio (x : Nat) : ℚ := x / digits

/-- The distance of a base from one. -/
def deficit (x : Nat) : ℚ := 1 - ratio x

/-- Half a unit. -/
def halfUnit : ℚ := 1 / (2 * digits)

theorem digits_cast : (digits : ℚ) = 100000000 := by norm_num [digits, precision]

theorem ratio_nonneg (x : Nat) : 0 ≤ ratio x := by
  unfold ratio
  positivity

theorem ratio_le_one {x : Nat} (h : x ≤ digits) : ratio x ≤ 1 := by
  rw [ratio, digits_cast, div_le_one (by norm_num)]
  have hcast : (x : ℚ) ≤ digits := Nat.cast_le.mpr h
  rwa [digits_cast] at hcast

/-- A product is rounded by at most half a unit. -/
theorem ratio_roundedMul (x y : Nat) :
    |ratio (roundedMul x y) - ratio x * ratio y| ≤ halfUnit := by
  have hdiv := Nat.div_add_mod (x * y + half.bigNumber) digits
  have hmod := Nat.mod_lt (x * y + half.bigNumber) digits_pos
  rw [half_bigNumber] at hdiv hmod
  have hlow : (x * y : ℚ) ≤ 100000000 * roundedMul x y + 50000000 := by
    have hnat : x * y ≤ 100000000 * roundedMul x y + 50000000 := by
      simp only [roundedMul, half_bigNumber]
      simp only [digits, precision] at hdiv hmod ⊢
      omega
    exact_mod_cast hnat
  have hhigh : 100000000 * (roundedMul x y : ℚ) ≤ x * y + 50000000 := by
    have hnat : 100000000 * roundedMul x y ≤ x * y + 50000000 := by
      simp only [roundedMul, half_bigNumber]
      simp only [digits, precision] at hdiv hmod ⊢
      omega
    exact_mod_cast hnat
  have hproduct : ratio x * ratio y = (x * y : ℚ) / 10000000000000000 := by
    rw [ratio, ratio, digits_cast]
    ring
  rw [hproduct, ratio, halfUnit, digits_cast, abs_le]
  constructor
  · linarith
  · linarith

theorem approximates_roundedMul :
    SquareMultiply.Approximates roundedMul ratio (· ≤ digits) halfUnit where
  nonneg := fun _ => ratio_nonneg _
  le_one := ratio_le_one
  small_mul := fun hx hy => (roundedMul_le _ hx).trans hy
  error := fun _ _ => ratio_roundedMul _ _

theorem halfUnit_eq : halfUnit = 1 / 200000000 := by
  rw [halfUnit, digits_cast]
  norm_num

theorem deficit_nonneg {x : Nat} (h : x ≤ digits) : 0 ≤ deficit x :=
  sub_nonneg.mpr (ratio_le_one h)

theorem deficit_le_one (x : Nat) : deficit x ≤ 1 := sub_le_self 1 (ratio_nonneg x)

theorem abs_square_error (x : Nat) :
    |ratio (roundedMul x x) - ratio x ^ 2| ≤ halfUnit := by
  rw [pow_two]
  exact ratio_roundedMul x x

/-- A square is about twice as far from one. -/
theorem deficit_square (x : Nat) :
    2 * deficit x - deficit x ^ 2 - halfUnit ≤ deficit (roundedMul x x) := by
  have herror := (abs_le.mp (abs_square_error x)).2
  unfold deficit at *
  linarith

theorem deficit_le_square {x : Nat} (h : x ≤ digits) :
    deficit x ≤ deficit (roundedMul x x) := by
  have hle : (roundedMul x x : ℚ) ≤ x := Nat.cast_le.mpr (roundedMul_le x h)
  unfold deficit ratio
  rw [digits_cast]
  linarith

/-- Once the square and its rounding keep a gap from one, what the rounding
changes in any power is bounded by the gap. -/
theorem square_error_le {x : Nat} {error gap : ℚ}
    (herror : |ratio (roundedMul x x) - ratio x ^ 2| ≤ error) (hgap : 0 < gap)
    (hexact : gap ≤ 2 * deficit x - deficit x ^ 2) (hrounded : gap ≤ deficit (roundedMul x x))
    (m : Nat) :
    |ratio (roundedMul x x) ^ m - (ratio x ^ 2) ^ m| ≤ error * (1 + 1 / (2 * gap)) := by
  have hfactor : 0 ≤ 1 + 1 / (2 * gap) := by positivity
  have hleft : ratio (roundedMul x x) ≤ 1 - gap := by
    unfold deficit at hrounded
    linarith
  have hright : ratio x ^ 2 ≤ 1 - gap := by
    unfold deficit at hexact
    linarith
  calc
    |ratio (roundedMul x x) ^ m - (ratio x ^ 2) ^ m|
        ≤ |ratio (roundedMul x x) - ratio x ^ 2| * (1 + 1 / (2 * gap)) :=
      SquareMultiply.abs_pow_sub_pow_le_gap (ratio_nonneg _) (pow_nonneg (ratio_nonneg x) 2) hgap
        hleft hright m
    _ ≤ error * (1 + 1 / (2 * gap)) := mul_le_mul_of_nonneg_right herror hfactor

/-- The largest distance whose doubled square stays below one unit. -/
def nearOne : Nat := 7071

theorem deficit_eq {x : Nat} (h : x ≤ digits) : deficit x = (digits - x : Nat) / digits := by
  rw [deficit, ratio, Nat.cast_sub h, sub_div, div_self (by rw [digits_cast]; norm_num)]

/-- Near one a square doubles the distance exactly. -/
theorem roundedMul_near {x : Nat} (h : x ≤ digits) (hnear : digits - x ≤ nearOne) :
    roundedMul x x = digits - 2 * (digits - x) := by
  have hsquare : (digits - x) * (digits - x) ≤ nearOne * nearOne := Nat.mul_le_mul hnear hnear
  have hsmall : (digits - x) * (digits - x) + half.bigNumber < digits := by
    rw [half_bigNumber]
    simp only [nearOne, digits, precision] at hsquare ⊢
    omega
  have htwice : 2 * (digits - x) ≤ digits := by
    simp only [nearOne, digits, precision] at hnear ⊢
    omega
  obtain ⟨k, hk⟩ : ∃ k, x + k = digits := ⟨digits - x, by omega⟩
  obtain ⟨r, hr⟩ : ∃ r, 2 * k + r = digits := ⟨digits - 2 * k, by omega⟩
  have hdiff : digits - x = k := by omega
  rw [hdiff] at hsmall ⊢
  have hproduct : x * x + half.bigNumber = k * k + half.bigNumber + r * digits := by
    have hx : x = k + r := by omega
    rw [hx, ← hr]
    ring
  rw [roundedMul, hproduct, Nat.add_mul_div_right _ _ digits_pos, Nat.div_eq_of_lt hsmall]
  omega

theorem deficit_near {x : Nat} (h : x ≤ digits) (hnear : digits - x ≤ nearOne) :
    deficit (roundedMul x x) = 2 * deficit x := by
  have hle : roundedMul x x ≤ digits := (roundedMul_le x h).trans h
  have htwice : digits - roundedMul x x = 2 * (digits - x) := by
    rw [roundedMul_near h hnear]
    simp only [nearOne, digits, precision] at hnear ⊢
    omega
  rw [deficit_eq hle, deficit_eq h, htwice]
  push_cast
  ring

theorem deficit_le_of_near {x : Nat} (h : x ≤ digits) (hnear : digits - x ≤ nearOne) :
    deficit x ≤ 7071 / 100000000 := by
  have hcast : ((digits - x : Nat) : ℚ) ≤ (7071 : Nat) := Nat.cast_le.mpr hnear
  rw [deficit_eq h, digits_cast]
  push_cast at hcast ⊢
  linarith

theorem deficit_ge_of_far {x : Nat} (h : x ≤ digits) (hfar : nearOne < digits - x) :
    7072 / 100000000 ≤ deficit x := by
  have hcast : ((7072 : Nat) : ℚ) ≤ (digits - x : Nat) := Nat.cast_le.mpr hfar
  rw [deficit_eq h, digits_cast]
  push_cast at hcast ⊢
  linarith

/-- Near one the rounding error is the squared distance. -/
theorem near_error {x : Nat} (h : x ≤ digits) (hnear : digits - x ≤ nearOne) (m : Nat) :
    |ratio (roundedMul x x) ^ m - (ratio x ^ 2) ^ m| ≤ 2502 / 10000 * deficit x := by
  have hdouble := deficit_near h hnear
  have hsmall := deficit_le_of_near h hnear
  rcases (deficit_nonneg h).eq_or_lt with hzero | hpos
  · have hone : ratio x = 1 := by unfold deficit at hzero; linarith
    have hone' : ratio (roundedMul x x) = 1 := by
      rw [← hzero] at hdouble
      unfold deficit at hdouble
      linarith
    rw [hone, hone', ← hzero]
    simp
  · have hround : |ratio (roundedMul x x) - ratio x ^ 2| ≤ deficit x ^ 2 := by
      have hexact : ratio (roundedMul x x) - ratio x ^ 2 = -deficit x ^ 2 := by
        unfold deficit at hdouble ⊢
        linarith
      rw [hexact, abs_neg, abs_of_nonneg (sq_nonneg _)]
    have hgap : 1999 / 1000 * deficit x ≤ 2 * deficit x - deficit x ^ 2 := by nlinarith
    calc
      |ratio (roundedMul x x) ^ m - (ratio x ^ 2) ^ m|
          ≤ deficit x ^ 2 * (1 + 1 / (2 * (1999 / 1000 * deficit x))) :=
        square_error_le hround (by positivity) hgap (by linarith) m
      _ = deficit x ^ 2 + 1000 / 3998 * deficit x := by
        field_simp
        ring
      _ ≤ 2502 / 10000 * deficit x := by nlinarith

/-- Further away it is half a unit, and a power decays with the distance. -/
theorem far_error {x : Nat} (h : x ≤ digits) (hfar : nearOne < digits - x)
    (hquarter : deficit x ≤ 1 / 4) (m : Nat) :
    |ratio (roundedMul x x) ^ m - (ratio x ^ 2) ^ m| ≤
      halfUnit + 144 / 1000 / (100000000 * deficit x) := by
  have hlarge := deficit_ge_of_far h hfar
  have hpos : 0 < deficit x := by linarith
  have hsquare := deficit_square x
  rw [halfUnit_eq] at hsquare ⊢
  have hgap : 174 / 100 * deficit x + 1 / 200000000 ≤ 2 * deficit x - deficit x ^ 2 := by nlinarith
  calc
    |ratio (roundedMul x x) ^ m - (ratio x ^ 2) ^ m|
        ≤ 1 / 200000000 * (1 + 1 / (2 * (174 / 100 * deficit x))) :=
      square_error_le (halfUnit_eq ▸ abs_square_error x) (by positivity) (by linarith)
        (by linarith) m
    _ = 1 / 200000000 + 50 / 348 / (100000000 * deficit x) := by
      field_simp
      ring
    _ ≤ 1 / 200000000 + 144 / 1000 / (100000000 * deficit x) := by
      have hconstant : (50 / 348 : ℚ) ≤ 144 / 1000 := by norm_num
      apply add_le_add_right
      exact div_le_div_of_nonneg_right hconstant (by positivity)

/-- Far from one the error of a square is not amplified. -/
theorem decayed_error {x : Nat} (hquarter : 1 / 4 ≤ deficit x) (m : Nat) :
    |ratio (roundedMul x x) ^ m - (ratio x ^ 2) ^ m| ≤ 4 * halfUnit := by
  have hsquare := deficit_square x
  have hone := deficit_le_one x
  rw [halfUnit_eq] at hsquare ⊢
  have hexact : 1 / 4 ≤ 2 * deficit x - deficit x ^ 2 := by nlinarith
  calc
    |ratio (roundedMul x x) ^ m - (ratio x ^ 2) ^ m|
        ≤ 1 / 200000000 * (1 + 1 / (2 * (6 / 25))) :=
      square_error_le (halfUnit_eq ▸ abs_square_error x) (by norm_num) (by linarith)
        (by linarith) m
    _ ≤ 4 * (1 / 200000000) := by norm_num

/-- Near one the errors still to come grow with the distance up to the change of
regime; from there they shrink with its inverse. -/
def potential (x : Nat) : ℚ :=
  if digits - x ≤ nearOne then 93 / 1000000 - 26 / 100 * deficit x
  else 4 / 10 / (100000000 * deficit x)

theorem potential_near {x : Nat} (hnear : digits - x ≤ nearOne) :
    potential x = 93 / 1000000 - 26 / 100 * deficit x := if_pos hnear

theorem potential_far {x : Nat} (hfar : nearOne < digits - x) :
    potential x = 4 / 10 / (100000000 * deficit x) := if_neg (by omega)

theorem potential_le {x : Nat} (h : x ≤ digits) : potential x ≤ 93 / 1000000 := by
  rcases Nat.lt_or_ge nearOne (digits - x) with hfar | hnear
  · have hlarge := deficit_ge_of_far h hfar
    rw [potential_far hfar, div_le_iff₀ (by linarith)]
    linarith
  · have hnonneg := deficit_nonneg h
    rw [potential_near hnear]
    linarith

theorem potential_nonneg {x : Nat} (h : x ≤ digits) : 0 ≤ potential x := by
  rcases Nat.lt_or_ge nearOne (digits - x) with hfar | hnear
  · have hlarge := deficit_ge_of_far h hfar
    rw [potential_far hfar]
    positivity
  · have hsmall := deficit_le_of_near h hnear
    rw [potential_near hnear]
    linarith

/-- The distance of a square is at least `gap`, so its inverse has shrunk. -/
theorem potential_square_le {x : Nat} {gap : ℚ} (hgap : 0 < gap)
    (hfar : nearOne < digits - roundedMul x x) (hle : gap ≤ deficit (roundedMul x x)) :
    potential (roundedMul x x) ≤ 4 / 10 / (100000000 * gap) := by
  rw [potential_far hfar]
  gcongr

theorem far_square {x : Nat} (h : x ≤ digits) (hfar : nearOne < digits - x) :
    nearOne < digits - roundedMul x x := by
  have hle := roundedMul_le x h
  omega

/-- Near one the potential pays for the error and for the doubled distance. -/
theorem near_pays {x : Nat} (h : x ≤ digits) (hnear : digits - x ≤ nearOne) (m : Nat) :
    |ratio (roundedMul x x) ^ m - (ratio x ^ 2) ^ m| + potential (roundedMul x x) ≤
      potential x := by
  have herror := near_error h hnear m
  have hdouble := deficit_near h hnear
  have hsmall := deficit_le_of_near h hnear
  rw [potential_near hnear]
  rcases Nat.lt_or_ge nearOne (digits - roundedMul x x) with hfar | hstill
  · have hlarge := deficit_ge_of_far ((roundedMul_le x h).trans h) hfar
    have hpotential : potential (roundedMul x x) ≤ 4 / 10 / (100000000 * (7072 / 100000000)) :=
      potential_square_le (by norm_num) hfar hlarge
    have hvalue : (4 / 10 / (100000000 * (7072 / 100000000)) : ℚ) ≤ 567 / 10000000 := by norm_num
    linarith
  · have hnonneg := deficit_nonneg h
    rw [potential_near hstill, hdouble]
    linarith

/-- Further away it pays for the error from what the distance has grown by. -/
theorem far_pays {x : Nat} (h : x ≤ digits) (hfar : nearOne < digits - x) (m : Nat) :
    |ratio (roundedMul x x) ^ m - (ratio x ^ 2) ^ m| + potential (roundedMul x x) ≤
      potential x + 4 * halfUnit := by
  have hlarge := deficit_ge_of_far h hfar
  have hpos : 0 < deficit x := by linarith
  have hhalf : 0 < halfUnit := by rw [halfUnit_eq]; norm_num
  rcases le_or_gt (deficit x) (1 / 4) with hquarter | hquarter
  · have herror := far_error h hfar hquarter m
    have hsquare := deficit_square x
    have hgap : 174 / 100 * deficit x ≤ deficit (roundedMul x x) := by
      rw [halfUnit_eq] at hsquare
      nlinarith
    have hpotential := potential_square_le (by positivity) (far_square h hfar) hgap
    have hsum : 144 / 1000 / (100000000 * deficit x) +
          4 / 10 / (100000000 * (174 / 100 * deficit x)) ≤
        4 / 10 / (100000000 * deficit x) := by
      have hcommon : 144 / 1000 / (100000000 * deficit x) +
            4 / 10 / (100000000 * (174 / 100 * deficit x)) =
          (144 / 1000 + 4 / 10 * (100 / 174)) / (100000000 * deficit x) := by
        field_simp
      rw [hcommon]
      gcongr
      norm_num
    rw [potential_far hfar]
    linarith
  · have herror := @decayed_error x hquarter.le m
    have hpotential := potential_square_le hpos (far_square h hfar) (deficit_le_square h)
    rw [potential_far hfar]
    linarith

theorem pays_potential :
    SquareMultiply.Pays roundedMul ratio (· ≤ digits) potential (4 * halfUnit) where
  nonneg := potential_nonneg
  slack_nonneg := by rw [halfUnit_eq]; norm_num
  square := by
    intro x hx m _
    rcases Nat.lt_or_ge nearOne (digits - x) with hfar | hnear
    · exact far_pays hx hfar m
    · have hnear := near_pays hx hnear m
      have hslack : 0 ≤ 4 * halfUnit := by rw [halfUnit_eq]; norm_num
      linarith

/-- The power of a base up to one is within four decimal places of the exact
power, whatever its exponent. -/
theorem pow_accurate (x : Decimal) (hx : x ≤ one) (n : Nat) (hn : n ≤ 0xffffffff) :
    ∃ power, x.pow n = .ok power ∧
      |(power.bigNumber : ℚ) / digits - ((x.bigNumber : ℚ) / digits) ^ n| < 1 / 10 ^ 4 := by
  refine ⟨_, pow_eq x hn, ?_⟩
  have hbase : x.bigNumber ≤ digits := le_def.mp hx
  have hone : ratio digits = 1 := by rw [ratio, digits_cast]; norm_num
  change |ratio (SquareMultiply.pow roundedMul digits x.bigNumber n) -
    ratio x.bigNumber ^ n| < 1 / 10 ^ 4
  rcases Nat.eq_zero_or_pos n with rfl | hpos
  · rw [SquareMultiply.pow, if_pos rfl, hone]
    norm_num
  · have hbits : n < 2 ^ (31 + 1) := by omega
    have herror := SquareMultiply.abs_loop_sub_le approximates_roundedMul pays_potential hpos
      hbits hbase (Nat.le_refl digits)
    have hpotential := potential_le hbase
    rw [hone, mul_one, halfUnit_eq] at herror
    rw [SquareMultiply.pow, if_neg (by omega)]
    refine herror.trans_lt ?_
    norm_num
    linarith

/-- The decay factor over the minutes of one day. -/
theorem pow_accurate_day :
    ∃ power, (⟨99903775⟩ : Decimal).pow 1440 = .ok power ∧
      |(power.bigNumber : ℚ) / digits - ((99903775 : ℚ) / digits) ^ 1440| < 1 / 10 ^ 4 := by
  exact_mod_cast pow_accurate ⟨99903775⟩ (by decide) 1440 (by decide)

end Decimal

end HLiquity
