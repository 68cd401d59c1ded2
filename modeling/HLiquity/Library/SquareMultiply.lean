import Mathlib.Algebra.Order.Field.Basic
import Mathlib.Algebra.Order.Ring.Abs
import Mathlib.Order.Monotone.Basic
import Mathlib.Tactic.Linarith
import Mathlib.Tactic.Positivity
import Mathlib.Tactic.Ring

/-!
# Square-and-multiply over a rounded product

The loop scans the exponent from its lowest bit, squaring `x` and multiplying
`y` by it at every set bit. The product need not be associative. When it is
monotone and never increases its second argument, the computed power decreases
in the exponent. When it approximates an exact product, the error of the power
is bounded by a potential of the base that pays for each rounded square.
-/

namespace SquareMultiply

variable {α : Type*}

/-- Square `x` while the exponent is halved. -/
def loop (mul : α → α → α) (x y : α) (exponent : Nat) : α :=
  if 1 < exponent then
    loop mul (mul x x) (if exponent % 2 = 1 then mul x y else y) (exponent / 2)
  else mul x y
  termination_by exponent
  decreasing_by omega

variable {mul : α → α → α}

@[simp] theorem loop_one (x y : α) : loop mul x y 1 = mul x y := by
  rw [loop, if_neg (by omega)]

/-- A clear bit only squares. -/
theorem loop_even {k : Nat} (hk : 1 ≤ k) (x y : α) :
    loop mul x y (2 * k) = loop mul (mul x x) y k := by
  have hdiv : 2 * k / 2 = k := by omega
  rw [loop, if_pos (by omega), if_neg (by omega), hdiv]

/-- A set bit multiplies as well. -/
theorem loop_odd {k : Nat} (hk : 1 ≤ k) (x y : α) :
    loop mul x y (2 * k + 1) = loop mul (mul x x) (mul x y) k := by
  have hdiv : (2 * k + 1) / 2 = k := by omega
  rw [loop, if_pos (by omega), if_pos (by omega), hdiv]

/-- Induction on a positive number by its lowest bit. -/
theorem bit_induction {P : (n : Nat) → 1 ≤ n → Prop} (one : P 1 (Nat.le_refl 1))
    (even : ∀ k (hk : 1 ≤ k), P k hk → P (2 * k) (by omega))
    (odd : ∀ k (hk : 1 ≤ k), P k hk → P (2 * k + 1) (by omega)) (n : Nat) (hn : 1 ≤ n) :
    P n hn := by
  induction n using Nat.strong_induction_on with
  | _ n ih =>
      rcases Nat.lt_or_ge 1 n with hlt | hle
      · have hk : 1 ≤ n / 2 := by omega
        rcases Nat.mod_two_eq_zero_or_one n with h | h
        · have heven := even (n / 2) hk (ih (n / 2) (by omega) hk)
          have htwice : 2 * (n / 2) = n := by omega
          simpa only [htwice] using heven
        · have hodd := odd (n / 2) hk (ih (n / 2) (by omega) hk)
          have htwice : 2 * (n / 2) + 1 = n := by omega
          simpa only [htwice] using hodd
      · have h1 : n = 1 := by omega
        subst h1
        exact one

section Order

variable [Preorder α] {one : α}

/-- A product that is monotone, keeps its first argument at `one`, and never
increases its second argument when the first is at most `one`. -/
structure Contracting (mul : α → α → α) (one : α) : Prop where
  mono : ∀ {x x' y y' : α}, x ≤ x' → y ≤ y' → mul x y ≤ mul x' y'
  mul_one : ∀ x, mul x one = x
  mul_le : ∀ {x : α} (y : α), x ≤ one → mul x y ≤ y

namespace Contracting

variable (h : Contracting mul one)
include h

theorem square_le {x : α} (hx : x ≤ one) : mul x x ≤ one := (h.mul_le x hx).trans hx

theorem loop_mono {n : Nat} (hn : 1 ≤ n) {x x' y y' : α} (hx : x ≤ x') (hy : y ≤ y') :
    loop mul x y n ≤ loop mul x' y' n := by
  induction n, hn using bit_induction generalizing x x' y y' with
  | one =>
      rw [loop_one, loop_one]
      exact h.mono hx hy
  | even k hk ih =>
      rw [loop_even hk, loop_even hk]
      exact ih (h.mono hx hx) hy
  | odd k hk ih =>
      rw [loop_odd hk, loop_odd hk]
      exact ih (h.mono hx hx) (h.mono hx hy)

/-- One more factor never increases the power. The carry runs through the set
low bits of the exponent, whose product `z` stays above the current square. -/
theorem loop_succ_le {n : Nat} (hn : 1 ≤ n) {x z : α} (hx : x ≤ one) (hz : x ≤ z) :
    loop mul x one (n + 1) ≤ loop mul x z n := by
  induction n, hn using bit_induction generalizing x z with
  | one =>
      have h2 : loop mul x one (1 + 1) = mul x x := by
        rw [show 1 + 1 = 2 * 1 from rfl, loop_even (Nat.le_refl 1), loop_one, h.mul_one]
      rw [h2, loop_one]
      exact h.mono (le_refl x) hz
  | even k hk _ =>
      rw [loop_odd hk, loop_even hk, h.mul_one]
      exact h.loop_mono hk (le_refl _) hz
  | odd k hk ih =>
      rw [show 2 * k + 1 + 1 = 2 * (k + 1) by ring, loop_even (by omega), loop_odd hk]
      exact ih (h.square_le hx) (h.mono (le_refl x) hz)

end Contracting

/-- The power, with the empty product as a special case. -/
def pow (mul : α → α → α) (one x : α) (n : Nat) : α :=
  if n = 0 then one else loop mul x one n

namespace Contracting

variable (h : Contracting mul one)
include h

/-- The power of a base up to `one` decreases in the exponent. -/
theorem pow_antitone {x : α} (hx : x ≤ one) : Antitone (pow mul one x) := by
  refine antitone_nat_of_succ_le fun n => ?_
  cases n with
  | zero =>
      rw [pow, pow, if_neg (by omega), if_pos rfl, loop_one, h.mul_one]
      exact hx
  | succ n =>
      rw [pow, pow, if_neg (by omega), if_neg (by omega)]
      exact h.loop_succ_le (by omega) hx hx

/-- The power increases in the base. -/
theorem pow_mono {x x' : α} (hx : x ≤ x') (n : Nat) : pow mul one x n ≤ pow mul one x' n := by
  unfold pow
  split_ifs with hn
  · exact le_refl one
  · exact h.loop_mono (by omega) hx (le_refl one)

end Contracting

end Order

section Error

variable {K : Type*} [Field K] [LinearOrder K] [IsStrictOrderedRing K]

/-- A product that stays within `ε` of the exact product of values up to one. -/
structure Approximates (mul : α → α → α) (value : α → K) (small : α → Prop) (ε : K) :
    Prop where
  nonneg : ∀ {x}, small x → 0 ≤ value x
  le_one : ∀ {x}, small x → value x ≤ 1
  small_mul : ∀ {x y}, small x → small y → small (mul x y)
  error : ∀ {x y}, small x → small y → |value (mul x y) - value x * value y| ≤ ε

/-- A potential of the base that pays for the effect of one rounded square on
every power of it, up to a constant. -/
structure Pays (mul : α → α → α) (value : α → K) (small : α → Prop) (potential : α → K)
    (slack : K) : Prop where
  nonneg : ∀ {x}, small x → 0 ≤ potential x
  slack_nonneg : 0 ≤ slack
  square : ∀ {x}, small x → ∀ m, 1 ≤ m →
    |value (mul x x) ^ m - (value x ^ 2) ^ m| + potential (mul x x) ≤ potential x + slack

/-- The first three terms of the binomial expansion of one. -/
theorem three_terms_le {p q : K} (hp : 0 ≤ p) (hq : 0 ≤ q) (hpq : p + q = 1) (m : Nat) :
    q ^ (m + 2) + (m + 2) * q ^ (m + 1) * p + (m + 2) * (m + 1) / 2 * q ^ m * p ^ 2 ≤ 1 := by
  induction m with
  | zero =>
      have hsquare : q ^ 2 + 2 * q * p + p ^ 2 = (p + q) ^ 2 := by ring
      have hone : (p + q) ^ 2 = 1 := by rw [hpq, one_pow]
      simp only [Nat.cast_zero, zero_add, pow_zero, pow_one]
      linarith
  | succ m ih =>
      have hrest : 0 ≤ (m + 2) * (m + 1) / 2 * q ^ m * p ^ 3 := by positivity
      have hexpand : q ^ (m + 1 + 2) + ((m + 1 : Nat) + 2) * q ^ (m + 1 + 1) * p +
            ((m + 1 : Nat) + 2) * ((m + 1 : Nat) + 1) / 2 * q ^ (m + 1) * p ^ 2 +
            (m + 2) * (m + 1) / 2 * q ^ m * p ^ 3 =
          (q ^ (m + 2) + (m + 2) * q ^ (m + 1) * p + (m + 2) * (m + 1) / 2 * q ^ m * p ^ 2) *
            (p + q) := by
        push_cast
        ring
      rw [hpq, mul_one] at hexpand
      linarith

/-- From two trials on, exactly one success has probability at most one half. -/
theorem one_success_le {p q : K} (hp : 0 ≤ p) (hq : 0 ≤ q) (hpq : p + q = 1) (m : Nat) :
    (m + 2) * q ^ (m + 1) * p ≤ 1 / 2 := by
  have hterms := three_terms_le hp hq hpq m
  have hsquares : (m + 2) * q * p ≤ q ^ 2 + (m + 2) * (m + 1) / 2 * p ^ 2 := by
    have hcross : 0 ≤ (q - (m + 2) / 2 * p) ^ 2 := sq_nonneg _
    have hrest : 0 ≤ (m + 2) * m / 4 * p ^ 2 := by positivity
    linarith
  have hscaled := mul_le_mul_of_nonneg_left hsquares (pow_nonneg hq m)
  have hleft : q ^ m * ((m + 2) * q * p) = (m + 2) * q ^ (m + 1) * p := by ring
  have hright : q ^ m * (q ^ 2 + (m + 2) * (m + 1) / 2 * p ^ 2) =
      q ^ (m + 2) + (m + 2) * (m + 1) / 2 * q ^ m * p ^ 2 := by ring
  rw [hleft, hright] at hscaled
  linarith

/-- Away from one, the derivative of every power is bounded. -/
theorem mul_pow_pred_le {b gap : K} (hb : 0 ≤ b) (hgap : 0 < gap) (hle : b ≤ 1 - gap) (m : Nat) :
    m * b ^ (m - 1) ≤ 1 + 1 / (2 * gap) := by
  have hinv : 0 ≤ 1 / (2 * gap) := by positivity
  match m with
  | 0 => simpa using add_nonneg zero_le_one hinv
  | 1 => simpa using hinv
  | m + 2 =>
      have hsuccess := @one_success_le K _ _ _ (1 - b) b (by linarith) hb (by ring) m
      have hpow : 0 ≤ ((m + 2 : Nat) : K) * b ^ (m + 1) := by positivity
      have hmono : ((m + 2 : Nat) : K) * b ^ (m + 1) * gap ≤
          ((m + 2 : Nat) : K) * b ^ (m + 1) * (1 - b) :=
        mul_le_mul_of_nonneg_left (by linarith) hpow
      have hhalf : ((m + 2 : Nat) : K) * b ^ (m + 1) ≤ 1 / 2 / gap := by
        rw [le_div_iff₀ hgap]
        push_cast at hmono ⊢
        linarith
      calc
        ((m + 2 : Nat) : K) * b ^ (m + 2 - 1) ≤ 1 / 2 / gap := hhalf
        _ = 1 / (2 * gap) := by rw [div_div]
        _ ≤ 1 + 1 / (2 * gap) := by linarith

/-- Away from one, powers of close numbers stay close at every exponent. -/
theorem abs_pow_sub_pow_le_gap {a b gap : K} (ha : 0 ≤ a) (hb : 0 ≤ b) (hgap : 0 < gap)
    (hag : a ≤ 1 - gap) (hbg : b ≤ 1 - gap) (m : Nat) :
    |a ^ m - b ^ m| ≤ |a - b| * (1 + 1 / (2 * gap)) := by
  have hmax : max |a| |b| ≤ 1 - gap := by
    rw [abs_of_nonneg ha, abs_of_nonneg hb]
    exact max_le hag hbg
  calc
    |a ^ m - b ^ m| ≤ |a - b| * m * max |a| |b| ^ (m - 1) := abs_pow_sub_pow_le a b m
    _ = |a - b| * (m * max |a| |b| ^ (m - 1)) := by ring
    _ ≤ |a - b| * (1 + 1 / (2 * gap)) := by
        apply mul_le_mul_of_nonneg_left _ (abs_nonneg _)
        exact mul_pow_pred_le (le_max_of_le_left (abs_nonneg a)) hgap hmax m

variable {value : α → K} {small : α → Prop} {ε : K} {potential : α → K} {slack : K}

/-- Exchanging the base and the factor of a product costs what each differs by. -/
theorem abs_mul_sub_mul_le {a b y z : K} (hb0 : 0 ≤ b) (hb1 : b ≤ 1) (hy0 : 0 ≤ y)
    (hy1 : y ≤ 1) : |a * y - b * z| ≤ |a - b| + |y - z| := by
  calc
    |a * y - b * z| = |(a - b) * y + b * (y - z)| := by ring_nf
    _ ≤ |(a - b) * y| + |b * (y - z)| := abs_add_le _ _
    _ = |a - b| * y + b * |y - z| := by rw [abs_mul, abs_mul, abs_of_nonneg hy0, abs_of_nonneg hb0]
    _ ≤ |a - b| + |y - z| := by
        have hleft := mul_le_of_le_one_right (abs_nonneg (a - b)) hy1
        have hright := mul_le_of_le_one_left (abs_nonneg (y - z)) hb1
        linarith

/-- Ahead of a remaining exponent `m`, one step of the loop exchanges the exact
square for the rounded one and the exact factor for the rounded one. -/
theorem step_error (happrox : Approximates mul value small ε)
    (hpays : Pays mul value small potential slack) {x z : α} {m : Nat} {power factor bound : K}
    (hx : small x) (hz : small z) (hm : 1 ≤ m) (hfactor : |value z - factor| ≤ ε)
    (hrest : |power - value (mul x x) ^ m * value z| ≤ potential (mul x x) + bound) :
    |power - (value x ^ 2) ^ m * factor| ≤ potential x + (bound + (ε + slack)) := by
  have hx0 : 0 ≤ value x := happrox.nonneg hx
  have hsquare0 : 0 ≤ value x ^ 2 := pow_nonneg hx0 2
  have hsquare1 : value x ^ 2 ≤ 1 := pow_le_one₀ hx0 (happrox.le_one hx)
  have hexchange : |value (mul x x) ^ m * value z - (value x ^ 2) ^ m * factor| ≤
      |value (mul x x) ^ m - (value x ^ 2) ^ m| + |value z - factor| :=
    abs_mul_sub_mul_le (pow_nonneg hsquare0 m) (pow_le_one₀ hsquare0 hsquare1)
      (happrox.nonneg hz) (happrox.le_one hz)
  have hpaid := hpays.square hx m hm
  calc
    |power - (value x ^ 2) ^ m * factor|
        ≤ |power - value (mul x x) ^ m * value z| +
          |value (mul x x) ^ m * value z - (value x ^ 2) ^ m * factor| := abs_sub_le _ _ _
    _ ≤ potential x + (bound + (ε + slack)) := by linarith

/-- Halving an exponent leaves one bit less. -/
theorem exists_rest_bits {n k bits : Nat} (hk : 1 ≤ k) (hn : 2 * k ≤ n)
    (hbits : n < 2 ^ (bits + 1)) : ∃ rest, bits = rest + 1 ∧ k < 2 ^ (rest + 1) := by
  cases bits with
  | zero => omega
  | succ rest =>
      have hpow : 2 ^ (rest + 1 + 1) = 2 * 2 ^ (rest + 1) := pow_succ' 2 (rest + 1)
      exact ⟨rest, rfl, by omega⟩

/-- The error of the loop: the potential of the base, one rounding of the last
product, and a constant for each bit. -/
theorem abs_loop_sub_le (happrox : Approximates mul value small ε)
    (hpays : Pays mul value small potential slack) {n : Nat} (hn : 1 ≤ n) {bits : Nat}
    (hbits : n < 2 ^ (bits + 1)) {x y : α} (hx : small x) (hy : small y) :
    |value (loop mul x y n) - value x ^ n * value y| ≤
      potential x + (ε + bits * (ε + slack)) := by
  have hε : 0 ≤ ε := (abs_nonneg _).trans (happrox.error hx hy)
  have hconstant : 0 ≤ ε + slack := add_nonneg hε hpays.slack_nonneg
  induction n, hn using bit_induction generalizing bits x y with
  | one =>
      rw [loop_one, pow_one]
      have herror := happrox.error hx hy
      have hpotential := hpays.nonneg hx
      have hrest : 0 ≤ (bits : K) * (ε + slack) := mul_nonneg (Nat.cast_nonneg bits) hconstant
      linarith
  | even k hk ih =>
      obtain ⟨rest, rfl, hrest⟩ := exists_rest_bits hk (Nat.le_refl _) hbits
      have hexact : |value y - value y| ≤ ε := by simpa using hε
      have hstep := step_error happrox hpays hx hy hk hexact
        (ih hrest (happrox.small_mul hx hx) hy)
      rw [loop_even hk, pow_mul]
      push_cast
      linarith
  | odd k hk ih =>
      obtain ⟨rest, rfl, hrest⟩ := exists_rest_bits hk (Nat.le_succ _) hbits
      have hxy : small (mul x y) := happrox.small_mul hx hy
      have hstep := step_error happrox hpays hx hxy hk (happrox.error hx hy)
        (ih hrest (happrox.small_mul hx hx) hxy)
      have hpow : value x ^ (2 * k + 1) * value y = (value x ^ 2) ^ k * (value x * value y) := by
        rw [pow_succ, pow_mul, mul_assoc]
      rw [loop_odd hk, hpow]
      push_cast
      linarith

end Error

end SquareMultiply
