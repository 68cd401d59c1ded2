import HLiquity.Outcome
import HLiquity.Library.ScaledRounding
import Mathlib.Order.Basic
import Mathlib.Data.Nat.Basic

/-!
# Fixed-point decimals

A `Decimal` is a non-negative integer count of units of the eighth decimal
place. The constructor rejects negative numbers, so only subtraction can throw.
Methods that accept any `Decimalish` first pass it through `Decimal.from`,
which is the identity on a `Decimal`; they are stated here on `Decimal`.
-/

namespace HLiquity

/-- Fixed-point decimal bignumber. -/
structure Decimal where
  bigNumber : Nat
  deriving DecidableEq, Repr

namespace Decimal

/-- `PRECISION`, the number of decimal places. -/
def precision : Nat := 8

/-- `DIGITS`, the number of units in one. -/
def digits : Nat := 10 ^ precision

@[simp] theorem digits_pos : 0 < digits := by decide

@[ext] theorem ext {a b : Decimal} (h : a.bigNumber = b.bigNumber) : a = b := by
  cases a
  cases b
  simp_all

theorem bigNumber_injective : Function.Injective bigNumber := fun _ _ h => ext h

/-- Decimals are ordered as their counts of units. -/
instance : LinearOrder Decimal := LinearOrder.lift' bigNumber bigNumber_injective

theorem lt_def {a b : Decimal} : a < b ↔ a.bigNumber < b.bigNumber := Iff.rfl

theorem le_def {a b : Decimal} : a ≤ b ↔ a.bigNumber ≤ b.bigNumber := Iff.rfl

/-- `Decimal.INFINITY`, the largest 256-bit number. -/
def infinity : Decimal := ⟨2 ^ 256 - 1⟩

/-- `Decimal.ZERO` -/
def zero : Decimal := ⟨0⟩

/-- `Decimal.HALF` -/
def half : Decimal := ⟨50000000⟩

/-- `Decimal.ONE` -/
def one : Decimal := ⟨100000000⟩

@[simp] theorem zero_bigNumber : zero.bigNumber = 0 := rfl

@[simp] theorem one_bigNumber : one.bigNumber = digits := rfl

@[simp] theorem zero_le (a : Decimal) : zero ≤ a := Nat.zero_le _

theorem zero_lt_one : zero < one := by decide

/-- The private constructor. -/
def new (bigNumber : Int) : Result Decimal :=
  if bigNumber < 0 then .error (.error "negatives not supported by Decimal")
  else .ok ⟨bigNumber.toNat⟩

def add (this addend : Decimal) : Decimal := ⟨this.bigNumber + addend.bigNumber⟩

def sub (this subtrahend : Decimal) : Result Decimal :=
  new ((this.bigNumber : Int) - subtrahend.bigNumber)

def mul (this multiplier : Decimal) : Decimal :=
  ⟨this.bigNumber * multiplier.bigNumber / digits⟩

def isZero (this : Decimal) : Bool := this.bigNumber == 0

def div (this divider : Decimal) : Decimal :=
  if divider.isZero then infinity
  else ⟨this.bigNumber * digits / divider.bigNumber⟩

/-- `_divCeil` -/
def divCeil (this divider : Decimal) : Decimal :=
  if divider.isZero then infinity
  else ⟨(this.bigNumber * digits + (divider.bigNumber - 1)) / divider.bigNumber⟩

def mulDiv (this multiplier divider : Decimal) : Decimal :=
  if divider.isZero then infinity
  else ⟨this.bigNumber * multiplier.bigNumber / divider.bigNumber⟩

/-- The product of two counts of units, rounded to nearest. -/
def roundedMul (x y : Nat) : Nat := (x * y + half.bigNumber) / digits

/-- The loop of `pow`: square while the exponent is halved. -/
def powLoop (x y exponent : Nat) : Nat :=
  if 1 < exponent then
    powLoop (roundedMul x x) (if exponent % 2 = 1 then roundedMul x y else y) (exponent / 2)
  else roundedMul x y
  termination_by exponent
  decreasing_by omega

def pow (this : Decimal) (exponent : Nat) : Result Decimal := do
  assert (exponent ≤ 0xffffffff) "0 <= exponent && exponent <= 0xffffffff"
  if exponent = 0 then return one
  else if exponent = 1 then return this
  else return ⟨powLoop this.bigNumber digits exponent⟩

def lt (this that : Decimal) : Bool := decide (this.bigNumber < that.bigNumber)

def eq (this that : Decimal) : Bool := this.bigNumber == that.bigNumber

def gt (this that : Decimal) : Bool := decide (that.bigNumber < this.bigNumber)

def gte (this that : Decimal) : Bool := decide (that.bigNumber ≤ this.bigNumber)

def lte (this that : Decimal) : Bool := decide (this.bigNumber ≤ that.bigNumber)

/-- `Decimal.min` -/
def min (a b : Decimal) : Decimal := if a.lt b then a else b

/-- The getter `infinite`, defined only on `INFINITY`. -/
def infinite (this : Decimal) : Option Decimal :=
  if this.eq infinity then some this else none

/-- The getter `nonZero`, undefined on zero. -/
def nonZero (this : Decimal) : Option Decimal := if this.isZero then none else some this

/-- The getter `zero`, defined only on zero. -/
def zero? (this : Decimal) : Option Decimal := if this.isZero then some this else none

@[simp] theorem lt_iff {a b : Decimal} : a.lt b = true ↔ a < b := by simp [lt, lt_def]

@[simp] theorem lt_eq_false {a b : Decimal} : a.lt b = false ↔ b ≤ a := by
  simp [lt, le_def]

@[simp] theorem gt_iff {a b : Decimal} : a.gt b = true ↔ b < a := by simp [gt, lt_def]

@[simp] theorem gt_eq_false {a b : Decimal} : a.gt b = false ↔ a ≤ b := by
  simp [gt, le_def]

@[simp] theorem gte_iff {a b : Decimal} : a.gte b = true ↔ b ≤ a := by simp [gte, le_def]

@[simp] theorem gte_eq_false {a b : Decimal} : a.gte b = false ↔ a < b := by
  simp [gte, lt_def]

@[simp] theorem lte_iff {a b : Decimal} : a.lte b = true ↔ a ≤ b := by simp [lte, le_def]

@[simp] theorem eq_iff {a b : Decimal} : a.eq b = true ↔ a = b := by
  simp [eq, Decimal.ext_iff]

@[simp] theorem eq_eq_false {a b : Decimal} : a.eq b = false ↔ a ≠ b := by
  rw [← Bool.not_eq_true, eq_iff]

@[simp] theorem isZero_iff {a : Decimal} : a.isZero = true ↔ a = zero := by
  simp [isZero, Decimal.ext_iff]

@[simp] theorem isZero_eq_false {a : Decimal} : a.isZero = false ↔ a ≠ zero := by
  rw [← Bool.not_eq_true, isZero_iff]

theorem ne_zero_iff {a : Decimal} : a ≠ zero ↔ zero < a := by
  rw [lt_def, ne_eq, Decimal.ext_iff, zero_bigNumber]
  omega

@[simp] theorem add_bigNumber (a b : Decimal) :
    (a.add b).bigNumber = a.bigNumber + b.bigNumber := rfl

@[simp] theorem add_zero (a : Decimal) : a.add zero = a := rfl

@[simp] theorem zero_add (a : Decimal) : zero.add a = a := by
  ext
  simp

theorem le_add (a b : Decimal) : a ≤ a.add b := Nat.le_add_right _ _

/-- Subtraction returns the difference when it is not negative. -/
theorem sub_of_le {a b : Decimal} (h : b ≤ a) :
    a.sub b = .ok ⟨a.bigNumber - b.bigNumber⟩ := by
  have hle := le_def.mp h
  have hnat : ((a.bigNumber : Int) - b.bigNumber).toNat = a.bigNumber - b.bigNumber := by omega
  simp only [sub, new, hnat]
  rw [if_neg (by omega)]

/-- What is left and what is taken off add up. -/
theorem add_sub_of_le {a b : Decimal} (h : b ≤ a) :
    a = b.add ⟨a.bigNumber - b.bigNumber⟩ := by
  apply Decimal.ext
  rw [add_bigNumber]
  exact (Nat.add_sub_cancel' (le_def.mp h)).symm

/-- Subtraction throws exactly when the difference is negative. -/
theorem sub_of_lt {a b : Decimal} (h : a < b) :
    a.sub b = .error (.error "negatives not supported by Decimal") := by
  have hlt := lt_def.mp h
  simp only [sub, new]
  rw [if_pos (by omega)]

/-- Two subtractions in a row return what is left of both. -/
theorem sub_sub_of_le {a b c : Decimal} (h : b.bigNumber + c.bigNumber ≤ a.bigNumber) :
    (a.sub b >>= fun rest => rest.sub c) =
      .ok ⟨a.bigNumber - b.bigNumber - c.bigNumber⟩ := by
  rw [sub_of_le (le_def.mpr (Nat.le_of_add_right_le h)), Result.ok_bind, sub_of_le]
  exact le_def.mpr (Nat.le_sub_of_add_le' h)

/-- Two subtractions in a row throw when there is less than both. -/
theorem sub_sub_of_lt {a b c : Decimal} (h : a.bigNumber < b.bigNumber + c.bigNumber) :
    (a.sub b >>= fun rest => rest.sub c) =
      .error (.error "negatives not supported by Decimal") := by
  rcases lt_or_ge a b with hlt | hle
  · rw [sub_of_lt hlt]
    rfl
  · rw [sub_of_le hle, Result.ok_bind, sub_of_lt]
    have hless : a.bigNumber - b.bigNumber < c.bigNumber := by
      have hle' := le_def.mp hle
      omega
    exact lt_def.mpr hless

/-- The product is the rounded product of the library. -/
theorem mul_bigNumber (a b : Decimal) :
    (a.mul b).bigNumber = ScaledRounding.mulFloor digits b.bigNumber a.bigNumber := rfl

/-- The quotient rounded up is the rounded quotient of the library. -/
theorem divCeil_bigNumber {a b : Decimal} (hb : zero < b) :
    (a.divCeil b).bigNumber = ScaledRounding.divCeil digits b.bigNumber a.bigNumber := by
  have hpos : 0 < b.bigNumber := lt_def.mp hb
  have hz : b.isZero = false := isZero_eq_false.mpr (ne_zero_iff.mpr hb)
  simp only [divCeil, hz, Bool.false_eq_true, if_false, ScaledRounding.divCeil,
    Nat.ceilDiv_eq_add_pred_div, Nat.add_sub_assoc hpos]

theorem div_bigNumber {a b : Decimal} (hb : zero < b) :
    (a.div b).bigNumber = a.bigNumber * digits / b.bigNumber := by
  rw [div, isZero_eq_false.mpr (ne_zero_iff.mpr hb)]
  rfl

/-- A quotient is below a bound exactly when the quotient by the bound is below the divider. -/
theorem div_lt_comm (a b : Decimal) {bound : Decimal} (hbound : zero < bound)
    (hfinite : bound ≤ infinity) : a.div b < bound ↔ a.div bound < b := by
  rcases (zero_le b).eq_or_lt with rfl | hb
  · exact iff_of_false (not_lt.mpr hfinite) (not_lt.mpr (zero_le _))
  · rw [lt_def, lt_def, div_bigNumber hb, div_bigNumber hbound,
      Nat.div_lt_iff_lt_mul (lt_def.mp hb), Nat.div_lt_iff_lt_mul (lt_def.mp hbound),
      Nat.mul_comm b.bigNumber]

/-- The quotient of a product, multiplied back, does not exceed the exact product. -/
theorem mul_div_mul_le (a b : Decimal) {divider : Decimal} (hdivider : zero < divider) :
    divider.bigNumber * ((a.mul b).div divider).bigNumber ≤ a.bigNumber * b.bigNumber := by
  rw [div_bigNumber hdivider]
  calc
    divider.bigNumber * ((a.mul b).bigNumber * digits / divider.bigNumber)
        ≤ (a.mul b).bigNumber * digits := Nat.mul_div_le _ _
    _ ≤ a.bigNumber * b.bigNumber := Nat.div_mul_le_self _ _

/-- A power exists exactly when its exponent fits 32 bits. -/
theorem pow_ok_iff (a : Decimal) {exponent : Nat} :
    (∃ power, a.pow exponent = .ok power) ↔ exponent ≤ 0xffffffff := by
  by_cases h : exponent ≤ 0xffffffff
  · have hassert : assert (exponent ≤ 0xffffffff) "0 <= exponent && exponent <= 0xffffffff" =
        .ok () := by simp [assert, h]
    refine ⟨fun _ => h, fun _ => ?_⟩
    rw [pow, hassert, Result.ok_bind]
    split_ifs
    · exact ⟨_, rfl⟩
    · exact ⟨_, rfl⟩
    · exact ⟨_, rfl⟩
  · have hassert : assert (exponent ≤ 0xffffffff) "0 <= exponent && exponent <= 0xffffffff" =
        .error (.assertion "0 <= exponent && exponent <= 0xffffffff") := by simp [assert, h]
    refine ⟨?_, fun hle => absurd hle h⟩
    rintro ⟨power, hpower⟩
    rw [pow, hassert] at hpower
    cases hpower

/-- The assertion on the exponent of a power. -/
def powAssertion : Failure := .assertion "0 <= exponent && exponent <= 0xffffffff"

/-- A power throws nothing but that assertion. -/
theorem eq_powAssertion_of_pow {a : Decimal} {exponent : Nat} {failure : Failure}
    (h : a.pow exponent = .error failure) : failure = powAssertion := by
  rw [pow] at h
  rcases Result.bind_eq_error.mp h with h | ⟨_, _, h⟩
  · rw [assert] at h
    split at h
    · cases h
    · exact (Except.error.inj h).symm
  · split_ifs at h <;> cases h

@[simp] theorem mulDiv_zero (a b : Decimal) : a.mulDiv b zero = infinity := rfl

end Decimal

end HLiquity
