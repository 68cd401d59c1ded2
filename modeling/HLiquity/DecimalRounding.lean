import HLiquity.CanonicalText
import HLiquity.Library.HalfUp

/-!
# Decimals printed with a precision

Half a digit is added to the count of units before the padded text is cut, so
what is printed is the decimal rounded half up to the printed places, carries
into the whole part included. Beyond eight places nothing is rounded and
nothing is padded.
-/

namespace HLiquity.Decimal

/-- The number that a decimal stands for. -/
def toRat (d : Decimal) : ℚ := d.bigNumber / digits

/-- A text of digits with some places after the point, and without a point if there
are none. -/
def HasPlaces (text : Text) (places : Nat) : Prop :=
  ∃ characteristic mantissa, IsCoefficient text characteristic mantissa ∧
    characteristic ≠ [] ∧ mantissa.length = places ∧ ('.' ∈ text ↔ 0 < places)

/-- The text is the decimal rounded half up to some places. -/
structure PrintsRounded (d : Decimal) (places : Nat) (text : Text) : Prop where
  shape : HasPlaces text places
  multiple : ∃ n : ℕ, denoted text = n / 10 ^ places
  nearest : ∀ n : ℕ, |d.toRat - denoted text| ≤ |d.toRat - n / 10 ^ places|
  tie : ∀ n : ℕ, |d.toRat - denoted text| = |d.toRat - n / 10 ^ places| →
    n / 10 ^ places ≤ denoted text
  close : |d.toRat - denoted text| ≤ 1 / 10 ^ places / 2

/-- The places of a fraction that are printed. -/
def cutMantissa (mantissa places : Nat) : Text :=
  ((Nat.toDigits 10 mantissa).leftpad precision '0').take places

theorem allDigits_cutMantissa (mantissa places : Nat) :
    AllDigits (cutMantissa mantissa places) :=
  fun c hc => allDigits_leftpad mantissa c (List.mem_of_mem_take hc)

theorem length_padded {mantissa : Nat} (h : mantissa < digits) :
    ((Nat.toDigits 10 mantissa).leftpad precision '0').length = precision := by
  have hshort : (Nat.toDigits 10 mantissa).length ≤ precision :=
    (Nat.length_toDigits_le_iff (by decide) (by decide)).mpr h
  rw [List.length_leftpad, max_eq_left hshort]

theorem length_cutMantissa {mantissa : Nat} (h : mantissa < digits) (places : Nat) :
    (cutMantissa mantissa places).length = Nat.min places precision := by
  rw [cutMantissa, List.length_take, length_padded h]

/-- Cutting a fraction rounds it down to the places that are left. -/
theorem bigNumberFrom_cutMantissa {mantissa : Nat} (h : mantissa < digits) (places : Nat) :
    bigNumberFrom (cutMantissa mantissa places) =
      mantissa / 10 ^ (precision - Nat.min places precision) := by
  have hlength := length_padded h
  have hvalue : DigitText.value ((Nat.toDigits 10 mantissa).leftpad precision '0') = mantissa := by
    rw [List.leftpad, DigitText.value_append, DigitText.value_replicate_zero, Nat.zero_mul,
      Nat.zero_add]
    exact bigNumberFrom_toDigits mantissa
  have hcut := DigitText.value_mul_div (allDigits_leftpad mantissa) (Nat.min places precision)
  have hle : Nat.min places precision ≤ precision := Nat.min_le_right _ _
  rw [hlength, hvalue, Nat.sub_eq_zero_of_le hle, pow_zero, mul_one] at hcut
  have htake : cutMantissa mantissa places =
      ((Nat.toDigits 10 mantissa).leftpad precision '0').take (Nat.min places precision) := by
    have hmin := List.take_eq_take_min
      (l := (Nat.toDigits 10 mantissa).leftpad precision '0') (i := places)
    rw [hlength] at hmin
    exact hmin
  have hpow : 10 ^ precision = 10 ^ (precision - Nat.min places precision) *
      10 ^ Nat.min places precision := by
    rw [← pow_add, Nat.sub_add_cancel hle]
  calc
    bigNumberFrom (cutMantissa mantissa places)
        = mantissa * 10 ^ Nat.min places precision / 10 ^ precision := by
          rw [htake]
          exact hcut.symm
    _ = mantissa / 10 ^ (precision - Nat.min places precision) := by
          rw [hpow, Nat.mul_div_mul_right _ _ (by positivity)]

/-- The count of units that is cut. -/
def cutValue (d : Decimal) (places : Nat) : Nat :=
  if places < precision then d.roundUp places else d.bigNumber

/-- The text of a finite decimal with some places. -/
def printedPlaces (d : Decimal) (places : Nat) : Text :=
  let value := d.cutValue places
  if places = 0 then Nat.toDigits 10 (value / digits)
  else Nat.toDigits 10 (value / digits) ++ '.' :: cutMantissa (value % digits) places

/-- Printing with a precision, of a finite decimal. -/
theorem toString_places {d : Decimal} (h : d ≠ infinity) (places : Nat) :
    d.toString (some places) = .ok (d.printedPlaces places) := by
  simp only [toString, infinite_of_ne_infinity h, Option.isSome_none, Bool.false_eq_true, if_false,
    toStringWithPrecision, Int.toNat_natCast, if_neg (Int.not_lt.mpr (Int.natCast_nonneg places)),
    printedPlaces]
  change (if places = 0 then Except.ok (Nat.toDigits 10 (d.cutValue places / digits))
    else .ok (Nat.toDigits 10 (d.cutValue places / digits) ++
      '.' :: cutMantissa (d.cutValue places % digits) places)) = _
  split_ifs <;> rfl

/-- The whole part and the fraction of the printed text. -/
theorem printedPlaces_coefficient (d : Decimal) (places : Nat) :
    ∃ mantissa, IsCoefficient (d.printedPlaces places)
        (Nat.toDigits 10 (d.cutValue places / digits)) mantissa ∧
      mantissa.length = Nat.min places precision ∧
      bigNumberFrom mantissa = d.cutValue places % digits /
        10 ^ (precision - Nat.min places precision) ∧
      ('.' ∈ d.printedPlaces places ↔ 0 < Nat.min places precision) := by
  have hwhole := allDigits_toDigits (d.cutValue places / digits)
  have hlt : d.cutValue places % digits < digits := Nat.mod_lt _ digits_pos
  rw [printedPlaces]
  by_cases hzero : places = 0
  · subst hzero
    have hpoint : '.' ∉ Nat.toDigits 10 (d.cutValue 0 / digits) := hwhole.not_mem (by decide)
    have hmin : Nat.min 0 precision = 0 := rfl
    have hcut : d.cutValue 0 % digits / 10 ^ precision = 0 := Nat.div_eq_of_lt hlt
    rw [if_pos rfl, hmin, Nat.sub_zero, hcut]
    exact ⟨[], .whole hwhole, rfl, rfl, iff_of_false hpoint (Nat.lt_irrefl 0)⟩
  · have hpos : 0 < Nat.min places precision :=
      Nat.lt_min.mpr ⟨Nat.pos_of_ne_zero hzero, by decide⟩
    rw [if_neg hzero]
    exact ⟨_, .fraction hwhole (allDigits_cutMantissa _ _), length_cutMantissa hlt places,
      bigNumberFrom_cutMantissa hlt places, iff_of_true (by simp) hpos⟩

/-- The number that the printed text denotes. -/
theorem denoted_printedPlaces (d : Decimal) (places : Nat) :
    denoted (d.printedPlaces places) =
      (d.cutValue places / 10 ^ (precision - Nat.min places precision) : ℕ) /
        10 ^ Nat.min places precision := by
  obtain ⟨mantissa, hcoefficient, hlength, hvalue, _⟩ := d.printedPlaces_coefficient places
  have hsplit : digits = 10 ^ Nat.min places precision *
      10 ^ (precision - Nat.min places precision) := by
    rw [← pow_add, Nat.add_sub_cancel' (Nat.min_le_right _ _)]
    rfl
  have hsum : d.cutValue places / 10 ^ (precision - Nat.min places precision) =
      d.cutValue places / digits * 10 ^ Nat.min places precision +
        d.cutValue places % digits / 10 ^ (precision - Nat.min places precision) := by
    have hmod := Nat.div_add_mod' (d.cutValue places) digits
    nth_rewrite 1 [← hmod]
    rw [hsplit, ← mul_assoc, Nat.add_comm, Nat.add_mul_div_right _ _ (by positivity),
      Nat.add_comm]
  have hpos : (10 : ℚ) ^ Nat.min places precision ≠ 0 := by positivity
  rw [hcoefficient.denoted_eq, bigNumberFrom_toDigits, hlength, hvalue, hsum]
  push_cast
  rw [add_div, mul_div_cancel_right₀ _ hpos]

theorem hasPlaces_printed (d : Decimal) (places : Nat) :
    HasPlaces (d.printedPlaces places) (Nat.min places precision) := by
  obtain ⟨mantissa, hcoefficient, hlength, _, hpoint⟩ := d.printedPlaces_coefficient places
  exact ⟨_, mantissa, hcoefficient, Nat.toDigits_ne_nil, hlength, hpoint⟩

/-- The printed text denotes the decimal rounded half up. -/
theorem rounds_printed (d : Decimal) (places : Nat) :
    HalfUp.Rounds (1 / 10 ^ Nat.min places precision) d.toRat
      (denoted (d.printedPlaces places)) := by
  rw [denoted_printedPlaces, cutValue, toRat]
  by_cases hlt : places < precision
  · have hmin : Nat.min places precision = places := Nat.min_eq_left hlt.le
    have heven : 2 * (10 ^ (precision - 1 - places) * 5) = 10 ^ (precision - places) := by
      rw [show precision - places = precision - 1 - places + 1 by omega, pow_succ]
      ring
    have hunit : ((10 ^ (precision - places) : ℕ) : ℚ) / (digits : ℕ) = 1 / 10 ^ places := by
      have hsplit : digits = 10 ^ (precision - places) * 10 ^ places := by
        rw [← pow_add, Nat.sub_add_cancel hlt.le]
        rfl
      rw [hsplit]
      push_cast
      rw [div_mul_eq_div_div, div_self (by positivity)]
    have hrounds := HalfUp.rounds_add_div (K := ℚ) (x := d.bigNumber) digits_pos
      (show 0 < 10 ^ (precision - 1 - places) * 5 by positivity)
    rw [heven, hunit, mul_one_div] at hrounds
    rw [hmin, if_pos hlt, roundUp]
    exact hrounds
  · have hmin : Nat.min places precision = precision := Nat.min_eq_right (Nat.le_of_not_lt hlt)
    have hdigits : (digits : ℚ) = 10 ^ precision := by norm_num [digits, precision]
    have hunit : (0 : ℚ) < 1 / 10 ^ precision := by positivity
    have hself := HalfUp.rounds_self hunit d.bigNumber
    rw [mul_one_div] at hself
    rw [hmin, if_neg hlt, Nat.sub_self, pow_zero, Nat.div_one, hdigits]
    exact hself

theorem printsRounded_printed (d : Decimal) (places : Nat) :
    PrintsRounded d (Nat.min places precision) (d.printedPlaces places) := by
  have hrounds := d.rounds_printed places
  have hunit : (0 : ℚ) < 1 / 10 ^ Nat.min places precision := by positivity
  refine ⟨d.hasPlaces_printed places, ⟨_, d.denoted_printedPlaces places⟩, ?_, ?_,
    hrounds.abs_sub_le⟩
  · intro n
    rw [← mul_one_div]
    exact (hrounds.nearest hunit n).1
  · intro n
    rw [← mul_one_div]
    exact (hrounds.nearest hunit n).2

/-- A finite decimal is printed with as many places as asked for, up to eight, as the
nearest multiple of the last of them, the upper one of two; larger decimals are not
printed as smaller numbers. -/
theorem toString_rounds :
    (∀ (d : Decimal) (places : ℕ), d ≠ infinity → ∃ text, d.toString (some places) = .ok text ∧
      PrintsRounded d (Nat.min places precision) text) ∧
    ∀ (one other : Decimal) (places : ℕ), one ≠ infinity → other ≠ infinity → one ≤ other →
      ∃ text more, one.toString (some places) = .ok text ∧
        other.toString (some places) = .ok more ∧ denoted text ≤ denoted more := by
  constructor
  · intro d places hd
    exact ⟨_, toString_places hd places, d.printsRounded_printed places⟩
  · intro one other places hone hother hle
    have hunit : (0 : ℚ) < 1 / 10 ^ Nat.min places precision := by positivity
    have hvalue : one.toRat ≤ other.toRat :=
      div_le_div_of_nonneg_right (Nat.cast_le.mpr hle) (Nat.cast_nonneg _)
    exact ⟨_, _, toString_places hone places, toString_places hother places,
      (one.rounds_printed places).mono hunit (other.rounds_printed places) hvalue⟩

/-- Half a cent below ten is carried into the whole part. -/
theorem toString_rounds_carry :
    (∃ text, (⟨999500000⟩ : Decimal).toString (some 2) = .ok text ∧
      PrintsRounded ⟨999500000⟩ 2 text) ∧
    ∃ text more, (⟨999499999⟩ : Decimal).toString (some 2) = .ok text ∧
      (⟨999500000⟩ : Decimal).toString (some 2) = .ok more ∧ denoted text ≤ denoted more :=
  ⟨toString_rounds.1 ⟨999500000⟩ 2 (by decide +kernel),
    toString_rounds.2 ⟨999499999⟩ ⟨999500000⟩ 2 (by decide +kernel) (by decide +kernel)
      (by decide +kernel)⟩

end HLiquity.Decimal
