import HLiquity.DecimalValue
import HLiquity.NumberText

/-!
# Printed decimals

The text that a finite decimal is printed as denotes exactly the decimal: the
fraction is padded to eight places before its trailing zeros are dropped.
-/

namespace HLiquity

namespace Decimal

theorem allDigits_toDigits (n : Nat) : AllDigits (Nat.toDigits 10 n) :=
  fun _ hc => isDigit_of_mem_toDigits hc

/-- A fraction padded to eight places and freed of its trailing zeros. -/
def trimmedMantissa (mantissa : Nat) : Text :=
  ((Nat.toDigits 10 mantissa).leftpad precision '0').rdropWhile (· == '0')

theorem allDigits_leftpad (mantissa : Nat) :
    AllDigits ((Nat.toDigits 10 mantissa).leftpad precision '0') := by
  intro c hc
  rw [List.leftpad, List.mem_append] at hc
  rcases hc with hc | hc
  · rw [List.eq_of_mem_replicate hc]
    decide
  · exact allDigits_toDigits mantissa c hc

theorem allDigits_trimmedMantissa (mantissa : Nat) : AllDigits (trimmedMantissa mantissa) :=
  fun c hc => allDigits_leftpad mantissa c ((List.rdropWhile_prefix _ _).subset hc)

/-- Only zeros are trimmed from a fraction of eight places. -/
theorem exists_trimmed_zeros {mantissa : Nat} (h : mantissa < digits) :
    ∃ zeros : Text, (∀ c ∈ zeros, c = '0') ∧
      (trimmedMantissa mantissa).length + zeros.length = precision ∧
      bigNumberFrom (trimmedMantissa mantissa) * 10 ^ zeros.length = mantissa := by
  obtain ⟨padded, hpadded⟩ :
      ∃ padded, padded = (Nat.toDigits 10 mantissa).leftpad precision '0' := ⟨_, rfl⟩
  have hzeros : ∀ c ∈ padded.rtakeWhile (· == '0'), c = '0' :=
    fun c hc => by simpa using List.mem_rtakeWhile_imp hc
  have hsplit : trimmedMantissa mantissa ++ padded.rtakeWhile (· == '0') = padded := by
    rw [trimmedMantissa, ← hpadded]
    exact List.rdropWhile_append_rtakeWhile
  refine ⟨padded.rtakeWhile (· == '0'), hzeros, ?_, ?_⟩
  · have hshort : (Nat.toDigits 10 mantissa).length ≤ precision :=
      (Nat.length_toDigits_le_iff (by decide) (by decide)).mpr h
    rw [← List.length_append, hsplit, hpadded, List.length_leftpad, max_eq_left hshort]
  · calc
      bigNumberFrom (trimmedMantissa mantissa) * 10 ^ (padded.rtakeWhile (· == '0')).length
          = DigitText.value (trimmedMantissa mantissa ++ padded.rtakeWhile (· == '0')) :=
        (DigitText.value_append_zeros _ hzeros).symm
      _ = DigitText.value (Nat.toDigits 10 mantissa) := by
        rw [hsplit, hpadded, List.leftpad, DigitText.value_append, DigitText.value_replicate_zero,
          Nat.zero_mul, Nat.zero_add]
      _ = mantissa := bigNumberFrom_toDigits mantissa

/-- Padding and trimming keep the value of a fraction of eight places. -/
theorem bigNumberFrom_trimmedMantissa {mantissa : Nat} (h : mantissa < digits) :
    (bigNumberFrom (trimmedMantissa mantissa) : ℚ) / 10 ^ (trimmedMantissa mantissa).length =
      mantissa / digits := by
  obtain ⟨zeros, _, hlength, hvalue⟩ := exists_trimmed_zeros h
  have hplaces : (digits : ℚ) = 10 ^ (trimmedMantissa mantissa).length * 10 ^ zeros.length := by
    have hnat : digits = 10 ^ (trimmedMantissa mantissa).length * 10 ^ zeros.length := by
      rw [← pow_add, hlength]
      rfl
    exact_mod_cast hnat
  have hscaled : (bigNumberFrom (trimmedMantissa mantissa) : ℚ) * 10 ^ zeros.length = mantissa := by
    exact_mod_cast hvalue
  have hpos : (10 : ℚ) ^ zeros.length ≠ 0 := by positivity
  rw [← hscaled, hplaces, mul_div_mul_right _ _ hpos]

/-- A coefficient without an exponent denotes its own value. -/
theorem IsCoefficient.denoted_eq {coefficient characteristic mantissa : Text}
    (h : IsCoefficient coefficient characteristic mantissa) :
    denoted coefficient =
      bigNumberFrom characteristic + bigNumberFrom mantissa / 10 ^ mantissa.length := by
  have hexponent : exponentValue [] = 0 := rfl
  simp only [denoted, splitAtFirst_of_not_mem h.not_mem_e, coefficientValue, h.split, hexponent,
    zpow_zero, mul_one]

/-- What a finite decimal is printed as is of the format. -/
theorem printed_format (d : Decimal) :
    stringRepresentationFormat d.toStringWithAutomaticPrecision = true := by
  have hwhole := allDigits_toDigits (d.bigNumber / digits)
  rw [toStringWithAutomaticPrecision]
  split_ifs
  · exact (IsCoefficient.whole hwhole).format
  · exact (IsCoefficient.fraction hwhole
      (allDigits_trimmedMantissa (d.bigNumber % digits))).format

/-- What a finite decimal is printed as denotes it. -/
theorem denoted_printed (d : Decimal) :
    denoted d.toStringWithAutomaticPrecision = d.bigNumber / digits := by
  have hsum : (d.bigNumber : ℚ) / digits =
      (d.bigNumber / digits : Nat) + ((d.bigNumber % digits : Nat) : ℚ) / digits := by
    have hcast : (d.bigNumber : ℚ) =
        digits * (d.bigNumber / digits : Nat) + (d.bigNumber % digits : Nat) := by
      exact_mod_cast (Nat.div_add_mod d.bigNumber digits).symm
    have hpos : (digits : ℚ) ≠ 0 := by norm_num [digits, precision]
    rw [div_eq_iff hpos, add_mul, div_mul_cancel₀ _ hpos, hcast]
    ring
  have hwhole := allDigits_toDigits (d.bigNumber / digits)
  rw [toStringWithAutomaticPrecision, hsum]
  split_ifs with hmantissa
  · rw [(IsCoefficient.whole hwhole).denoted_eq, bigNumberFrom_toDigits, hmantissa]
    simp [bigNumberFrom]
  · have hfraction := allDigits_trimmedMantissa (d.bigNumber % digits)
    have hlt : d.bigNumber % digits < digits := Nat.mod_lt _ digits_pos
    change denoted (Nat.toDigits 10 (d.bigNumber / digits) ++
      '.' :: trimmedMantissa (d.bigNumber % digits)) = _
    rw [(IsCoefficient.fraction hwhole hfraction).denoted_eq, bigNumberFrom_toDigits,
      bigNumberFrom_trimmedMantissa hlt]

end Decimal

end HLiquity
