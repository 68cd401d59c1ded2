import HLiquity.DecimalPrinting

/-!
# Canonical texts

What a finite decimal is printed as is read as the same decimal, so finite
decimals that print alike are equal. The text has no leading zeros and no
fraction that could be dropped.
-/

namespace HLiquity.Decimal

/-- A decimal without a fraction. -/
def IsInteger (d : Decimal) : Prop := digits ∣ d.bigNumber

/-- A whole part without leading zeros and, exactly if the decimal is not an
integer, a fraction of one to eight digits that does not end in a zero. -/
def IsCanonical (d : Decimal) (text : Text) : Prop :=
  ∃ characteristic mantissa, IsCoefficient text characteristic mantissa ∧
    characteristic ≠ [] ∧ (characteristic.head? = some '0' → characteristic = ['0']) ∧
    ('.' ∈ text ↔ ¬ d.IsInteger) ∧
    ('.' ∈ text → 1 ≤ mantissa.length ∧ mantissa.length ≤ precision ∧
      mantissa.getLast? ≠ some '0')

/-- The digits of a number have no leading zeros. -/
theorem eq_zero_of_head_toDigits {n : Nat} (h : (Nat.toDigits 10 n).head? = some '0') :
    Nat.toDigits 10 n = ['0'] := by
  rcases Nat.eq_zero_or_pos n with rfl | hpos
  · rfl
  · exact absurd h (head_toDigits_ne_zero hpos)

/-- Trimming leaves no zero at the end. -/
theorem getLast_trimmedMantissa (mantissa : Nat) :
    (trimmedMantissa mantissa).getLast? ≠ some '0' := by
  intro h
  have hne : trimmedMantissa mantissa ≠ [] := by
    intro hnil
    rw [hnil] at h
    cases h
  have hlast := List.rdropWhile_last_not (· == '0')
    ((Nat.toDigits 10 mantissa).leftpad precision '0') hne
  rw [List.getLast?_eq_some_getLast hne, Option.some.injEq] at h
  exact hlast (beq_iff_eq.mpr h)

/-- A fraction that is not zero keeps a digit and has at most eight. -/
theorem length_trimmedMantissa {mantissa : Nat} (hpos : mantissa ≠ 0) (h : mantissa < digits) :
    1 ≤ (trimmedMantissa mantissa).length ∧ (trimmedMantissa mantissa).length ≤ precision := by
  obtain ⟨zeros, _, hlength, hvalue⟩ := exists_trimmed_zeros h
  constructor
  · apply List.length_pos_iff.mpr
    intro hnil
    rw [hnil] at hvalue
    exact hpos (by simpa [bigNumberFrom] using hvalue.symm)
  · exact hlength ▸ Nat.le_add_right _ _

/-- What a decimal is printed as is canonical. -/
theorem isCanonical_printed (d : Decimal) : d.IsCanonical d.toStringWithAutomaticPrecision := by
  have hwhole := allDigits_toDigits (d.bigNumber / digits)
  have hinteger : d.IsInteger ↔ d.bigNumber % digits = 0 := Nat.dvd_iff_mod_eq_zero
  have hpoint : '.' ∉ Nat.toDigits 10 (d.bigNumber / digits) := hwhole.not_mem (by decide)
  rw [toStringWithAutomaticPrecision]
  split_ifs with hmantissa
  · refine ⟨_, _, .whole hwhole, Nat.toDigits_ne_nil, eq_zero_of_head_toDigits, ?_, ?_⟩
    · exact iff_of_false hpoint (not_not.mpr (hinteger.mpr hmantissa))
    · exact fun hmem => absurd hmem hpoint
  · have hfraction := allDigits_trimmedMantissa (d.bigNumber % digits)
    have hlt : d.bigNumber % digits < digits := Nat.mod_lt _ digits_pos
    refine ⟨_, _, .fraction hwhole hfraction, Nat.toDigits_ne_nil, eq_zero_of_head_toDigits,
      ?_, ?_⟩
    · exact iff_of_true (by simp) (mt hinteger.mp hmantissa)
    · intro _
      obtain ⟨hone, height⟩ := length_trimmedMantissa hmantissa hlt
      exact ⟨hone, height, getLast_trimmedMantissa _⟩

/-- A coefficient with a digit is read as its number of units. -/
theorem from_coefficient {text characteristic mantissa : Text}
    (h : IsCoefficient text characteristic mantissa) (hne : text ≠ []) :
    Decimal.from (.string text) = .ok ⟨unitsOf characteristic mantissa⟩ := by
  have hread := fromString_eq h hne .absent (List.append_nil text).symm h.format
  rw [Decimal.from, hread]
  simp

/-- What a decimal is printed as is read as the decimal. -/
theorem from_printed (d : Decimal) :
    Decimal.from (.string d.toStringWithAutomaticPrecision) = .ok d := by
  have hwhole := allDigits_toDigits (d.bigNumber / digits)
  have hsum := Nat.div_add_mod' d.bigNumber digits
  rw [toStringWithAutomaticPrecision]
  split_ifs with hmantissa
  · have hunits : unitsOf (Nat.toDigits 10 (d.bigNumber / digits)) [] = d.bigNumber := by
      rw [unitsOf, bigNumberFrom_toDigits]
      rw [hmantissa] at hsum
      exact hsum
    rw [from_coefficient (.whole hwhole) Nat.toDigits_ne_nil, hunits]
  · have hfraction := allDigits_trimmedMantissa (d.bigNumber % digits)
    have hlt : d.bigNumber % digits < digits := Nat.mod_lt _ digits_pos
    obtain ⟨zeros, _, hlength, hvalue⟩ := exists_trimmed_zeros hlt
    have hmoved : bigNumberFrom (trimmedMantissa (d.bigNumber % digits)) * 10 ^ precision /
        10 ^ (trimmedMantissa (d.bigNumber % digits)).length = d.bigNumber % digits := by
      rw [← hlength, pow_add, mul_left_comm, Nat.mul_div_cancel_left _ (by positivity)]
      exact hvalue
    have hunits : unitsOf (Nat.toDigits 10 (d.bigNumber / digits))
        (trimmedMantissa (d.bigNumber % digits)) = d.bigNumber := by
      rw [unitsOf, bigNumberFrom_toDigits, hmoved]
      exact hsum
    refine (from_coefficient (.fraction hwhole hfraction) (by simp)).trans ?_
    rw [hunits]

/-- A finite decimal is not infinite. -/
theorem infinite_of_ne_infinity {d : Decimal} (h : d ≠ infinity) : d.infinite = none := by
  rw [infinite, if_neg (by simpa using h)]

/-- Printing without a precision, of a finite decimal. -/
theorem toString_none_of_finite {d : Decimal} (h : d ≠ infinity) :
    d.toString none = .ok d.toStringWithAutomaticPrecision := by
  rw [toString, infinite_of_ne_infinity h]
  rfl

/-- Decimals that print alike are equal. -/
theorem eq_of_toString_eq {one other : Decimal} (h : one.toString none = other.toString none) :
    one = other := by
  have hsymbol : infinity.toString none = .ok ['∞'] := by decide +kernel
  have hformat : stringRepresentationFormat ['∞'] = false := by decide
  have hfinite : ∀ d : Decimal, d ≠ infinity → d.toString none ≠ .ok ['∞'] := by
    intro d hd heq
    rw [toString_none_of_finite hd, Except.ok.injEq] at heq
    rw [← heq, printed_format] at hformat
    cases hformat
  by_cases hone : one = infinity
  · by_cases hother : other = infinity
    · rw [hone, hother]
    · rw [hone, hsymbol] at h
      exact absurd h.symm (hfinite other hother)
  · by_cases hother : other = infinity
    · rw [hother, hsymbol] at h
      exact absurd h (hfinite one hone)
    · rw [toString_none_of_finite hone, toString_none_of_finite hother, Except.ok.injEq] at h
      have hread := from_printed one
      rw [h, from_printed other] at hread
      exact (Except.ok.inj hread).symm

/-- The text that a finite decimal is printed as is canonical and is read as the
decimal, and no two decimals share a text. -/
theorem toString_canonical :
    (∀ d : Decimal, d ≠ infinity → ∃ text, d.toString none = .ok text ∧
      Decimal.from (.string text) = .ok d ∧ d.IsCanonical text) ∧
    ∀ one other : Decimal, one.toString none = other.toString none → one = other := by
  constructor
  · intro d hd
    exact ⟨_, toString_none_of_finite hd, from_printed d, isCanonical_printed d⟩
  · exact fun one other h => eq_of_toString_eq h

/-- A fraction that starts with a zero keeps it. -/
theorem toString_canonical_oneOhFive :
    ∃ text, (⟨105000000⟩ : Decimal).toString none = .ok text ∧ text = ['1', '.', '0', '5'] ∧
      Decimal.from (.string text) = .ok ⟨105000000⟩ ∧ IsCanonical ⟨105000000⟩ text := by
  obtain ⟨text, htext, hread, hcanonical⟩ :=
    toString_canonical.1 ⟨105000000⟩ (by decide +kernel)
  have hprinted : (⟨105000000⟩ : Decimal).toString none = .ok ['1', '.', '0', '5'] := by
    decide +kernel
  rw [hprinted, Except.ok.injEq] at htext
  exact ⟨text, htext ▸ hprinted, htext.symm, hread, hcanonical⟩

end HLiquity.Decimal
