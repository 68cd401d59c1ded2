import HLiquity.DecimalText

/-!
# Whole numbers as decimals

A number argument is read through its text, and the text of a whole number is
its decimal digits only up to twenty-one places. A larger one is printed with
an exponent, and its coefficient is cut at the eighth decimal place.
-/

namespace HLiquity

/-- `toString` of the number that prints as a whole number, every number at or
above the safe integers being named by what it prints as. -/
def numberText (n : Nat) : Text :=
  let decimalDigits := Nat.toDigits 10 n
  if decimalDigits.length ≤ 21 then decimalDigits
  else
    let significant := decimalDigits.rdropWhile (· == '0')
    significant.take 1 ++
      (if 1 < significant.length then '.' :: significant.drop 1 else []) ++
      'e' :: '+' :: Nat.toDigits 10 (decimalDigits.length - 1)

namespace Decimal

theorem isDigit_of_mem_toDigits {n : Nat} {c : Char} (h : c ∈ Nat.toDigits 10 n) :
    c.isDigit = true :=
  Nat.isDigit_of_mem_toDigits (by decide) (by decide) h

theorem bigNumberFrom_toDigits (n : Nat) : bigNumberFrom (Nat.toDigits 10 n) = n :=
  Nat.ofDigitChars_ten_toDigits

theorem not_mem_of_isDigit {text : Text} (h : ∀ c ∈ text, c.isDigit = true) {c : Char}
    (hc : c.isDigit = false) : c ∉ text := by
  intro hmem
  rw [h c hmem] at hc
  cases hc

/-- A text of digits is read as a whole number. -/
theorem fromString_digits {text : Text} (hne : text ≠ [])
    (h : ∀ c ∈ text, c.isDigit = true) :
    fromString text = .ok ⟨bigNumberFrom text * digits⟩ := by
  have hdrop : text.dropWhile Char.isDigit = [] := List.dropWhile_eq_nil_iff.mpr h
  have hformat : stringRepresentationFormat text = true := by
    simp [stringRepresentationFormat, hdrop, matchesExponent]
  have he : 'e' ∉ text := not_mem_of_isDigit h (by decide)
  have hpoint : '.' ∉ text := not_mem_of_isDigit h (by decide)
  simp [fromString, fromCoefficient, hne, hformat, he, hpoint]

/-- The first digit of a positive number is not zero. -/
theorem head_toDigits_ne_zero {n : Nat} (h : 0 < n) : (Nat.toDigits 10 n).head? ≠ some '0' := by
  induction n using Nat.strong_induction_on with
  | _ n ih =>
      rw [Nat.toDigits_eq_if (by decide)]
      by_cases hn : n < 10
      · rw [if_pos hn]
        have hdigit : ∀ d < 10, 0 < d → [Nat.digitChar d].head? ≠ some '0' := by decide
        exact hdigit n hn h
      · rw [if_neg hn, List.head?_append_of_ne_nil _ Nat.toDigits_ne_nil]
        exact ih (n / 10) (by omega) (by omega)

/-- A digit other than zero counts for at least one. -/
theorem one_le_bigNumberFrom_digit {c : Char} (hdigit : c.isDigit = true) (hc : c ≠ '0') :
    1 ≤ bigNumberFrom [c] := by
  have hle : 48 ≤ c.toNat := by
    simp only [Char.isDigit, Bool.and_eq_true, decide_eq_true_eq] at hdigit
    exact hdigit.1
  have hne : c.toNat ≠ 48 := fun heq => hc (Char.toNat_inj.mp heq)
  have hvalue : bigNumberFrom [c] = c.toNat - 48 := by
    simp [bigNumberFrom, Nat.ofDigitChars_cons]
  omega

/-- A coefficient is worth at least what stands before its point. -/
theorem le_fromCoefficient {characteristic mantissa : Text} {value : Decimal}
    (hc : ∀ c ∈ characteristic, c.isDigit = true) (hm : mantissa = [] ∨ mantissa.head? = some '.')
    (h : fromCoefficient (characteristic ++ mantissa) = .ok value) :
    bigNumberFrom characteristic * digits ≤ value.bigNumber := by
  have hpoint : '.' ∉ characteristic := not_mem_of_isDigit hc (by decide)
  unfold fromCoefficient at h
  split at h
  · cases h
  · rcases hm with rfl | hm
    · rw [List.append_nil, if_pos (by simpa using hpoint)] at h
      cases h
      exact le_refl _
    · obtain ⟨rest, rfl⟩ : ∃ rest, mantissa = '.' :: rest := by
        cases mantissa with
        | nil => cases hm
        | cons c rest =>
            cases hm
            exact ⟨rest, rfl⟩
      have hbefore : ∀ c ∈ characteristic, (c != '.') = true := by
        intro c hmem
        exact bne_iff_ne.mpr fun heq => hpoint (heq ▸ hmem)
      have hsplit : splitAtFirst '.' (characteristic ++ '.' :: rest) = (characteristic, rest) := by
        simp [splitAtFirst, List.takeWhile_append_of_pos hbefore,
          List.dropWhile_append_of_pos hbefore]
      rw [if_neg (by simp), hsplit] at h
      cases h
      exact Nat.le_add_right _ _

/-- Up to twenty-one places a whole number is read exactly. -/
theorem from_numberText {n : Nat} (h : n < 10 ^ 21) :
    Decimal.from (.number (numberText n)) = .ok ⟨n * digits⟩ := by
  have hlength : (Nat.toDigits 10 n).length ≤ 21 :=
    (Nat.length_toDigits_le_iff (by decide) (by decide)).mpr h
  simp only [Decimal.from, numberText, if_pos hlength]
  rw [fromString_digits Nat.toDigits_ne_nil fun c hc => isDigit_of_mem_toDigits hc,
    bigNumberFrom_toDigits]

/-- The significant digits of a positive number start with its first digit. -/
theorem significant_toDigits {n : Nat} (h : 0 < n) :
    ∃ c cs, (Nat.toDigits 10 n).rdropWhile (· == '0') = c :: cs ∧ c ≠ '0' ∧
      ∀ d ∈ c :: cs, d.isDigit = true := by
  have hkept := List.rdropWhile_prefix (· == '0') (l := Nat.toDigits 10 n)
  have hdigits : ∀ d ∈ (Nat.toDigits 10 n).rdropWhile (· == '0'), d.isDigit = true :=
    fun d hd => isDigit_of_mem_toDigits (hkept.subset hd)
  cases hsignificant : (Nat.toDigits 10 n).rdropWhile (· == '0') with
  | nil =>
      have hall := List.rdropWhile_eq_nil_iff.mp hsignificant
      cases hlist : Nat.toDigits 10 n with
      | nil => exact absurd hlist Nat.toDigits_ne_nil
      | cons c cs =>
          have hc : c = '0' := by simpa using hall c (by rw [hlist]; exact List.mem_cons_self)
          have hhead := head_toDigits_ne_zero h
          rw [hlist, hc] at hhead
          exact absurd rfl hhead
  | cons c cs =>
      rw [hsignificant] at hkept hdigits
      refine ⟨c, cs, rfl, ?_, hdigits⟩
      rintro rfl
      obtain ⟨zeros, hzeros⟩ := hkept
      apply head_toDigits_ne_zero h
      rw [← hzeros]
      rfl

/-- The text of a large number: its first digit, the other digits after a point,
and an exponent. -/
theorem numberText_of_large {n : Nat} (h : 10 ^ 21 ≤ n) :
    ∃ c mantissa, c ≠ '0' ∧ c.isDigit = true ∧
      (mantissa = [] ∨ mantissa.head? = some '.') ∧ 'e' ∉ c :: mantissa ∧
      numberText n =
        [c] ++ mantissa ++ 'e' :: '+' :: Nat.toDigits 10 ((Nat.toDigits 10 n).length - 1) := by
  have hlength : ¬ (Nat.toDigits 10 n).length ≤ 21 := by
    rw [Nat.length_toDigits_le_iff (by decide) (by decide)]
    omega
  obtain ⟨c, cs, hsignificant, hc, hdigits⟩ := significant_toDigits (n := n) (by omega)
  have he : 'e' ∉ c :: cs := not_mem_of_isDigit hdigits (by decide)
  rw [List.mem_cons, not_or] at he
  simp only [numberText, if_neg hlength, hsignificant]
  refine ⟨c, _, hc, hdigits c List.mem_cons_self, ?_, ?_, rfl⟩
  · split
    · exact .inr rfl
    · exact .inl rfl
  · rw [List.mem_cons, not_or]
    refine ⟨he.1, ?_⟩
    split
    · simpa using he.2
    · exact List.not_mem_nil

/-- Beyond that the count of units that is read still exceeds the number. -/
theorem lt_from_numberText {n : Nat} (h : 0 < n) {value : Decimal}
    (hvalue : Decimal.from (.number (numberText n)) = .ok value) : n < value.bigNumber := by
  by_cases hsmall : n < 10 ^ 21
  · rw [from_numberText hsmall] at hvalue
    cases hvalue
    show n < n * 10 ^ 8
    omega
  · have hlarge : 10 ^ 21 ≤ n := by omega
    obtain ⟨c, mantissa, hc, hdigit, hmantissa, he, htext⟩ := numberText_of_large hlarge
    have hbefore : ∀ d ∈ [c] ++ mantissa, (d != 'e') = true := by
      intro d hd
      exact bne_iff_ne.mpr fun heq => he (heq ▸ hd)
    generalize hexponent : (Nat.toDigits 10 n).length - 1 = exponent at htext
    have hsplit : splitAtFirst 'e' ([c] ++ mantissa ++ 'e' :: '+' :: Nat.toDigits 10 exponent) =
        ([c] ++ mantissa, '+' :: Nat.toDigits 10 exponent) := by
      simp only [splitAtFirst, List.takeWhile_append_of_pos hbefore,
        List.dropWhile_append_of_pos hbefore]
      simp
    simp only [Decimal.from, htext, fromString] at hvalue
    split at hvalue
    · cases hvalue
    · rw [if_pos (by simp), hsplit] at hvalue
      obtain ⟨coefficient, hcoefficient, hscaled⟩ := Result.bind_eq_ok.mp hvalue
      cases hscaled
      have hle : bigNumberFrom [c] * digits ≤ coefficient.bigNumber :=
        le_fromCoefficient (by simpa using hdigit) hmantissa hcoefficient
      have hone := one_le_bigNumberFrom_digit hdigit hc
      have hn : n < 10 ^ (exponent + 1) :=
        (Nat.length_toDigits_le_iff (by decide) (by omega)).mp (by omega)
      calc
        n < 10 ^ (exponent + 1) := hn
        _ = 10 * 10 ^ exponent := by ring
        _ ≤ coefficient.bigNumber * 10 ^ exponent := by
          apply Nat.mul_le_mul_right
          have : digits = 10 ^ 8 := rfl
          nlinarith
        _ = coefficient.bigNumber * 10 ^ bigNumberFrom (Nat.toDigits 10 exponent) := by
          rw [bigNumberFrom_toDigits]

end Decimal

end HLiquity
