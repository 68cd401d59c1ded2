import HLiquity.DecimalText
import HLiquity.Library.DigitText
import Mathlib.Algebra.Order.Archimedean.Basic
import Mathlib.Algebra.Order.Floor.Semifield
import Mathlib.Tactic.FieldSimp

/-!
# What a decimal text denotes

A text denotes a rational number. `Decimal.from` cuts the coefficient at the
eighth decimal place before it applies the exponent, so what it reads is the
number rounded down exactly if a positive exponent moves only zeros over that
place.
-/

namespace HLiquity.Decimal

/-- The number that digits with an optional fraction denote. -/
def coefficientValue (coefficient : Text) : ℚ :=
  let (characteristic, mantissa) := splitAtFirst '.' coefficient
  bigNumberFrom characteristic + bigNumberFrom mantissa / 10 ^ mantissa.length

/-- The number that an exponent with an optional sign denotes. -/
def exponentValue : Text → ℤ
  | '-' :: rest => -bigNumberFrom rest
  | '+' :: rest => bigNumberFrom rest
  | rest => bigNumberFrom rest

/-- The number that a text denotes. -/
def denoted (text : Text) : ℚ :=
  let (coefficient, exponent) := splitAtFirst 'e' text
  coefficientValue coefficient * 10 ^ exponentValue exponent

/-- The digits of the coefficient after the eighth decimal place that a positive
exponent moves before it. -/
def cutDigits (text : Text) : Text :=
  let (coefficient, exponent) := splitAtFirst 'e' text
  ((splitAtFirst '.' coefficient).2.drop precision).take (exponentValue exponent).toNat

/-- A text of digits. -/
def AllDigits (text : Text) : Prop := ∀ c ∈ text, c.isDigit = true

theorem splitAtFirst_of_not_mem {separator : Char} {text : Text} (h : separator ∉ text) :
    splitAtFirst separator text = (text, []) := by
  have hbefore : ∀ c ∈ text, (c != separator) = true :=
    fun c hc => bne_iff_ne.mpr fun heq => h (heq ▸ hc)
  rw [splitAtFirst, List.takeWhile_eq_self_iff.mpr hbefore, List.dropWhile_eq_nil_iff.mpr hbefore]
  rfl

theorem splitAtFirst_append {separator : Char} {text : Text} (h : separator ∉ text)
    (rest : Text) : splitAtFirst separator (text ++ separator :: rest) = (text, rest) := by
  have hbefore : ∀ c ∈ text, (c != separator) = true :=
    fun c hc => bne_iff_ne.mpr fun heq => h (heq ▸ hc)
  simp [splitAtFirst, List.takeWhile_append_of_pos hbefore, List.dropWhile_append_of_pos hbefore]

/-- A coefficient: digits, and after a point possibly more of them. -/
inductive IsCoefficient : Text → Text → Text → Prop
  | whole {characteristic : Text} (h : AllDigits characteristic) :
      IsCoefficient characteristic characteristic []
  | fraction {characteristic mantissa : Text} (h : AllDigits characteristic)
      (hmantissa : AllDigits mantissa) :
      IsCoefficient (characteristic ++ '.' :: mantissa) characteristic mantissa

/-- An optional exponent with its `e`, and the power of ten that it denotes. -/
inductive IsExponent : Text → ℤ → Prop
  | absent : IsExponent [] 0
  | unsigned {rest : Text} (hne : rest ≠ []) (h : AllDigits rest) :
      IsExponent ('e' :: rest) (bigNumberFrom rest)
  | plus {rest : Text} (hne : rest ≠ []) (h : AllDigits rest) :
      IsExponent ('e' :: '+' :: rest) (bigNumberFrom rest)
  | minus {rest : Text} (hne : rest ≠ []) (h : AllDigits rest) :
      IsExponent ('e' :: '-' :: rest) (-bigNumberFrom rest)

theorem allDigits_of_all {rest : Text} (h : (rest != [] && rest.all Char.isDigit) = true) :
    rest ≠ [] ∧ AllDigits rest := by
  rw [Bool.and_eq_true, bne_iff_ne, List.all_eq_true] at h
  exact h

/-- What the format accepts after a coefficient. -/
theorem isExponent_of_matches {exponent : Text} (h : matchesExponent exponent = true) :
    ∃ power, IsExponent exponent power := by
  unfold matchesExponent at h
  split at h
  · exact ⟨_, .absent⟩
  · exact ⟨_, .minus (allDigits_of_all h).1 (allDigits_of_all h).2⟩
  · exact ⟨_, .plus (allDigits_of_all h).1 (allDigits_of_all h).2⟩
  · exact ⟨_, .unsigned (allDigits_of_all h).1 (allDigits_of_all h).2⟩
  · cases h

theorem allDigits_takeWhile (text : Text) : AllDigits (text.takeWhile Char.isDigit) :=
  fun _ hc => List.mem_takeWhile_imp hc

/-- A text of the format is a coefficient and an optional exponent. -/
theorem exists_parts {text : Text} (h : stringRepresentationFormat text = true) :
    ∃ coefficient characteristic mantissa exponent power,
      IsCoefficient coefficient characteristic mantissa ∧ IsExponent exponent power ∧
        text = coefficient ++ exponent := by
  have hdigits := allDigits_takeWhile text
  have htext := List.takeWhile_append_dropWhile (p := Char.isDigit) (l := text)
  unfold stringRepresentationFormat at h
  split at h
  · next rest hrest =>
      obtain ⟨power, hexponent⟩ := isExponent_of_matches h
      refine ⟨_, _, _, _, power, .fraction hdigits (allDigits_takeWhile rest), hexponent, ?_⟩
      rw [List.append_assoc, List.cons_append, List.takeWhile_append_dropWhile, ← hrest, htext]
  · obtain ⟨power, hexponent⟩ := isExponent_of_matches h
    exact ⟨_, _, _, _, power, .whole hdigits, hexponent, htext.symm⟩

theorem AllDigits.not_mem {text : Text} (h : AllDigits text) {c : Char}
    (hc : c.isDigit = false) : c ∉ text := by
  intro hmem
  rw [h c hmem] at hc
  cases hc

/-- The parts of a coefficient are found by splitting it. -/
theorem IsCoefficient.split {coefficient characteristic mantissa : Text}
    (h : IsCoefficient coefficient characteristic mantissa) :
    splitAtFirst '.' coefficient = (characteristic, mantissa) := by
  cases h with
  | whole h => exact splitAtFirst_of_not_mem (h.not_mem (by decide))
  | fraction h hmantissa => exact splitAtFirst_append (h.not_mem (by decide)) mantissa

theorem IsCoefficient.not_mem_e {coefficient characteristic mantissa : Text}
    (h : IsCoefficient coefficient characteristic mantissa) : 'e' ∉ coefficient := by
  cases h with
  | whole h => exact h.not_mem (by decide)
  | fraction h hmantissa =>
      have hleft : 'e' ∉ characteristic := h.not_mem (by decide)
      have hright : 'e' ∉ mantissa := hmantissa.not_mem (by decide)
      simp [hleft, hright]

theorem IsCoefficient.mantissa {coefficient characteristic mantissa : Text}
    (h : IsCoefficient coefficient characteristic mantissa) : AllDigits mantissa := by
  cases h with
  | whole h => exact fun _ hc => absurd hc List.not_mem_nil
  | fraction h hmantissa => exact hmantissa

/-- A coefficient is of the format. -/
theorem IsCoefficient.format {coefficient characteristic mantissa : Text}
    (h : IsCoefficient coefficient characteristic mantissa) :
    stringRepresentationFormat coefficient = true := by
  cases h with
  | whole h =>
      rw [stringRepresentationFormat, List.dropWhile_eq_nil_iff.mpr h]
      rfl
  | fraction h hmantissa =>
      have hpoint : ('.' :: mantissa).dropWhile Char.isDigit = '.' :: mantissa := rfl
      rw [stringRepresentationFormat, List.dropWhile_append_of_pos h, hpoint]
      simp only [List.dropWhile_eq_nil_iff.mpr hmantissa]
      rfl

/-- A mantissa is padded or cut to its number of units, rounded down. -/
theorem bigNumberFrom_padded {mantissa : Text} (h : AllDigits mantissa) :
    bigNumberFrom (if mantissa.length < precision then
        mantissa ++ List.replicate (precision - mantissa.length) '0'
      else mantissa.take precision) =
      bigNumberFrom mantissa * 10 ^ precision / 10 ^ mantissa.length := by
  have hcut := DigitText.value_mul_div h precision
  split
  · next hlt =>
      have hpadded := DigitText.value_append mantissa
        (List.replicate (precision - mantissa.length) '0')
      rw [List.take_of_length_le hlt.le] at hcut
      rw [DigitText.value_replicate_zero, List.length_replicate, Nat.add_zero, ← hcut] at hpadded
      exact hpadded
  · next hle =>
      rw [Nat.sub_eq_zero_of_le (Nat.le_of_not_lt hle), pow_zero, mul_one] at hcut
      exact hcut.symm

/-- The number of units of a coefficient, rounded down. -/
def unitsOf (characteristic mantissa : Text) : Nat :=
  bigNumberFrom characteristic * digits +
    bigNumberFrom mantissa * 10 ^ precision / 10 ^ mantissa.length

/-- A coefficient with a digit is read as its number of units. -/
theorem fromCoefficient_eq {coefficient characteristic mantissa : Text}
    (h : IsCoefficient coefficient characteristic mantissa) (hne : coefficient ≠ []) :
    fromCoefficient coefficient = .ok ⟨unitsOf characteristic mantissa⟩ := by
  have hpadded := bigNumberFrom_padded h.mantissa
  rw [fromCoefficient, if_neg (by simp [hne, h.format]), h.split]
  cases h with
  | whole h =>
      have hpoint : '.' ∉ coefficient := h.not_mem (by decide)
      rw [if_pos (by simpa using hpoint)]
      simp [unitsOf, bigNumberFrom]
  | fraction h hmantissa =>
      rw [if_neg (by simp)]
      simp only [hpadded]
      rfl

theorem exponentValue_of_allDigits {rest : Text} (h : AllDigits rest) :
    exponentValue rest = bigNumberFrom rest := by
  unfold exponentValue
  split
  · exact absurd (h '-' List.mem_cons_self) (by decide)
  · exact absurd (h '+' List.mem_cons_self) (by decide)
  · rfl

/-- The power of ten of a text's exponent is split at its `e`. -/
theorem IsExponent.split {coefficient characteristic mantissa exponent : Text} {power : ℤ}
    (h : IsExponent exponent power)
    (hcoefficient : IsCoefficient coefficient characteristic mantissa) :
    (splitAtFirst 'e' (coefficient ++ exponent)).1 = coefficient ∧
      exponentValue (splitAtFirst 'e' (coefficient ++ exponent)).2 = power := by
  have hnot := hcoefficient.not_mem_e
  cases h with
  | absent =>
      rw [List.append_nil, splitAtFirst_of_not_mem hnot]
      exact ⟨rfl, rfl⟩
  | unsigned hne h =>
      rw [splitAtFirst_append hnot]
      exact ⟨rfl, exponentValue_of_allDigits h⟩
  | plus hne h =>
      rw [splitAtFirst_append hnot]
      exact ⟨rfl, rfl⟩
  | minus hne h =>
      rw [splitAtFirst_append hnot]
      exact ⟨rfl, rfl⟩

/-- The digits that a positive exponent moves before the eighth place. -/
theorem cutDigits_eq {text coefficient characteristic mantissa exponent : Text} {power : ℤ}
    (hcoefficient : IsCoefficient coefficient characteristic mantissa)
    (h : IsExponent exponent power) (htext : text = coefficient ++ exponent) :
    cutDigits text = (mantissa.drop precision).take power.toNat := by
  obtain ⟨hbefore, hpower⟩ := h.split hcoefficient
  rw [cutDigits, htext]
  simp only [hbefore, hpower, hcoefficient.split]

/-- A text is read as the units of its coefficient, scaled by its exponent. -/
theorem fromString_eq {text coefficient characteristic mantissa exponent : Text} {power : ℤ}
    (hcoefficient : IsCoefficient coefficient characteristic mantissa) (hne : coefficient ≠ [])
    (h : IsExponent exponent power) (htext : text = coefficient ++ exponent)
    (hformat : stringRepresentationFormat text = true) :
    fromString text =
      .ok ⟨unitsOf characteristic mantissa * 10 ^ power.toNat / 10 ^ (-power).toNat⟩ := by
  have hread := fromCoefficient_eq hcoefficient hne
  have hnot := hcoefficient.not_mem_e
  have htextne : text ≠ [] := by
    intro hnil
    rw [hnil] at htext
    exact hne (List.append_eq_nil_iff.mp htext.symm).1
  rw [fromString, if_neg (by simp [htextne, hformat])]
  subst htext
  cases h with
  | absent =>
      rw [List.append_nil, if_neg (by simpa using hnot), hread]
      simp
  | unsigned hne h =>
      rw [if_pos (by simp), splitAtFirst_append hnot]
      simp only [hread, Result.ok_bind, Result.pure_eq]
      split
      · exact absurd (h '-' List.mem_cons_self) (by decide)
      · exact absurd (h '+' List.mem_cons_self) (by decide)
      · simp
  | plus hne h =>
      rw [if_pos (by simp), splitAtFirst_append hnot]
      simp [hread]
  | minus hne h =>
      rw [if_pos (by simp), splitAtFirst_append hnot]
      simp [hread]

/-- The denoted number of units as a fraction. -/
theorem coefficientValue_mul {coefficient characteristic mantissa : Text}
    (h : IsCoefficient coefficient characteristic mantissa) :
    coefficientValue coefficient * 10 ^ precision =
      ((bigNumberFrom characteristic * digits * 10 ^ mantissa.length +
        bigNumberFrom mantissa * 10 ^ precision : ℕ) : ℚ) / ((10 ^ mantissa.length : ℕ) : ℚ) := by
  have hdigits : (digits : ℚ) = 10 ^ precision := by norm_num [digits, precision]
  rw [coefficientValue, h.split]
  push_cast
  rw [hdigits]
  field_simp

/-- Scaling by a power of ten is scaling up by one power and down by another. -/
theorem zpow_eq_div (power : ℤ) :
    (10 : ℚ) ^ power = ((10 ^ power.toNat : ℕ) : ℚ) / ((10 ^ (-power).toNat : ℕ) : ℚ) := by
  rcases le_total 0 power with h | h
  · obtain ⟨n, rfl⟩ := Int.eq_ofNat_of_zero_le h
    simp
  · obtain ⟨n, hn⟩ := Int.eq_ofNat_of_zero_le (Int.neg_nonneg.mpr h)
    obtain rfl : power = -n := by omega
    simp

/-- The denoted number of units, rounded down: what is read, and the digits that a
positive exponent moves before the eighth place. -/
theorem floor_denoted {text coefficient characteristic mantissa exponent : Text} {power : ℤ}
    (hcoefficient : IsCoefficient coefficient characteristic mantissa)
    (h : IsExponent exponent power) (htext : text = coefficient ++ exponent) :
    ⌊denoted text * 10 ^ precision⌋₊ =
      (unitsOf characteristic mantissa * 10 ^ power.toNat +
        bigNumberFrom (cutDigits text) *
          10 ^ (precision + power.toNat - mantissa.length)) / 10 ^ (-power).toNat := by
  obtain ⟨hbefore, hpower⟩ := h.split hcoefficient
  have hcut := cutDigits_eq hcoefficient h htext
  have hdenoted : denoted text * 10 ^ precision =
      coefficientValue coefficient * 10 ^ precision * 10 ^ power := by
    rw [denoted, htext]
    simp only [hbefore, hpower]
    ring
  have hloss := DigitText.value_mul_div_add hcoefficient.mantissa precision power.toNat
  set up := 10 ^ power.toNat with hup
  set down := 10 ^ (-power).toNat with hdown
  set whole := 10 ^ mantissa.length with hwhole
  calc
    ⌊denoted text * 10 ^ precision⌋₊
        = ⌊(((bigNumberFrom characteristic * digits * whole +
            bigNumberFrom mantissa * 10 ^ precision) * up : ℕ) : ℚ) /
            ((whole * down : ℕ) : ℚ)⌋₊ := by
          rw [hdenoted, coefficientValue_mul hcoefficient, zpow_eq_div, div_mul_div_comm,
            ← Nat.cast_mul, ← Nat.cast_mul]
    _ = (bigNumberFrom characteristic * digits * whole +
            bigNumberFrom mantissa * 10 ^ precision) * up / whole / down := by
          rw [Nat.floor_div_eq_div, Nat.div_div_eq_div_mul]
    _ = (bigNumberFrom characteristic * digits * up +
            bigNumberFrom mantissa * 10 ^ (precision + power.toNat) / whole) / down := by
          congr 1
          rw [Nat.add_mul, mul_right_comm, Nat.add_comm, Nat.add_mul_div_right _ _ (by positivity),
            Nat.add_comm, mul_assoc (bigNumberFrom mantissa), ← pow_add]
    _ = _ := by
          rw [unitsOf, hcut, Nat.add_mul, Nat.add_assoc]
          congr 2

/-- A coefficient with a digit is not empty. -/
theorem IsCoefficient.ne_nil {coefficient characteristic mantissa exponent text : Text}
    {power : ℤ} (hcoefficient : IsCoefficient coefficient characteristic mantissa)
    (h : IsExponent exponent power) (htext : text = coefficient ++ exponent)
    (hdigit : ∃ c ∈ (splitAtFirst 'e' text).1, c.isDigit = true) : coefficient ≠ [] := by
  rintro rfl
  obtain ⟨c, hc, -⟩ := hdigit
  rw [htext, (h.split hcoefficient).1] at hc
  exact List.not_mem_nil hc

/-- A text of the format whose coefficient has a digit is read, as a string and as
the text of a number alike; it is read as the denoted number rounded down to eight
places exactly if a positive exponent moves only zeros before the eighth place. -/
theorem from_eq_floor_iff {text : Text} (hformat : stringRepresentationFormat text = true)
    (hdigit : ∃ c ∈ (splitAtFirst 'e' text).1, c.isDigit = true) :
    (∃ value, Decimal.from (.string text) = .ok value) ∧
      Decimal.from (.number text) = Decimal.from (.string text) ∧
      (Decimal.from (.string text) = .ok ⟨⌊denoted text * 10 ^ precision⌋₊⟩ ↔
        ∀ c ∈ cutDigits text, c = '0') := by
  obtain ⟨coefficient, characteristic, mantissa, exponent, power, hcoefficient, hexponent,
    htext⟩ := exists_parts hformat
  have hne := hcoefficient.ne_nil hexponent htext hdigit
  have hread := fromString_eq hcoefficient hne hexponent htext hformat
  have hcut := cutDigits_eq hcoefficient hexponent htext
  have hdigits : AllDigits (cutDigits text) := by
    rw [hcut]
    exact fun c hc =>
      hcoefficient.mantissa c (List.mem_of_mem_drop (List.mem_of_mem_take hc))
  have hzeros := DigitText.value_eq_zero_iff hdigits
  refine ⟨⟨_, hread⟩, rfl, ?_⟩
  change fromString text = _ ↔ _
  rw [hread, floor_denoted hcoefficient hexponent htext, ← hzeros, Except.ok.injEq,
    Decimal.mk.injEq]
  rcases le_or_gt 0 power with hle | hlt
  · have hdown : (-power).toNat = 0 := Int.toNat_eq_zero.mpr (by omega)
    rw [hdown, pow_zero, Nat.div_one, Nat.div_one, Nat.left_eq_add, Nat.mul_eq_zero]
    exact or_iff_left (by positivity)
  · have hup : power.toNat = 0 := Int.toNat_eq_zero.mpr hlt.le
    rw [hup, List.take_zero] at hcut
    simp [hcut, bigNumberFrom]

/-- A text whose exponent moves two zeros over the eighth place. -/
def movedZeros : Text := ['1', '.', '1', '2', '3', '4', '5', '6', '7', '8', '0', '0', 'e', '2']

theorem from_eq_floor_iff_zeros :
    Decimal.from (.string movedZeros) = .ok ⟨⌊denoted movedZeros * 10 ^ precision⌋₊⟩ := by
  have hformat : stringRepresentationFormat movedZeros = true := by decide
  have hcut : cutDigits movedZeros = ['0', '0'] := by decide
  refine (from_eq_floor_iff hformat ⟨'1', by decide, by decide⟩).2.2.mpr ?_
  rw [hcut]
  simp

/-- Seventeen digits, the number of them that a JavaScript number may print. -/
def seventeenDigits : Text :=
  ['1', '.', '2', '3', '4', '5', '6', '7', '8', '9', '0', '1', '2', '3', '4', '5', '6', '7',
    'e', '+', '2', '1']

/-- The same number without an exponent. -/
def plainDigits : Text :=
  ['1', '2', '3', '4', '5', '6', '7', '8', '9', '0', '1', '2', '3', '4', '5', '6', '7',
    '0', '0', '0', '0', '0']

/-- Eight digits are cut before the exponent moves them before the point, so two
spellings of one number are read as two decimals. -/
theorem from_seventeenDigits :
    (stringRepresentationFormat seventeenDigits = true ∧
      (∃ c ∈ (splitAtFirst 'e' seventeenDigits).1, c.isDigit = true) ∧
      Decimal.from (.string seventeenDigits) ≠
        .ok ⟨⌊denoted seventeenDigits * 10 ^ precision⌋₊⟩) ∧
      denoted seventeenDigits = denoted plainDigits ∧
      Decimal.from (.string seventeenDigits) ≠ Decimal.from (.string plainDigits) := by
  refine ⟨⟨by decide, ⟨'1', by decide, by decide⟩, ?_⟩, ?_, ?_⟩
  · decide +kernel
  · decide +kernel
  · decide +kernel

end HLiquity.Decimal
