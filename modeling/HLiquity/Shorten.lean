import HLiquity.Prettify

/-!
# Shortened decimals

The magnitude is chosen by the length of the rounded whole part, but the number
that is printed is rounded once more after it has been divided. Below a power
of a thousand the second rounding carries into a fourth digit.
-/

namespace HLiquity.Decimal

/-- `magnitudes` -/
def magnitudes : List Text := [[], ['K'], ['M'], ['B'], ['T']]

def shorten (this : Decimal) : Result Text := do
  let whole ← this.toString (some 0)
  let characteristicLength := whole.length
  let magnitude := Nat.min ((characteristicLength - 1) / 3) (magnitudes.length - 1)
  let precision := Max.max (3 * ((magnitude : Int) + 1) - characteristicLength) 0
  let normalized := this.div ⟨10 ^ (Decimal.precision + 3 * magnitude)⟩
  let pretty ← normalized.prettify (some precision)
  return pretty ++ magnitudes.getD magnitude []

/-- Below `999.5 * 10 ^ 12`. -/
def shortenBound : Decimal := ⟨9995 * 10 ^ 11 * digits⟩

/-- A number with one to three integer digits and no separator, and a magnitude; both
together are within half a unit of the last printed digit and one unit of the eighth
decimal place of the number. -/
def ShortensWell (d : Decimal) : Prop :=
  ∃ number characteristic mantissa magnitude, magnitude < magnitudes.length ∧
    d.shorten = .ok (number ++ magnitudes.getD magnitude []) ∧
    IsCoefficient number characteristic mantissa ∧
    1 ≤ characteristic.length ∧ characteristic.length ≤ 3 ∧
    |d.toRat - denoted number * 1000 ^ magnitude| ≤
      1000 ^ magnitude * (1 / 10 ^ mantissa.length / 2 + 1 / digits)

/-- From `999.5` to half below a thousand, in units of a power of a thousand. -/
def NearThousand (d : Decimal) (magnitude : Nat) : Prop :=
  9995 * 10 ^ 7 * 1000 ^ magnitude ≤ d.bigNumber ∧
    d.bigNumber + 5 * 10 ^ 7 < 1000 ^ (magnitude + 1) * digits

/-- Up to three digits get no comma. -/
theorem groupThousands_of_length_le {text : Text} (h : AllDigits text)
    (hlength : text.length ≤ 3) : groupThousands text = text := by
  by_cases hne : text = []
  · rw [hne]
    rfl
  · obtain ⟨first, others, hpretty, hdigits, hone, hthree, hgroups⟩ :=
      isGrouped_groupThousands h hne
    cases others with
    | nil =>
        rw [hpretty, hdigits]
        rfl
    | cons group others =>
        have hgroup := hgroups group List.mem_cons_self
        rw [hdigits, List.flatten_cons, List.length_append, List.length_append] at hlength
        omega

/-- Four digits get one. -/
theorem mem_groupThousands_of_lt_length {text : Text} (h : AllDigits text)
    (hlength : 3 < text.length) : ',' ∈ groupThousands text := by
  have hne : text ≠ [] := by
    rintro rfl
    exact absurd hlength (by decide)
  obtain ⟨first, others, hpretty, hdigits, hone, hthree, hgroups⟩ :=
    isGrouped_groupThousands h hne
  cases others with
  | nil =>
      rw [hdigits, List.flatten_nil, List.append_nil] at hlength
      omega
  | cons group others =>
      rw [hpretty, List.flatMap_cons]
      simp

/-- The whole part, rounded. -/
def roundedWhole (d : Decimal) : Nat := (d.bigNumber + 5 * 10 ^ 7) / digits

/-- The decimal divided by a power of a thousand. -/
def normalized (d : Decimal) (magnitude : Nat) : Decimal := ⟨d.bigNumber / 1000 ^ magnitude⟩

theorem div_thousands (d : Decimal) (magnitude : Nat) :
    d.div ⟨10 ^ (precision + 3 * magnitude)⟩ = d.normalized magnitude := by
  have hpos : zero < ⟨10 ^ (precision + 3 * magnitude)⟩ := lt_def.mpr (by positivity)
  have hpow : 10 ^ (precision + 3 * magnitude) = 1000 ^ magnitude * digits := by
    rw [pow_add, pow_mul, Nat.mul_comm]
    rfl
  apply Decimal.ext
  rw [div_bigNumber hpos, hpow, Nat.mul_div_mul_right _ _ digits_pos]
  rfl

/-- The length of the rounded whole part gives a magnitude and a number of digits in
front of the point. -/
theorem exists_magnitude {d : Decimal} (h : d < shortenBound) :
    ∃ magnitude front, magnitude ≤ 4 ∧ 1 ≤ front ∧ front ≤ 3 ∧
      (Nat.toDigits 10 d.roundedWhole).length = 3 * magnitude + front := by
  have hlt : d.bigNumber < 9995 * 10 ^ 11 * digits := lt_def.mp h
  have hwhole : d.roundedWhole < 10 ^ 15 := by
    rw [roundedWhole, Nat.div_lt_iff_lt_mul digits_pos]
    rw [show digits = 10 ^ 8 from rfl] at hlt ⊢
    omega
  have hlong : (Nat.toDigits 10 d.roundedWhole).length ≤ 15 :=
    (Nat.length_toDigits_le_iff (by decide) (by decide)).mpr hwhole
  have hshort : 0 < (Nat.toDigits 10 d.roundedWhole).length := Nat.length_toDigits_pos
  refine ⟨((Nat.toDigits 10 d.roundedWhole).length - 1) / 3,
    ((Nat.toDigits 10 d.roundedWhole).length - 1) % 3 + 1, ?_, ?_, ?_, ?_⟩ <;> omega

/-- What a decimal below the bound is shortened to. -/
theorem shorten_eq {d : Decimal} (h : d < shortenBound) {magnitude front : Nat}
    (hmagnitude : magnitude ≤ 4) (hone : 1 ≤ front) (hthree : front ≤ 3)
    (hlength : (Nat.toDigits 10 d.roundedWhole).length = 3 * magnitude + front) :
    d.shorten = .ok (groupThousands (Nat.toDigits 10
        ((d.normalized magnitude).cutValue (3 - front) / digits)) ++
      fractionPart ((d.normalized magnitude).printedPlaces (3 - front)) ++
      magnitudes.getD magnitude []) := by
  have hbound : shortenBound < infinity := by decide +kernel
  have hfinite : d ≠ infinity := (h.trans hbound).ne
  have hnormalized : d.normalized magnitude ≠ infinity := by
    refine (lt_of_le_of_lt ?_ (h.trans hbound)).ne
    exact le_def.mpr (Nat.div_le_self _ _)
  have hwhole : d.toString (some 0) = .ok (Nat.toDigits 10 d.roundedWhole) := by
    refine (toString_places hfinite 0).trans ?_
    rw [printedPlaces, if_pos rfl, roundedWhole, Nat.mul_comm 5]
    rfl
  have hmin : Nat.min ((3 * magnitude + front - 1) / 3) (magnitudes.length - 1) = magnitude := by
    have hfloor : (3 * magnitude + front - 1) / 3 = magnitude := by omega
    rw [hfloor]
    exact Nat.min_eq_left hmagnitude
  have hprecision : Max.max (3 * ((magnitude : Int) + 1) - (3 * magnitude + front : Nat)) 0 =
      ((3 - front : Nat) : Int) := by omega
  rw [shorten, hwhole, Result.ok_bind]
  simp only [hlength, hmin, hprecision, div_thousands, prettify_places hnormalized,
    Result.ok_bind, Result.pure_eq]

/-- The length of the rounded whole part bounds the count of units. -/
theorem lt_of_length {d : Decimal} {magnitude front : Nat}
    (hlength : (Nat.toDigits 10 d.roundedWhole).length = 3 * magnitude + front)
    (hone : 1 ≤ front) : d.bigNumber + 5 * 10 ^ 7 < 10 ^ front * digits * 1000 ^ magnitude := by
  have hwhole : d.roundedWhole < 10 ^ (3 * magnitude + front) :=
    (Nat.length_toDigits_le_iff (by decide) (by omega)).mp hlength.le
  have hpow : 10 ^ (3 * magnitude + front) * digits = 10 ^ front * digits * 1000 ^ magnitude := by
    rw [pow_add, pow_mul]
    ring
  rw [roundedWhole, Nat.div_lt_iff_lt_mul digits_pos, hpow] at hwhole
  exact hwhole

/-- The whole part of the printed number has a fourth digit exactly just below a
power of a thousand. -/
theorem three_lt_length_iff {d : Decimal} {magnitude front : Nat}
    (hone : 1 ≤ front) (hthree : front ≤ 3)
    (hlength : (Nat.toDigits 10 d.roundedWhole).length = 3 * magnitude + front) :
    3 < (Nat.toDigits 10 ((d.normalized magnitude).cutValue (3 - front) / digits)).length ↔
      d.NearThousand magnitude := by
  have hbound := lt_of_length hlength hone
  have hpos : 0 < 1000 ^ magnitude := by positivity
  have hplaces : 3 - front < precision := lt_of_le_of_lt (Nat.sub_le 3 front) (by decide)
  have hfour : 3 < (Nat.toDigits 10
        ((d.normalized magnitude).cutValue (3 - front) / digits)).length ↔
      1000 * digits ≤ d.bigNumber / 1000 ^ magnitude + 10 ^ (7 - (3 - front)) * 5 := by
    rw [← not_le, Nat.length_toDigits_le_iff (by decide) (by decide), not_lt,
      Nat.le_div_iff_mul_le digits_pos, cutValue, if_pos hplaces]
    rfl
  have hnear : d.NearThousand magnitude ↔ 9995 * 10 ^ 7 ≤ d.bigNumber / 1000 ^ magnitude ∧
      d.bigNumber + 5 * 10 ^ 7 < 1000 * digits * 1000 ^ magnitude := by
    have hpow : 1000 ^ (magnitude + 1) * digits = 1000 * digits * 1000 ^ magnitude := by ring
    rw [NearThousand, Nat.le_div_iff_mul_le hpos, hpow]
  rw [hfour, hnear, show digits = 10 ^ 8 from rfl]
  rw [show digits = 10 ^ 8 from rfl] at hbound
  -- with fewer than three digits in front there is room for a carry
  have hroom : front ≤ 2 → d.bigNumber / 1000 ^ magnitude < 10 ^ 10 := by
    intro htwo
    have hfront : 10 ^ front ≤ 10 ^ 2 := Nat.pow_le_pow_right (by decide) htwo
    rw [Nat.div_lt_iff_lt_mul hpos]
    calc
      d.bigNumber < 10 ^ front * 10 ^ 8 * 1000 ^ magnitude := lt_of_le_of_lt (by omega) hbound
      _ ≤ 10 ^ 10 * 1000 ^ magnitude := by
        refine Nat.mul_le_mul_right _ ?_
        omega
  obtain rfl | rfl | rfl : front = 1 ∨ front = 2 ∨ front = 3 := by omega
  · have hless := hroom (by decide)
    omega
  · have hless := hroom (by decide)
    omega
  · omega

/-- A number that is rounded from the divided decimal is near the decimal. -/
theorem abs_sub_scaled_le (d : Decimal) (magnitude : Nat) {places : Nat} {text : Text}
    (h : PrintsRounded (d.normalized magnitude) places text) :
    |d.toRat - denoted text * 1000 ^ magnitude| ≤
      1000 ^ magnitude * (1 / 10 ^ places / 2 + 1 / digits) := by
  have hdigits : (0 : ℚ) < digits := by exact_mod_cast digits_pos
  have hscale : (0 : ℚ) < 1000 ^ magnitude := by positivity
  have hcut : |d.toRat / 1000 ^ magnitude - (d.normalized magnitude).toRat| ≤ 1 / digits := by
    have hlow : ((d.bigNumber / 1000 ^ magnitude : ℕ) : ℚ) * 1000 ^ magnitude ≤ d.bigNumber := by
      exact_mod_cast Nat.div_mul_le_self _ _
    have hhigh : (d.bigNumber : ℚ) <
        ((d.bigNumber / 1000 ^ magnitude : ℕ) + 1) * 1000 ^ magnitude := by
      exact_mod_cast Nat.lt_mul_of_div_lt (Nat.lt_succ_self _) (by positivity)
    have hsame : d.toRat / 1000 ^ magnitude - (d.normalized magnitude).toRat =
        ((d.bigNumber : ℚ) / 1000 ^ magnitude - (d.bigNumber / 1000 ^ magnitude : ℕ)) /
          digits := by
      rw [toRat, toRat, normalized]
      ring
    have hpart : (d.bigNumber / 1000 ^ magnitude : ℕ) ≤ (d.bigNumber : ℚ) / 1000 ^ magnitude :=
      (le_div_iff₀ hscale).mpr hlow
    have hnext : (d.bigNumber : ℚ) / 1000 ^ magnitude < (d.bigNumber / 1000 ^ magnitude : ℕ) + 1 :=
      (div_lt_iff₀ hscale).mpr hhigh
    rw [hsame, abs_of_nonneg (div_nonneg (sub_nonneg.mpr hpart) hdigits.le)]
    exact div_le_div_of_nonneg_right (by linarith) hdigits.le
  calc
    |d.toRat - denoted text * 1000 ^ magnitude|
        = 1000 ^ magnitude * |d.toRat / 1000 ^ magnitude - denoted text| := by
          rw [← abs_of_pos hscale, ← abs_mul, abs_of_pos hscale, mul_sub,
            mul_div_cancel₀ _ hscale.ne', mul_comm (denoted text)]
    _ ≤ 1000 ^ magnitude * (|d.toRat / 1000 ^ magnitude - (d.normalized magnitude).toRat| +
          |(d.normalized magnitude).toRat - denoted text|) :=
        mul_le_mul_of_nonneg_left (abs_sub_le _ _ _) hscale.le
    _ ≤ 1000 ^ magnitude * (1 / 10 ^ places / 2 + 1 / digits) := by
        have hclose := h.close
        refine mul_le_mul_of_nonneg_left ?_ hscale.le
        linarith

/-- Just below a power of a thousand the rounded whole part has three digits in front
of its groups. -/
theorem NearThousand.length_eq {d : Decimal} {magnitude : Nat} (h : d.NearThousand magnitude) :
    (Nat.toDigits 10 d.roundedWhole).length = 3 * magnitude + 3 := by
  obtain ⟨hlow, hhigh⟩ := h
  have hupper : d.roundedWhole < 10 ^ (3 * magnitude + 3) := by
    have hpow : 10 ^ (3 * magnitude + 3) = 1000 ^ (magnitude + 1) := by
      rw [show 3 * magnitude + 3 = 3 * (magnitude + 1) by ring, pow_mul]
      rfl
    rw [roundedWhole, Nat.div_lt_iff_lt_mul digits_pos, hpow]
    exact hhigh
  have hlower : 10 ^ (3 * magnitude + 2) ≤ d.roundedWhole := by
    have hpow : 10 ^ (3 * magnitude + 2) * digits = 10 ^ 10 * 1000 ^ magnitude := by
      rw [pow_add, pow_mul, show digits = 10 ^ 8 from rfl]
      ring
    rw [roundedWhole, Nat.le_div_iff_mul_le digits_pos, hpow]
    omega
  have hle := (Nat.length_toDigits_le_iff (by decide) (by omega)).mpr hupper
  have hlt : ¬ (Nat.toDigits 10 d.roundedWhole).length ≤ 3 * magnitude + 2 := by
    rw [Nat.length_toDigits_le_iff (by decide) (by omega)]
    exact not_lt.mpr hlower
  omega

/-- Neither a coefficient nor a magnitude has a comma. -/
theorem not_mem_comma {number characteristic mantissa : Text} {magnitude : Nat}
    (h : IsCoefficient number characteristic mantissa)
    (hmagnitude : magnitude < magnitudes.length) :
    ',' ∉ number ++ magnitudes.getD magnitude [] := by
  have hsuffix : ∀ n < magnitudes.length, ',' ∉ magnitudes.getD n [] := by decide
  have hnumber : ',' ∉ number := by
    cases h with
    | whole h => exact h.not_mem (by decide)
    | fraction h hmantissa =>
        have hleft : ',' ∉ characteristic := h.not_mem (by decide)
        have hright : ',' ∉ mantissa := hmantissa.not_mem (by decide)
        simp [hleft, hright]
  exact fun hmem => (List.mem_append.mp hmem).elim hnumber (hsuffix magnitude hmagnitude)

/-- Below the bound a decimal is shortened to a number of one to three integer digits
without a separator, accurately, exactly if it is not just below a power of a
thousand. -/
theorem shortensWell_iff {d : Decimal} (h : d < shortenBound) :
    d.ShortensWell ↔ ∀ magnitude, ¬ d.NearThousand magnitude := by
  obtain ⟨magnitude, front, hmagnitude, hone, hthree, hlength⟩ := exists_magnitude h
  have hshort := shorten_eq h hmagnitude hone hthree hlength
  have hfour := three_lt_length_iff hone hthree hlength
  have hwhole := allDigits_toDigits ((d.normalized magnitude).cutValue (3 - front) / digits)
  constructor
  · rintro ⟨number, characteristic, mantissa, other, hother, hprinted, hcoefficient, _⟩ near hnear
    have hsame : near = magnitude := by
      have := hnear.length_eq
      omega
    subst hsame
    have hcomma := mem_groupThousands_of_lt_length hwhole (hfour.mpr hnear)
    rw [hshort, Except.ok.injEq] at hprinted
    refine not_mem_comma hcoefficient hother ?_
    rw [← hprinted]
    simp [hcomma]
  · intro hnear
    obtain ⟨mantissa, hcoefficient, hplaces, _⟩ :=
      (d.normalized magnitude).printedPlaces_coefficient (3 - front)
    have hle := not_lt.mp (mt hfour.mp (hnear magnitude))
    rw [groupThousands_of_length_le hwhole hle, ← coefficient_eq_append hcoefficient] at hshort
    refine ⟨_, _, mantissa, magnitude, Nat.lt_succ_of_le hmagnitude, hshort, hcoefficient,
      Nat.length_toDigits_pos, hle, ?_⟩
    rw [hplaces]
    exact abs_sub_scaled_le d magnitude ((d.normalized magnitude).printsRounded_printed _)

/-- Twelve hundred are below the bound. -/
theorem shortensWell_iff_twelveHundred :
    (⟨120000000000⟩ : Decimal) < shortenBound ∧
      ((⟨120000000000⟩ : Decimal).ShortensWell ↔
        ∀ magnitude, ¬ (⟨120000000000⟩ : Decimal).NearThousand magnitude) :=
  ⟨by decide +kernel, shortensWell_iff (by decide +kernel)⟩

/-- `999500` is shortened to a number with four digits and a separator. -/
theorem not_shortensWell_near_million :
    (⟨99950000000000⟩ : Decimal) < shortenBound ∧
      (⟨99950000000000⟩ : Decimal).shorten = .ok ['1', ',', '0', '0', '0', 'K'] ∧
      ¬ (⟨99950000000000⟩ : Decimal).ShortensWell := by
  have hprinted : (⟨99950000000000⟩ : Decimal).shorten = .ok ['1', ',', '0', '0', '0', 'K'] := by
    decide +kernel
  refine ⟨by decide +kernel, hprinted, ?_⟩
  rintro ⟨number, characteristic, mantissa, magnitude, hmagnitude, hshort, hcoefficient, _⟩
  rw [hprinted, Except.ok.injEq] at hshort
  refine not_mem_comma hcoefficient hmagnitude ?_
  rw [← hshort]
  decide

end HLiquity.Decimal
