import HLiquity.DecimalRounding

/-!
# Separators

Grouping puts a comma wherever the digits that follow form whole groups of
three. Nothing but commas is inserted, and only into the whole part.
-/

namespace HLiquity.Decimal

/-- Digits written in groups of three from the right, after a first group of one to
three. -/
def IsGrouped (digits pretty : Text) : Prop :=
  ∃ (first : Text) (others : List Text), pretty = first ++ others.flatMap (',' :: ·) ∧
    digits = first ++ others.flatten ∧ 1 ≤ first.length ∧ first.length ≤ 3 ∧
    ∀ group ∈ others, group.length = 3

/-- Without its commas a grouped text is the text. -/
theorem filter_groupThousands {text : Text} (h : ',' ∉ text) :
    (groupThousands text).filter (· != ',') = text := by
  induction text with
  | nil => rfl
  | cons c rest ih =>
      have hc : (c != ',') = true := bne_iff_ne.mpr fun heq => h (heq ▸ List.mem_cons_self)
      have hrest := ih fun hmem => h (List.mem_cons_of_mem c hmem)
      rw [groupThousands]
      split <;> simp [hc, hrest]

/-- A text of digits gets a comma after its first digit if whole groups follow. -/
theorem groupThousands_cons {c : Char} {rest : Text} (h : AllDigits (c :: rest)) :
    groupThousands (c :: rest) =
      if 0 < rest.length ∧ rest.length % 3 = 0 then c :: ',' :: groupThousands rest
      else c :: groupThousands rest := by
  have hc : c.isDigit = true := h c List.mem_cons_self
  have hrest : rest.takeWhile Char.isDigit = rest :=
    List.takeWhile_eq_self_iff.mpr fun d hd => h d (List.mem_cons_of_mem c hd)
  simp only [groupThousands, hc, hrest, Bool.true_and, Bool.and_eq_true, decide_eq_true_eq,
    beq_iff_eq]

/-- The length of the first group decides whether whole groups follow a new digit. -/
theorem length_mod_three {first : Text} {others : List Text} (hone : 1 ≤ first.length)
    (hthree : first.length ≤ 3) (h : ∀ group ∈ others, group.length = 3) :
    (first ++ others.flatten).length % 3 = 0 ↔ first.length = 3 := by
  have hothers : others.flatten.length = 3 * others.length := by
    rw [List.length_flatten, List.map_congr_left h, List.map_const', List.sum_replicate_nat,
      Nat.mul_comm]
  rw [List.length_append, hothers]
  omega

/-- Digits are grouped from the right. -/
theorem isGrouped_groupThousands {text : Text} (h : AllDigits text) (hne : text ≠ []) :
    IsGrouped text (groupThousands text) := by
  induction text with
  | nil => exact absurd rfl hne
  | cons c rest ih =>
      rw [groupThousands_cons h]
      by_cases hrest : rest = []
      · subst hrest
        rw [if_neg (by simp)]
        exact ⟨[c], [], rfl, rfl, by simp, by simp, by simp⟩
      · obtain ⟨first, others, hpretty, hdigits, hone, hthree, hgroups⟩ :=
          ih (fun d hd => h d (List.mem_cons_of_mem c hd)) hrest
        have hmod := length_mod_three hone hthree hgroups
        rw [← hdigits] at hmod
        have hpos : 0 < rest.length := List.length_pos_iff.mpr hrest
        by_cases hfull : first.length = 3
        · -- the first group is full, so the digit begins a group of its own
          rw [if_pos ⟨hpos, hmod.mpr hfull⟩, hpretty]
          refine ⟨[c], first :: others, rfl, ?_, by simp, by simp, ?_⟩
          · rw [hdigits]
            rfl
          · exact List.forall_mem_cons.mpr ⟨hfull, hgroups⟩
        · rw [if_neg fun hwhole => hfull (hmod.mp hwhole.2), hpretty]
          refine ⟨c :: first, others, rfl, ?_, by simp, ?_, hgroups⟩
          · rw [hdigits]
            rfl
          · rw [List.length_cons]
            omega

/-- What follows the whole part of a coefficient. -/
def fractionPart (text : Text) : Text :=
  if text.contains '.' then '.' :: (splitAtFirst '.' text).2 else []

theorem coefficient_eq_append {text characteristic mantissa : Text}
    (h : IsCoefficient text characteristic mantissa) :
    text = characteristic ++ fractionPart text := by
  have hsplit := h.split
  rw [fractionPart, hsplit]
  cases h with
  | whole h =>
      have hpoint : '.' ∉ text := h.not_mem (by decide)
      rw [if_neg (by simpa using hpoint), List.append_nil]
  | fraction h hmantissa => rw [if_pos (by simp)]

/-- A prettified decimal is its printed text with the whole part grouped. -/
theorem prettify_places {d : Decimal} (h : d ≠ infinity) (places : Nat) :
    d.prettify (some places) =
      .ok (groupThousands (Nat.toDigits 10 (d.cutValue places / digits)) ++
        fractionPart (d.printedPlaces places)) := by
  obtain ⟨mantissa, hcoefficient, _⟩ := d.printedPlaces_coefficient places
  rw [prettify, Option.getD_some, toString_places h places, Result.ok_bind, fractionPart]
  simp only [hcoefficient.split, Result.pure_eq]
  split_ifs
  · rfl
  · rw [List.append_nil]

/-- A prettified decimal without its commas is the printed one. The commas are in the
whole part, in front of groups of three digits, and the fraction is the printed
one. -/
theorem prettify_grouped (d : Decimal) (places : ℕ) (h : d ≠ infinity) :
    ∃ text pretty characteristic prettyCharacteristic fraction,
      d.toString (some places) = .ok text ∧ d.prettify (some places) = .ok pretty ∧
      pretty.filter (· != ',') = text ∧
      text = characteristic ++ fraction ∧ pretty = prettyCharacteristic ++ fraction ∧
      AllDigits characteristic ∧ IsGrouped characteristic prettyCharacteristic ∧
      (fraction = [] ∨ ∃ mantissa, AllDigits mantissa ∧ fraction = '.' :: mantissa) := by
  obtain ⟨mantissa, hcoefficient, _⟩ := d.printedPlaces_coefficient places
  have hwhole := allDigits_toDigits (d.cutValue places / digits)
  have htext := coefficient_eq_append hcoefficient
  have hfraction : fractionPart (d.printedPlaces places) = [] ∨
      ∃ mantissa, AllDigits mantissa ∧
        fractionPart (d.printedPlaces places) = '.' :: mantissa := by
    rw [fractionPart, hcoefficient.split]
    split_ifs
    · exact .inr ⟨mantissa, hcoefficient.mantissa, rfl⟩
    · exact .inl rfl
  refine ⟨d.printedPlaces places, _, Nat.toDigits 10 (d.cutValue places / digits),
    groupThousands (Nat.toDigits 10 (d.cutValue places / digits)),
    fractionPart (d.printedPlaces places), toString_places h places, prettify_places h places,
    ?_, htext, rfl, hwhole, isGrouped_groupThousands hwhole Nat.toDigits_ne_nil, hfraction⟩
  have hkept : (fractionPart (d.printedPlaces places)).filter (· != ',') =
      fractionPart (d.printedPlaces places) := by
    refine List.filter_eq_self.mpr ?_
    rcases hfraction with hnone | ⟨mantissa, hmantissa, hsome⟩
    · rw [hnone]
      exact fun _ hc => absurd hc List.not_mem_nil
    · rw [hsome]
      refine List.forall_mem_cons.mpr ⟨by decide, fun c hc => ?_⟩
      exact bne_iff_ne.mpr fun heq => hmantissa.not_mem (by decide) (heq ▸ hc)
  rw [List.filter_append, filter_groupThousands (hwhole.not_mem (by decide)), hkept, ← htext]

/-- Seven digits are written in three groups. -/
theorem prettify_grouped_million :
    ∃ text pretty characteristic prettyCharacteristic fraction,
      (⟨123456750000000⟩ : Decimal).toString (some (1 : ℕ)) = .ok text ∧
      (⟨123456750000000⟩ : Decimal).prettify (some (1 : ℕ)) = .ok pretty ∧
      pretty.filter (· != ',') = text ∧
      text = characteristic ++ fraction ∧ pretty = prettyCharacteristic ++ fraction ∧
      AllDigits characteristic ∧ IsGrouped characteristic prettyCharacteristic ∧
      (fraction = [] ∨ ∃ mantissa, AllDigits mantissa ∧ fraction = '.' :: mantissa) :=
  prettify_grouped ⟨123456750000000⟩ 1 (by decide +kernel)

end HLiquity.Decimal
