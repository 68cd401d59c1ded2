import HLiquity.TroveTransfer

/-!
# Normalized adjustment parameters

A record of optional values is normalized exactly when its defined keys are
allowed, its defined values convert, at least one of them is not zero, and
neither component has non-zero amounts in both directions. The result holds the
non-zero entries and nothing else, so normalizing it again changes nothing.
-/

namespace HLiquity

open Decimal

theorem mem_definedEntries {params : ParamsRecord} {key : String} {value : Decimalish} :
    (key, value) ∈ definedEntries params ↔ (key, some value) ∈ params := by
  simp only [definedEntries, List.mem_filterMap, Option.map_eq_some_iff, Prod.mk.injEq]
  constructor
  · rintro ⟨⟨k, v⟩, hmem, w, hw, rfl, rfl⟩
    rwa [← hw]
  · intro hmem
    exact ⟨_, hmem, value, rfl, rfl, rfl⟩

/-- Defined entries keep the keys of a record apart. -/
theorem nodup_definedEntries {params : ParamsRecord} (h : (params.map Prod.fst).Nodup) :
    ((definedEntries params).map Prod.fst).Nodup := by
  have hsub : ((definedEntries params).map Prod.fst).Sublist (params.map Prod.fst) := by
    induction params with
    | nil => exact List.Sublist.refl _
    | cons entry rest ih =>
        have htail := ih (List.nodup_cons.mp h).2
        rcases entry with ⟨key, _ | value⟩
        · exact htail.cons key
        · exact htail.cons_cons key
  exact h.sublist hsub

/-- Converting the entries of a record keeps its keys and converts each value. -/
structure Converted (entries : List (String × Decimalish)) (decimals : List (String × Decimal)) :
    Prop where
  keys : decimals.map Prod.fst = entries.map Prod.fst
  mem_iff : ∀ key amount, (key, amount) ∈ decimals ↔
    ∃ value, (key, value) ∈ entries ∧ Decimal.from value = .ok amount

theorem decimalize_eq_ok {entry : String × Decimalish} {decimal : String × Decimal} :
    decimalize entry = .ok decimal ↔
      decimal.1 = entry.1 ∧ Decimal.from entry.2 = .ok decimal.2 := by
  rcases entry with ⟨key, value⟩
  rcases decimal with ⟨key', amount⟩
  rw [decimalize, Result.bind_eq_ok]
  constructor
  · rintro ⟨_, hvalue, heq⟩
    cases heq
    exact ⟨rfl, hvalue⟩
  · rintro ⟨rfl, hvalue⟩
    exact ⟨amount, hvalue, rfl⟩

theorem converted_of_mapM {entries : List (String × Decimalish)}
    {decimals : List (String × Decimal)} (h : entries.mapM decimalize = .ok decimals) :
    Converted entries decimals := by
  induction entries generalizing decimals with
  | nil =>
      cases h
      exact ⟨rfl, by simp⟩
  | cons entry rest ih =>
      rw [List.mapM_cons] at h
      obtain ⟨decimal, hentry, h⟩ := Result.bind_eq_ok.mp h
      obtain ⟨others, hrest, h⟩ := Result.bind_eq_ok.mp h
      cases h
      have hconverted := ih hrest
      obtain ⟨hkey, hvalue⟩ := decimalize_eq_ok.mp hentry
      constructor
      · rw [List.map_cons, List.map_cons, hconverted.keys, hkey]
      · intro key amount
        rw [List.mem_cons, hconverted.mem_iff]
        constructor
        · rintro (rfl | ⟨value, hmem, hfrom⟩)
          · exact ⟨entry.2, List.mem_cons.mpr (.inl (Prod.ext hkey rfl)), hvalue⟩
          · exact ⟨value, List.mem_cons_of_mem _ hmem, hfrom⟩
        · rintro ⟨value, hmem, hfrom⟩
          rcases List.mem_cons.mp hmem with rfl | hmem
          · left
            exact Prod.ext hkey.symm (Except.ok.inj (hfrom.symm.trans hvalue))
          · exact .inr ⟨value, hmem, hfrom⟩

/-- The conversion throws exactly when a defined value does not convert. -/
theorem mapM_decimalize_ok_iff {entries : List (String × Decimalish)} :
    (∃ decimals, entries.mapM decimalize = .ok decimals) ↔
      ∀ entry ∈ entries, ∃ amount, Decimal.from entry.2 = .ok amount := by
  induction entries with
  | nil => exact ⟨fun _ => by simp, fun _ => ⟨[], rfl⟩⟩
  | cons entry rest ih =>
      rw [List.forall_mem_cons, ← ih, List.mapM_cons]
      constructor
      · rintro ⟨decimals, h⟩
        obtain ⟨decimal, hentry, h⟩ := Result.bind_eq_ok.mp h
        obtain ⟨others, hrest, _⟩ := Result.bind_eq_ok.mp h
        exact ⟨⟨_, (decimalize_eq_ok.mp hentry).2⟩, others, hrest⟩
      · rintro ⟨⟨amount, hvalue⟩, others, hrest⟩
        have hentry : decimalize entry = .ok (entry.1, amount) :=
          decimalize_eq_ok.mpr ⟨rfl, hvalue⟩
        refine ⟨(entry.1, amount) :: others, ?_⟩
        rw [hentry, Result.ok_bind, hrest]
        rfl

/-- The check on the keys passes exactly when every key is allowed. -/
theorem checkAllowedKeys_eq_ok {name : String} {allowedKeys : List String}
    {entries : List (String × Decimalish)} :
    checkAllowedKeys name allowedKeys entries = .ok () ↔
      ∀ entry ∈ entries, entry.1 ∈ allowedKeys := by
  have hbad : ((entries.filter fun entry => !allowedKeys.contains entry.1).map Prod.fst).length > 0
      ↔ ¬ ∀ entry ∈ entries, entry.1 ∈ allowedKeys := by
    rw [List.length_map, gt_iff_lt, List.length_pos_iff_exists_mem]
    simp
  simp only [checkAllowedKeys]
  split_ifs with h
  · exact ⟨fun hok => (by cases hok), fun hall => absurd hall (hbad.mp h)⟩
  · exact ⟨fun _ => not_not.mp fun hall => h (hbad.mpr hall), fun _ => rfl⟩

/-- With distinct keys, a lookup finds the entry of its key. -/
theorem lookup_eq_some_iff {T : Type} {entries : List (String × T)}
    (h : (entries.map Prod.fst).Nodup) {key : String} {amount : T} :
    entries.lookup key = some amount ↔ (key, amount) ∈ entries := by
  induction entries with
  | nil => simp
  | cons entry rest ih =>
      rcases entry with ⟨k, a⟩
      rw [List.map_cons, List.nodup_cons] at h
      by_cases hk : key = k
      · subst hk
        have hnot : (key, amount) ∉ rest :=
          fun hmem => h.1 (List.mem_map.mpr ⟨_, hmem, rfl⟩)
        simp [hnot, eq_comm]
      · have hbeq : (key == k) = false := beq_eq_false_iff_ne.mpr hk
        rw [List.lookup_cons, hbeq, ih h.2]
        simp [hk]

/-- With distinct keys, a property holds the amount of its entry. -/
theorem property_eq_some_iff {T : Type} {entries : List (String × T)}
    (h : (entries.map Prod.fst).Nodup) {key : String} {amount : T} :
    property entries key = some amount ↔ (key, amount) ∈ entries := by
  have hreverse : (entries.reverse.map Prod.fst).Nodup := by
    rwa [List.map_reverse, List.nodup_reverse]
  rw [property, lookup_eq_some_iff hreverse, List.mem_reverse]

namespace TroveAdjustmentParams

/-- Adjustment parameters are determined by the four amounts that they name. -/
theorem ext_amounts {a b : TroveAdjustmentParams Decimal} (h : a.amounts = b.amounts) :
    a = b := by
  rcases a with (_ | _) | (_ | _) | ⟨_ | _, _ | _⟩ <;>
    rcases b with (_ | _) | (_ | _) | ⟨_ | _, _ | _⟩ <;>
      simp_all [amounts, depositCollateral, withdrawCollateral, borrowHCHF, repayHCHF,
        collateralChange, debtChange]

end TroveAdjustmentParams

/-- The amounts of entries under the four allowed keys. -/
def propertiesOf (entries : List (String × Decimal)) : List (Option Decimal) :=
  allowedTroveAdjustmentKeys.map (property entries)

/-- The parameters made of entries name exactly the amounts of the entries. -/
theorem fromEntries_eq_ok_iff {entries : List (String × Decimal)}
    {params : TroveAdjustmentParams Decimal} :
    troveAdjustmentParamsFromEntries entries = .ok params ↔
      params.amounts = propertiesOf entries := by
  simp only [propertiesOf, allowedTroveAdjustmentKeys, List.map_cons, List.map_nil,
    TroveAdjustmentParams.amounts, List.cons.injEq, and_true]
  constructor
  · intro h
    simp only [troveAdjustmentParamsFromEntries] at h
    revert h
    rcases property entries "depositCollateral" with _ | _ <;>
      rcases property entries "withdrawCollateral" with _ | _ <;>
        rcases property entries "borrowHCHF" with _ | _ <;>
          rcases property entries "repayHCHF" with _ | _ <;>
            intro h <;> cases h <;> exact ⟨rfl, rfl, rfl, rfl⟩
  · rintro ⟨hdeposit, hwithdraw, hborrow, hrepay⟩
    simp only [troveAdjustmentParamsFromEntries]
    rw [← hdeposit, ← hwithdraw, ← hborrow, ← hrepay]
    rcases params with (_ | _) | (_ | _) | ⟨_ | _, _ | _⟩ <;> rfl

/-- Entries make parameters exactly when one amount is present and neither
component has both directions. -/
theorem fromEntries_ok_iff {entries : List (String × Decimal)} :
    (∃ params, troveAdjustmentParamsFromEntries entries = .ok params) ↔
      (∃ key ∈ allowedTroveAdjustmentKeys, (property entries key).isSome = true) ∧
        ¬ ((property entries "depositCollateral").isSome = true ∧
          (property entries "withdrawCollateral").isSome = true) ∧
        ¬ ((property entries "borrowHCHF").isSome = true ∧
          (property entries "repayHCHF").isSome = true) := by
  simp only [troveAdjustmentParamsFromEntries, allowedTroveAdjustmentKeys, List.mem_cons,
    List.not_mem_nil, or_false, exists_eq_or_imp, exists_eq_left]
  rcases property entries "depositCollateral" with _ | _ <;>
    rcases property entries "withdrawCollateral" with _ | _ <;>
      rcases property entries "borrowHCHF" with _ | _ <;>
        rcases property entries "repayHCHF" with _ | _ <;>
          simp [collateralChangeFrom, debtChangeFrom]

/-- A defined value under a key that converts to a non-zero amount. -/
def NonZeroEntry (params : ParamsRecord) (key : String) (amount : Decimal) : Prop :=
  ∃ value, (key, some value) ∈ params ∧ Decimal.from value = .ok amount ∧ amount ≠ zero

/-- What a record has to satisfy to be normalized. -/
structure Normalizable (params : ParamsRecord) : Prop where
  allowed : ∀ key value, (key, some value) ∈ params → key ∈ allowedTroveAdjustmentKeys
  converts : ∀ key value, (key, some value) ∈ params → ∃ amount, Decimal.from value = .ok amount
  nonZero : ∃ key amount, NonZeroEntry params key amount
  oneCollateral : ¬ ((∃ amount, NonZeroEntry params "depositCollateral" amount) ∧
    ∃ amount, NonZeroEntry params "withdrawCollateral" amount)
  oneDebt : ¬ ((∃ amount, NonZeroEntry params "borrowHCHF" amount) ∧
    ∃ amount, NonZeroEntry params "repayHCHF" amount)

/-- Parameters that hold exactly the non-zero entries of a record. -/
structure HoldsEntries (normalized : TroveAdjustmentParams Decimal) (params : ParamsRecord) :
    Prop where
  depositCollateral : ∀ amount, normalized.depositCollateral = some amount ↔
    NonZeroEntry params "depositCollateral" amount
  withdrawCollateral : ∀ amount, normalized.withdrawCollateral = some amount ↔
    NonZeroEntry params "withdrawCollateral" amount
  borrowHCHF : ∀ amount, normalized.borrowHCHF = some amount ↔
    NonZeroEntry params "borrowHCHF" amount
  repayHCHF : ∀ amount, normalized.repayHCHF = some amount ↔
    NonZeroEntry params "repayHCHF" amount

/-- The conversion of a record with its zero amounts dropped. -/
def nonZeroEntries (decimals : List (String × Decimal)) : List (String × Decimal) :=
  decimals.filter fun entry => !entry.2.isZero

theorem normalizeTroveAdjustment_eq_ok {params : ParamsRecord}
    {normalized : TroveAdjustmentParams Decimal} :
    normalizeTroveAdjustment params = .ok normalized ↔
      checkAllowedTroveAdjustmentKeys (definedEntries params) = .ok () ∧
        ∃ decimals, (definedEntries params).mapM decimalize = .ok decimals ∧
          troveAdjustmentParamsFromEntries (nonZeroEntries decimals) = .ok normalized := by
  simp only [normalizeTroveAdjustment, Result.bind_eq_ok, nonZeroEntries]
  constructor
  · rintro ⟨_, hcheck, h⟩
    exact ⟨hcheck, h⟩
  · rintro ⟨hcheck, h⟩
    exact ⟨(), hcheck, h⟩

/-- A property of the converted record is a non-zero entry of the record. -/
theorem property_nonZeroEntries {params : ParamsRecord} (hkeys : (params.map Prod.fst).Nodup)
    {decimals : List (String × Decimal)}
    (h : (definedEntries params).mapM decimalize = .ok decimals) {key : String}
    {amount : Decimal} :
    property (nonZeroEntries decimals) key = some amount ↔ NonZeroEntry params key amount := by
  have hconverted := converted_of_mapM h
  have hdecimals : (decimals.map Prod.fst).Nodup := by
    rw [hconverted.keys]
    exact nodup_definedEntries hkeys
  have hnodup : ((nonZeroEntries decimals).map Prod.fst).Nodup :=
    hdecimals.sublist (List.filter_sublist.map Prod.fst)
  rw [property_eq_some_iff hnodup, nonZeroEntries, List.mem_filter, hconverted.mem_iff]
  simp only [mem_definedEntries, Bool.not_eq_true', isZero_eq_false, NonZeroEntry]
  constructor
  · rintro ⟨⟨value, hmem, hfrom⟩, hne⟩
    exact ⟨value, hmem, hfrom, hne⟩
  · rintro ⟨value, hmem, hfrom, hne⟩
    exact ⟨⟨value, hmem, hfrom⟩, hne⟩

theorem isSome_property_nonZeroEntries {params : ParamsRecord}
    (hkeys : (params.map Prod.fst).Nodup) {decimals : List (String × Decimal)}
    (h : (definedEntries params).mapM decimalize = .ok decimals) (key : String) :
    (property (nonZeroEntries decimals) key).isSome = true ↔
      ∃ amount, NonZeroEntry params key amount := by
  rw [Option.isSome_iff_exists]
  exact exists_congr fun amount => property_nonZeroEntries hkeys h

/-- A record is normalized exactly when it is normalizable. -/
theorem normalizeTroveAdjustment_ok_iff {params : ParamsRecord}
    (hkeys : (params.map Prod.fst).Nodup) :
    (∃ normalized, normalizeTroveAdjustment params = .ok normalized) ↔ Normalizable params := by
  have hallowed : checkAllowedTroveAdjustmentKeys (definedEntries params) = .ok () ↔
      ∀ key value, (key, some value) ∈ params → key ∈ allowedTroveAdjustmentKeys := by
    rw [checkAllowedTroveAdjustmentKeys, checkAllowedKeys_eq_ok]
    exact ⟨fun hall key value hmem => hall (key, value) (mem_definedEntries.mpr hmem),
      fun hall entry hmem => hall entry.1 entry.2 (mem_definedEntries.mp hmem)⟩
  constructor
  · rintro ⟨normalized, h⟩
    obtain ⟨hcheck, decimals, hdecimals, hparams⟩ := normalizeTroveAdjustment_eq_ok.mp h
    obtain ⟨⟨key, _, hsome⟩, hcollateral, hdebt⟩ := fromEntries_ok_iff.mp ⟨normalized, hparams⟩
    have hconverts := mapM_decimalize_ok_iff.mp ⟨decimals, hdecimals⟩
    simp only [isSome_property_nonZeroEntries hkeys hdecimals] at hsome hcollateral hdebt
    exact ⟨hallowed.mp hcheck,
      fun key value hmem => hconverts (key, value) (mem_definedEntries.mpr hmem),
      ⟨key, hsome⟩, hcollateral, hdebt⟩
  · intro h
    obtain ⟨decimals, hdecimals⟩ := mapM_decimalize_ok_iff.mpr fun entry hmem =>
      h.converts entry.1 entry.2 (mem_definedEntries.mp hmem)
    obtain ⟨key, amount, hentry⟩ := h.nonZero
    obtain ⟨value, hmem, _⟩ := id hentry
    have hparams : ∃ normalized,
        troveAdjustmentParamsFromEntries (nonZeroEntries decimals) = .ok normalized := by
      rw [fromEntries_ok_iff]
      simp only [isSome_property_nonZeroEntries hkeys hdecimals]
      exact ⟨⟨key, h.allowed key value hmem, amount, hentry⟩, h.oneCollateral, h.oneDebt⟩
    obtain ⟨normalized, hnormalized⟩ := hparams
    exact ⟨normalized, normalizeTroveAdjustment_eq_ok.mpr
      ⟨hallowed.mpr h.allowed, decimals, hdecimals, hnormalized⟩⟩

/-- The result holds exactly the non-zero entries. -/
theorem holdsEntries_of_normalized {params : ParamsRecord}
    (hkeys : (params.map Prod.fst).Nodup) {normalized : TroveAdjustmentParams Decimal}
    (h : normalizeTroveAdjustment params = .ok normalized) : HoldsEntries normalized params := by
  obtain ⟨_, decimals, hdecimals, hparams⟩ := normalizeTroveAdjustment_eq_ok.mp h
  have hamounts := fromEntries_eq_ok_iff.mp hparams
  simp only [TroveAdjustmentParams.amounts, propertiesOf, allowedTroveAdjustmentKeys,
    List.map_cons, List.map_nil, List.cons.injEq, and_true] at hamounts
  obtain ⟨hdeposit, hwithdraw, hborrow, hrepay⟩ := hamounts
  constructor
  · intro amount
    rw [hdeposit, property_nonZeroEntries hkeys hdecimals]
  · intro amount
    rw [hwithdraw, property_nonZeroEntries hkeys hdecimals]
  · intro amount
    rw [hborrow, property_nonZeroEntries hkeys hdecimals]
  · intro amount
    rw [hrepay, property_nonZeroEntries hkeys hdecimals]

/-- No amount of the result is zero. -/
theorem amounts_ne_zero_of_normalized {params : ParamsRecord}
    {normalized : TroveAdjustmentParams Decimal}
    (h : normalizeTroveAdjustment params = .ok normalized) {amount : Decimal}
    (hamount : some amount ∈ normalized.amounts) : amount ≠ zero := by
  obtain ⟨_, decimals, _, hparams⟩ := normalizeTroveAdjustment_eq_ok.mp h
  rw [fromEntries_eq_ok_iff.mp hparams, propertiesOf] at hamount
  obtain ⟨key, _, hproperty⟩ := List.mem_map.mp hamount
  have hmem : (key, amount) ∈ nonZeroEntries decimals := by
    rw [← List.mem_reverse]
    obtain ⟨before, after, heq, _⟩ := List.lookup_eq_some_iff.mp hproperty
    rw [heq]
    exact List.mem_append_right _ List.mem_cons_self
  simpa using (List.mem_filter.mp hmem).2

/-- Normalizing the result again changes nothing. -/
theorem normalizeTroveAdjustment_idempotent {params : ParamsRecord}
    {normalized : TroveAdjustmentParams Decimal}
    (h : normalizeTroveAdjustment params = .ok normalized) :
    normalizeTroveAdjustment normalized.ofDecimal.record = .ok normalized := by
  apply normalizeTroveAdjustment_ofDecimal
  intro entry hentry
  exact amounts_ne_zero_of_normalized h
    (TroveAdjustmentParams.mem_amounts_iff.mpr ⟨entry, hentry, rfl⟩)

end HLiquity
