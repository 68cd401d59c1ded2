import HLiquity.TroveValidation

/-!
# Configured constants

A deployment overrides constants by name. The minimum debt is the sum of the reserve and
of the minimum net debt in the defaults, but it is overridden as if it were independent of
them, while creations are checked against the net minimum only.
-/

namespace HLiquity

open Decimal

/-- A record of optional strings. -/
abbrev Configuration := String → Option Text

/-- The value of a constant. An empty string overrides nothing. -/
def configuredValue (configuration : Configuration) (key : String) (defaultValue : Decimal) :
    Result Decimal :=
  match configuration key with
  | some configurationValue =>
      if configurationValue = [] then .ok defaultValue
      else Decimal.from (.string configurationValue)
  | none => .ok defaultValue

def getConstants (configuration : Configuration) (defaultValues : Constants) :
    Result Constants := do
  let beta ← configuredValue configuration "BETA" defaultValues.beta
  let criticalCollateralRatio ←
    configuredValue configuration "CRITICAL_COLLATERAL_RATIO" defaultValues.criticalCollateralRatio
  let hchfLiquidationReserve ←
    configuredValue configuration "HCHF_LIQUIDATION_RESERVE" defaultValues.hchfLiquidationReserve
  let hchfMinimumDebt ←
    configuredValue configuration "HCHF_MINIMUM_DEBT" defaultValues.hchfMinimumDebt
  let hchfMinimumNetDebt ←
    configuredValue configuration "HCHF_MINIMUM_NET_DEBT" defaultValues.hchfMinimumNetDebt
  let maximumBorrowingRate ←
    configuredValue configuration "MAXIMUM_BORROWING_RATE" defaultValues.maximumBorrowingRate
  let minimumBorrowingRate ←
    configuredValue configuration "MINIMUM_BORROWING_RATE" defaultValues.minimumBorrowingRate
  let minimumCollateralRatio ←
    configuredValue configuration "MINIMUM_COLLATERAL_RATIO" defaultValues.minimumCollateralRatio
  let minimumRedemptionRate ←
    configuredValue configuration "MINIMUM_REDEMPTION_RATE" defaultValues.minimumRedemptionRate
  let minuteDecayFactor ←
    configuredValue configuration "MINUTE_DECAY_FACTOR" defaultValues.minuteDecayFactor
  return {
    criticalCollateralRatio, minimumCollateralRatio, hchfLiquidationReserve, hchfMinimumNetDebt,
    hchfMinimumDebt, minimumBorrowingRate, maximumBorrowingRate, minimumRedemptionRate,
    minuteDecayFactor, beta }

/-- The keys of the constants with their fields. -/
def constantEntries : List (String × (Constants → Decimal)) :=
  [("BETA", Constants.beta),
   ("CRITICAL_COLLATERAL_RATIO", Constants.criticalCollateralRatio),
   ("HCHF_LIQUIDATION_RESERVE", Constants.hchfLiquidationReserve),
   ("HCHF_MINIMUM_DEBT", Constants.hchfMinimumDebt),
   ("HCHF_MINIMUM_NET_DEBT", Constants.hchfMinimumNetDebt),
   ("MAXIMUM_BORROWING_RATE", Constants.maximumBorrowingRate),
   ("MINIMUM_BORROWING_RATE", Constants.minimumBorrowingRate),
   ("MINIMUM_COLLATERAL_RATIO", Constants.minimumCollateralRatio),
   ("MINIMUM_REDEMPTION_RATE", Constants.minimumRedemptionRate),
   ("MINUTE_DECAY_FACTOR", Constants.minuteDecayFactor)]

/-- Whether a key is overridden. -/
def Overrides (configuration : Configuration) (key : String) : Prop :=
  ∃ value, configuration key = some value ∧ value ≠ []

/-- Every overridden constant is a decimal string. -/
def WellFormed (configuration : Configuration) : Prop :=
  ∀ entry ∈ constantEntries, ∀ value, configuration entry.1 = some value → value ≠ [] →
    ∃ decimal, Decimal.from (.string value) = .ok decimal

/-- The constants hold the configured value of every key, and nothing else is returned. -/
theorem getConstants_eq_ok_iff {configuration : Configuration}
    {defaultValues constants : Constants} :
    getConstants configuration defaultValues = .ok constants ↔
      ∀ entry ∈ constantEntries,
        configuredValue configuration entry.1 (entry.2 defaultValues) =
          .ok (entry.2 constants) := by
  simp only [constantEntries, List.forall_mem_cons, List.not_mem_nil, false_imp_iff,
    implies_true, and_true, getConstants, Result.bind_eq_ok, Result.pure_eq, Except.ok.injEq]
  constructor
  · rintro ⟨beta, hbeta, critical, hcritical, reserve, hreserve, debt, hdebt, netDebt, hnetDebt,
      maximum, hmaximum, minimum, hminimum, ratio, hratio, redemption, hredemption, decay, hdecay,
      rfl⟩
    exact ⟨hbeta, hcritical, hreserve, hdebt, hnetDebt, hmaximum, hminimum, hratio, hredemption,
      hdecay⟩
  · rintro ⟨hbeta, hcritical, hreserve, hdebt, hnetDebt, hmaximum, hminimum, hratio, hredemption,
      hdecay⟩
    exact ⟨_, hbeta, _, hcritical, _, hreserve, _, hdebt, _, hnetDebt, _, hmaximum, _, hminimum,
      _, hratio, _, hredemption, _, hdecay, rfl⟩

theorem configuredValue_of_not_overrides {configuration : Configuration} {key : String}
    (h : ¬ Overrides configuration key) (defaultValue : Decimal) :
    configuredValue configuration key defaultValue = .ok defaultValue := by
  rw [configuredValue]
  split
  case h_1 value hvalue =>
    rw [if_pos]
    by_contra hne
    exact h ⟨value, hvalue, hne⟩
  case h_2 => rfl

theorem configuredValue_ok {configuration : Configuration} (h : WellFormed configuration)
    {entry : String × (Constants → Decimal)} (hentry : entry ∈ constantEntries)
    (defaultValue : Decimal) :
    ∃ value, configuredValue configuration entry.1 defaultValue = .ok value := by
  by_cases hoverrides : Overrides configuration entry.1
  · obtain ⟨value, hvalue, hne⟩ := hoverrides
    rw [configuredValue, hvalue]
    simp only [if_neg hne]
    exact h entry hentry value hvalue hne
  · exact ⟨defaultValue, configuredValue_of_not_overrides hoverrides defaultValue⟩

theorem getConstants_ok {configuration : Configuration} (h : WellFormed configuration)
    (defaultValues : Constants) :
    ∃ constants, getConstants configuration defaultValues = .ok constants := by
  have hall : ∀ entry ∈ constantEntries,
      ∃ value, configuredValue configuration entry.1 (entry.2 defaultValues) = .ok value :=
    fun entry hentry => configuredValue_ok h hentry (entry.2 defaultValues)
  simp only [constantEntries, List.forall_mem_cons, List.not_mem_nil, false_imp_iff,
    implies_true, and_true] at hall
  obtain ⟨⟨beta, hbeta⟩, ⟨critical, hcritical⟩, ⟨reserve, hreserve⟩, ⟨debt, hdebt⟩,
    ⟨netDebt, hnetDebt⟩, ⟨maximum, hmaximum⟩, ⟨minimum, hminimum⟩, ⟨ratio, hratio⟩,
    ⟨redemption, hredemption⟩, ⟨decay, hdecay⟩⟩ := hall
  rw [getConstants, hbeta, hcritical, hreserve, hdebt, hnetDebt, hmaximum, hminimum, hratio,
    hredemption, hdecay]
  exact ⟨_, rfl⟩

/-- The minimum debt as it is defined for the defaults. -/
def MinimumDebtIsSum (constants : Constants) : Prop :=
  constants.hchfMinimumDebt = constants.hchfLiquidationReserve.add constants.hchfMinimumNetDebt

instance (constants : Constants) : Decidable (MinimumDebtIsSum constants) :=
  inferInstanceAs (Decidable (_ = _))

/-- Every creation that the validation accepts ends with the minimum debt. -/
def CreationsReachMinimum (constants : Constants) : Prop :=
  ∀ (params : TroveCreationParams Decimal) (context : TroveChangeValidationContext constants)
    (borrowingRate : Option Decimal) (trove : Trove constants),
    validateTroveCreation params context = .ok none →
    Trove.empty.apply (some (.creation params)) borrowingRate = .ok trove →
    constants.hchfMinimumDebt ≤ trove.debt

/-- The reserve and at least the minimum net debt add up to the minimum debt. -/
theorem creationsReachMinimum {constants : Constants} (h : MinimumDebtIsSum constants) :
    CreationsReachMinimum constants := by
  intro params context borrowingRate trove hvalid happly
  have hborrow := (validateTroveCreation_none hvalid).1
  have hfee := le_applyFee (borrowingRate.getD constants.minimumBorrowingRate) params.borrowHCHF
  cases happly
  rw [h]
  exact Nat.add_le_add_left (le_def.mp (hborrow.trans hfee)) _

/-- The constants are returned, and unless the minimum debt is overridden itself, it is the
sum of the other two and every accepted creation reaches it. -/
def ConfiguresConsistently (configuration : Configuration) (defaultValues : Constants) : Prop :=
  ∃ constants, getConstants configuration defaultValues = .ok constants ∧
    (¬ Overrides configuration "HCHF_MINIMUM_DEBT" →
      MinimumDebtIsSum constants ∧ CreationsReachMinimum constants)

/-- The reserve and the minimum net debt, overridden or not, add up to what they do in the
defaults. -/
def KeepsSum (configuration : Configuration) (defaultValues : Constants) : Prop :=
  ∀ reserve minimumNetDebt,
    configuredValue configuration "HCHF_LIQUIDATION_RESERVE" defaultValues.hchfLiquidationReserve =
      .ok reserve →
    configuredValue configuration "HCHF_MINIMUM_NET_DEBT" defaultValues.hchfMinimumNetDebt =
      .ok minimumNetDebt →
    reserve.add minimumNetDebt =
      defaultValues.hchfLiquidationReserve.add defaultValues.hchfMinimumNetDebt

/-- The minimum debt stays consistent exactly when it is overridden itself or its parts keep
their sum. -/
theorem configuresConsistently_iff {configuration : Configuration} {defaultValues : Constants}
    (hwellFormed : WellFormed configuration) (hdefaults : MinimumDebtIsSum defaultValues) :
    ConfiguresConsistently configuration defaultValues ↔
      Overrides configuration "HCHF_MINIMUM_DEBT" ∨ KeepsSum configuration defaultValues := by
  obtain ⟨constants, hconstants⟩ := getConstants_ok hwellFormed defaultValues
  have hentries := getConstants_eq_ok_iff.mp hconstants
  have hreserve := hentries ("HCHF_LIQUIDATION_RESERVE", Constants.hchfLiquidationReserve)
    (by simp [constantEntries])
  have hnetDebt := hentries ("HCHF_MINIMUM_NET_DEBT", Constants.hchfMinimumNetDebt)
    (by simp [constantEntries])
  have hdebt := hentries ("HCHF_MINIMUM_DEBT", Constants.hchfMinimumDebt)
    (by simp [constantEntries])
  have hkept (hoverrides : ¬ Overrides configuration "HCHF_MINIMUM_DEBT") :
      constants.hchfMinimumDebt =
        defaultValues.hchfLiquidationReserve.add defaultValues.hchfMinimumNetDebt := by
    rw [configuredValue_of_not_overrides hoverrides] at hdebt
    exact (Except.ok.inj hdebt).symm.trans hdefaults
  constructor
  · rintro ⟨returned, hreturned, hconsistent⟩
    cases hconstants.symm.trans hreturned
    by_cases hoverrides : Overrides configuration "HCHF_MINIMUM_DEBT"
    · exact .inl hoverrides
    · right
      intro reserve minimumNetDebt hreserve' hnetDebt'
      cases hreserve.symm.trans hreserve'
      cases hnetDebt.symm.trans hnetDebt'
      exact (hconsistent hoverrides).1.symm.trans (hkept hoverrides)
  · intro h
    refine ⟨constants, hconstants, fun hoverrides => ?_⟩
    have hsum : MinimumDebtIsSum constants :=
      (hkept hoverrides).trans (h.resolve_left hoverrides _ _ hreserve hnetDebt).symm
    exact ⟨hsum, creationsReachMinimum hsum⟩

/-- A record that overrides one constant. -/
def overriding (key : String) (value : Text) : Configuration :=
  fun other => if other = key then some value else none

/-- A record that overrides both parts of the minimum debt. -/
def overridingParts (reserve minimumNetDebt : Text) : Configuration := fun key =>
  if key = "HCHF_LIQUIDATION_RESERVE" then some reserve
  else overriding "HCHF_MINIMUM_NET_DEBT" minimumNetDebt key

theorem wellFormed_overridingParts {reserve minimumNetDebt : Text} {first second : Decimal}
    (hreserve : Decimal.from (.string reserve) = .ok first)
    (hminimumNetDebt : Decimal.from (.string minimumNetDebt) = .ok second) :
    WellFormed (overridingParts reserve minimumNetDebt) := by
  intro entry _ value hvalue _
  rw [overridingParts, overriding] at hvalue
  split at hvalue
  · cases hvalue
    exact ⟨first, hreserve⟩
  · split at hvalue
    · cases hvalue
      exact ⟨second, hminimumNetDebt⟩
    · cases hvalue

/-- A reserve of 30 HCHF and a minimum net debt of 1770 HCHF keep the sum of the defaults. -/
theorem configuresConsistently_parts :
    getConstants (overridingParts ['3', '0'] ['1', '7', '7', '0']) defaults =
        .ok { defaults with hchfLiquidationReserve := ⟨3000000000⟩,
                            hchfMinimumNetDebt := ⟨177000000000⟩ } ∧
      ConfiguresConsistently (overridingParts ['3', '0'] ['1', '7', '7', '0']) defaults := by
  have hwellFormed : WellFormed (overridingParts ['3', '0'] ['1', '7', '7', '0']) :=
    wellFormed_overridingParts (by decide : _ = Except.ok ⟨3000000000⟩)
      (by decide : _ = Except.ok ⟨177000000000⟩)
  refine ⟨by decide, (configuresConsistently_iff hwellFormed (by decide)).mpr (.inr ?_)⟩
  rintro reserve minimumNetDebt ⟨⟩ ⟨⟩
  rfl

/-- The defaults with a reserve of 5 HCHF keep a minimum debt of 1800 HCHF. -/
theorem lowReserve_not_consistent :
    ¬ ConfiguresConsistently (overriding "HCHF_LIQUIDATION_RESERVE" ['5']) defaults := by
  rintro ⟨constants, hconstants, hconsistent⟩
  have hreturned : getConstants (overriding "HCHF_LIQUIDATION_RESERVE" ['5']) defaults =
      .ok { defaults with hchfLiquidationReserve := ⟨500000000⟩ } := by decide
  cases hreturned.symm.trans hconstants
  have hoverrides : ¬ Overrides (overriding "HCHF_LIQUIDATION_RESERVE" ['5'])
      "HCHF_MINIMUM_DEBT" := by
    rintro ⟨value, hvalue, _⟩
    cases hvalue
  exact absurd (hconsistent hoverrides).1 (by decide)

end HLiquity
