import HLiquity.Populate

/-!
# Iteration counts

A contract takes a count as it is, while an amount is scaled to units. The
Ethers client passes its counts unscaled. The Hashgraph client passes them
through a decimal, so that only the count zero arrives.
-/

namespace HLiquity

variable {constants : Constants}

section Redemptions

variable {Rate : Type}

/-- The number of iterations that a redemption encodes. -/
def PopulatedRedemption.encodedMaxIterations (this : PopulatedRedemption constants Rate) :
    Option Nat :=
  match this.rawPopulatedTransaction.arguments[5]? with
  | some (Argument.uint256 maxIterations) => some maxIterations
  | _ => none

/-- A redemption that a client populated, or that increases such a redemption. -/
inductive Redeemed
    (redeem : Decimalish → Option Decimalish → Result (PopulatedRedemption constants Rate))
    (increase : PopulatedRedemption constants Rate → Option Decimalish →
      Result (PopulatedRedemption constants Rate)) :
    PopulatedRedemption constants Rate → Prop
  | populated {amount : Decimalish} {maxRedemptionRate : Option Decimalish}
      {redemption : PopulatedRedemption constants Rate}
      (h : redeem amount maxRedemptionRate = .ok redemption) : Redeemed redeem increase redemption
  | increased {redemption next : PopulatedRedemption constants Rate}
      {newMaxRedemptionRate : Option Decimalish} (hr : Redeemed redeem increase redemption)
      (h : increase redemption newMaxRedemptionRate = .ok next) : Redeemed redeem increase next

/-- The iterations that the hints of a redemption were computed with, and those
that it encodes. -/
def PopulatedRedemption.Iterates (hints encoded : Nat)
    (this : PopulatedRedemption constants Rate) : Prop :=
  this.context.query.maxIterations = hints ∧ this.encodedMaxIterations = some encoded

end Redemptions

namespace HashgraphLiquity

theorem from_redeemMaxIterations :
    Decimal.from (.number (numberText redeemMaxIterations)) =
      .ok ⟨redeemMaxIterations * Decimal.digits⟩ :=
  Decimal.from_numberText (by decide)

theorem populateRedemption_iterates {context : RedemptionContext constants}
    {attemptedHCHFAmount truncatedAmount partialRedemptionHintNICR : Decimal}
    {maxRedemptionRate : Option Decimal}
    {partialRedemptionUpperHint partialRedemptionLowerHint : String}
    {redemption : PopulatedRedemption constants Decimal}
    (hquery : context.query.maxIterations = redeemMaxIterations)
    (h : populateRedemption context attemptedHCHFAmount maxRedemptionRate truncatedAmount
      partialRedemptionUpperHint partialRedemptionLowerHint partialRedemptionHintNICR =
        .ok redemption) :
    redemption.Iterates redeemMaxIterations (redeemMaxIterations * Decimal.digits) := by
  unfold populateRedemption at h
  obtain ⟨maxRedemptionRateOrDefault, _, h⟩ := Result.bind_eq_ok.mp h
  rw [from_redeemMaxIterations, Result.ok_bind] at h
  cases h
  exact ⟨hquery, rfl⟩

/-- Every redemption of the client encodes its iterations scaled. -/
theorem redeemed_iterates {this : HashgraphLiquity constants}
    {redemption : PopulatedRedemption constants Decimal}
    (h : Redeemed this.populateRedeemHCHF increaseAmountByMinimumNetDebt redemption) :
    redemption.Iterates redeemMaxIterations (redeemMaxIterations * Decimal.digits) := by
  induction h with
  | populated h =>
      unfold populateRedeemHCHF at h
      obtain ⟨attemptedHCHFAmount, _, h⟩ := Result.bind_eq_ok.mp h
      obtain ⟨fees, _, h⟩ := Result.bind_eq_ok.mp h
      dsimp only at h
      split at h
      · obtain ⟨text, _, h⟩ := Result.bind_eq_ok.mp h
        cases h
      · obtain ⟨maxRedemptionRate, _, h⟩ := Result.bind_eq_ok.mp h
        exact populateRedemption_iterates rfl h
  | increased hr h ih =>
      unfold increaseAmountByMinimumNetDebt at h
      split at h
      · obtain ⟨resolvedMaxRedemptionRate, _, h⟩ := Result.bind_eq_ok.mp h
        exact populateRedemption_iterates ih.1 h
      · cases h

/-- Only the count zero is encoded as it is. -/
theorem populateLiquidateUpTo_iff (n : Nat) :
    (∃ call, populateLiquidateUpTo n = .ok call ∧ call.arguments = [.uint256 n]) ↔ n = 0 := by
  constructor
  · rintro ⟨call, hcall, harguments⟩
    obtain ⟨maximum, hmaximum, hcall⟩ := Result.bind_eq_ok.mp hcall
    cases hcall
    obtain rfl : maximum.bigNumber = n := by simpa using harguments
    by_contra hn
    exact absurd (Decimal.lt_from_numberText (Nat.pos_of_ne_zero hn) hmaximum) (lt_irrefl _)
  · rintro rfl
    exact ⟨_, rfl, rfl⟩

end HashgraphLiquity

namespace PopulatableEthersLiquity

theorem populateRedemption_iterates {context : RedemptionContext constants}
    {attemptedHCHFAmount truncatedAmount : Decimal} {maxRedemptionRate : Option Decimalish}
    {partialHints : String × String × Nat}
    {redemption : PopulatedRedemption constants Decimalish}
    (hquery : context.query.maxIterations = redeemMaxIterations)
    (h : populateRedemption context attemptedHCHFAmount maxRedemptionRate truncatedAmount
      partialHints = .ok redemption) :
    redemption.Iterates redeemMaxIterations redeemMaxIterations := by
  unfold populateRedemption at h
  obtain ⟨maxRedemptionRateOrDefault, _, h⟩ := Result.bind_eq_ok.mp h
  cases h
  exact ⟨hquery, rfl⟩

/-- Every redemption of the client encodes its iterations as they are. -/
theorem redeemed_iterates {this : PopulatableEthersLiquity constants}
    {redemption : PopulatedRedemption constants Decimalish}
    (h : Redeemed this.redeemHCHF increaseAmountByMinimumNetDebt redemption) :
    redemption.Iterates redeemMaxIterations redeemMaxIterations := by
  induction h with
  | populated h =>
      unfold redeemHCHF at h
      obtain ⟨attemptedHCHFAmount, _, h⟩ := Result.bind_eq_ok.mp h
      obtain ⟨fees, _, h⟩ := Result.bind_eq_ok.mp h
      dsimp only at h
      split at h
      · obtain ⟨text, _, h⟩ := Result.bind_eq_ok.mp h
        cases h
      · exact populateRedemption_iterates rfl h
  | increased hr h ih =>
      unfold increaseAmountByMinimumNetDebt at h
      split at h
      · exact populateRedemption_iterates ih.1 h
      · cases h

end PopulatableEthersLiquity

/-- The Ethers client encodes every count as it is. The Hashgraph client does so
for a liquidation of up to zero troves and for no redemption at all. -/
theorem iterations_encoded_iff (this : HashgraphLiquity constants)
    (ethers : PopulatableEthersLiquity constants) (n : Nat) :
    ((∃ call, HashgraphLiquity.populateLiquidateUpTo n = .ok call ∧
      call.arguments = [.uint256 n]) ↔ n = 0) ∧
    (PopulatableEthersLiquity.liquidateUpTo n).arguments = [.uint256 n] ∧
    (∀ redemption, Redeemed this.populateRedeemHCHF
        HashgraphLiquity.increaseAmountByMinimumNetDebt redemption →
      redemption.encodedMaxIterations ≠ some redemption.context.query.maxIterations) ∧
    (∀ redemption, Redeemed ethers.redeemHCHF
        PopulatableEthersLiquity.increaseAmountByMinimumNetDebt redemption →
      redemption.encodedMaxIterations = some redemption.context.query.maxIterations) := by
  refine ⟨HashgraphLiquity.populateLiquidateUpTo_iff n, rfl, ?_, ?_⟩
  · intro redemption h
    obtain ⟨hhints, hencoded⟩ := HashgraphLiquity.redeemed_iterates h
    rw [hhints, hencoded]
    decide
  · intro redemption h
    obtain ⟨hhints, hencoded⟩ := PopulatableEthersLiquity.redeemed_iterates h
    rw [hhints, hencoded]

/-- A liquidation of up to one trove is encoded as one of up to a hundred million. -/
theorem liquidateUpTo_one_scaled :
    ∃ call, HashgraphLiquity.populateLiquidateUpTo 1 = .ok call ∧
      call.arguments = [.uint256 100000000] ∧ call.arguments ≠ [.uint256 1] :=
  ⟨_, rfl, by decide, by decide⟩

end HLiquity
