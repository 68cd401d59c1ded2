import HLiquity.MirrorNode
import Mathlib.Data.List.Forall2

/-!
# Troves affected by a redemption

The logs at the time of a redemption tell the state of each redeemed trove after it, and of
some troves also the state before. For all others the state before is searched for. What was
redeemed is the difference of both states.
-/

namespace HLiquity

/-- A row with the state after the redemption, and the one before if a log tells it. -/
structure AffectedTroveAfter where
  borrower : String
  debtAfter : Decimal
  collateralAfter : Decimal
  debtBefore : Option Decimal
  collateralBefore : Option Decimal
  deriving DecidableEq, Repr

/-- The variables of the loop over the logs. -/
structure ExtractionState where
  beforeStates : String → Option TroveState
  afterStates : List AffectedTroveAfter

/-- The body of the loop. Borrowers are addresses, so that lower case is that of ASCII. -/
def extractLog (state : ExtractionState) (parsed : ParsedTroveLog) : ExtractionState :=
  if parsed.operation = 0 then
    -- apply pending rewards
    { state with
      beforeStates :=
        Function.update state.beforeStates parsed.borrower.toLower (some parsed.state) }
  else if parsed.operation = 3 then
    -- redemption
    { state with
      afterStates := state.afterStates ++
        [⟨parsed.borrower, parsed.debt, parsed.collateral, none, none⟩] }
  else state

def ExtractionState.row (state : ExtractionState) (trove : AffectedTroveAfter) :
    AffectedTroveAfter :=
  match state.beforeStates trove.borrower.toLower with
  | none => trove
  | some before =>
      { trove with
        debtBefore := some before.debt
        collateralBefore := some before.collateral }

def extractAffectedTrovesFromLogs (parseLog : ParseLog) (mirrorNodeClient : MirrorNodeClient)
    (timestamp : ℚ) (troveManagerAddress : String) : List AffectedTroveAfter :=
  match mirrorNodeClient.logs
      { contractIdOrAddress := troveManagerAddress
        timestamp := [.eq timestamp]
        topic0 := none
        topic1 := none
        limit := none
        order := none } with
  | none => []
  | some logs =>
      let state := (logs.getD []).foldl
        (fun state log =>
          match parseTroveLog parseLog log with
          | none => state
          | some parsed => extractLog state parsed)
        ⟨fun _ => none, []⟩
      state.afterStates.map state.row

/-- A row with both states and what was redeemed. -/
structure AffectedTrove where
  borrower : String
  debtBefore : Decimal
  debtAfter : Decimal
  debtRedeemed : Decimal
  collateralBefore : Decimal
  collateralAfter : Decimal
  collateralRedeemed : Decimal
  deriving DecidableEq, Repr

/-- The previous state of a row, from the logs or else from the search. -/
def AffectedTroveAfter.previousState (getPreviousTroveState : String → Option TroveState)
    (troveAfter : AffectedTroveAfter) : Option TroveState :=
  match troveAfter.debtBefore, troveAfter.collateralBefore with
  | some debt, some collateral => some ⟨debt, collateral⟩
  | _, _ => getPreviousTroveState troveAfter.borrower

/-- A row whose previous state is unknown, or has less debt, redeems nothing. -/
def unredeemed (troveAfter : AffectedTroveAfter) : AffectedTrove where
  borrower := troveAfter.borrower
  debtBefore := troveAfter.debtAfter
  debtAfter := troveAfter.debtAfter
  debtRedeemed := .zero
  collateralBefore := troveAfter.collateralAfter
  collateralAfter := troveAfter.collateralAfter
  collateralRedeemed := .zero

def enrichOneTrove (getPreviousTroveState : String → Option TroveState)
    (troveAfter : AffectedTroveAfter) : Result AffectedTrove :=
  match troveAfter.previousState getPreviousTroveState with
  | none => .ok (unredeemed troveAfter)
  | some previousState =>
      if previousState.debt.gte troveAfter.debtAfter then do
        let debtRedeemed ← previousState.debt.sub troveAfter.debtAfter
        let collateralRedeemed ←
          if previousState.collateral.gte troveAfter.collateralAfter then
            previousState.collateral.sub troveAfter.collateralAfter
          else .ok .zero
        return {
          borrower := troveAfter.borrower
          debtBefore := previousState.debt
          debtAfter := troveAfter.debtAfter
          debtRedeemed := debtRedeemed
          collateralBefore := previousState.collateral
          collateralAfter := troveAfter.collateralAfter
          collateralRedeemed := collateralRedeemed }
      else .ok (unredeemed troveAfter)

def enrichAffectedTroves (getPreviousTroveState : String → Option TroveState)
    (trovesAfter : List AffectedTroveAfter) : Result (List AffectedTrove) :=
  trovesAfter.mapM (enrichOneTrove getPreviousTroveState)

/-- The last state that pending rewards were applied to for a borrower, in any case. -/
def lastApplied (parsed : List ParsedTroveLog) (borrower : String) : Option TroveState :=
  ((parsed.filter fun log => decide (log.operation = 0 ∧
    log.borrower.toLower = borrower.toLower)).getLast?).map ParsedTroveLog.state

/-- One row for each redemption, in the order of the logs. -/
def redemptionRows (parsed : List ParsedTroveLog) : List AffectedTroveAfter :=
  (parsed.filter fun log => decide (log.operation = 3)).map fun log =>
    { borrower := log.borrower
      debtAfter := log.debt
      collateralAfter := log.collateral
      debtBefore := (lastApplied parsed log.borrower).map TroveState.debt
      collateralBefore := (lastApplied parsed log.borrower).map TroveState.collateral }

/-- The loop skips what is not parsed. -/
theorem foldl_parsed (parseLog : ParseLog) (logs : List MirrorLog) (state : ExtractionState) :
    logs.foldl
        (fun state log =>
          match parseTroveLog parseLog log with
          | none => state
          | some parsed => extractLog state parsed) state =
      (logs.filterMap (parseTroveLog parseLog)).foldl extractLog state := by
  induction logs generalizing state with
  | nil => rfl
  | cons log logs ih =>
      rw [List.foldl_cons, List.filterMap_cons, ih]
      cases parseTroveLog parseLog log with
      | none => rfl
      | some parsed => rfl

/-- After the loop the states before are the last ones applied, and those after are in the
order of the logs. -/
theorem foldl_extractLog (parsed : List ParsedTroveLog) :
    let state := parsed.foldl extractLog ⟨fun _ => none, []⟩
    (∀ borrower : String, state.beforeStates borrower.toLower = lastApplied parsed borrower) ∧
      state.afterStates = (parsed.filter fun log => decide (log.operation = 3)).map fun log =>
        ⟨log.borrower, log.debt, log.collateral, none, none⟩ := by
  induction parsed using List.reverseRecOn with
  | nil => exact ⟨fun _ => rfl, rfl⟩
  | append_singleton parsed log ih =>
      obtain ⟨hbefore, hafter⟩ := ih
      rw [List.foldl_append, List.foldl_cons, List.foldl_nil]
      by_cases happlied : log.operation = 0
      · have hredeemed : ¬ log.operation = 3 := by simp [happlied]
        simp only [extractLog, if_pos happlied, List.filter_append, List.filter_singleton]
        refine ⟨?_, by simpa [hredeemed] using hafter⟩
        intro borrower
        by_cases hsame : log.borrower.toLower = borrower.toLower
        · simp [lastApplied, List.filter_append, happlied, hsame]
        · rw [Function.update_of_ne (Ne.symm hsame), hbefore]
          simp [lastApplied, List.filter_append, hsame]
      · have hskipped (borrower : String) :
            lastApplied (parsed ++ [log]) borrower = lastApplied parsed borrower := by
          simp [lastApplied, List.filter_append, happlied]
        by_cases hredeemed : log.operation = 3
        · simp only [extractLog, if_neg happlied, if_pos hredeemed]
          refine ⟨fun borrower => (hbefore borrower).trans (hskipped borrower).symm, ?_⟩
          rw [hafter]
          simp [List.filter_append, hredeemed]
        · simp only [extractLog, if_neg happlied, if_neg hredeemed]
          refine ⟨fun borrower => (hbefore borrower).trans (hskipped borrower).symm, ?_⟩
          rw [hafter]
          simp [List.filter_append, hredeemed]

/-- The rows are those of the redemptions in the logs. -/
theorem extractAffectedTrovesFromLogs_eq (parseLog : ParseLog)
    (mirrorNodeClient : MirrorNodeClient) (timestamp : ℚ) (troveManagerAddress : String)
    {logs : List MirrorLog}
    (hlogs : mirrorNodeClient.logs
      ⟨troveManagerAddress, [.eq timestamp], none, none, none, none⟩ = some (some logs)) :
    extractAffectedTrovesFromLogs parseLog mirrorNodeClient timestamp troveManagerAddress =
      redemptionRows (logs.filterMap (parseTroveLog parseLog)) := by
  obtain ⟨hbefore, hafter⟩ := foldl_extractLog (logs.filterMap (parseTroveLog parseLog))
  simp only [extractAffectedTrovesFromLogs, hlogs, Option.getD_some, foldl_parsed]
  rw [hafter, redemptionRows, List.map_map]
  apply List.map_congr_left
  intro log _
  simp only [Function.comp_apply, ExtractionState.row, hbefore]
  cases lastApplied (logs.filterMap (parseTroveLog parseLog)) log.borrower with
  | none => rfl
  | some before => rfl

/-- What was there before is what is left and what was redeemed. -/
def AffectedTrove.Balances (row : AffectedTrove) : Prop :=
  row.debtBefore = row.debtAfter.add row.debtRedeemed ∧
    row.collateralBefore = row.collateralAfter.add row.collateralRedeemed

/-- The previous state does not have less collateral, unless it has less debt. -/
def AffectedTroveAfter.LosesNoCollateral (getPreviousTroveState : String → Option TroveState)
    (troveAfter : AffectedTroveAfter) : Prop :=
  ∀ previous ∈ troveAfter.previousState getPreviousTroveState,
    troveAfter.debtAfter ≤ previous.debt → troveAfter.collateralAfter ≤ previous.collateral

/-- A row is enriched from a row of the same trove and state after. -/
structure EnrichedFrom (getPreviousTroveState : String → Option TroveState)
    (troveAfter : AffectedTroveAfter) (row : AffectedTrove) : Prop where
  borrower : row.borrower = troveAfter.borrower
  debtAfter : row.debtAfter = troveAfter.debtAfter
  collateralAfter : row.collateralAfter = troveAfter.collateralAfter
  balances : row.Balances ↔ troveAfter.LosesNoCollateral getPreviousTroveState

theorem unredeemed_balances (troveAfter : AffectedTroveAfter) :
    (unredeemed troveAfter).Balances := ⟨rfl, rfl⟩

/-- Enriching a row never throws, and the row balances unless its collateral is clamped. -/
theorem enrichOneTrove_ok (getPreviousTroveState : String → Option TroveState)
    (troveAfter : AffectedTroveAfter) :
    ∃ row, enrichOneTrove getPreviousTroveState troveAfter = .ok row ∧
      EnrichedFrom getPreviousTroveState troveAfter row := by
  unfold enrichOneTrove
  cases hprevious : troveAfter.previousState getPreviousTroveState with
  | none =>
      refine ⟨unredeemed troveAfter, rfl, rfl, rfl, rfl, ?_⟩
      apply iff_of_true (unredeemed_balances troveAfter)
      intro previous hmem
      rw [hprevious] at hmem
      cases hmem
  | some previousState =>
      have hloses : troveAfter.LosesNoCollateral getPreviousTroveState ↔
          (troveAfter.debtAfter ≤ previousState.debt →
            troveAfter.collateralAfter ≤ previousState.collateral) := by
        simp [AffectedTroveAfter.LosesNoCollateral, hprevious]
      dsimp only
      by_cases hdebt : troveAfter.debtAfter ≤ previousState.debt
      · rw [if_pos (Decimal.gte_iff.mpr hdebt), Decimal.sub_of_le hdebt, Result.ok_bind]
        by_cases hcollateral : troveAfter.collateralAfter ≤ previousState.collateral
        · rw [if_pos (Decimal.gte_iff.mpr hcollateral), Decimal.sub_of_le hcollateral,
            Result.ok_bind]
          refine ⟨_, rfl, rfl, rfl, rfl, iff_of_true ?_ (hloses.mpr fun _ => hcollateral)⟩
          exact ⟨Decimal.add_sub_of_le hdebt, Decimal.add_sub_of_le hcollateral⟩
        · rw [if_neg fun h => hcollateral (Decimal.gte_iff.mp h), Result.ok_bind]
          refine ⟨_, rfl, rfl, rfl, rfl, iff_of_false ?_ ?_⟩
          · -- the collateral before is kept although nothing of it is redeemed
            rintro ⟨_, hbalance⟩
            change previousState.collateral = troveAfter.collateralAfter.add .zero at hbalance
            rw [hbalance] at hcollateral
            exact hcollateral (Decimal.le_add _ _)
          · exact fun h => hcollateral (hloses.mp h hdebt)
      · rw [if_neg fun h => hdebt (Decimal.gte_iff.mp h)]
        refine ⟨unredeemed troveAfter, rfl, rfl, rfl, rfl, ?_⟩
        exact iff_of_true (unredeemed_balances troveAfter) (hloses.mpr fun h => absurd h hdebt)

/-- All rows are enriched, each from its own. -/
theorem enrichAffectedTroves_ok (getPreviousTroveState : String → Option TroveState)
    (trovesAfter : List AffectedTroveAfter) :
    ∃ rows, enrichAffectedTroves getPreviousTroveState trovesAfter = .ok rows ∧
      List.Forall₂ (EnrichedFrom getPreviousTroveState) trovesAfter rows := by
  induction trovesAfter with
  | nil => exact ⟨[], rfl, .nil⟩
  | cons troveAfter trovesAfter ih =>
      obtain ⟨row, hrow, henriched⟩ := enrichOneTrove_ok getPreviousTroveState troveAfter
      obtain ⟨rows, hrows, hrest⟩ := ih
      refine ⟨row :: rows, ?_, .cons henriched hrest⟩
      rw [enrichAffectedTroves] at hrows ⊢
      rw [List.mapM_cons, hrow, Result.ok_bind, hrows, Result.ok_bind]
      rfl

theorem map_of_enriched {getPreviousTroveState : String → Option TroveState}
    {trovesAfter : List AffectedTroveAfter} {rows : List AffectedTrove}
    (h : List.Forall₂ (EnrichedFrom getPreviousTroveState) trovesAfter rows) :
    (rows.map fun row => (row.borrower, row.debtAfter, row.collateralAfter)) =
      trovesAfter.map fun trove => (trove.borrower, trove.debtAfter, trove.collateralAfter) := by
  induction h with
  | nil => rfl
  | cons hrow _ ih =>
      rw [List.map_cons, List.map_cons, ih, hrow.borrower, hrow.debtAfter, hrow.collateralAfter]

theorem forall_balances_iff {getPreviousTroveState : String → Option TroveState}
    {trovesAfter : List AffectedTroveAfter} {rows : List AffectedTrove}
    (h : List.Forall₂ (EnrichedFrom getPreviousTroveState) trovesAfter rows) :
    (∀ row ∈ rows, row.Balances) ↔
      ∀ trove ∈ trovesAfter, trove.LosesNoCollateral getPreviousTroveState := by
  induction h with
  | nil =>
      constructor
      · exact fun _ _ hmem => absurd hmem List.not_mem_nil
      · exact fun _ _ hmem => absurd hmem List.not_mem_nil
  | cons hrow _ ih => rw [List.forall_mem_cons, List.forall_mem_cons, hrow.balances, ih]

/-- The rows that are extracted are those of the redemptions, each with the last state that
pending rewards were applied to; enriching rows keeps their order, borrowers and states
after; and every enriched row balances. -/
structure AccountsConsistently (parseLog : ParseLog) (logs : List MirrorLog)
    (getPreviousTroveState : String → Option TroveState)
    (trovesAfter : List AffectedTroveAfter) : Prop where
  extracted : ∀ (mirrorNodeClient : MirrorNodeClient) (timestamp : ℚ)
    (troveManagerAddress : String),
    mirrorNodeClient.logs
        ⟨troveManagerAddress, [.eq timestamp], none, none, none, none⟩ = some (some logs) →
      extractAffectedTrovesFromLogs parseLog mirrorNodeClient timestamp troveManagerAddress =
        redemptionRows (logs.filterMap (parseTroveLog parseLog))
  enriched : ∃ rows, enrichAffectedTroves getPreviousTroveState trovesAfter = .ok rows ∧
    ((rows.map fun row => (row.borrower, row.debtAfter, row.collateralAfter)) =
      trovesAfter.map fun trove => (trove.borrower, trove.debtAfter, trove.collateralAfter)) ∧
    ∀ row ∈ rows, row.Balances

/-- Redemptions are accounted consistently exactly if no row has a previous state with at least
its debt but less collateral. -/
theorem accountsConsistently_iff (parseLog : ParseLog) (logs : List MirrorLog)
    (getPreviousTroveState : String → Option TroveState)
    (trovesAfter : List AffectedTroveAfter) :
    AccountsConsistently parseLog logs getPreviousTroveState trovesAfter ↔
      ∀ trove ∈ trovesAfter, trove.LosesNoCollateral getPreviousTroveState := by
  obtain ⟨rows, hrows, hall⟩ := enrichAffectedTroves_ok getPreviousTroveState trovesAfter
  rw [← forall_balances_iff hall]
  constructor
  · rintro ⟨_, enriched, hok, _, hbalances⟩
    rw [hrows] at hok
    cases hok
    exact hbalances
  · intro hbalances
    refine ⟨?_, rows, hrows, map_of_enriched hall, hbalances⟩
    intro mirrorNodeClient timestamp troveManagerAddress hlogs
    exact extractAffectedTrovesFromLogs_eq parseLog mirrorNodeClient timestamp
      troveManagerAddress hlogs

/-- The previous state found for a row has more debt but less collateral than is left. -/
theorem clamped_not_consistent :
    let trove : AffectedTroveAfter := ⟨"0xab", ⟨150⟩, ⟨30⟩, none, none⟩
    let previous : String → Option TroveState := fun _ => some ⟨⟨200⟩, ⟨20⟩⟩
    enrichAffectedTroves previous [trove] =
        .ok [⟨"0xab", ⟨200⟩, ⟨150⟩, ⟨50⟩, ⟨20⟩, ⟨30⟩, ⟨0⟩⟩] ∧
      ∀ parseLog logs, ¬ AccountsConsistently parseLog logs previous [trove] := by
  intro trove previous
  have hrows : enrichAffectedTroves previous [trove] =
      .ok [⟨"0xab", ⟨200⟩, ⟨150⟩, ⟨50⟩, ⟨20⟩, ⟨30⟩, ⟨0⟩⟩] := rfl
  refine ⟨hrows, ?_⟩
  rintro parseLog logs ⟨_, rows, hok, _, hbalances⟩
  rw [hrows] at hok
  cases hok
  have hbalance := (hbalances _ List.mem_cons_self).2
  exact absurd hbalance (by decide)

end HLiquity
