import HLiquity.Library.EventRun
import HLiquity.RedemptionLogs
import HLiquity.RedemptionPages

/-!
# The displayed page of redemptions

Each navigation starts an effect, which clears the page, asks the mirror node for the results,
for their details and for the previous page, and writes the page at its end. No effect is
cancelled when the next one starts, so the page belongs to the latest navigation if the
effects for other timestamps write only while the latest effect has not completed.
-/

namespace HLiquity

/-- A transfer of hbar. -/
structure HbarTransfer where
  account : Option Text
  amount : Int
  deriving DecidableEq, Repr

/-- A transfer of a token. -/
structure TokenTransfer where
  tokenId : Option Text
  account : Option Text
  amount : Int
  deriving DecidableEq, Repr

structure MirrorTransaction where
  transactionId : Option Text
  name : Option Text
  result : Option Text
  transfers : Option (List HbarTransfer)
  tokenTransfers : Option (List TokenTransfer)
  chargedTxFee : Option Nat
  deriving DecidableEq, Repr

structure Redemption where
  transactionId : Text
  timestamp : Text
  accountIdString : Text
  amountOfHchf : Decimal
  amountOfHbar : Decimal
  fee : Decimal
  redemptionFee : Decimal
  effectivePrice : Decimal
  affectedTrovesAfter : List AffectedTroveAfter
  deriving DecidableEq, Repr

/-- What the requests for the details of a result are answered. -/
structure DetailResponses where
  timestampedTransactions : Option (List MirrorTransaction)
  idTransactions : Option (List MirrorTransaction)
  redemptionFee : Decimal
  affectedTrovesAfter : List AffectedTroveAfter

/-- `transaction.result === "SUCCESS"` -/
def MirrorTransaction.succeeded (transaction : MirrorTransaction) : Bool :=
  transaction.result == some "SUCCESS".toList

/-- `transaction.name === "CRYPTOTRANSFER"` -/
def MirrorTransaction.isCryptoTransfer (transaction : MirrorTransaction) : Bool :=
  transaction.name == some "CRYPTOTRANSFER".toList

/-- The body of the loop over the transactions, on the transfers it has found. -/
def findTransfers (hchfTokenIdString accountIdString : Text)
    (found : Option HbarTransfer × Option TokenTransfer) (transaction : MirrorTransaction) :
    Option HbarTransfer × Option TokenTransfer :=
  let (hbarTransfer, hchfTransfer) := found
  -- ignore all failed transactions
  if !transaction.succeeded then found
  -- find the first hbar transfer
  else if hbarTransfer.isNone && transaction.transfers.any (· ≠ []) then
    ((transaction.transfers.getD []).find? (·.account == some accountIdString), hchfTransfer)
  -- find the first hchf transfer
  else if hchfTransfer.isNone && transaction.isCryptoTransfer then
    (hbarTransfer, (transaction.tokenTransfers.getD []).find? fun tokenTransfer =>
      tokenTransfer.tokenId == some hchfTokenIdString &&
        tokenTransfer.account == some accountIdString)
  else found

/-- The redemption that the responses tell of. -/
def redemptionOf (hchfTokenIdString accountIdString timestamp : Text)
    (responses : DetailResponses) : Option Redemption := do
  let transactionId ←
    (responses.timestampedTransactions.bind List.head?).bind MirrorTransaction.transactionId
  guard (transactionId ≠ [])
  let transactions ← responses.idTransactions
  let (hbar, hchf) :=
    transactions.foldl (findTransfers hchfTokenIdString accountIdString) (none, none)
  let firstSuccessfulCryptoTransferTransaction ← transactions.find? fun transaction =>
    transaction.isCryptoTransfer && transaction.succeeded
  guard (firstSuccessfulCryptoTransferTransaction.tokenTransfers.any (· ≠ []))
  let hchfTransfer ← hchf
  let hbarTransfer ← hbar
  let chargedFee :=
    (transactions.find? MirrorTransaction.succeeded).bind MirrorTransaction.chargedTxFee
  let amountOfHchf := Decimal.fromBigNumberStringWithPrecision hchfTransfer.amount.natAbs 8
  let amountOfHbar := Decimal.fromBigNumberStringWithPrecision hbarTransfer.amount.natAbs 8
  return {
    transactionId
    timestamp
    accountIdString
    amountOfHchf
    amountOfHbar
    fee := Decimal.fromBigNumberStringWithPrecision (chargedFee.getD 0) 8
    redemptionFee := responses.redemptionFee
    effectivePrice :=
      if amountOfHchf.isZero then Decimal.zero else amountOfHbar.div amountOfHchf
    affectedTrovesAfter := responses.affectedTrovesAfter }

/-- What becomes of a result, unless a request for its details is rejected (`none`). -/
def detailsOf (accountIdOf : Text → Option Text) (hchfTokenIdString : Text)
    (answers : ContractResult → Option DetailResponses) (result : ContractResult) :
    Option (Option Redemption) :=
  match result.from with
  | none => some none
  | some [] => some none
  | some address => do
      let accountIdString ← accountIdOf address
      let responses ← answers result
      return redemptionOf hchfTokenIdString accountIdString (result.timestamp.getD []) responses

namespace RedemptionsPage

/-- `Redemption[] | Error | null` -/
inductive Redemptions where
  | null
  | error (message : Text)
  | list (redemptions : List Redemption)
  deriving DecidableEq, Repr

structure Pagination where
  next : Option Href
  previous : Option Href
  deriving DecidableEq, Repr

/-- What the page shows. -/
structure Display where
  redemptions : Redemptions
  pagination : Pagination
  deriving DecidableEq, Repr

/-- The calls that write the state of the page. -/
inductive Write where
  | setRedemptions (redemptions : Redemptions)
  | setPagination (pagination : Pagination)

def Display.write (display : Display) : Write → Display
  | .setRedemptions redemptions => { display with redemptions }
  | .setPagination pagination => { display with pagination }

def Display.writeAll (display : Display) (writes : List Write) : Display :=
  writes.foldl Display.write display

/-- What an effect waits for. -/
inductive Progress where
  | awaitingResults (hchfTokenIdString : Text)
  | awaitingDetails (hchfTokenIdString : Text) (redeemCollateralResults : List ContractResult)
      (next : Option Href)
  | awaitingPrevious (redemptions : List Redemption) (next : Option Href)
  | completed
  | rejected
  deriving DecidableEq, Repr

/-- An effect: the location it was started for, its progress and the display that its own
writes make. -/
structure Effect where
  location : Href
  progress : Progress
  display : Display
  deriving DecidableEq, Repr

/-- The timestamp that an effect was started for. -/
def Effect.urlTimestamp (effect : Effect) : Option Text := getTimestampFromHref effect.location

def noPagination : Pagination := ⟨none, none⟩

/-- `links.previous`: the page after the mirror node's link, or else the first page. -/
def previousLink (location : Href) (next : Option Href) : Option Href :=
  match next.bind getTimestampFromHref with
  | some previousTimestamp => some (location.set timestampName previousTimestamp)
  | none =>
      (getTimestampFromHref location).map fun _ => location.delete timestampName

/-- What an effect is answered. -/
inductive Answer where
  | results (response : ResultsResponse)
  | details (answers : ContractResult → Option DetailResponses)
  | previous (response : ResultsResponse)
  | rejection

def misconfigured : Text :=
  "The frontend is misconfigured. This should never happen, please contact support.".toList

/-- The writes with which an effect starts. It stops there if the deployment or the token is
not known. -/
def startWrites (hchfTokenIdString : Option Text) : List Write :=
  [.setRedemptions .null, .setPagination noPagination] ++
    match hchfTokenIdString with
    | some _ => []
    | none => [.setRedemptions (.error misconfigured)]

def start (hchfTokenIdString : Option Text) (location : Href) : Effect where
  location := location
  progress :=
    match hchfTokenIdString with
    | some hchfTokenIdString => .awaitingResults hchfTokenIdString
    | none => .completed
  display := (⟨.null, noPagination⟩ : Display).writeAll (startWrites hchfTokenIdString)

/-- The write with which an effect reports an error of the mirror node. -/
def errorWrites (response : ResultsResponse) : List Write :=
  match response.error with
  | none => []
  | some message =>
      [.setRedemptions (.error (message.getD "Something went wrong unexpectedly.".toList))]

section Steps

variable (accountIdOf : Text → Option Text)

/-- What an effect does with an answer: its progress and its writes. An answer that it does
not wait for changes nothing. -/
def Effect.receive (effect : Effect) (answer : Answer) : Progress × List Write :=
  match effect.progress, answer with
  | .awaitingResults hchfTokenIdString, .results response =>
      match response.results with
      | none =>
          (.completed, errorWrites response ++
            [.setRedemptions (.list []), .setPagination noPagination])
      | some results =>
          (.awaitingDetails hchfTokenIdString (results.filter isRedeemCollateral) response.next,
            errorWrites response)
  | .awaitingDetails hchfTokenIdString results next, .details answers =>
      match results.mapM (detailsOf accountIdOf hchfTokenIdString answers) with
      | none => (.rejected, [])
      | some redemptionOrUndefined =>
          (.awaitingPrevious (redemptionOrUndefined.filterMap id) next, [])
  | .awaitingPrevious redemptions next, .previous response =>
      (.completed,
        [.setRedemptions (.list redemptions),
          .setPagination
            ⟨nextLink effect.location next, previousLink effect.location response.next⟩])
  | .awaitingResults _, .rejection => (.rejected, [])
  | .awaitingDetails .., .rejection => (.rejected, [])
  | .awaitingPrevious .., .rejection => (.rejected, [])
  | progress, _ => (progress, [])

def Effect.step (effect : Effect) (answer : Answer) : Effect :=
  let (progress, writes) := effect.receive accountIdOf answer
  { effect with progress, display := effect.display.writeAll writes }

end Steps

end RedemptionsPage

/-- The page: its effects in the order of the navigations, and what it shows. -/
structure RedemptionsPage where
  effects : List RedemptionsPage.Effect
  display : RedemptionsPage.Display
  deriving DecidableEq, Repr

namespace RedemptionsPage

/-- What happens to the page: a navigation, which starts an effect, or an answer to one. -/
inductive Event where
  | navigate (hchfTokenIdString : Option Text) (location : Href)
  | answer (number : Nat) (answer : Answer)

def initial : RedemptionsPage := ⟨[], ⟨.null, noPagination⟩⟩

variable (accountIdOf : Text → Option Text)

def step (this : RedemptionsPage) : Event → RedemptionsPage
  | .navigate hchfTokenIdString location =>
      { effects := this.effects ++ [start hchfTokenIdString location]
        display := this.display.writeAll (startWrites hchfTokenIdString) }
  | .answer number answer =>
      match this.effects[number]? with
      | none => this
      | some effect =>
          { effects := this.effects.set number (effect.step accountIdOf answer)
            display := this.display.writeAll (effect.receive accountIdOf answer).2 }

/-- All effects have completed. -/
def AllCompleted (this : RedemptionsPage) : Prop :=
  ∀ effect ∈ this.effects, effect.progress = .completed

instance (this : RedemptionsPage) : Decidable this.AllCompleted :=
  inferInstanceAs (Decidable (∀ effect ∈ this.effects, effect.progress = .completed))

/-- A part of the display is that of an effect for the timestamp. -/
def Shows {α : Type} (part : Display → α) (this : RedemptionsPage) (timestamp : Option Text) :
    Prop :=
  ∃ effect ∈ this.effects, effect.urlTimestamp = timestamp ∧
    part this.display = part effect.display

instance {α : Type} [DecidableEq α] (part : Display → α) (this : RedemptionsPage)
    (timestamp : Option Text) : Decidable (Shows part this timestamp) :=
  inferInstanceAs (Decidable (∃ effect ∈ this.effects, effect.urlTimestamp = timestamp ∧
    part this.display = part effect.display))

/-- The redemptions and the pagination belong to the latest requested timestamp. -/
def BelongsToLatest (this : RedemptionsPage) : Prop :=
  ∀ latest ∈ this.effects.getLast?,
    Shows Display.redemptions this latest.urlTimestamp ∧
      Shows Display.pagination this latest.urlTimestamp

instance (this : RedemptionsPage) : Decidable this.BelongsToLatest :=
  inferInstanceAs (Decidable (∀ latest ∈ this.effects.getLast?,
    Shows Display.redemptions this latest.urlTimestamp ∧
      Shows Display.pagination this latest.urlTimestamp))

/-- Whether an effect writes with an answer: the last one, or one without results or with an
error. -/
def Effect.writesAt (effect : Effect) (answer : Answer) : Bool :=
  match effect.progress, answer with
  | .awaitingResults _, .results response => response.error.isSome || response.results.isNone
  | .awaitingPrevious .., .previous _ => true
  | _, _ => false

/-- An effect for another timestamp than that of the latest one writes only while the latest
one has not completed. -/
def WritesInTime (this : RedemptionsPage) : Event → Prop
  | .navigate _ _ => True
  | .answer number answer =>
      ∀ effect ∈ this.effects[number]?, effect.writesAt answer = true →
        ∀ latest ∈ this.effects.getLast?,
          effect.urlTimestamp = latest.urlTimestamp ∨ latest.progress ≠ .completed

instance (this : RedemptionsPage) : (event : Event) → Decidable (WritesInTime this event)
  | .navigate _ _ => .isTrue trivial
  | .answer number answer =>
      inferInstanceAs (Decidable (∀ effect ∈ this.effects[number]?,
        effect.writesAt answer = true → ∀ latest ∈ this.effects.getLast?,
          effect.urlTimestamp = latest.urlTimestamp ∨ latest.progress ≠ .completed))

/-- The writes determine a part of the display. -/
def Settles {α : Type} (part : Display → α) (writes : List Write) : Prop :=
  ∀ first second : Display, part (first.writeAll writes) = part (second.writeAll writes)

/-- The writes leave a part of the display as it is. -/
def Keeps {α : Type} (part : Display → α) (writes : List Write) : Prop :=
  ∀ display : Display, part (display.writeAll writes) = part display

theorem keeps_nil {α : Type} (part : Display → α) : Keeps part [] := fun _ => rfl

/-- A part that each write determines or leaves alone is determined or left alone by many. -/
theorem settles_or_keeps {α : Type} {part : Display → α}
    (hone : ∀ write, Settles part [write] ∨ Keeps part [write]) (writes : List Write) :
    Settles part writes ∨ Keeps part writes := by
  induction writes with
  | nil => exact .inr (keeps_nil part)
  | cons write writes ih =>
      rcases ih with hsettles | hkeeps
      · exact .inl fun first second => hsettles (first.write write) (second.write write)
      · refine (hone write).imp ?_ ?_
        · intro hsettles first second
          exact (hkeeps _).trans ((hsettles first second).trans (hkeeps _).symm)
        · intro hkeepsOne display
          exact (hkeeps _).trans (hkeepsOne display)

theorem redemptions_settles_or_keeps (writes : List Write) :
    Settles Display.redemptions writes ∨ Keeps Display.redemptions writes := by
  refine settles_or_keeps (fun write => ?_) writes
  cases write with
  | setRedemptions redemptions => exact .inl fun _ _ => rfl
  | setPagination pagination => exact .inr fun _ => rfl

theorem pagination_settles_or_keeps (writes : List Write) :
    Settles Display.pagination writes ∨ Keeps Display.pagination writes := by
  refine settles_or_keeps (fun write => ?_) writes
  cases write with
  | setRedemptions redemptions => exact .inr fun _ => rfl
  | setPagination pagination => exact .inl fun _ _ => rfl

/-- The display after a write of both parts at the end. -/
theorem writeAll_both (display : Display) (writes : List Write) (redemptions : Redemptions)
    (pagination : Pagination) :
    display.writeAll (writes ++ [.setRedemptions redemptions, .setPagination pagination]) =
      ⟨redemptions, pagination⟩ := by
  rw [Display.writeAll, List.foldl_append]
  rfl

variable {accountIdOf}

/-- An effect that has completed has done so before, or now determines the display. -/
theorem Effect.receive_completed {effect : Effect} {answer : Answer}
    (h : (effect.receive accountIdOf answer).1 = .completed) :
    (effect.progress = .completed ∧ (effect.receive accountIdOf answer).2 = []) ∨
      ∃ writes redemptions pagination, (effect.receive accountIdOf answer).2 =
        writes ++ [.setRedemptions redemptions, .setPagination pagination] := by
  unfold Effect.receive at h ⊢
  cases hprogress : effect.progress with
  | completed => exact .inl ⟨rfl, rfl⟩
  | rejected => rw [hprogress] at h; cases h
  | awaitingResults hchfTokenIdString =>
      rw [hprogress] at h
      cases answer with
      | results response =>
          cases hresults : response.results with
          | none =>
              refine .inr ⟨errorWrites response, .list [], noPagination, ?_⟩
              simp only [hresults]
          | some results => simp only [hresults] at h; cases h
      | details answers => cases h
      | previous response => cases h
      | rejection => cases h
  | awaitingDetails hchfTokenIdString results next =>
      rw [hprogress] at h
      cases answer with
      | details answers => dsimp only at h; split at h <;> cases h
      | results response => cases h
      | previous response => cases h
      | rejection => cases h
  | awaitingPrevious redemptions next =>
      rw [hprogress] at h
      cases answer with
      | previous response => exact .inr ⟨[], _, _, rfl⟩
      | results response => cases h
      | details answers => cases h
      | rejection => cases h

/-- An effect writes nothing with the other answers. -/
theorem Effect.receive_of_not_writesAt {effect : Effect} {answer : Answer}
    (h : ¬effect.writesAt answer = true) : (effect.receive accountIdOf answer).2 = [] := by
  unfold Effect.writesAt at h
  unfold Effect.receive
  split
  · next response hprogress =>
      simp only [hprogress, Bool.or_eq_true, not_or, Bool.not_eq_true, Option.isSome_eq_false_iff,
        Option.isNone_iff_eq_none] at h
      obtain ⟨results, hresults⟩ := Option.ne_none_iff_exists'.mp (by simpa using h.2)
      simp [hresults, errorWrites, h.1]
  · split <;> rfl
  · next hprogress =>
      rw [hprogress] at h
      exact absurd rfl h
  · rfl
  · rfl
  · rfl
  · rfl

/-- Replacing an effect keeps the other ones. -/
theorem mem_set_of_mem {effects : List Effect} {number : Nat} {effect other : Effect}
    (hget : effects[number]? = some effect) (next : Effect) (h : other ∈ effects) :
    other = effect ∨ other ∈ effects.set number next := by
  obtain ⟨position, hposition⟩ := List.mem_iff_getElem?.mp h
  by_cases heq : position = number
  · subst heq
    exact .inl (Option.some.inj (hposition.symm.trans hget))
  · refine .inr (List.mem_of_getElem? (i := position) ?_)
    rw [List.getElem?_set_ne (Ne.symm heq), hposition]

theorem mem_set_self {effects : List Effect} {number : Nat} {effect : Effect}
    (hget : effects[number]? = some effect) (next : Effect) : next ∈ effects.set number next :=
  List.mem_set (List.getElem?_eq_some_iff.mp hget).1 next

/-- The latest effect is the replaced one or the latest before. -/
theorem getLast?_set {effects : List Effect} {number : Nat} {effect next latest : Effect}
    (hget : effects[number]? = some effect)
    (h : (effects.set number next).getLast? = some latest) :
    latest = next ∧ effects.getLast? = some effect ∨ effects.getLast? = some latest := by
  rw [List.getLast?_eq_getElem?, List.length_set, List.getElem?_set] at h
  rw [List.getLast?_eq_getElem?]
  split at h
  · next heq =>
      split at h
      · exact .inl ⟨(Option.some.inj h).symm, heq ▸ hget⟩
      · cases h
  · exact .inr h

section Answered

variable {α : Type} {part : Display → α} {this : RedemptionsPage} {number : Nat}
  {effect : Effect} {answer : Answer}

theorem step_answer (hget : this.effects[number]? = some effect) :
    this.step accountIdOf (.answer number answer) =
      ⟨this.effects.set number (effect.step accountIdOf answer),
        this.display.writeAll (effect.receive accountIdOf answer).2⟩ := by
  simp only [step, hget]

/-- A part that an effect determines is shown for its timestamp. -/
theorem shows_of_settles (hget : this.effects[number]? = some effect)
    (h : Settles part (effect.receive accountIdOf answer).2) :
    Shows part (this.step accountIdOf (.answer number answer)) effect.urlTimestamp := by
  rw [step_answer hget]
  exact ⟨effect.step accountIdOf answer, mem_set_self hget _, rfl, h _ _⟩

/-- A part that an effect leaves alone is shown as before. -/
theorem shows_of_keeps (hget : this.effects[number]? = some effect)
    (h : Keeps part (effect.receive accountIdOf answer).2) {timestamp : Option Text}
    (hshows : Shows part this timestamp) :
    Shows part (this.step accountIdOf (.answer number answer)) timestamp := by
  obtain ⟨other, hother, htimestamp, hpart⟩ := hshows
  rw [step_answer hget]
  rcases mem_set_of_mem hget (effect.step accountIdOf answer) hother with rfl | hmem
  · exact ⟨other.step accountIdOf answer, mem_set_self hget _, htimestamp,
      (h _).trans (hpart.trans (h _).symm)⟩
  · exact ⟨other, hmem, htimestamp, (h _).trans hpart⟩

/-- An effect for the timestamp changes nothing about what is shown for it. -/
theorem shows_of_timestamp (hpart : ∀ writes, Settles part writes ∨ Keeps part writes)
    (hget : this.effects[number]? = some effect) {timestamp : Option Text}
    (htimestamp : effect.urlTimestamp = timestamp) (hshows : Shows part this timestamp) :
    Shows part (this.step accountIdOf (.answer number answer)) timestamp := by
  rcases hpart (effect.receive accountIdOf answer).2 with hsettles | hkeeps
  · exact htimestamp ▸ shows_of_settles hget hsettles
  · exact shows_of_keeps hget hkeeps hshows

end Answered

/-- Once the latest effect has completed, its timestamp is shown. -/
def LatestIsShown (this : RedemptionsPage) : Prop :=
  ∀ latest ∈ this.effects.getLast?, latest.progress = .completed →
    Shows Display.redemptions this latest.urlTimestamp ∧
      Shows Display.pagination this latest.urlTimestamp

theorem latestIsShown_navigate (this : RedemptionsPage) (hchfTokenIdString : Option Text)
    (location : Href) :
    LatestIsShown (this.step accountIdOf (.navigate hchfTokenIdString location)) := by
  intro latest hlast _
  rw [step, List.getLast?_append, List.getLast?_singleton, Option.some_or] at hlast
  obtain rfl := Option.mem_some.mp hlast
  have hmem : start hchfTokenIdString location ∈
      this.effects ++ [start hchfTokenIdString location] := by simp
  cases hchfTokenIdString with
  | none => exact ⟨⟨_, hmem, rfl, rfl⟩, ⟨_, hmem, rfl, rfl⟩⟩
  | some hchfTokenIdString => exact ⟨⟨_, hmem, rfl, rfl⟩, ⟨_, hmem, rfl, rfl⟩⟩

theorem latestIsShown_answer {this : RedemptionsPage} (h : LatestIsShown this) {number : Nat}
    {answer : Answer} (htime : WritesInTime this (.answer number answer)) :
    LatestIsShown (this.step accountIdOf (.answer number answer)) := by
  cases hget : this.effects[number]? with
  | none => simpa only [step, hget] using h
  | some effect =>
      intro latest hlast hcompleted
      have hset := hlast
      rw [step_answer hget] at hset
      rcases getLast?_set hget hset with ⟨rfl, hlatest⟩ | hlatest
      · rcases Effect.receive_completed hcompleted with ⟨hbefore, hnone⟩ | ⟨_, _, _, hwrites⟩
        · -- the answer comes after the end of the effect
          obtain ⟨hredemptions, hpagination⟩ := h effect hlatest hbefore
          exact ⟨shows_of_keeps hget (hnone ▸ keeps_nil _) hredemptions,
            shows_of_keeps hget (hnone ▸ keeps_nil _) hpagination⟩
        · have hsame (first second : Display) :
              first.writeAll (effect.receive accountIdOf answer).2 =
                second.writeAll (effect.receive accountIdOf answer).2 := by
            rw [hwrites, writeAll_both, writeAll_both]
          change Shows _ _ effect.urlTimestamp ∧ Shows _ _ effect.urlTimestamp
          exact ⟨shows_of_settles hget fun first second => congrArg _ (hsame first second),
            shows_of_settles hget fun first second => congrArg _ (hsame first second)⟩
      · obtain ⟨hredemptions, hpagination⟩ := h latest hlatest hcompleted
        by_cases hwrites : effect.writesAt answer = true
        · -- the latest effect has completed, so only its timestamp may be written
          have htimestamp : effect.urlTimestamp = latest.urlTimestamp :=
            (htime effect hget hwrites latest hlatest).resolve_right (not_not.mpr hcompleted)
          exact ⟨shows_of_timestamp redemptions_settles_or_keeps hget htimestamp hredemptions,
            shows_of_timestamp pagination_settles_or_keeps hget htimestamp hpagination⟩
        · have hnone : (effect.receive accountIdOf answer).2 = [] :=
            Effect.receive_of_not_writesAt hwrites
          exact ⟨shows_of_keeps hget (hnone ▸ keeps_nil _) hredemptions,
            shows_of_keeps hget (hnone ▸ keeps_nil _) hpagination⟩

/-- A run in which every effect writes in time shows the latest timestamp when its latest
effect has completed. -/
theorem latestIsShown_run {events : List Event}
    (hmeets : EventRun.Meets (step accountIdOf) WritesInTime initial events) :
    LatestIsShown (EventRun.run (step accountIdOf) initial events) := by
  have hstep (this : RedemptionsPage) (event : Event) (h : LatestIsShown this)
      (htime : WritesInTime this event) : LatestIsShown (this.step accountIdOf event) := by
    cases event with
    | navigate hchfTokenIdString location => exact latestIsShown_navigate _ _ _
    | answer number answer => exact latestIsShown_answer h htime
  have hinitial : LatestIsShown initial := by
    intro latest hlast
    cases hlast
  exact EventRun.run_invariant_of_meets (step accountIdOf) hstep hinitial hmeets

/-- Once all effects of such a run have completed, the page belongs to the latest requested
timestamp. -/
theorem belongsToLatest_run {events : List Event}
    (hmeets : EventRun.Meets (step accountIdOf) WritesInTime initial events)
    (hcompleted : AllCompleted (EventRun.run (step accountIdOf) initial events)) :
    BelongsToLatest (EventRun.run (step accountIdOf) initial events) := by
  intro latest hlast
  exact latestIsShown_run hmeets latest hlast (hcompleted latest (List.mem_of_getLast? hlast))

def hchfToken : Text := "0.0.5".toList

def redeemer : Text := "0.0.7".toList

/-- The first page, and the page from a second on. -/
def pageFrom : Option Nat → Href
  | none => firstVisit.location
  | some seconds => firstVisit.location.set timestampName (timestampAt seconds)

/-- What the requests for a redemption of ten HCHF for forty HBAR are answered. -/
def tenRedeemed : DetailResponses where
  timestampedTransactions := some [⟨some "1".toList, none, none, none, none, none⟩]
  idTransactions := some [
    ⟨some "1".toList, some "CONTRACTCALL".toList, some "SUCCESS".toList,
      some [⟨some redeemer, 4000000000⟩], none, some 50000000⟩,
    ⟨some "1".toList, some "CRYPTOTRANSFER".toList, some "SUCCESS".toList, none,
      some [⟨some hchfToken, some redeemer, -1000000000⟩], none⟩]
  redemptionFee := ⟨20000000⟩
  affectedTrovesAfter := []

/-- The answers to an effect whose page lists the redemptions of some seconds. -/
def answersTo (number : Nat) (seconds : List Nat) : List Event :=
  [.answer number (.results ⟨none, some (seconds.map redemptionAt), none⟩),
    .answer number (.details fun _ => some tenRedeemed),
    .answer number (.previous ⟨none, some [], none⟩)]

def twoNavigations : List Event :=
  [.navigate (some hchfToken) (pageFrom none),
    .navigate (some hchfToken) (pageFrom (some 1718000001))]

/-- The second effect completes last. -/
def inOrder : List Event :=
  twoNavigations ++ answersTo 0 [1718000002, 1718000001] ++ answersTo 1 [1718000001]

/-- The first effect completes last. -/
def outOfOrder : List Event :=
  twoNavigations ++ answersTo 1 [1718000001] ++ answersTo 0 [1718000002, 1718000001]

theorem belongsToLatest_run_inOrder :
    (EventRun.run (step fun _ => some redeemer) initial inOrder).BelongsToLatest :=
  belongsToLatest_run (by decide +kernel) (by decide +kernel)

/-- An effect that completes after the latest one leaves its own page. -/
theorem not_belongsToLatest_outOfOrder :
    (EventRun.run (step fun _ => some redeemer) initial outOfOrder).AllCompleted ∧
      ¬(EventRun.run (step fun _ => some redeemer) initial outOfOrder).BelongsToLatest := by
  decide +kernel

end RedemptionsPage

end HLiquity
