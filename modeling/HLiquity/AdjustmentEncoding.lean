import HLiquity.DecimalPrinting
import HLiquity.MaximumRates
import HLiquity.TroveNormalization

/-!
# Encoded adjustments

Both clients encode an adjustment as the amount sent along, the withdrawn
collateral, one amount for the change of the debt, and its direction. The
normalized parameters hold no zero amount, so the four arguments determine them.
-/

namespace HLiquity

open Decimal

variable {constants : Constants}

/-- What the library of a client reads a printed amount as, in its smallest unit:
`Hbar.fromString` and `ethers.utils.parseEther`. -/
structure ReadsAmount (readAmount : Text → Result Nat) (unitsPerOne : Nat) : Prop where
  pos : 0 < unitsPerOne
  exact : ∀ text amount, stringRepresentationFormat text = true →
    readAmount text = .ok amount → (amount : ℚ) = denoted text * unitsPerOne
  infinite : ∀ amount, readAmount ['∞'] ≠ .ok amount

/-- The arguments of `adjustTrove` that carry the adjustment. -/
structure AdjustTroveArguments where
  value : Nat
  collWithdrawal : Nat
  hchfChange : Nat
  isDebtIncrease : Bool
  deriving DecidableEq, Repr

/-- The amount that a call sends along. -/
def ContractCall.sentAmount (call : ContractCall) (readAmount : Text → Result Nat) : Result Nat :=
  match call.value with
  | none => .ok 0
  | some text => readAmount text

/-- The encoded adjustment of a call. -/
def ContractCall.adjustTroveArguments (call : ContractCall) (readAmount : Text → Result Nat) :
    Option AdjustTroveArguments :=
  match call.sentAmount readAmount, call.arguments with
  | .ok value, [_, .uint256 collWithdrawal, .uint256 hchfChange, .bool isDebtIncrease, _, _] =>
      some ⟨value, collWithdrawal, hchfChange, isDebtIncrease⟩
  | _, _ => none

/-- How a call carries normalized parameters. -/
structure EncodesAdjustment (call : ContractCall)
    (normalized : TroveAdjustmentParams Decimal) : Prop where
  value : normalized.depositCollateral.mapM (·.toString none) = .ok call.value
  arguments : ∃ limit upperHint lowerHint, call.arguments = [limit,
    .uint256 (normalized.withdrawCollateral.getD zero).bigNumber,
    .uint256 ((normalized.borrowHCHF <|> normalized.repayHCHF).getD zero).bigNumber,
    .bool normalized.borrowHCHF.isSome, upperHint, lowerHint]

theorem HashgraphLiquity.populateAdjustTrove_encodesAdjustment {this : HashgraphLiquity constants}
    {params : ParamsRecord} {maxBorrowingRate : Option Decimalish}
    {options : Option TransactionOptions} {call : ContractCall}
    (h : this.populateAdjustTrove params maxBorrowingRate options = .ok call) :
    ∃ normalized, normalizeTroveAdjustment params = .ok normalized ∧
      EncodesAdjustment call normalized := by
  unfold populateAdjustTrove at h
  obtain ⟨normalized, hnormalized, h⟩ := Result.bind_eq_ok.mp h
  obtain ⟨trove, _, h⟩ := Result.bind_eq_ok.mp h
  obtain ⟨fees, _, h⟩ := Result.bind_eq_ok.mp h
  obtain ⟨borrowingRate, _, h⟩ := Result.bind_eq_ok.mp h
  obtain ⟨finalTrove, _, h⟩ := Result.bind_eq_ok.mp h
  obtain ⟨limit, _, h⟩ := Result.bind_eq_ok.mp h
  obtain ⟨hbar, hvalue, h⟩ := Result.bind_eq_ok.mp h
  cases h
  exact ⟨normalized, hnormalized, hvalue, _, _, _, rfl⟩

theorem PopulatableEthersLiquity.adjustTrove_encodesAdjustment
    {this : PopulatableEthersLiquity constants} {params : ParamsRecord}
    {maxBorrowingRate : Option Decimalish} {overrides : Option EthersTransactionOverrides}
    {call : ContractCall} (h : this.adjustTrove params maxBorrowingRate overrides = .ok call) :
    ∃ normalized, normalizeTroveAdjustment params = .ok normalized ∧
      EncodesAdjustment call normalized := by
  unfold adjustTrove at h
  obtain ⟨address, _, h⟩ := Result.bind_eq_ok.mp h
  obtain ⟨normalized, hnormalized, h⟩ := Result.bind_eq_ok.mp h
  obtain ⟨trove, _, h⟩ := Result.bind_eq_ok.mp h
  obtain ⟨fees, _, h⟩ := Result.bind_eq_ok.mp h
  obtain ⟨borrowingRate, _, h⟩ := Result.bind_eq_ok.mp h
  obtain ⟨finalTrove, _, h⟩ := Result.bind_eq_ok.mp h
  obtain ⟨limit, _, h⟩ := Result.bind_eq_ok.mp h
  obtain ⟨value, hvalue, h⟩ := Result.bind_eq_ok.mp h
  cases h
  exact ⟨normalized, hnormalized, hvalue, _, _, _, rfl⟩

/-- The printed text of an amount is read as the amount. -/
theorem ReadsAmount.printed {readAmount : Text → Result Nat} {unitsPerOne : Nat}
    (h : ReadsAmount readAmount unitsPerOne) {d : Decimal} {text : Text} {amount : Nat}
    (htext : d.toString none = .ok text) (hread : readAmount text = .ok amount) :
    (amount : ℚ) = d.bigNumber / digits * unitsPerOne := by
  rw [Decimal.toString] at htext
  split at htext
  · cases htext
    exact absurd hread (h.infinite amount)
  · cases htext
    rw [h.exact _ amount (printed_format d) hread, denoted_printed]

/-- An optional amount above zero is determined by its units. -/
theorem option_eq_of_getD {a b : Option Decimal} (ha : ∀ amount, a = some amount → amount ≠ zero)
    (hb : ∀ amount, b = some amount → amount ≠ zero)
    (h : (a.getD zero).bigNumber = (b.getD zero).bigNumber) : a = b := by
  have heq : a.getD zero = b.getD zero := Decimal.ext h
  cases a with
  | none =>
      cases b with
      | none => rfl
      | some y => exact absurd heq.symm (hb y rfl)
  | some x =>
      cases b with
      | none => exact absurd heq (ha x rfl)
      | some y => exact congrArg some heq

/-- The amount that is sent along is the deposit, in the unit of the library. -/
theorem EncodesAdjustment.sentAmount {call : ContractCall}
    {normalized : TroveAdjustmentParams Decimal} (h : EncodesAdjustment call normalized)
    {readAmount : Text → Result Nat} {unitsPerOne : Nat}
    (hreads : ReadsAmount readAmount unitsPerOne) {value : Nat}
    (hvalue : call.sentAmount readAmount = .ok value) :
    (value : ℚ) = (normalized.depositCollateral.getD zero).bigNumber / digits * unitsPerOne := by
  have htext := h.value
  rw [ContractCall.sentAmount] at hvalue
  cases hdeposit : normalized.depositCollateral with
  | none =>
      rw [hdeposit] at htext
      have hnone : call.value = none := (Except.ok.inj htext).symm
      rw [hnone] at hvalue
      cases hvalue
      simp
  | some deposit =>
      rw [hdeposit] at htext
      obtain ⟨text, hprinted, hsome⟩ := Result.bind_eq_ok.mp htext
      have hvalueText : call.value = some text := (Except.ok.inj hsome).symm
      rw [hvalueText] at hvalue
      exact hreads.printed hprinted hvalue

/-- The encoded arguments of a call, read off its normalized parameters. -/
theorem EncodesAdjustment.adjustTroveArguments {call : ContractCall}
    {normalized : TroveAdjustmentParams Decimal} (h : EncodesAdjustment call normalized)
    {readAmount : Text → Result Nat} {arguments : AdjustTroveArguments}
    (harguments : call.adjustTroveArguments readAmount = some arguments) :
    call.sentAmount readAmount = .ok arguments.value ∧
      (normalized.withdrawCollateral.getD zero).bigNumber = arguments.collWithdrawal ∧
      ((normalized.borrowHCHF <|> normalized.repayHCHF).getD zero).bigNumber =
        arguments.hchfChange ∧
      normalized.borrowHCHF.isSome = arguments.isDebtIncrease := by
  obtain ⟨limit, upperHint, lowerHint, hlist⟩ := h.arguments
  rw [ContractCall.adjustTroveArguments, hlist] at harguments
  cases hsent : call.sentAmount readAmount with
  | error failure =>
      rw [hsent] at harguments
      cases harguments
  | ok value =>
      rw [hsent] at harguments
      cases harguments
      exact ⟨rfl, rfl, rfl, rfl⟩

/-- The debt change and its flag determine which debt amount an adjustment has. -/
theorem debts_eq {normalized normalized' : TroveAdjustmentParams Decimal}
    (hrepay : ∀ amount, normalized.repayHCHF = some amount → amount ≠ zero)
    (hrepay' : ∀ amount, normalized'.repayHCHF = some amount → amount ≠ zero)
    (hchange : ((normalized.borrowHCHF <|> normalized.repayHCHF).getD zero).bigNumber =
      ((normalized'.borrowHCHF <|> normalized'.repayHCHF).getD zero).bigNumber)
    (hflag : normalized.borrowHCHF.isSome = normalized'.borrowHCHF.isSome) :
    normalized.borrowHCHF = normalized'.borrowHCHF ∧
      normalized.repayHCHF = normalized'.repayHCHF := by
  have hone := (TroveAdjustmentParams.borrow_or_repay normalized).2
  have hone' := (TroveAdjustmentParams.borrow_or_repay normalized').2
  cases hborrow : normalized.borrowHCHF with
  | some borrowed =>
      cases hborrow' : normalized'.borrowHCHF with
      | none => simp [hborrow, hborrow'] at hflag
      | some borrowed' =>
          rw [hborrow, hborrow'] at hchange
          have hnone : normalized.repayHCHF = none := by simpa [hborrow] using hone
          have hnone' : normalized'.repayHCHF = none := by simpa [hborrow'] using hone'
          exact ⟨congrArg some (Decimal.ext hchange), hnone.trans hnone'.symm⟩
  | none =>
      cases hborrow' : normalized'.borrowHCHF with
      | some borrowed' => simp [hborrow, hborrow'] at hflag
      | none =>
          rw [hborrow, hborrow'] at hchange
          exact ⟨rfl, option_eq_of_getD hrepay hrepay' hchange⟩

/-- Two adjustments without zero amounts that are encoded alike are the same. -/
theorem EncodesAdjustment.determines {call call' : ContractCall}
    {normalized normalized' : TroveAdjustmentParams Decimal}
    (h : EncodesAdjustment call normalized) (h' : EncodesAdjustment call' normalized')
    (hne : ∀ amount, some amount ∈ normalized.amounts → amount ≠ zero)
    (hne' : ∀ amount, some amount ∈ normalized'.amounts → amount ≠ zero)
    {readAmount : Text → Result Nat} {unitsPerOne : Nat}
    (hreads : ReadsAmount readAmount unitsPerOne) {arguments : AdjustTroveArguments}
    (harguments : call.adjustTroveArguments readAmount = some arguments)
    (harguments' : call'.adjustTroveArguments readAmount = some arguments) :
    normalized = normalized' := by
  obtain ⟨hvalue, hwithdraw, hchange, hflag⟩ := h.adjustTroveArguments harguments
  obtain ⟨hvalue', hwithdraw', hchange', hflag'⟩ := h'.adjustTroveArguments harguments'
  simp only [TroveAdjustmentParams.amounts, List.mem_cons, List.not_mem_nil, or_false] at hne hne'
  have hdeposits : normalized.depositCollateral = normalized'.depositCollateral := by
    apply option_eq_of_getD
    · exact fun amount heq => hne amount (.inl heq.symm)
    · exact fun amount heq => hne' amount (.inl heq.symm)
    · have hunits : (unitsPerOne : ℚ) ≠ 0 := Nat.cast_ne_zero.mpr hreads.pos.ne'
      have hscale : (digits : ℚ) ≠ 0 := by norm_num [digits, precision]
      have hsame := (h.sentAmount hreads hvalue).symm.trans (h'.sentAmount hreads hvalue')
      exact_mod_cast (div_left_inj' hscale).mp (mul_right_cancel₀ hunits hsame)
  have hwithdrawals : normalized.withdrawCollateral = normalized'.withdrawCollateral := by
    apply option_eq_of_getD
    · exact fun amount heq => hne amount (.inr (.inl heq.symm))
    · exact fun amount heq => hne' amount (.inr (.inl heq.symm))
    · exact hwithdraw.trans hwithdraw'.symm
  have hdebts : normalized.borrowHCHF = normalized'.borrowHCHF ∧
      normalized.repayHCHF = normalized'.repayHCHF := by
    apply debts_eq
    · exact fun amount heq => hne amount (.inr (.inr (.inr heq.symm)))
    · exact fun amount heq => hne' amount (.inr (.inr (.inr heq.symm)))
    · exact hchange.trans hchange'.symm
    · exact hflag.trans hflag'.symm
  apply TroveAdjustmentParams.ext_amounts
  rw [TroveAdjustmentParams.amounts, TroveAdjustmentParams.amounts, hdeposits, hwithdrawals,
    hdebts.1, hdebts.2]

/-- Two records are the same adjustment. -/
def SameAdjustment (params params' : ParamsRecord) : Prop :=
  ∃ normalized, normalizeTroveAdjustment params = .ok normalized ∧
    normalizeTroveAdjustment params' = .ok normalized

theorem sameAdjustment_of_encodings {params params' : ParamsRecord} {call call' : ContractCall}
    (h : ∃ normalized, normalizeTroveAdjustment params = .ok normalized ∧
      EncodesAdjustment call normalized)
    (h' : ∃ normalized, normalizeTroveAdjustment params' = .ok normalized ∧
      EncodesAdjustment call' normalized)
    {readAmount : Text → Result Nat} {unitsPerOne : Nat}
    (hreads : ReadsAmount readAmount unitsPerOne) {arguments : AdjustTroveArguments}
    (harguments : call.adjustTroveArguments readAmount = some arguments)
    (harguments' : call'.adjustTroveArguments readAmount = some arguments) :
    SameAdjustment params params' := by
  obtain ⟨normalized, hnormalized, hencodes⟩ := h
  obtain ⟨normalized', hnormalized', hencodes'⟩ := h'
  have hsame : normalized = normalized' := hencodes.determines hencodes'
    (fun _ => amounts_ne_zero_of_normalized hnormalized)
    (fun _ => amounts_ne_zero_of_normalized hnormalized') hreads harguments harguments'
  exact ⟨normalized, hnormalized, hsame ▸ hnormalized'⟩

/-- A record with distinct keys is normalized exactly when it is normalizable, to
its non-zero entries, which are their own normal form; and the calls of either
client determine the adjustment, whatever its library reads amounts with. -/
theorem adjustment_lossless (constants : Constants) :
    (∀ params : ParamsRecord, (params.map Prod.fst).Nodup →
      ((∃ normalized, normalizeTroveAdjustment params = .ok normalized) ↔
        Normalizable params) ∧
      ∀ normalized, normalizeTroveAdjustment params = .ok normalized →
        HoldsEntries normalized params ∧
          normalizeTroveAdjustment normalized.ofDecimal.record = .ok normalized) ∧
    (∀ readAmount unitsPerOne, ReadsAmount readAmount unitsPerOne →
      ∀ (client client' : HashgraphLiquity constants) params params' rate rate' options options'
        call call' arguments,
        client.populateAdjustTrove params rate options = .ok call →
        client'.populateAdjustTrove params' rate' options' = .ok call' →
        call.adjustTroveArguments readAmount = some arguments →
        call'.adjustTroveArguments readAmount = some arguments →
        SameAdjustment params params') ∧
    ∀ readAmount unitsPerOne, ReadsAmount readAmount unitsPerOne →
      ∀ (client client' : PopulatableEthersLiquity constants) params params' rate rate' overrides
        overrides' call call' arguments,
        client.adjustTrove params rate overrides = .ok call →
        client'.adjustTrove params' rate' overrides' = .ok call' →
        call.adjustTroveArguments readAmount = some arguments →
        call'.adjustTroveArguments readAmount = some arguments →
        SameAdjustment params params' := by
  refine ⟨?_, ?_, ?_⟩
  · intro params hkeys
    refine ⟨normalizeTroveAdjustment_ok_iff hkeys, ?_⟩
    intro normalized h
    exact ⟨holdsEntries_of_normalized hkeys h, normalizeTroveAdjustment_idempotent h⟩
  · intro readAmount unitsPerOne hreads client client' params params' rate rate' options options'
      call call' arguments h h' harguments harguments'
    exact sameAdjustment_of_encodings
      (HashgraphLiquity.populateAdjustTrove_encodesAdjustment h)
      (HashgraphLiquity.populateAdjustTrove_encodesAdjustment h') hreads harguments harguments'
  · intro readAmount unitsPerOne hreads client client' params params' rate rate' overrides
      overrides' call call' arguments h h' harguments harguments'
    exact sameAdjustment_of_encodings
      (PopulatableEthersLiquity.adjustTrove_encodesAdjustment h)
      (PopulatableEthersLiquity.adjustTrove_encodesAdjustment h') hreads harguments harguments'

/-- A reading of printed amounts in units of the eighth decimal place, which
rejects any other fraction. -/
def readTinybars (text : Text) : Result Nat :=
  if stringRepresentationFormat text = true ∧ 0 ≤ denoted text * digits ∧
      (denoted text * digits).den = 1 then
    .ok (denoted text * digits).num.toNat
  else .error (.error "Hbar in tinybars contains decimals")

theorem readsAmount_readTinybars : ReadsAmount readTinybars digits where
  pos := digits_pos
  exact := by
    intro text amount _ hread
    rw [readTinybars] at hread
    split at hread
    · rename_i h
      cases hread
      have hnum : 0 ≤ (denoted text * digits).num := Rat.num_nonneg.mpr h.2.1
      have hcast : (((denoted text * digits).num.toNat : ℤ) : ℚ) = denoted text * digits := by
        rw [Int.toNat_of_nonneg hnum]
        exact Rat.coe_int_num_of_den_eq_one h.2.2
      exact_mod_cast hcast
    · cases hread
  infinite := by
    intro amount hread
    rw [readTinybars, if_neg (fun h => absurd h.1 (by decide))] at hread
    cases hread

/-- An adjustment that deposits 1 HBAR and borrows 100 HCHF. -/
def depositAndBorrow : ParamsRecord :=
  [("depositCollateral", some (.string ['1'])), ("borrowHCHF", some (.string ['1', '0', '0']))]

/-- The same adjustment in another spelling. -/
def borrowAndDeposit : ParamsRecord :=
  [("borrowHCHF", some (.number ['1', '0', '0'])), ("repayHCHF", some (.number ['0'])),
    ("depositCollateral", some (.string ['1', '.', '0']))]

/-- The call of both on the empty chain. -/
def depositAndBorrowCall : ContractCall where
  contract := .borrowerOperations
  functionName := "adjustTrove"
  arguments := [.uint256 1000000, .uint256 0, .uint256 10000000000, .bool true,
    .address addressZero, .address addressZero]
  value := some ['1']

theorem depositAndBorrowCall_arguments :
    depositAndBorrowCall.adjustTroveArguments readTinybars =
      some ⟨100000000, 0, 10000000000, true⟩ := by
  have hdenoted : denoted ['1'] * digits = 100000000 := by decide +kernel
  have hread : readTinybars ['1'] = .ok 100000000 := by
    simp only [readTinybars, hdenoted, Rat.den_ofNat, Rat.num_ofNat, and_true]
    rw [if_pos ⟨by decide, by norm_num⟩]
    rfl
  simp only [ContractCall.adjustTroveArguments, ContractCall.sentAmount, depositAndBorrowCall,
    hread]

theorem adjustment_lossless_spellings :
    Normalizable depositAndBorrow ∧ SameAdjustment depositAndBorrow borrowAndDeposit := by
  obtain ⟨hnormal, hencoded, _⟩ := adjustment_lossless defaults
  have hnormalized : normalizeTroveAdjustment depositAndBorrow =
      .ok (.both (.depositCollateral one) (.borrowHCHF ⟨10000000000⟩)) := by decide +kernel
  constructor
  · exact (hnormal depositAndBorrow (by decide)).1.mp ⟨_, hnormalized⟩
  · exact hencoded readTinybars digits readsAmount_readTinybars ⟨genesisPopulation, "0xd"⟩
      ⟨genesisPopulation, "0xd"⟩ depositAndBorrow borrowAndDeposit none none none none
      depositAndBorrowCall depositAndBorrowCall _ (by decide +kernel) (by decide +kernel)
      depositAndBorrowCall_arguments depositAndBorrowCall_arguments

/-- A deposit with a negative repayment: the keys are allowed, an amount is not
zero and no component has both directions. -/
def negativeRepayment : ParamsRecord :=
  [("depositCollateral", some (.string ['1'])), ("repayHCHF", some (.number ['-', '1']))]

/-- It is not normalized, since the negative number does not convert. -/
theorem negativeRepayment_rejected :
    (negativeRepayment.map Prod.fst).Nodup ∧
      (∀ entry ∈ negativeRepayment, entry.1 ∈ allowedTroveAdjustmentKeys) ∧
      NonZeroEntry negativeRepayment "depositCollateral" one ∧
      "withdrawCollateral" ∉ negativeRepayment.map Prod.fst ∧
      "borrowHCHF" ∉ negativeRepayment.map Prod.fst ∧
      normalizeTroveAdjustment negativeRepayment =
        .error (.error "bad decimal format: \"-1\"") := by
  refine ⟨by decide, by decide, ?_, by decide, by decide, rfl⟩
  exact ⟨.string ['1'], List.mem_cons_self, rfl, by decide⟩

end HLiquity
