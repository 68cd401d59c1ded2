import HLiquity.DecimalHex
import HLiquity.StoreApprovals

/-!
# Approved allowances

An approval sends the amount as an unsigned number of 64 bits, which it reads
from the hexadecimal text of the amount, and afterwards writes the amount
itself into the store.
-/

namespace HLiquity

open Decimal

variable {constants : Constants} {E : ExtraState}

/-- `Long` -/
abbrev Long := BitVec 64

/-- `Long.fromString(text, unsigned, radix)` -/
abbrev LongFromString := Text → Bool → Nat → Long

/-- A text of hexadecimal digits is parsed as an unsigned number, which wraps. -/
def ParsesHex (fromString : LongFromString) : Prop :=
  ∀ hexDigits, AllHexDigits hexDigits →
    fromString ('0' :: 'x' :: hexDigits) true 16 = BitVec.ofNat 64 (hexValue hexDigits)

/-- `new AccountAllowanceApproveTransaction().approveTokenAllowance(..)` -/
structure AllowanceTransaction where
  tokenId : String
  ownerAccountId : String
  spenderAccountId : String
  amount : Long
  deriving DecidableEq, Repr

/-- The accounts of a client that its approvals name. -/
structure ApprovingClient where
  userAccountId : String
  hchfTokenContractId : String
  hlqtTokenContractId : String
  saucerSwapPoolContractId : String

/-- A call of an approval: the amount, what the request for the token answers, what
becomes of the transaction, and the store that is found after the refresh. One
address holds one amount. -/
structure ApprovalCall (constants : Constants) (E : ExtraState) where
  amount : Obj Decimal
  tokenId : Result String
  sendTransaction : AllowanceTransaction → Result Unit
  store : HLiquityStore constants E
  identity : ∀ baseState key, store.baseState = some baseState →
    (baseState.allowance key).address = amount.address →
    (baseState.allowance key).value = amount.value

/-- The outcome of an approval, the transaction that went through, and the store. -/
structure Approved (constants : Constants) (E : ExtraState) where
  outcome : Result Unit
  sent : Option AllowanceTransaction
  store : HLiquityStore constants E

/-- The three approvals, which differ in the token, the spender and the allowance. The
refresh catches what it throws. -/
def approve (fromString : LongFromString) (userAccountId spenderAccountId : String)
    (key : AllowanceKey) (call : ApprovalCall constants E) : Approved constants E :=
  match call.tokenId with
  | .error failure => ⟨.error failure, none, call.store⟩
  | .ok tokenId =>
      let unfrozenTransaction : AllowanceTransaction :=
        ⟨tokenId, userAccountId, spenderAccountId, fromString call.amount.value.hex true 16⟩
      match call.sendTransaction unfrozenTransaction with
      | .error failure => ⟨.error failure, none, call.store⟩
      | .ok () =>
          let result := call.store.update (some (key.toUpdate call.amount)) none
          ⟨result.1, some unfrozenTransaction, result.2⟩

namespace HashgraphLiquity

def approveHchfToSpendHchf (fromString : LongFromString) (this : ApprovingClient)
    (call : ApprovalCall constants E) : Approved constants E :=
  approve fromString this.userAccountId this.hchfTokenContractId
    .hchfTokenAllowanceOfHchfContract call

def approveHlqtToSpendHlqt (fromString : LongFromString) (this : ApprovingClient)
    (call : ApprovalCall constants E) : Approved constants E :=
  approve fromString this.userAccountId this.hlqtTokenContractId
    .hlqtTokenAllowanceOfHlqtContract call

def approveSaucerSwapToSpendLpToken (fromString : LongFromString) (this : ApprovingClient)
    (call : ApprovalCall constants E) : Approved constants E :=
  approve fromString this.userAccountId this.saucerSwapPoolContractId .uniTokenAllowance call

end HashgraphLiquity

/-- The call fails before the store is updated. -/
def Approved.FailsBefore (this : Approved constants E) (call : ApprovalCall constants E) : Prop :=
  (∃ failure, this.outcome = .error failure) ∧ this.store = call.store

/-- The allowance that was sent is the one that the store holds. -/
def Approved.Records (this : Approved constants E) (key : AllowanceKey) : Prop :=
  ∃ transaction baseState, this.sent = some transaction ∧ this.store.baseState = some baseState ∧
    transaction.amount.toNat = (baseState.allowance key).value.bigNumber

/-- The call sends its transaction and then finds a store that it can update. -/
def ApprovalCall.Reaches (this : ApprovalCall constants E) (fromString : LongFromString)
    (userAccountId spenderAccountId : String) : Prop :=
  ∃ tokenId, this.tokenId = .ok tokenId ∧
    this.sendTransaction ⟨tokenId, userAccountId, spenderAccountId,
      fromString this.amount.value.hex true 16⟩ = .ok () ∧
    this.store.baseState.isSome = true ∧ this.store.derivedState.isSome = true

/-- The amount that is read from the text of a decimal. -/
theorem fromString_hex {fromString : LongFromString} (h : ParsesHex fromString) (d : Decimal) :
    (fromString d.hex true 16).toNat = d.bigNumber % 2 ^ 64 := by
  obtain ⟨hexDigits, hhex, hall, hvalue⟩ := d.hex_eq
  rw [hhex, h hexDigits hall, hvalue, BitVec.toNat_ofNat]

/-- An update of a store that holds both states reduces its base state and allocates. -/
theorem HLiquityStore.update_base {this : HLiquityStore constants E}
    {baseState : LiquityStoreBaseState constants}
    {derivedState : LiquityStoreDerivedState constants}
    (hbase : this.baseState = some baseState) (hderived : this.derivedState = some derivedState)
    (baseStateUpdate : PartialBaseState constants) :
    (this.update (some baseStateUpdate) none).2.baseState =
        some (reduce baseState baseStateUpdate) ∧
      (this.update (some baseStateUpdate) none).2.allocations = this.allocations + 4 := by
  rcases update_cases hbase hderived (some baseStateUpdate) none with
    ⟨_, _, hupdate⟩ | ⟨_, _, _, hfail, _⟩ | ⟨_, _, _, _, hupdate⟩
  · rw [hupdate]
    exact ⟨rfl, rfl⟩
  · cases hfail
  · rw [hupdate]
    exact ⟨rfl, rfl⟩

/-- The updated allowance has the value of the amount. -/
theorem ApprovalCall.value_reduce (this : ApprovalCall constants E) (key : AllowanceKey)
    {baseState : LiquityStoreBaseState constants} (h : this.store.baseState = some baseState) :
    ((reduce baseState (key.toUpdate this.amount)).allowance key).value = this.amount.value := by
  rw [key.reduce_allowance_self]
  exact KeepIfEqual.keep_induction (motive := fun kept => kept.value = this.amount.value) key.equals
    (AllowanceKey.value_eq_of_equals (this.identity baseState key h)) rfl

/-- An update that a store refuses leaves it. -/
theorem HLiquityStore.update_refused {this : HLiquityStore constants E}
    (h : ¬ (this.baseState.isSome = true ∧ this.derivedState.isSome = true))
    (baseStateUpdate : PartialBaseState constants) :
    this.update (some baseStateUpdate) none =
      (.error (.assertion "this._baseState && this._derivedState"), this) := by
  unfold update
  cases hbase : this.baseState with
  | none => rfl
  | some baseState =>
      cases hderived : this.derivedState with
      | none => rfl
      | some derivedState => exact absurd ⟨by simp [hbase], by simp [hderived]⟩ h

/-- A stored approval records what it sent exactly if the amount fits 64 bits. -/
theorem approve_stored {fromString : LongFromString} (hparse : ParsesHex fromString)
    {userAccountId spenderAccountId : String} (key : AllowanceKey)
    {call : ApprovalCall constants E} {tokenId : String} (htoken : call.tokenId = .ok tokenId)
    (hsend : call.sendTransaction ⟨tokenId, userAccountId, spenderAccountId,
      fromString call.amount.value.hex true 16⟩ = .ok ())
    (hstore : call.store.baseState.isSome = true ∧ call.store.derivedState.isSome = true) :
    ((approve fromString userAccountId spenderAccountId key call).FailsBefore call ∨
        (approve fromString userAccountId spenderAccountId key call).Records key) ↔
      call.amount.value.bigNumber < 2 ^ 64 := by
  obtain ⟨baseState, hbase⟩ := Option.isSome_iff_exists.mp hstore.1
  obtain ⟨derivedState, hderived⟩ := Option.isSome_iff_exists.mp hstore.2
  obtain ⟨hreduced, hallocations⟩ := HLiquityStore.update_base hbase hderived
    (key.toUpdate call.amount)
  have hvalue := call.value_reduce key hbase
  have hsent := fromString_hex hparse call.amount.value
  unfold approve
  simp only [htoken, hsend]
  constructor
  · rintro (⟨_, hsame⟩ | ⟨transaction, written, htransaction, hwritten, hequal⟩)
    · -- the update has allocated, so the store is another one
      have hcount := congrArg HLiquityStore.allocations hsame
      dsimp only at hcount
      omega
    · cases htransaction
      rw [hreduced] at hwritten
      cases hwritten
      rw [hvalue, hsent] at hequal
      rw [← hequal]
      exact Nat.mod_lt _ (by decide)
  · intro hfits
    refine .inr ⟨_, _, rfl, hreduced, ?_⟩
    rw [hvalue, hsent]
    exact Nat.mod_eq_of_lt hfits

/-- An approval that does not reach the store fails before. -/
theorem approve_fails {fromString : LongFromString} {userAccountId spenderAccountId : String}
    (key : AllowanceKey) {call : ApprovalCall constants E}
    (h : ¬ call.Reaches fromString userAccountId spenderAccountId) :
    (approve fromString userAccountId spenderAccountId key call).FailsBefore call := by
  unfold approve
  cases htoken : call.tokenId with
  | error failure => exact ⟨⟨failure, rfl⟩, rfl⟩
  | ok tokenId =>
      dsimp only
      cases hsend : call.sendTransaction ⟨tokenId, userAccountId, spenderAccountId,
          fromString call.amount.value.hex true 16⟩ with
      | error failure => exact ⟨⟨failure, rfl⟩, rfl⟩
      | ok _ =>
          have hrefused : ¬ (call.store.baseState.isSome = true ∧
              call.store.derivedState.isSome = true) :=
            fun hstore => h ⟨tokenId, htoken, hsend, hstore⟩
          dsimp only
          rw [HLiquityStore.update_refused hrefused]
          exact ⟨⟨_, rfl⟩, rfl⟩

/-- An approval that reaches the store records what it sent exactly if the amount fits
64 bits, and every other one fails before. -/
theorem approve_iff {fromString : LongFromString} (hparse : ParsesHex fromString)
    (userAccountId spenderAccountId : String) (key : AllowanceKey)
    (call : ApprovalCall constants E) :
    ((approve fromString userAccountId spenderAccountId key call).FailsBefore call ∨
        (approve fromString userAccountId spenderAccountId key call).Records key) ↔
      (call.Reaches fromString userAccountId spenderAccountId →
        call.amount.value.bigNumber < 2 ^ 64) := by
  by_cases hreaches : call.Reaches fromString userAccountId spenderAccountId
  · obtain ⟨tokenId, htoken, hsend, hstore⟩ := id hreaches
    have hstored := approve_stored hparse key htoken hsend hstore
    exact hstored.trans ⟨fun hfits _ => hfits, fun hfits => hfits hreaches⟩
  · have hfails := approve_fails key hreaches
    exact iff_of_true (.inl hfails) fun hreached => absurd hreached hreaches

/-- What each of the three approvals sends is what the store holds afterwards, or the
call fails before, exactly if an amount that gets there fits 64 bits. -/
theorem approvals_record_iff {fromString : LongFromString} (hparse : ParsesHex fromString)
    (this : ApprovingClient) (call : ApprovalCall constants E) :
    (((HashgraphLiquity.approveHchfToSpendHchf fromString this call).FailsBefore call ∨
        (HashgraphLiquity.approveHchfToSpendHchf fromString this call).Records
          .hchfTokenAllowanceOfHchfContract) ↔
      (call.Reaches fromString this.userAccountId this.hchfTokenContractId →
        call.amount.value.bigNumber < 2 ^ 64)) ∧
    (((HashgraphLiquity.approveHlqtToSpendHlqt fromString this call).FailsBefore call ∨
        (HashgraphLiquity.approveHlqtToSpendHlqt fromString this call).Records
          .hlqtTokenAllowanceOfHlqtContract) ↔
      (call.Reaches fromString this.userAccountId this.hlqtTokenContractId →
        call.amount.value.bigNumber < 2 ^ 64)) ∧
    (((HashgraphLiquity.approveSaucerSwapToSpendLpToken fromString this call).FailsBefore call ∨
        (HashgraphLiquity.approveSaucerSwapToSpendLpToken fromString this call).Records
          .uniTokenAllowance) ↔
      (call.Reaches fromString this.userAccountId this.saucerSwapPoolContractId →
        call.amount.value.bigNumber < 2 ^ 64)) :=
  ⟨approve_iff hparse _ _ _ call, approve_iff hparse _ _ _ call, approve_iff hparse _ _ _ call⟩

/-- A parser of the texts that approvals send. -/
def parseHex : LongFromString := fun text _ _ => BitVec.ofNat 64 (hexValue (text.drop 2))

theorem parsesHex_parseHex : ParsesHex parseHex := fun _ _ => rfl

/-- The extra state of a Hashgraph client. -/
abbrev exampleExtra : ExtraState :=
  (HashgraphLiquity.implementation exampleOptions : StoreImplementation defaults).extra

/-- A loaded store without allowances. -/
def unapprovedStore : HLiquityStore defaults exampleExtra :=
  ⟨true, some defaultBaseState, some defaultDerivedState, none, 0, []⟩

/-- An approval of some units that goes through. -/
def approvalOf (units : Nat) : ApprovalCall defaults exampleExtra where
  amount := ⟨.supplied 0 0, ⟨units⟩⟩
  tokenId := .ok "0.0.1"
  sendTransaction _ := .ok ()
  store := unapprovedStore
  identity := by
    rintro baseState key h hsame
    cases h
    cases key <;> cases hsame

/-- The accounts of a client. -/
def approvingClient : ApprovingClient := ⟨"0.0.2", "0.0.3", "0.0.4", "0.0.5"⟩

/-- A hundred HCHF are recorded as they were sent. -/
theorem approvals_record_hundred :
    (HashgraphLiquity.approveHchfToSpendHchf parseHex approvingClient
        (approvalOf 10000000000)).FailsBefore (approvalOf 10000000000) ∨
      (HashgraphLiquity.approveHchfToSpendHchf parseHex approvingClient
        (approvalOf 10000000000)).Records .hchfTokenAllowanceOfHchfContract :=
  (approvals_record_iff parsesHex_parseHex approvingClient (approvalOf 10000000000)).1.mpr
    fun _ => show 10000000000 < 2 ^ 64 by decide

/-- An amount of `2 ^ 64` units is sent as nothing, and the store holds all of it. -/
theorem not_approvals_record_wide :
    ((HashgraphLiquity.approveHchfToSpendHchf parseHex approvingClient
        (approvalOf (2 ^ 64))).sent.map AllowanceTransaction.amount = some 0) ∧
      ¬ ((HashgraphLiquity.approveHchfToSpendHchf parseHex approvingClient
          (approvalOf (2 ^ 64))).FailsBefore (approvalOf (2 ^ 64)) ∨
        (HashgraphLiquity.approveHchfToSpendHchf parseHex approvingClient
          (approvalOf (2 ^ 64))).Records .hchfTokenAllowanceOfHchfContract) := by
  constructor
  · decide +kernel
  · intro h
    have hfits := (approve_iff parsesHex_parseHex approvingClient.userAccountId
      approvingClient.hchfTokenContractId _ (approvalOf (2 ^ 64))).mp h
      ⟨"0.0.1", rfl, rfl, rfl, rfl⟩
    exact absurd hfits (show ¬ 2 ^ 64 < 2 ^ 64 by decide)

end HLiquity
