import HLiquity.Library.EventRun
import Mathlib.Data.Option.Basic

/-!
# Waiting for a transaction

Behind one address there are several backends, and some of them lag behind. When a wait for a
transaction is told of a new block, it does not trust the answer of a backend that may not know
this block: a receipt has to count it, and a missing receipt is only believed if the block does
not hold the transaction.
-/

namespace HLiquity

/-- A receipt, with the block that holds the transaction and the number of blocks from there on. -/
structure TransactionReceipt where
  blockNumber : Nat
  confirmations : Nat
  deriving DecidableEq, Repr

/-- What `waitForTransaction` waits for: an answer, the end of a delay, or the next block. -/
inductive WaitProgress where
  | askingReceipt
  | delayingBlock
  | askingBlock
  | delayingReceipt
  | awaitingBlock
  | returned (receipt : TransactionReceipt)
  | rejected (reason : String)
  deriving DecidableEq, Repr

/-- The variables of a call of `waitForTransaction` without a timeout. -/
structure TransactionWait where
  txHash : String
  confirmations : Option Nat
  latestBlock : Option Nat
  progress : WaitProgress
  deriving DecidableEq, Repr

namespace TransactionWait

def start (txHash : String) (confirmations : Option Nat) : TransactionWait :=
  ⟨txHash, confirmations, none, .askingReceipt⟩

/-- The body of the loop of `waitForTransaction`, once a receipt or its absence is trusted. -/
def trust (this : TransactionWait) (receipt : Option TransactionReceipt) : TransactionWait :=
  match receipt with
  | some receipt =>
      if this.confirmations.all (· ≤ receipt.confirmations) then
        { this with progress := .returned receipt }
      else { this with progress := .awaitingBlock }
  | none => { this with progress := .awaitingBlock }

/-- The answer to `getTransactionReceipt` in `_getTransactionReceiptFromLatest`. -/
def receiveReceipt (this : TransactionWait) (receipt : Option TransactionReceipt) :
    TransactionWait :=
  match this.progress, this.latestBlock with
  | .askingReceipt, none => this.trust receipt
  | .askingReceipt, some latestBlock =>
      match receipt with
      | some receipt =>
          if (latestBlock : Int) ≤ receipt.blockNumber + receipt.confirmations - 1 then
            this.trust (some receipt)
          else { this with progress := .delayingReceipt }
      | none => { this with progress := .delayingBlock }
  | _, _ => this

/-- The answer to `getBlock` in `_blockContainsTx`: the transactions of the block, if it is
known. -/
def receiveBlock (this : TransactionWait) (block : Option (List String)) : TransactionWait :=
  match this.progress, block with
  | .askingBlock, some transactions =>
      if transactions.any (· == this.txHash) then { this with progress := .delayingReceipt }
      else this.trust none
  | .askingBlock, none => { this with progress := .delayingBlock }
  | _, _ => this

/-- The end of a delay. -/
def elapse (this : TransactionWait) : TransactionWait :=
  match this.progress with
  | .delayingBlock => { this with progress := .askingBlock }
  | .delayingReceipt => { this with progress := .askingReceipt }
  | _ => this

/-- `once("block", resolve)` is called. -/
def onBlock (this : TransactionWait) (blockNumber : Nat) : TransactionWait :=
  match this.progress with
  | .awaitingBlock =>
      { this with latestBlock := some blockNumber, progress := .askingReceipt }
  | _ => this

/-- A request fails. -/
def reject (this : TransactionWait) (reason : String) : TransactionWait :=
  match this.progress with
  | .askingReceipt => { this with progress := .rejected reason }
  | .askingBlock => { this with progress := .rejected reason }
  | _ => this

end TransactionWait

/-- The chain, by the transactions of its blocks, and a wait. -/
structure ChainWait where
  blocks : List (List String)
  wait : TransactionWait

/-- A block is mined or announced, a backend answers with a receipt or a block or that it knows
none, a delay ends, or a request fails. -/
inductive ChainWaitEvent where
  | mine (transactions : List String)
  | announce (blockNumber : Nat)
  | receipt (answer : Option TransactionReceipt)
  | block (answer : Option (List String))
  | elapse
  | reject (reason : String)
  deriving DecidableEq, Repr

namespace ChainWait

def start (blocks : List (List String)) (txHash : String) (confirmations : Option Nat) :
    ChainWait :=
  ⟨blocks, .start txHash confirmations⟩

def step (this : ChainWait) : ChainWaitEvent → ChainWait
  | .mine transactions => { this with blocks := this.blocks ++ [transactions] }
  | .announce blockNumber =>
      { this with wait := this.wait.onBlock blockNumber }
  | .receipt answer => { this with wait := this.wait.receiveReceipt answer }
  | .block answer => { this with wait := this.wait.receiveBlock answer }
  | .elapse => { this with wait := this.wait.elapse }
  | .reject reason => { this with wait := this.wait.reject reason }

end ChainWait

/-- A block holds the transaction. -/
def BlockContainsTx (blocks : List (List String)) (blockNumber : Nat) (txHash : String) : Prop :=
  ∃ transactions ∈ blocks[blockNumber]?, txHash ∈ transactions

instance (blocks : List (List String)) (blockNumber : Nat) (txHash : String) :
    Decidable (BlockContainsTx blocks blockNumber txHash) :=
  inferInstanceAs (Decidable (∃ transactions ∈ _, _))

theorem blockContainsTx_append {blocks : List (List String)} {blockNumber : Nat} {txHash : String}
    (hmined : blockNumber < blocks.length) (later : List (List String)) :
    BlockContainsTx (blocks ++ later) blockNumber txHash ↔
      BlockContainsTx blocks blockNumber txHash := by
  rw [BlockContainsTx, List.getElem?_append_left hmined, BlockContainsTx]

theorem BlockContainsTx.lt_length {blocks : List (List String)} {blockNumber : Nat}
    {txHash : String} (h : BlockContainsTx blocks blockNumber txHash) :
    blockNumber < blocks.length := by
  obtain ⟨transactions, hblock, _⟩ := h
  exact (List.getElem?_eq_some_iff.mp hblock).1

namespace TransactionReceipt

/-- The receipt is of a block that holds the transaction, and it does not count more blocks than
there are. -/
structure On (blocks : List (List String)) (txHash : String) (receipt : TransactionReceipt) :
    Prop where
  contains : BlockContainsTx blocks receipt.blockNumber txHash
  confirmations_pos : 1 ≤ receipt.confirmations
  counted_le : receipt.blockNumber + receipt.confirmations ≤ blocks.length

instance (blocks : List (List String)) (txHash : String) (receipt : TransactionReceipt) :
    Decidable (receipt.On blocks txHash) :=
  decidable_of_iff (BlockContainsTx blocks receipt.blockNumber txHash ∧
      1 ≤ receipt.confirmations ∧ receipt.blockNumber + receipt.confirmations ≤ blocks.length)
    ⟨fun h => ⟨h.1, h.2.1, h.2.2⟩, fun h => ⟨h.contains, h.confirmations_pos, h.counted_le⟩⟩

theorem On.append {blocks : List (List String)} {txHash : String} {receipt : TransactionReceipt}
    (h : receipt.On blocks txHash) (later : List (List String)) :
    receipt.On (blocks ++ later) txHash where
  contains := (blockContainsTx_append h.contains.lt_length later).mpr h.contains
  confirmations_pos := h.confirmations_pos
  counted_le := by
    have hcounted := h.counted_le
    rw [List.length_append]
    omega

end TransactionReceipt

namespace TransactionWait

/-- A receipt counts the block that the wait was told of last. -/
def CountedBy (this : TransactionWait) (receipt : TransactionReceipt) : Prop :=
  ∀ blockNumber ∈ this.latestBlock, blockNumber < receipt.blockNumber + receipt.confirmations

/-- What holds of the returned receipt, and of the block that a wait has passed over. -/
structure Sound (blocks : List (List String)) (this : TransactionWait) : Prop where
  returned : ∀ receipt, this.progress = .returned receipt →
    receipt.On blocks this.txHash ∧ this.confirmations.all (· ≤ receipt.confirmations) ∧
      this.CountedBy receipt
  passed : this.progress = .awaitingBlock → ∀ blockNumber ∈ this.latestBlock,
    (blockNumber < blocks.length ∧ ¬ BlockContainsTx blocks blockNumber this.txHash) ∨
      ∃ receipt : TransactionReceipt, receipt.On blocks this.txHash ∧ this.CountedBy receipt ∧
        ¬ this.confirmations.all (· ≤ receipt.confirmations)

theorem Sound.append {blocks : List (List String)} {this : TransactionWait}
    (h : this.Sound blocks) (later : List (List String)) : this.Sound (blocks ++ later) := by
  constructor
  · intro receipt hreturned
    obtain ⟨hon, hrest⟩ := h.returned receipt hreturned
    exact ⟨hon.append later, hrest⟩
  · intro hawaiting blockNumber htold
    rcases h.passed hawaiting blockNumber htold with ⟨hmined, hlacks⟩ | ⟨receipt, hon, hrest⟩
    · refine .inl ⟨?_, ?_⟩
      · rw [List.length_append]
        omega
      · rwa [blockContainsTx_append hmined]
    · exact .inr ⟨receipt, hon.append later, hrest⟩

/-- There is nothing to show of a wait for an answer or the end of a delay. -/
theorem sound_of_pending {blocks : List (List String)} {this : TransactionWait}
    (hawaiting : this.progress ≠ .awaitingBlock)
    (hreturned : ∀ receipt, this.progress ≠ .returned receipt) : this.Sound blocks where
  returned receipt h := absurd h (hreturned receipt)
  passed h := absurd h hawaiting

theorem trust_some_sound {blocks : List (List String)} {this : TransactionWait}
    {receipt : TransactionReceipt} (hon : receipt.On blocks this.txHash)
    (hcounted : this.CountedBy receipt) : (this.trust (some receipt)).Sound blocks := by
  rw [trust]
  split
  case isTrue henough =>
      constructor
      · rintro _ ⟨⟩
        exact ⟨hon, henough, hcounted⟩
      · intro hawaiting
        cases hawaiting
  case isFalse hfew =>
      constructor
      · intro _ hreturned
        cases hreturned
      · intro _ blockNumber _
        exact .inr ⟨receipt, hon, hcounted, hfew⟩

theorem trust_none_sound {blocks : List (List String)} {this : TransactionWait}
    (hlacks : ∀ blockNumber ∈ this.latestBlock,
      blockNumber < blocks.length ∧ ¬ BlockContainsTx blocks blockNumber this.txHash) :
    (this.trust none).Sound blocks := by
  constructor
  · intro _ hreturned
    cases hreturned
  · intro _ blockNumber htold
    exact .inl (hlacks blockNumber htold)

theorem Sound.receiveReceipt {blocks : List (List String)} {this : TransactionWait}
    (h : this.Sound blocks) {receipt : Option TransactionReceipt}
    (hon : ∀ answer ∈ receipt, answer.On blocks this.txHash) :
    (this.receiveReceipt receipt).Sound blocks := by
  fun_cases TransactionWait.receiveReceipt this receipt with
  | case1 _ hnone _ =>
      -- Before the first block, every answer is trusted.
      cases receipt with
      | none => exact trust_none_sound fun _ htold => by simp [hnone] at htold
      | some answer =>
          exact trust_some_sound (hon answer rfl) fun _ htold => by simp [hnone] at htold
  | case2 latestBlock hlatest _ answer hcounts =>
      apply trust_some_sound (hon answer rfl)
      intro blockNumber htold
      rw [hlatest] at htold
      cases htold
      omega
  | case3 => exact sound_of_pending (by simp) (by simp)
  | case4 => exact sound_of_pending (by simp) (by simp)
  | case5 => exact h

theorem Sound.receiveBlock {blocks : List (List String)} {this : TransactionWait}
    (h : this.Sound blocks) {block : Option (List String)}
    (hblock : ∀ transactions ∈ block, ∀ blockNumber ∈ this.latestBlock,
      blocks[blockNumber]? = some transactions) :
    (this.receiveBlock block).Sound blocks := by
  fun_cases TransactionWait.receiveBlock this block with
  | case1 => exact sound_of_pending (by simp) (by simp)
  | case2 transactions _ hlacks =>
      apply trust_none_sound
      intro blockNumber htold
      have hanswer := hblock transactions rfl blockNumber htold
      refine ⟨(List.getElem?_eq_some_iff.mp hanswer).1, ?_⟩
      rintro ⟨found, hfound, hmem⟩
      rw [hanswer] at hfound
      cases hfound
      apply hlacks
      rw [List.any_eq_true]
      exact ⟨this.txHash, hmem, beq_self_eq_true _⟩
  | case3 => exact sound_of_pending (by simp) (by simp)
  | case4 => exact h

theorem Sound.elapse {blocks : List (List String)} {this : TransactionWait}
    (h : this.Sound blocks) : this.elapse.Sound blocks := by
  fun_cases TransactionWait.elapse this with
  | case1 => exact sound_of_pending (by simp) (by simp)
  | case2 => exact sound_of_pending (by simp) (by simp)
  | case3 => exact h

theorem Sound.onBlock {blocks : List (List String)} {this : TransactionWait}
    (h : this.Sound blocks) (blockNumber : Nat) : (this.onBlock blockNumber).Sound blocks := by
  fun_cases TransactionWait.onBlock this blockNumber with
  | case1 => exact sound_of_pending (by simp) (by simp)
  | case2 => exact h

theorem Sound.reject {blocks : List (List String)} {this : TransactionWait}
    (h : this.Sound blocks) (reason : String) : (this.reject reason).Sound blocks := by
  fun_cases TransactionWait.reject this reason with
  | case1 => exact sound_of_pending (by simp) (by simp)
  | case2 => exact sound_of_pending (by simp) (by simp)
  | case3 => exact h

theorem receiveReceipt_eq_self {this : TransactionWait} (h : this.progress ≠ .askingReceipt)
    (receipt : Option TransactionReceipt) : this.receiveReceipt receipt = this := by
  fun_cases receiveReceipt this receipt <;> first | contradiction | rfl

theorem receiveBlock_eq_self {this : TransactionWait} (h : this.progress ≠ .askingBlock)
    (block : Option (List String)) : this.receiveBlock block = this := by
  fun_cases receiveBlock this block <;> first | contradiction | rfl

theorem onBlock_eq_self {this : TransactionWait} (h : this.progress ≠ .awaitingBlock)
    (blockNumber : Nat) : this.onBlock blockNumber = this := by
  fun_cases onBlock this blockNumber <;> first | contradiction | rfl

/-- What is waited for. -/
def request (this : TransactionWait) : String × Option Nat := (this.txHash, this.confirmations)

theorem trust_request (this : TransactionWait) (receipt : Option TransactionReceipt) :
    (this.trust receipt).request = this.request := by
  fun_cases trust this receipt <;> rfl

theorem receiveReceipt_request (this : TransactionWait) (receipt : Option TransactionReceipt) :
    (this.receiveReceipt receipt).request = this.request := by
  fun_cases receiveReceipt this receipt <;> first | rfl | exact this.trust_request _

theorem receiveBlock_request (this : TransactionWait) (block : Option (List String)) :
    (this.receiveBlock block).request = this.request := by
  fun_cases receiveBlock this block <;> rfl

theorem elapse_request (this : TransactionWait) : this.elapse.request = this.request := by
  fun_cases elapse this <;> rfl

theorem onBlock_request (this : TransactionWait) (blockNumber : Nat) :
    (this.onBlock blockNumber).request = this.request := by
  fun_cases onBlock this blockNumber <;> rfl

theorem reject_request (this : TransactionWait) (reason : String) :
    (this.reject reason).request = this.request := by
  fun_cases reject this reason <;> rfl

end TransactionWait

namespace ChainWait

/-- What backends answer is of the chain, however many blocks they know of it: a receipt is of a
block that holds the transaction and counts blocks that there are, and a block is the one that was
asked for. -/
def AnswersFromChain (this : ChainWait) : ChainWaitEvent → Prop
  | .receipt answer => ∀ receipt ∈ answer, receipt.On this.blocks this.wait.txHash
  | .block answer => ∀ transactions ∈ answer, ∀ blockNumber ∈ this.wait.latestBlock,
      this.blocks[blockNumber]? = some transactions
  | _ => True

instance (this : ChainWait) : DecidablePred this.AnswersFromChain
  | .receipt _ => inferInstanceAs (Decidable (∀ _ ∈ _, _))
  | .block _ => inferInstanceAs (Decidable (∀ _ ∈ _, ∀ _ ∈ _, _))
  | .mine _ => .isTrue trivial
  | .announce _ => .isTrue trivial
  | .elapse => .isTrue trivial
  | .reject _ => .isTrue trivial

theorem step_sound {this : ChainWait} (h : this.wait.Sound this.blocks)
    {event : ChainWaitEvent} (hanswers : this.AnswersFromChain event) :
    (this.step event).wait.Sound (this.step event).blocks := by
  cases event with
  | mine transactions => exact h.append [transactions]
  | announce blockNumber => exact h.onBlock blockNumber
  | receipt answer => exact h.receiveReceipt hanswers
  | block answer => exact h.receiveBlock hanswers
  | elapse => exact h.elapse
  | reject reason => exact h.reject reason

theorem run_sound (blocks : List (List String)) (txHash : String) (confirmations : Option Nat)
    {events : List ChainWaitEvent}
    (hanswers : EventRun.Meets step AnswersFromChain (start blocks txHash confirmations) events) :
    let this := EventRun.run step (start blocks txHash confirmations) events
    this.wait.Sound this.blocks := by
  have hstart : (TransactionWait.start txHash confirmations).Sound blocks :=
    TransactionWait.sound_of_pending (by simp [TransactionWait.start])
      (by simp [TransactionWait.start])
  have hstep (this : ChainWait) (event : ChainWaitEvent) (h : this.wait.Sound this.blocks)
      (hanswer : this.AnswersFromChain event) :
      (this.step event).wait.Sound (this.step event).blocks := step_sound h hanswer
  exact EventRun.run_invariant_of_meets step hstep hstart hanswers

theorem step_request (this : ChainWait) (event : ChainWaitEvent) :
    (this.step event).wait.request = this.wait.request := by
  cases event with
  | mine => rfl
  | announce => exact this.wait.onBlock_request _
  | receipt => exact this.wait.receiveReceipt_request _
  | block => exact this.wait.receiveBlock_request _
  | elapse => exact this.wait.elapse_request
  | reject => exact this.wait.reject_request _

theorem run_request (this : ChainWait) (events : List ChainWaitEvent) :
    (EventRun.run step this events).wait.request = this.wait.request := by
  have hstep (later : ChainWait) (event : ChainWaitEvent)
      (h : later.wait.request = this.wait.request) :
      (later.step event).wait.request = this.wait.request :=
    (later.step_request event).trans h
  exact EventRun.run_invariant step hstep rfl events

/-- What is waited for from the start. -/
theorem run_start (blocks : List (List String)) (txHash : String) (confirmations : Option Nat)
    (events : List ChainWaitEvent) :
    let this := EventRun.run step (start blocks txHash confirmations) events
    this.wait.txHash = txHash ∧ this.wait.confirmations = confirmations :=
  Prod.ext_iff.mp (run_request (start blocks txHash confirmations) events)

/-- However backends lag behind, the returned receipt is of a block of the chain that holds the
transaction, it has the required confirmations and not more than the chain, and it counts the
block that the wait was told of last. -/
theorem returned_run (blocks : List (List String)) (txHash : String) (confirmations : Option Nat)
    (events : List ChainWaitEvent)
    (hanswers : EventRun.Meets step AnswersFromChain (start blocks txHash confirmations) events)
    (receipt : TransactionReceipt)
    (hreturned : (EventRun.run step (start blocks txHash confirmations) events).wait.progress =
      .returned receipt) :
    let this := EventRun.run step (start blocks txHash confirmations) events
    BlockContainsTx this.blocks receipt.blockNumber txHash ∧
      (∀ required ∈ confirmations, required ≤ receipt.confirmations) ∧
      receipt.blockNumber + receipt.confirmations ≤ this.blocks.length ∧
      ∀ told ∈ this.wait.latestBlock, told < receipt.blockNumber + receipt.confirmations := by
  intro this
  have h : this.wait.Sound this.blocks := run_sound blocks txHash confirmations hanswers
  have hsame : this.wait.txHash = txHash ∧ this.wait.confirmations = confirmations :=
    run_start blocks txHash confirmations events
  obtain ⟨hon, henough, hcounted⟩ := h.returned receipt hreturned
  rw [hsame.1] at hon
  rw [hsame.2] at henough
  refine ⟨hon.contains, ?_, hon.counted_le, hcounted⟩
  rintro required ⟨⟩
  exact of_decide_eq_true henough

/-- The transaction is in the second block, and the backend that is asked first lags behind. -/
theorem returned_run_lagging :
    let events : List ChainWaitEvent := [.receipt none, .mine ["0x01"], .announce 1,
      .receipt none, .elapse, .block (some ["0x01"]), .elapse, .receipt (some ⟨1, 1⟩)]
    let this := EventRun.run step (start [[]] "0x01" (some 1)) events
    BlockContainsTx this.blocks 1 "0x01" ∧ (∀ required ∈ some 1, required ≤ 1) ∧
      1 + 1 ≤ this.blocks.length ∧ ∀ told ∈ this.wait.latestBlock, told < 1 + 1 :=
  returned_run [[]] "0x01" (some 1) _ (by decide) ⟨1, 1⟩ (by decide)

/-- A wait passes over a block that it was told of only if the block does not hold the
transaction, or for want of confirmations. -/
theorem awaiting_run (blocks : List (List String)) (txHash : String) (confirmations : Option Nat)
    (events : List ChainWaitEvent)
    (hanswers : EventRun.Meets step AnswersFromChain (start blocks txHash confirmations) events)
    (told : Nat)
    (hawaiting : (EventRun.run step (start blocks txHash confirmations) events).wait.progress =
      .awaitingBlock)
    (htold : (EventRun.run step (start blocks txHash confirmations) events).wait.latestBlock =
      some told) :
    let this := EventRun.run step (start blocks txHash confirmations) events
    (told < this.blocks.length ∧ ¬ BlockContainsTx this.blocks told txHash) ∨
      ∃ receipt : TransactionReceipt, ∃ required ∈ confirmations,
        BlockContainsTx this.blocks receipt.blockNumber txHash ∧ 1 ≤ receipt.confirmations ∧
          told < receipt.blockNumber + receipt.confirmations ∧
          receipt.confirmations < required := by
  intro this
  have h : this.wait.Sound this.blocks := run_sound blocks txHash confirmations hanswers
  have hsame : this.wait.txHash = txHash ∧ this.wait.confirmations = confirmations :=
    run_start blocks txHash confirmations events
  rcases h.passed hawaiting told htold with ⟨hmined, hlacks⟩ | ⟨receipt, hon, hcounted, hfew⟩
  · rw [hsame.1] at hlacks
    exact .inl ⟨hmined, hlacks⟩
  · rw [hsame.1] at hon
    rw [hsame.2] at hfew
    cases confirmations with
    | none => exact absurd rfl hfew
    | some required =>
        have hless : receipt.confirmations < required := by
          rw [Option.all_some, decide_eq_true_iff] at hfew
          exact Nat.lt_of_not_le hfew
        exact .inr ⟨receipt, required, rfl, hon.contains, hon.confirmations_pos,
          hcounted told htold, hless⟩

/-- The block that is announced first holds no transactions. -/
theorem awaiting_run_empty :
    let events : List ChainWaitEvent := [.receipt none, .mine [], .announce 1,
      .receipt none, .elapse, .block (some [])]
    let this := EventRun.run step (start [[]] "0x01" (some 1)) events
    (1 < this.blocks.length ∧ ¬ BlockContainsTx this.blocks 1 "0x01") ∨
      ∃ receipt : TransactionReceipt, ∃ required ∈ some 1,
        BlockContainsTx this.blocks receipt.blockNumber "0x01" ∧ 1 ≤ receipt.confirmations ∧
          1 < receipt.blockNumber + receipt.confirmations ∧ receipt.confirmations < required :=
  awaiting_run [[]] "0x01" (some 1) _ (by decide) 1 (by decide) (by decide)

/-- The backends that answer know a block, and nothing fails: if the transaction is in this block
or before it, a receipt of it counts the block. -/
def CaughtUp (told : Nat) (this : ChainWait) : ChainWaitEvent → Prop
  | .receipt answer => ∀ blockNumber ≤ told,
      BlockContainsTx this.blocks blockNumber this.wait.txHash →
        ∃ receipt ∈ answer, receipt.blockNumber ≤ blockNumber ∧
          told < receipt.blockNumber + receipt.confirmations
  | .block answer => answer = this.blocks[told]?
  | .reject _ => False
  | _ => True

instance (told : Nat) (this : ChainWait) : DecidablePred (CaughtUp told this)
  | .receipt _ => inferInstanceAs (Decidable (∀ _ ≤ told, _ → ∃ _ ∈ _, _))
  | .block answer => inferInstanceAs (Decidable (answer = this.blocks[told]?))
  | .reject _ => .isFalse id
  | .mine _ => .isTrue trivial
  | .announce _ => .isTrue trivial
  | .elapse => .isTrue trivial

/-- How far a wait can be that was told of a block while the transaction is in a block before it,
or in this very block: only then the wait may have met a backend that lags behind. -/
def Pending (blockNumber told : Nat) (progress : WaitProgress) : Prop :=
  progress = .askingReceipt ∨ (∃ receipt, progress = .returned receipt) ∨
    blockNumber = told ∧
      (progress = .delayingBlock ∨ progress = .askingBlock ∨ progress = .delayingReceipt)

theorem Pending.ne_awaitingBlock {blockNumber told : Nat} {progress : WaitProgress}
    (h : Pending blockNumber told progress) : progress ≠ .awaitingBlock := by
  rcases h with rfl | ⟨_, rfl⟩ | ⟨_, rfl | rfl | rfl⟩ <;> simp

theorem Pending.eq_told {blockNumber told : Nat} {progress : WaitProgress}
    (h : Pending blockNumber told progress) (hasking : progress ≠ .askingReceipt)
    (hreturned : ∀ receipt, progress ≠ .returned receipt) : blockNumber = told := by
  rcases h with hp | ⟨receipt, hp⟩ | ⟨heq, _⟩
  · exact absurd hp hasking
  · exact absurd hp (hreturned receipt)
  · exact heq

/-- The wait was told of a block, and the transaction is in a block early enough. -/
structure Told (blockNumber told : Nat) (this : ChainWait) : Prop where
  latest : this.wait.latestBlock = some told
  contains : BlockContainsTx this.blocks blockNumber this.wait.txHash
  le : blockNumber ≤ told
  enough : ∀ required ∈ this.wait.confirmations, blockNumber + required ≤ told + 1
  pending : Pending blockNumber told this.wait.progress

end ChainWait

/-- The answers that a wait still awaits which was told of the block of its transaction. -/
def WaitProgress.answersLeft : WaitProgress → Nat
  | .delayingBlock => 4
  | .askingBlock => 3
  | .delayingReceipt => 2
  | .askingReceipt => 1
  | _ => 0

theorem WaitProgress.answersLeft_eq_one {progress : WaitProgress} :
    progress.answersLeft = 1 ↔ progress = .askingReceipt := by
  cases progress <;> simp [answersLeft]

theorem WaitProgress.answersLeft_eq_three {progress : WaitProgress} :
    progress.answersLeft = 3 ↔ progress = .askingBlock := by
  cases progress <;> simp [answersLeft]

/-- An event is the answer after which so many are left. -/
def ChainWaitEvent.Answers (left : Nat) : ChainWaitEvent → Prop
  | .receipt _ => left = 0
  | .block _ => left = 2
  | .elapse => left = 1 ∨ left = 3
  | _ => False

namespace ChainWait

/-- A step keeps what the wait was told, and each answer is one less. -/
structure Advances (blockNumber told : Nat) (event : ChainWaitEvent) (this next : ChainWait) :
    Prop where
  told : Told blockNumber told next
  le : next.wait.progress.answersLeft ≤ this.wait.progress.answersLeft
  lowers : ∀ left, event.Answers left → this.wait.progress.answersLeft ≤ left + 1 →
    next.wait.progress.answersLeft ≤ left

/-- An event that is not the awaited answer changes nothing. -/
theorem Told.advances_same {blockNumber told : Nat} {this : ChainWait}
    (h : Told blockNumber told this) {event : ChainWaitEvent}
    (hnot : ∀ left, event.Answers left → this.wait.progress.answersLeft ≠ left + 1) :
    Advances blockNumber told event this this := by
  refine ⟨h, Nat.le_refl _, ?_⟩
  intro left hanswers hle
  have hne := hnot left hanswers
  omega

theorem Told.advances_progress {blockNumber told : Nat} {this : ChainWait}
    (h : Told blockNumber told this) (event : ChainWaitEvent) {progress : WaitProgress}
    (hpending : Pending blockNumber told progress)
    (hless : this.wait.progress.answersLeft = progress.answersLeft + 1) :
    Advances blockNumber told event this
      { this with wait := { this.wait with progress := progress } } := by
  refine ⟨{ h with pending := hpending }, ?_, ?_⟩
  · dsimp only
    omega
  · intro left hanswers hle
    dsimp only
    omega

/-- The receipt of a backend that has caught up ends the wait. -/
theorem Told.receiveReceipt {blockNumber told : Nat} {this : ChainWait}
    (h : Told blockNumber told this) {answer : Option TransactionReceipt}
    (hcaughtUp : CaughtUp told this (.receipt answer))
    (hasking : this.wait.progress = .askingReceipt) :
    ∃ receipt, this.step (.receipt answer) =
      { this with wait := { this.wait with progress := .returned receipt } } := by
  obtain ⟨receipt, hreceipt, hearly, hcounted⟩ := hcaughtUp blockNumber h.le h.contains
  cases hreceipt
  have hcounts : (told : Int) ≤ receipt.blockNumber + receipt.confirmations - 1 := by omega
  have henough : this.wait.confirmations.all (· ≤ receipt.confirmations) := by
    rw [Option.all_eq_true]
    intro required hrequired
    have hreached : blockNumber + required ≤ told + 1 := h.enough required hrequired
    rw [decide_eq_true_iff]
    omega
  refine ⟨receipt, ?_⟩
  simp only [step, TransactionWait.receiveReceipt, hasking, h.latest]
  rw [if_pos hcounts, TransactionWait.trust, if_pos henough, h.latest]

/-- The block of a backend that has caught up holds the transaction. -/
theorem Told.receiveBlock {told : Nat} {this : ChainWait} (h : Told told told this)
    {answer : Option (List String)} (hcaughtUp : CaughtUp told this (.block answer))
    (hasking : this.wait.progress = .askingBlock) :
    this.step (.block answer) =
      { this with wait := { this.wait with progress := .delayingReceipt } } := by
  obtain ⟨transactions, hblock, hmem⟩ := h.contains
  obtain rfl : answer = some transactions := hcaughtUp.trans hblock
  have hany : transactions.any (· == this.wait.txHash) := by
    rw [List.any_eq_true]
    exact ⟨this.wait.txHash, hmem, beq_self_eq_true _⟩
  simp only [step, TransactionWait.receiveBlock, hasking]
  rw [if_pos hany]

theorem Told.mine {blockNumber told : Nat} {this : ChainWait} (h : Told blockNumber told this)
    (transactions : List String) : Told blockNumber told (this.step (.mine transactions)) where
  latest := h.latest
  contains := (blockContainsTx_append h.contains.lt_length [transactions]).mpr h.contains
  le := h.le
  enough := h.enough
  pending := h.pending

/-- Once told of a block, the wait does not go back to wait for another one. -/
theorem Told.advances {blockNumber told : Nat} {this : ChainWait}
    (h : Told blockNumber told this) {event : ChainWaitEvent}
    (hcaughtUp : CaughtUp told this event) :
    Advances blockNumber told event this (this.step event) := by
  cases event with
  | mine transactions =>
      exact ⟨h.mine transactions, Nat.le_refl _, fun _ hanswers => hanswers.elim⟩
  | announce next =>
      rw [step, TransactionWait.onBlock_eq_self h.pending.ne_awaitingBlock]
      exact h.advances_same fun _ hanswers => hanswers.elim
  | receipt answer =>
      by_cases hasking : this.wait.progress = .askingReceipt
      · obtain ⟨receipt, hreturned⟩ := h.receiveReceipt hcaughtUp hasking
        rw [hreturned]
        exact h.advances_progress _ (.inr (.inl ⟨receipt, rfl⟩)) (by rw [hasking]; rfl)
      · rw [step, TransactionWait.receiveReceipt_eq_self hasking]
        apply h.advances_same
        rintro _ rfl
        rwa [Ne, WaitProgress.answersLeft_eq_one]
  | block answer =>
      by_cases hasking : this.wait.progress = .askingBlock
      · obtain rfl : blockNumber = told :=
          h.pending.eq_told (by simp [hasking]) (by simp [hasking])
        rw [h.receiveBlock hcaughtUp hasking]
        exact h.advances_progress _ (.inr (.inr ⟨rfl, .inr (.inr rfl)⟩)) (by rw [hasking]; rfl)
      · rw [step, TransactionWait.receiveBlock_eq_self hasking]
        apply h.advances_same
        rintro _ rfl
        rwa [Ne, WaitProgress.answersLeft_eq_three]
  | elapse =>
      rw [step]
      fun_cases TransactionWait.elapse this.wait with
      | case1 hdelaying =>
          obtain rfl : blockNumber = told :=
            h.pending.eq_told (by simp [hdelaying]) (by simp [hdelaying])
          exact h.advances_progress _ (.inr (.inr ⟨rfl, .inr (.inl rfl)⟩))
            (by rw [hdelaying]; rfl)
      | case2 hdelaying =>
          exact h.advances_progress _ (.inl rfl) (by rw [hdelaying]; rfl)
      | case3 hblock hreceipt =>
          apply h.advances_same
          intro left hanswers
          cases hp : this.wait.progress with
          | delayingBlock => exact absurd hp hblock
          | delayingReceipt => exact absurd hp hreceipt
          | _ => rcases hanswers with rfl | rfl <;> simp [WaitProgress.answersLeft]
  | reject => exact hcaughtUp.elim

/-- Once a backend has answered that has caught up, the wait returns. A wait that lagging backends
sent to look at the block itself needs its transactions first, and a delay before each request. -/
theorem Told.run {blockNumber told : Nat} {this : ChainWait} (h : Told blockNumber told this)
    {events answers : List ChainWaitEvent}
    (hcaughtUp : EventRun.Meets ChainWait.step (CaughtUp told) this events)
    (hanswers : EventRun.Descends (fun left event => event.Answers left) answers)
    (hsublist : answers.Sublist events)
    (hleft : this.wait.progress.answersLeft ≤ answers.length) :
    ∃ receipt, (EventRun.run ChainWait.step this events).wait.progress = .returned receipt := by
  have hkeep (this : ChainWait) (event : ChainWaitEvent) (htold : Told blockNumber told this)
      (hevent : CaughtUp told this event) : Told blockNumber told (this.step event) :=
    (htold.advances hevent).told
  have hend : Told blockNumber told (EventRun.run ChainWait.step this events) :=
    EventRun.run_invariant_of_meets ChainWait.step hkeep h hcaughtUp
  have hzero : (EventRun.run ChainWait.step this events).wait.progress.answersLeft = 0 :=
    EventRun.run_rank_eq_zero ChainWait.step hkeep
      (fun _ _ htold hevent => (htold.advances hevent).le)
      (fun _ _ left htold hevent => (htold.advances hevent).lowers left)
      h hsublist hanswers hcaughtUp hleft
  rcases hend.pending with hp | hreturned | ⟨_, hp | hp | hp⟩
  · simp [hp, WaitProgress.answersLeft] at hzero
  · exact hreturned
  all_goals simp [hp, WaitProgress.answersLeft] at hzero

/-- A wait that was told of a block with enough confirmations returns with the first receipt that
it is answered, if the backends know this block. -/
theorem receipt_run {this : ChainWait} (blockNumber told : Nat)
    (hlatest : this.wait.latestBlock = some told)
    (hcontains : BlockContainsTx this.blocks blockNumber this.wait.txHash)
    (hle : blockNumber ≤ told)
    (henough : ∀ required ∈ this.wait.confirmations, blockNumber + required ≤ told + 1)
    (hasking : this.wait.progress = .askingReceipt) {later : List ChainWaitEvent}
    (hcaughtUp : EventRun.Meets step (CaughtUp told) this later)
    {answer : Option TransactionReceipt} (hanswer : .receipt answer ∈ later) :
    ∃ receipt, (EventRun.run step this later).wait.progress = .returned receipt := by
  have h : Told blockNumber told this :=
    ⟨hlatest, hcontains, hle, henough, .inl hasking⟩
  apply h.run hcaughtUp _ (List.singleton_sublist.mpr hanswer)
  · rw [hasking]
    exact Nat.le_refl _
  · exact ⟨rfl, trivial⟩

/-- The second block is the second confirmation. -/
theorem receipt_run_second :
    let this := EventRun.run step (start [["0x01"]] "0x01" (some 2))
      [.receipt (some ⟨0, 1⟩), .mine [], .announce 1]
    ∃ receipt, (EventRun.run step this [.elapse, .receipt (some ⟨0, 2⟩)]).wait.progress =
      .returned receipt :=
  receipt_run 0 1 (by decide) ⟨["0x01"], by decide, by decide⟩
    (Nat.zero_le 1) (by rintro required ⟨⟩; decide) (by decide) (by decide)
    (List.mem_cons_of_mem _ List.mem_cons_self)

/-- A wait that was told of the block of its transaction does not miss it, whatever lagging
backends have answered since: it returns once it has looked at the block and asked for the receipt
again, if the backends have caught up by then. -/
theorem retried_run {this : ChainWait} (told : Nat)
    (hlatest : this.wait.latestBlock = some told)
    (hcontains : BlockContainsTx this.blocks told this.wait.txHash)
    (henough : ∀ required ∈ this.wait.confirmations, required ≤ 1)
    (hawaiting : this.wait.progress ≠ .awaitingBlock)
    (hrejected : ∀ reason, this.wait.progress ≠ .rejected reason) {later : List ChainWaitEvent}
    (hcaughtUp : EventRun.Meets step (CaughtUp told) this later)
    {block : Option (List String)} {receipt : Option TransactionReceipt}
    (hanswers : [.elapse, .block block, .elapse, .receipt receipt].Sublist later) :
    ∃ receipt, (EventRun.run step this later).wait.progress = .returned receipt := by
  have hpending : Pending told told this.wait.progress := by
    cases hp : this.wait.progress with
    | askingReceipt => exact .inl rfl
    | returned receipt => exact .inr (.inl ⟨receipt, rfl⟩)
    | delayingBlock => exact .inr (.inr ⟨rfl, .inl rfl⟩)
    | askingBlock => exact .inr (.inr ⟨rfl, .inr (.inl rfl)⟩)
    | delayingReceipt => exact .inr (.inr ⟨rfl, .inr (.inr rfl)⟩)
    | awaitingBlock => exact absurd hp hawaiting
    | rejected reason => exact absurd hp (hrejected reason)
  have h : Told told told this := by
    refine ⟨hlatest, hcontains, Nat.le_refl _, ?_, hpending⟩
    intro required hrequired
    exact Nat.add_le_add_left (henough required hrequired) told
  apply h.run hcaughtUp _ hanswers
  · cases this.wait.progress <;> simp [WaitProgress.answersLeft]
  · exact ⟨.inr rfl, rfl, .inl rfl, rfl, trivial⟩

/-- The backend that is asked first lags behind. -/
theorem retried_run_lagging :
    let this := EventRun.run step (start [[]] "0x01" (some 1))
      [.receipt none, .mine ["0x01"], .announce 1, .receipt none]
    ∃ receipt, (EventRun.run step this [.elapse, .block (some ["0x01"]), .mine [], .elapse,
      .receipt (some ⟨1, 2⟩)]).wait.progress = .returned receipt :=
  retried_run 1 (by decide) ⟨["0x01"], by decide, by decide⟩
    (by rintro required ⟨⟩; decide) (by decide) (by intro reason h; cases h) (by decide)
    (.cons_cons _ (.cons_cons _ (.cons _ (List.Sublist.refl _))))

end ChainWait

end HLiquity
