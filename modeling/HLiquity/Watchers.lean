import HLiquity.Library.EffectSlot
import HLiquity.Library.EventRun
import HLiquity.ReadableEthersLiquity

/-!
# Watching the chain

A watcher listens to the logs of some contracts and reads a value anew after them. A timer of
50 milliseconds brings the logs of one transaction together: every log clears it and sets it
again, and when it fires, the value is read at the latest block of all logs so far.
-/

namespace HLiquity

variable {constants : Constants} {α : Type}

/-- A log, with what the filters and the listeners compare of it. -/
inductive ContractLog where
  | etherSent (toAddress : String)
  | troveUpdatedByTroveManager (borrower : String)
  | troveUpdatedByBorrowerOperations (borrower : String)
  | userDepositChanged (depositor : String)
  | transfer (sender recipient : String)
  deriving DecidableEq, Repr

/-- How often a log calls the debounced listener, and the value that is then read. -/
structure Watch (α : Type) where
  calls : ContractLog → Nat
  get : Nat → Result α

namespace ObservableEthersLiquity

variable (readable : ReadableEthersLiquity)

def atBlock (blockTag : Nat) : Option EthersCallOverrides := some ⟨some (.number blockTag)⟩

def watchTotalRedistributed (defaultPool : String) : Watch (Trove constants) where
  calls
    | .etherSent toAddress => if toAddress = defaultPool then 1 else 0
    | _ => 0
  get blockTag := readable.getTotalRedistributed (atBlock blockTag)

def watchTroveWithoutRewards (address : String) :
    Watch (TroveWithPendingRedistribution constants) where
  calls
    | .troveUpdatedByTroveManager borrower => if borrower = address then 1 else 0
    | .troveUpdatedByBorrowerOperations borrower => if borrower = address then 1 else 0
    | _ => 0
  get blockTag := readable.getTroveBeforeRedistribution (some address) (atBlock blockTag)

/-- The logs of two watchers. -/
def troveUpdates : ContractLog → Nat
  | .troveUpdatedByTroveManager _ => 1
  | _ => 0

def watchNumberOfTroves : Watch Nat where
  calls := troveUpdates
  get blockTag := readable.getNumberOfTroves (atBlock blockTag)

def watchTotal : Watch (Trove constants) where
  calls := troveUpdates
  get blockTag := readable.getTotal (atBlock blockTag)

def watchStabilityDeposit (stabilityPool address : String) : Watch StabilityDeposit where
  calls
    | .userDepositChanged depositor => if depositor = address then 1 else 0
    | .etherSent toAddress => if toAddress = stabilityPool then 1 else 0
    | _ => 0
  get blockTag := readable.getStabilityDeposit (some address) (atBlock blockTag)

/-- The transfers from and to an account. One from the account to itself passes both filters. -/
def transfersOf (account : String) : ContractLog → Nat
  | .transfer sender recipient =>
      (if sender = account then 1 else 0) + (if recipient = account then 1 else 0)
  | _ => 0

def watchHCHFInStabilityPool (stabilityPool : String) : Watch Decimal where
  calls := transfersOf stabilityPool
  get blockTag := readable.getHCHFInStabilityPool (atBlock blockTag)

def watchHCHFBalance (address : String) : Watch Decimal where
  calls := transfersOf address
  get blockTag := readable.getHCHFBalance (some address) (atBlock blockTag)

end ObservableEthersLiquity

structure DebounceTimer where
  cleared : Bool
  fired : Bool
  deriving DecidableEq, Repr

/-- A timer that will fire. -/
def DebounceTimer.live (timer : DebounceTimer) : Bool := !timer.cleared && !timer.fired

structure WatcherRead where
  blockTag : Nat
  completed : Bool
  deriving DecidableEq, Repr

/-- The variables of a debounced listener, its timers and reads, and the values that the
callback has been called with. -/
structure Watcher (α : Type) where
  latestBlock : Nat
  timers : EffectSlot.Slot DebounceTimer
  watching : Bool
  reads : List WatcherRead
  changes : List α
  deriving DecidableEq, Repr

/-- A log of some block, the firing of a timer, the end of a read, or a call of the function
that the watch has returned. -/
inductive WatcherEvent where
  | log (log : ContractLog) (blockNumber : Option Nat)
  | timer (number : Nat)
  | completed (number : Nat)
  | unwatch
  deriving DecidableEq, Repr

namespace Watcher

open EffectSlot

def initial : Watcher α := ⟨0, .empty, true, [], []⟩

/-- `clearTimeout(timeoutId)` -/
def clearTimeout (this : Watcher α) : Watcher α :=
  match this.timers.current with
  | none => this
  | some number =>
      match this.timers.instances[number]? with
      | none => this
      | some timer =>
          { this with timers := this.timers.cleanUp number { timer with cleared := true } }

/-- One call of the debounced listener. -/
def debounced (this : Watcher α) (blockNumber : Option Nat) : Watcher α :=
  let latestBlock :=
    match blockNumber with
    | some blockNumber =>
        if this.latestBlock < blockNumber then blockNumber else this.latestBlock
    | none => this.latestBlock
  let cleared := this.clearTimeout
  { cleared with latestBlock := latestBlock, timers := cleared.timers.start ⟨false, false⟩ }

/-- The listener of a timer that fires. -/
def fire (this : Watcher α) (number : Nat) : Watcher α :=
  match this.timers.instances[number]? with
  | none => this
  | some timer =>
      if timer.live then
        { this with
          reads := this.reads ++ [⟨this.latestBlock, false⟩]
          timers := this.timers.cleanUp number { timer with fired := true } }
      else this

variable (watch : Watch α)

/-- The end of a read, whose value is handed over unless it has failed. -/
def complete (this : Watcher α) (number : Nat) : Watcher α :=
  match this.reads[number]? with
  | some ⟨blockTag, false⟩ =>
      { this with
        reads := this.reads.set number ⟨blockTag, true⟩
        changes :=
          match watch.get blockTag with
          | .ok value => this.changes ++ [value]
          | .error _ => this.changes }
  | _ => this

def step (this : Watcher α) : WatcherEvent → Watcher α
  | .log log blockNumber =>
      if this.watching then
        (fun this => debounced this blockNumber)^[watch.calls log] this
      else
        this
  | .timer number => this.fire number
  | .completed number => this.complete watch number
  | .unwatch => { this with watching := false }

section Operations

variable (this : Watcher α)

/-- The blocks that have been read, in the order of the reads. -/
def tags : List Nat := this.reads.map WatcherRead.blockTag

theorem clearTimeout_eq : this.clearTimeout = { this with timers := this.clearTimeout.timers } := by
  unfold clearTimeout
  split
  · rfl
  · split
    · rfl
    · rfl

theorem debounced_eq (blockNumber : Option Nat) : this.debounced blockNumber =
    { this with
      latestBlock := max this.latestBlock (blockNumber.getD 0)
      timers := this.clearTimeout.timers.start ⟨false, false⟩ } := by
  have hlatest : (match blockNumber with
      | some blockNumber =>
          if this.latestBlock < blockNumber then blockNumber else this.latestBlock
      | none => this.latestBlock) = max this.latestBlock (blockNumber.getD 0) := by
    cases blockNumber with
    | none => exact (Nat.max_zero _).symm
    | some blockNumber =>
        dsimp only [Option.getD_some]
        split
        · next hlt => exact (max_eq_right_of_lt hlt).symm
        · next hle => exact (max_eq_left (Nat.le_of_not_lt hle)).symm
  unfold debounced
  dsimp only
  rw [hlatest, clearTimeout_eq]

theorem tags_read (timers : Slot DebounceTimer) :
    tags { this with reads := this.reads ++ [⟨this.latestBlock, false⟩], timers := timers } =
      this.tags ++ [this.latestBlock] := by
  simp [tags]

theorem fire_frame (number : Nat) :
    ∃ reads timers, this.fire number = { this with reads, timers } := by
  unfold fire
  split
  · exact ⟨_, _, rfl⟩
  · split
    · exact ⟨_, _, rfl⟩
    · exact ⟨_, _, rfl⟩

theorem complete_eq (number : Nat) : ∃ reads changes,
    this.complete watch number = { this with reads, changes } ∧
      reads.map WatcherRead.blockTag = this.tags := by
  unfold complete
  split
  · next blockTag hget =>
      refine ⟨_, _, rfl, ?_⟩
      obtain ⟨hlt, hread⟩ := List.getElem?_eq_some_iff.mp hget
      have hlength : number < (this.reads.map WatcherRead.blockTag).length := by simpa using hlt
      have htag : (this.reads.map WatcherRead.blockTag)[number] = blockTag := by simp [hread]
      rw [List.map_set, tags, ← htag, List.set_getElem_self]
  · exact ⟨_, _, rfl, rfl⟩

end Operations

/-- At most one timer will fire, and the reads are of ever later blocks. -/
structure Listens (this : Watcher α) : Prop where
  timers : this.timers.Good DebounceTimer.live
  pending : ∀ timer ∈ this.timers.running, timer.live = true
  sorted : this.tags.Pairwise (· ≤ ·)
  bounded : ∀ tag ∈ this.tags, tag ≤ this.latestBlock
  newest : this.timers.running = none → this.tags.getLast?.getD 0 = this.latestBlock

theorem listens_initial : (initial : Watcher α).Listens where
  timers := Slot.good_empty
  pending timer h := by cases h
  sorted := List.Pairwise.nil
  bounded tag h := by cases h
  newest _ := rfl

/-- A timer will fire. -/
def Pending (this : Watcher α) : Prop := ∃ timer ∈ this.timers.running, timer.live = true

/-- A block has been read since the first `count` reads, or a timer will fire that reads it. -/
def Heard (count blockNumber : Nat) (this : Watcher α) : Prop :=
  count ≤ this.tags.length ∧ (this.Pending ∧ blockNumber ≤ this.latestBlock ∨
    ∃ tag ∈ this.tags.drop count, blockNumber ≤ tag)

section Listens

variable {watch} {this : Watcher α}

theorem Listens.clearTimeout (h : this.Listens) :
    this.clearTimeout.timers.Good DebounceTimer.live ∧
      this.clearTimeout.timers.current = none := by
  unfold Watcher.clearTimeout
  cases hcurrent : this.timers.current with
  | none => exact ⟨h.timers, hcurrent⟩
  | some number =>
      obtain ⟨timer, hget, hrunning⟩ := h.timers.exists_running hcurrent
      simp only [hget]
      exact ⟨h.timers.cleanUp hcurrent rfl, rfl⟩

theorem Listens.debounced (h : this.Listens) (blockNumber : Option Nat) :
    (this.debounced blockNumber).Listens := by
  obtain ⟨hgood, hcurrent⟩ := h.clearTimeout
  rw [debounced_eq]
  constructor
  case timers => exact hgood.start hcurrent _
  case pending =>
    intro timer htimer
    rw [Slot.running_start, Option.mem_some_iff] at htimer
    rw [← htimer]
    rfl
  case sorted => exact h.sorted
  case bounded => exact fun tag htag => (h.bounded tag htag).trans (le_max_left _ _)
  case newest =>
    intro hnone
    rw [Slot.running_start] at hnone
    cases hnone

theorem Heard.debounced {count block : Nat} (h : this.Heard count block)
    (blockNumber : Option Nat) : (this.debounced blockNumber).Heard count block := by
  rw [debounced_eq]
  refine ⟨h.1, h.2.imp_left fun hpending => ⟨⟨_, Slot.running_start _ _, rfl⟩, ?_⟩⟩
  exact hpending.2.trans (le_max_left _ _)

/-- A timer that fires reads the latest block. -/
theorem Listens.fire_eq (h : this.Listens) (number : Nat) :
    this.fire number = this ∨ ∃ timer : DebounceTimer, this.timers.current = some number ∧
      this.fire number = { this with
        reads := this.reads ++ [⟨this.latestBlock, false⟩]
        timers := this.timers.cleanUp number { timer with fired := true } } := by
  unfold fire
  split
  · exact .inl rfl
  · next timer hget =>
      split
      · next hlive => exact .inr ⟨timer, h.timers.only number timer hget hlive, rfl⟩
      · exact .inl rfl

theorem Listens.fire (h : this.Listens) (number : Nat) : (this.fire number).Listens := by
  rcases h.fire_eq number with heq | ⟨timer, hcurrent, heq⟩
  · rw [heq]
    exact h
  · rw [heq]
    have htags := this.tags_read (this.timers.cleanUp number { timer with fired := true })
    constructor
    case timers => exact h.timers.cleanUp hcurrent (by simp [DebounceTimer.live])
    case pending => nofun
    case sorted =>
      rw [htags, List.pairwise_append]
      refine ⟨h.sorted, List.pairwise_singleton _ _, fun tag htag other hother => ?_⟩
      rw [List.mem_singleton.mp hother]
      exact h.bounded tag htag
    case bounded =>
      intro tag htag
      rw [htags, List.mem_append, List.mem_singleton] at htag
      rcases htag with hold | rfl
      · exact h.bounded tag hold
      · exact le_rfl
    case newest =>
      intro _
      rw [htags, List.getLast?_concat]
      rfl

theorem Heard.fire {count block : Nat} (h : this.Heard count block) (hlistens : this.Listens)
    (number : Nat) : (this.fire number).Heard count block := by
  rcases hlistens.fire_eq number with heq | ⟨timer, hcurrent, heq⟩
  · rw [heq]
    exact h
  · rw [heq]
    have htags := this.tags_read (this.timers.cleanUp number { timer with fired := true })
    obtain ⟨hcount, hheard⟩ := h
    refine ⟨?_, .inr ?_⟩
    · rw [htags, List.length_append]
      exact Nat.le_add_right_of_le hcount
    · rw [htags, List.drop_append_of_le_length hcount]
      rcases hheard with ⟨_, hlatest⟩ | ⟨tag, htag, hle⟩
      · exact ⟨this.latestBlock, by simp, hlatest⟩
      · exact ⟨tag, List.mem_append_left _ htag, hle⟩

theorem Listens.complete (h : this.Listens) (number : Nat) :
    (this.complete watch number).Listens := by
  obtain ⟨reads, changes, heq, htags⟩ := complete_eq watch this number
  rw [heq]
  exact {
    timers := h.timers
    pending := h.pending
    sorted := (congrArg (List.Pairwise (· ≤ ·)) htags).mpr h.sorted
    bounded := fun tag htag => h.bounded tag (htags ▸ htag)
    newest := fun hnone => (congrArg (·.getLast?.getD 0) htags).trans (h.newest hnone) }

theorem Heard.complete {count block : Nat} (h : this.Heard count block) (number : Nat) :
    (this.complete watch number).Heard count block := by
  obtain ⟨reads, changes, heq, htags⟩ := complete_eq watch this number
  rw [heq, Heard, tags, htags]
  exact h

theorem Listens.step (h : this.Listens) (event : WatcherEvent) :
    (this.step watch event).Listens := by
  cases event with
  | log log blockNumber =>
      rw [Watcher.step]
      split
      · exact Function.Iterate.rec Listens h (fun _ hlistens => hlistens.debounced blockNumber) _
      · exact h
  | timer number => exact h.fire number
  | completed number => exact h.complete number
  | unwatch => exact { h with }

theorem Heard.step {count block : Nat} (h : this.Heard count block) (hlistens : this.Listens)
    (event : WatcherEvent) : (this.step watch event).Heard count block := by
  cases event with
  | log log blockNumber =>
      rw [Watcher.step]
      split
      · exact Function.Iterate.rec (Heard count block) h
          (fun _ hheard => hheard.debounced blockNumber) _
      · exact h
  | timer number => exact h.fire hlistens number
  | completed number => exact h.complete number
  | unwatch => exact h

/-- A log that is listened to sets a timer. -/
theorem heard_log (hwatching : this.watching = true) {log : ContractLog}
    (hcalls : 0 < watch.calls log) (block : Nat) :
    (this.step watch (.log log (some block))).Heard this.tags.length block := by
  have hfirst : (this.debounced (some block)).Heard this.tags.length block := by
    rw [debounced_eq]
    exact ⟨le_rfl, .inl ⟨⟨_, Slot.running_start _ _, rfl⟩, le_max_right _ _⟩⟩
  obtain ⟨calls, hsucc⟩ := Nat.exists_eq_succ_of_ne_zero hcalls.ne'
  rw [Watcher.step, if_pos hwatching, hsucc, Function.iterate_succ_apply]
  exact Function.Iterate.rec (Heard this.tags.length block) hfirst
    (fun _ hheard => hheard.debounced (some block)) calls

/-- Only the function that the watch has returned ends it. -/
theorem step_watching (event : WatcherEvent) : (this.step watch event).watching =
    if event = .unwatch then false else this.watching := by
  cases event with
  | log log blockNumber =>
      rw [Watcher.step]
      split
      · refine Function.Iterate.rec (fun state => Watcher.watching state = this.watching) rfl
          (fun state hstate => ?_) _
        rw [debounced_eq]
        exact hstate
      · rfl
  | timer number =>
      obtain ⟨reads, timers, heq⟩ := this.fire_frame number
      rw [Watcher.step, heq]
      rfl
  | completed number =>
      obtain ⟨reads, changes, heq, _⟩ := complete_eq watch this number
      rw [Watcher.step, heq]
      rfl
  | unwatch => rfl

end Listens

variable {watch}

theorem listens_run (events : List WatcherEvent) :
    (EventRun.run (step watch) initial events).Listens :=
  EventRun.run_invariant _ (fun _ event h => h.step event) listens_initial events

/-- A run that has not been unwatched is watching. -/
theorem watching_run {events : List WatcherEvent} (h : WatcherEvent.unwatch ∉ events) :
    (EventRun.run (step watch) initial events).watching = true := by
  induction events using List.reverseRecOn with
  | nil => rfl
  | append_singleton events event ih =>
      rw [List.mem_append, List.mem_singleton, not_or] at h
      rw [EventRun.run_append, EventRun.run_cons, EventRun.run_nil, step_watching,
        if_neg (Ne.symm h.2), ih h.1]

variable (watch) in
/-- In every order of logs, timers and ends of reads, the blocks are read in their order, and
once no timer will fire, every log that has been listened to has been followed by a read at its
block or at a later one. -/
theorem heard_run (events : List WatcherEvent) :
    let this := EventRun.run (step watch) initial events
    this.tags.Pairwise (· ≤ ·) ∧
      ((∀ timer ∈ this.timers.instances, timer.live = false) →
        ∀ earlier log block later, events = earlier ++ .log log (some block) :: later →
          .unwatch ∉ earlier → 0 < watch.calls log →
          ∃ tag ∈ this.tags.drop (EventRun.run (step watch) initial earlier).tags.length,
            block ≤ tag) := by
  intro this
  refine ⟨(listens_run events).sorted, ?_⟩
  rintro hquiet earlier log block later rfl hunwatch hcalls
  set before : Watcher α := EventRun.run (step watch) initial earlier
  have hkeep (state : Watcher α) (event : WatcherEvent)
      (h : state.Listens ∧ state.Heard before.tags.length block) :
      (state.step watch event).Listens ∧
        (state.step watch event).Heard before.tags.length block :=
    ⟨h.1.step event, h.2.step h.1 event⟩
  have hlog : (before.step watch (.log log (some block))).Listens ∧
      (before.step watch (.log log (some block))).Heard before.tags.length block :=
    ⟨(listens_run earlier).step _, heard_log (watching_run hunwatch) hcalls block⟩
  have hrun : this = EventRun.run (step watch)
      (before.step watch (.log log (some block))) later := EventRun.run_append _ _ earlier _
  have hheard := EventRun.run_invariant _ hkeep hlog later
  rw [← hrun] at hheard
  obtain ⟨hlistens, _, ⟨hpending, _⟩ | hread⟩ := hheard
  · obtain ⟨timer, hrunning, hlive⟩ := hpending
    obtain ⟨number, _, hget⟩ := Option.bind_eq_some_iff.mp hrunning
    rw [hquiet timer (List.mem_of_getElem? hget)] at hlive
    cases hlive
  · exact hread

/-- The block of a log that is listened to. -/
def heardBlock (watch : Watch α) : WatcherEvent → Nat
  | .log log blockNumber => if 0 < watch.calls log then blockNumber.getD 0 else 0
  | _ => 0

/-- The latest block of the logs that are listened to. -/
def latestHeard (watch : Watch α) : List WatcherEvent → Nat
  | [] => 0
  | event :: events =>
      if event = .unwatch then 0 else max (heardBlock watch event) (latestHeard watch events)

theorem iterate_debounced_latestBlock (this : Watcher α) (blockNumber : Option Nat) (calls : Nat) :
    ((fun this => debounced this blockNumber)^[calls] this).latestBlock =
      if 0 < calls then max this.latestBlock (blockNumber.getD 0) else this.latestBlock := by
  induction calls with
  | zero => rfl
  | succ calls ih =>
      rw [Function.iterate_succ_apply', debounced_eq, ih, if_pos (Nat.succ_pos calls)]
      split
      · rw [max_assoc, max_self]
      · rfl

theorem step_latestBlock (this : Watcher α) (event : WatcherEvent) :
    (this.step watch event).latestBlock =
      if this.watching then max this.latestBlock (heardBlock watch event)
      else this.latestBlock := by
  have hzero : this.latestBlock =
      if this.watching then max this.latestBlock 0 else this.latestBlock := by
    rw [Nat.max_zero, ite_self]
  cases event with
  | log log blockNumber =>
      rw [Watcher.step, heardBlock]
      split
      · rw [iterate_debounced_latestBlock]
        split
        · rfl
        · exact (Nat.max_zero _).symm
      · rfl
  | timer number =>
      obtain ⟨reads, timers, heq⟩ := this.fire_frame number
      rw [Watcher.step, heq]
      exact hzero
  | completed number =>
      obtain ⟨reads, changes, heq, _⟩ := complete_eq watch this number
      rw [Watcher.step, heq]
      exact hzero
  | unwatch => exact hzero

/-- A run that is not watching hears nothing. -/
theorem latestBlock_of_not_watching {this : Watcher α} (h : this.watching = false)
    (events : List WatcherEvent) :
    (EventRun.run (step watch) this events).latestBlock = this.latestBlock := by
  have hkeep (state : Watcher α) (event : WatcherEvent)
      (hstate : state.watching = false ∧ state.latestBlock = this.latestBlock) :
      (state.step watch event).watching = false ∧
        (state.step watch event).latestBlock = this.latestBlock := by
    rw [step_watching, step_latestBlock, hstate.1]
    exact ⟨ite_self _, hstate.2⟩
  exact (EventRun.run_invariant _ hkeep ⟨h, rfl⟩ events).2

/-- The latest block is that of all logs that have been listened to. -/
theorem latestBlock_run {this : Watcher α} (h : this.watching = true)
    (events : List WatcherEvent) :
    (EventRun.run (step watch) this events).latestBlock =
      max this.latestBlock (latestHeard watch events) := by
  induction events generalizing this with
  | nil => exact (Nat.max_zero _).symm
  | cons event events ih =>
      rw [EventRun.run_cons, latestHeard]
      split
      · next hevent =>
          rw [hevent]
          exact (latestBlock_of_not_watching rfl events).trans (Nat.max_zero _).symm
      · next hevent =>
          rw [ih (by rw [step_watching, if_neg hevent, h]), step_latestBlock, if_pos h, max_assoc]

/-- Reads end in the order in which they have been made. -/
def InOrder (this : Watcher α) : WatcherEvent → Prop
  | .completed number => ∀ read ∈ this.reads.take number, read.completed = true
  | _ => True

instance (this : Watcher α) : (event : WatcherEvent) → Decidable (this.InOrder event)
  | .completed number =>
      inferInstanceAs (Decidable (∀ read ∈ this.reads.take number, read.completed = true))
  | .log _ _ => .isTrue trivial
  | .timer _ => .isTrue trivial
  | .unwatch => .isTrue trivial

/-- The value of a read, unless it fails. -/
def value (watch : Watch α) (read : WatcherRead) : Option α := (watch.get read.blockTag).toOption

/-- The reads that have ended are the first ones, and their values have been handed over. -/
def HandedOver (watch : Watch α) (this : Watcher α) : Prop :=
  ∃ ended going, this.reads = ended ++ going ∧ (∀ read ∈ ended, read.completed = true) ∧
    (∀ read ∈ going, read.completed = false) ∧ this.changes = ended.filterMap (value watch)

theorem HandedOver.fire {this : Watcher α} (h : HandedOver watch this) (number : Nat) :
    HandedOver watch (this.fire number) := by
  obtain ⟨ended, going, hreads, hended, hgoing, hchanges⟩ := h
  unfold Watcher.fire
  split
  · exact ⟨ended, going, hreads, hended, hgoing, hchanges⟩
  · split
    · refine ⟨ended, going ++ [⟨this.latestBlock, false⟩], ?_, hended, ?_, hchanges⟩
      · rw [← List.append_assoc, ← hreads]
      · intro read hread
        rw [List.mem_append, List.mem_singleton] at hread
        rcases hread with hold | rfl
        · exact hgoing read hold
        · rfl
    · exact ⟨ended, going, hreads, hended, hgoing, hchanges⟩

theorem HandedOver.complete {this : Watcher α} (h : HandedOver watch this) {number : Nat}
    (horder : this.InOrder (.completed number)) :
    HandedOver watch (this.complete watch number) := by
  obtain ⟨ended, going, hreads, hended, hgoing, hchanges⟩ := h
  unfold Watcher.complete
  split
  · next blockTag hget =>
      -- the read that ends is the first one that goes on
      have hle : ended.length ≤ number := by
        by_contra hlt
        rw [hreads, List.getElem?_append_left (Nat.lt_of_not_le hlt)] at hget
        have htrue := hended _ (List.mem_of_getElem? hget)
        cases htrue
      rw [hreads, List.getElem?_append_right hle] at hget
      cases going with
      | nil => cases hget
      | cons first rest =>
          have heq : number = ended.length := by
            by_contra hne
            have hmem : first ∈ this.reads.take number := by
              rw [hreads, List.take_append, List.mem_append]
              right
              obtain ⟨count, hcount⟩ : ∃ count, number - ended.length = count + 1 :=
                ⟨number - ended.length - 1, by omega⟩
              rw [hcount, List.take_succ_cons]
              exact List.mem_cons_self
            have htrue := horder first hmem
            rw [hgoing first List.mem_cons_self] at htrue
            cases htrue
          subst heq
          rw [Nat.sub_self, List.getElem?_cons_zero, Option.some_inj] at hget
          subst hget
          refine ⟨ended ++ [⟨blockTag, true⟩], rest, ?_, ?_, ?_, ?_⟩
          · rw [hreads, List.set_append_right _ _ le_rfl, Nat.sub_self, List.set_cons_zero,
              List.append_assoc]
            rfl
          · intro read hread
            rw [List.mem_append, List.mem_singleton] at hread
            rcases hread with hold | rfl
            · exact hended read hold
            · rfl
          · exact fun read hread => hgoing read (List.mem_cons_of_mem _ hread)
          · rw [List.filterMap_append, ← hchanges, List.filterMap_cons, value]
            cases watch.get blockTag with
            | ok got => rfl
            | error failure => exact (List.append_nil _).symm
  · exact ⟨ended, going, hreads, hended, hgoing, hchanges⟩

theorem HandedOver.step {this : Watcher α} (h : HandedOver watch this) (event : WatcherEvent)
    (horder : this.InOrder event) : HandedOver watch (this.step watch event) := by
  cases event with
  | log log blockNumber =>
      rw [Watcher.step]
      split
      · refine Function.Iterate.rec (HandedOver watch) h (fun state hstate => ?_) _
        rw [debounced_eq]
        exact hstate
      · exact h
  | timer number => exact h.fire number
  | completed number => exact h.complete horder
  | unwatch => exact h

theorem handedOver_initial : HandedOver watch initial :=
  ⟨[], [], rfl, nofun, nofun, rfl⟩

theorem handedOver_run {events : List WatcherEvent}
    (hmeets : EventRun.Meets (step watch) InOrder initial events) :
    HandedOver watch (EventRun.run (step watch) initial events) := by
  have hkeep (this : Watcher α) (event : WatcherEvent) (h : HandedOver watch this)
      (horder : this.InOrder event) : HandedOver watch (this.step watch event) :=
    h.step event horder
  exact EventRun.run_invariant_of_meets (step watch) hkeep handedOver_initial hmeets

/-- Once no timer will fire, the last read is at the latest block. -/
theorem Listens.getLast_reads {this : Watcher α} (h : this.Listens)
    (hquiet : ∀ timer ∈ this.timers.instances, timer.live = false)
    (hlatest : this.latestBlock ≠ 0) :
    ∃ earlier last, this.reads = earlier ++ [last] ∧ last.blockTag = this.latestBlock := by
  have hnone : this.timers.running = none := by
    cases hrunning : this.timers.running with
    | none => rfl
    | some timer =>
        obtain ⟨number, _, hget⟩ := Option.bind_eq_some_iff.mp hrunning
        have hlive := h.pending timer hrunning
        rw [hquiet timer (List.mem_of_getElem? hget)] at hlive
        cases hlive
  have hnewest := h.newest hnone
  unfold tags at hnewest
  rcases List.eq_nil_or_concat this.reads with hempty | ⟨earlier, last, hreads⟩
  · rw [hempty] at hnewest
    exact absurd hnewest.symm hlatest
  · rw [List.concat_eq_append] at hreads
    rw [hreads, List.map_append, List.map_singleton, List.getLast?_concat] at hnewest
    exact ⟨earlier, last, hreads, hnewest⟩

/-- If the reads end in their order, no timer will fire and every read has ended, the last value
that has been handed over is that at the latest block of the logs that are listened to. -/
theorem handed_over_run {events : List WatcherEvent}
    (hmeets : EventRun.Meets (step watch) InOrder initial events)
    (hquiet : ∀ timer ∈ (EventRun.run (step watch) initial events).timers.instances,
      timer.live = false)
    (hended : ∀ read ∈ (EventRun.run (step watch) initial events).reads, read.completed = true)
    (hheard : latestHeard watch events ≠ 0) {value : α}
    (hvalue : watch.get (latestHeard watch events) = .ok value) :
    (EventRun.run (step watch) initial events).changes.getLast? = some value := by
  have hlatest : (EventRun.run (step watch) initial events).latestBlock =
      latestHeard watch events :=
    (latestBlock_run rfl events).trans (Nat.zero_max _)
  obtain ⟨ended, going, hreads, _, hgoing, hchanges⟩ := handedOver_run hmeets
  obtain ⟨earlier, last, hlast, htag⟩ := (listens_run events).getLast_reads hquiet
    (hlatest ▸ hheard)
  have hnone : going = [] := by
    cases going with
    | nil => rfl
    | cons first rest =>
        have htrue := hended first (by rw [hreads]; simp)
        rw [hgoing first List.mem_cons_self] at htrue
        cases htrue
  rw [hnone, List.append_nil, hlast] at hreads
  have hgot : Watcher.value watch last = some value := by
    rw [Watcher.value, htag, hlatest, hvalue]
    rfl
  rw [hchanges, ← hreads, List.filterMap_append, List.filterMap_cons_some hgot,
    List.filterMap_nil, List.getLast?_concat]

/-- A chain on which every block opens one trove. -/
def openingTroves : ReadableEthersLiquity where
  connection := ⟨none, none, .zero, "", "", "", "", id⟩
  chainAt
    | some ⟨some (.number blockTag)⟩ =>
        { genesisChain with
          troveManager := { genesisChain.troveManager with troveOwnersCount := blockTag } }
    | _ => genesisChain

/-- Two logs within the delay of the timer are read once, and a third one after it once more. -/
theorem handed_over_run_openingTroves : (EventRun.run
    (step (ObservableEthersLiquity.watchNumberOfTroves openingTroves)) initial
    [.log (.troveUpdatedByTroveManager "0xa") (some 7),
      .log (.troveUpdatedByTroveManager "0xb") (some 7), .timer 1,
      .log (.troveUpdatedByTroveManager "0xa") (some 9), .timer 2,
      .completed 0, .completed 1]).changes.getLast? = some 9 :=
  handed_over_run (by decide) (by decide) (by decide) (by decide) rfl

end Watcher

end HLiquity
