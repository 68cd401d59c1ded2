import HLiquity.Library.EventRun
import Mathlib.Data.List.Nodup
import Mathlib.Logic.Function.Iterate

/-!
# Subscribing to blocks

The WebSocket-augmented provider registers one listener for blocks on the
provider that is active, a WebSocket or the base provider, as long as there are
listeners of its own. A listener is identified by its function. It is called on
a delayed dispatch, and one that listens once removes itself when it is called.
Such a removal does not deregister the listener for blocks.
-/

namespace HLiquity

/-- The underlying providers. -/
inductive BlockSource where
  | base
  | webSocket (number : Nat)
  deriving DecidableEq, Repr

/-- What a listener is wrapped in: it is passed blocks, or the receipt of a transaction. -/
inductive BlockListener where
  | pass
  | passOnce
  | passReceipt (transactionHash : String)
  | passReceiptOnce (transactionHash : String)
  deriving DecidableEq, Repr

/-- A receipt that is being fetched for a listener. -/
structure ReceiptFetch where
  key : Nat
  transactionHash : String
  latestBlock : Option Nat
  once : Bool
  deriving DecidableEq, Repr

/-- What a deferred call passes to a listener. -/
inductive Notification (Receipt : Type) where
  | block (blockNumber : Nat)
  | receipt (receipt : Receipt)
  deriving DecidableEq, Repr

/-- The events that the provider serves itself. -/
inductive EventType where
  | block
  | transactionHash (transactionHash : String)
  deriving DecidableEq, Repr

/-- The provider, with the registrations of its listener for blocks, the WebSockets whose
closing it handles, its timers, the receipts that it fetches and the calls that it
defers. -/
structure WebSocketAugmentedProvider (Receipt : Type) where
  wsProvider : Option Nat
  wsParams : Option (String × String)
  reconnectTimerId : Option Nat
  seenBlock : Nat
  blockListenerScheduled : Bool
  blockListeners : List (Nat × BlockListener)
  registrations : BlockSource → Nat
  webSockets : Nat
  onClose : List Nat
  timers : List Nat
  nextTimer : Nat
  fetching : List ReceiptFetch
  deferred : List (Nat × Notification Receipt)

namespace WebSocketAugmentedProvider

variable {Receipt : Type}

def initial : WebSocketAugmentedProvider Receipt :=
  ⟨none, none, none, 0, false, [], fun _ => 0, 0, [], [], 0, [], []⟩

/-- The provider that block events come from. -/
def active (this : WebSocketAugmentedProvider Receipt) : BlockSource :=
  match this.wsProvider with
  | some number => .webSocket number
  | none => .base

/-- `on("block", this._blockListener)` of an underlying provider. -/
def register (this : WebSocketAugmentedProvider Receipt) (source : BlockSource) :
    WebSocketAugmentedProvider Receipt :=
  { this with
    registrations := Function.update this.registrations source (this.registrations source + 1) }

/-- `off("block", this._blockListener)` of an underlying provider. -/
def deregister (this : WebSocketAugmentedProvider Receipt) (source : BlockSource) :
    WebSocketAugmentedProvider Receipt :=
  { this with
    registrations := Function.update this.registrations source (this.registrations source - 1) }

/-- `_startBlockEvents` -/
def startBlockEvents (this : WebSocketAugmentedProvider Receipt) :
    WebSocketAugmentedProvider Receipt :=
  this.register this.active

/-- `_stopBlockEvents` -/
def stopBlockEvents (this : WebSocketAugmentedProvider Receipt) :
    WebSocketAugmentedProvider Receipt :=
  this.deregister this.active

/-- `_switchover` -/
def switchover (this : WebSocketAugmentedProvider Receipt) : WebSocketAugmentedProvider Receipt :=
  if this.blockListeners.length > 0 then
    if this.wsProvider.isSome then (this.deregister .base).startBlockEvents
    else this.startBlockEvents
  else this

def openWebSocket (this : WebSocketAugmentedProvider Receipt) (url network : String) :
    WebSocketAugmentedProvider Receipt :=
  switchover { this with
    wsProvider := some this.webSockets
    webSockets := this.webSockets + 1
    onClose := this.onClose ++ [this.webSockets]
    wsParams := some (url, network) }

def closeWebSocket (this : WebSocketAugmentedProvider Receipt) :
    WebSocketAugmentedProvider Receipt :=
  match this.wsProvider with
  | none => this
  | some number =>
      let this := switchover { this with
        onClose := this.onClose.erase number
        wsProvider := none }
      match this.reconnectTimerId with
      | none => this
      | some timerId =>
          { this with
            timers := this.timers.erase timerId
            reconnectTimerId := none }

/-- `_onWebSocketClose` -/
def onWebSocketClose (this : WebSocketAugmentedProvider Receipt) :
    WebSocketAugmentedProvider Receipt :=
  let this := this.closeWebSocket
  { this with
    reconnectTimerId := some this.nextTimer
    timers := this.timers ++ [this.nextTimer]
    nextTimer := this.nextTimer + 1 }

/-- `_onBlock` -/
def onBlock (blockNumber : Nat) (this : WebSocketAugmentedProvider Receipt) :
    WebSocketAugmentedProvider Receipt :=
  let this := { this with seenBlock := blockNumber }
  if !this.blockListenerScheduled then { this with blockListenerScheduled := true } else this

/-- `isActive` -/
def has (this : WebSocketAugmentedProvider Receipt) (key : Nat) : Bool :=
  this.blockListeners.any fun entry => entry.1 == key

/-- `removeMe` -/
def removeMe (this : WebSocketAugmentedProvider Receipt) (key : Nat) :
    WebSocketAugmentedProvider Receipt :=
  { this with blockListeners := this.blockListeners.filter fun entry => entry.1 != key }

/-- `setTimeout(() => f(t), 0)` -/
def defer (this : WebSocketAugmentedProvider Receipt) (key : Nat)
    (notification : Notification Receipt) : WebSocketAugmentedProvider Receipt :=
  { this with deferred := this.deferred ++ [(key, notification)] }

/-- `fetchReceipt` -/
def fetchReceipt (this : WebSocketAugmentedProvider Receipt) (fetch : ReceiptFetch) :
    WebSocketAugmentedProvider Receipt :=
  { this with fetching := this.fetching ++ [fetch] }

/-- The call of a wrapped listener with a block. -/
def callListener (blockNumber : Nat) (this : WebSocketAugmentedProvider Receipt)
    (entry : Nat × BlockListener) : WebSocketAugmentedProvider Receipt :=
  match entry.2 with
  | .pass => this.defer entry.1 (.block blockNumber)
  | .passOnce => (this.defer entry.1 (.block blockNumber)).removeMe entry.1
  | .passReceipt hash => this.fetchReceipt ⟨entry.1, hash, some blockNumber, false⟩
  | .passReceiptOnce hash => this.fetchReceipt ⟨entry.1, hash, some blockNumber, true⟩

/-- The delayed dispatch of `_onBlock`, to a copy of the listeners. -/
def dispatch (this : WebSocketAugmentedProvider Receipt) : WebSocketAugmentedProvider Receipt :=
  this.blockListeners.foldl (callListener this.seenBlock)
    { this with blockListenerScheduled := false }

/-- `_addBlockListener` -/
def addBlockListener (this : WebSocketAugmentedProvider Receipt) (key : Nat)
    (blockListener : BlockListener) : WebSocketAugmentedProvider Receipt :=
  if !this.has key then
    let this := { this with blockListeners := this.blockListeners ++ [(key, blockListener)] }
    if this.blockListeners.length = 1 then this.startBlockEvents else this
  else this

/-- `_removeBlockListener` -/
def removeBlockListener (this : WebSocketAugmentedProvider Receipt) (key : Nat) :
    WebSocketAugmentedProvider Receipt :=
  if this.has key then
    let this := this.removeMe key
    if this.blockListeners.length = 0 then this.stopBlockEvents else this
  else this

def on (this : WebSocketAugmentedProvider Receipt) (eventName : EventType) (listener : Nat) :
    WebSocketAugmentedProvider Receipt :=
  match eventName with
  | .transactionHash hash =>
      (this.fetchReceipt ⟨listener, hash, none, false⟩).addBlockListener listener
        (.passReceipt hash)
  | .block => this.addBlockListener listener .pass

def once (this : WebSocketAugmentedProvider Receipt) (eventName : EventType) (listener : Nat) :
    WebSocketAugmentedProvider Receipt :=
  match eventName with
  | .transactionHash hash =>
      (this.fetchReceipt ⟨listener, hash, none, true⟩).addBlockListener listener
        (.passReceiptOnce hash)
  | .block => this.addBlockListener listener .passOnce

/-- Both kinds of events are removed alike. -/
def off (this : WebSocketAugmentedProvider Receipt) (_eventName : EventType) (listener : Nat) :
    WebSocketAugmentedProvider Receipt :=
  this.removeBlockListener listener

/-- `waitFor`: a receipt that was fetched is passed on if its listener is still there. -/
def passReceipt (this : WebSocketAugmentedProvider Receipt) (fetch : ReceiptFetch)
    (receipt : Option Receipt) : WebSocketAugmentedProvider Receipt :=
  match receipt with
  | none => this
  | some receipt =>
      if this.has fetch.key then
        let this := this.defer fetch.key (.receipt receipt)
        if fetch.once then this.removeMe fetch.key else this
      else this

/-- An event: a subscription changes, an underlying provider reports a block, the dispatch
is due, a receipt is fetched or fails to be, or a WebSocket opens or closes. -/
inductive Event (Receipt : Type) where
  | on (eventName : EventType) (listener : Nat)
  | once (eventName : EventType) (listener : Nat)
  | off (eventName : EventType) (listener : Nat)
  | block (source : BlockSource) (blockNumber : Nat)
  | dispatch
  | fetched (index : Nat) (receipt : Option Receipt)
  | failed (index : Nat)
  | openWebSocket (url network : String)
  | closeWebSocket
  | closed (number : Nat)
  | reconnect (timerId : Nat)

def step (this : WebSocketAugmentedProvider Receipt) :
    Event Receipt → WebSocketAugmentedProvider Receipt
  | .on eventName listener => this.on eventName listener
  | .once eventName listener => this.once eventName listener
  | .off eventName listener => this.off eventName listener
  | .block source blockNumber => (onBlock blockNumber)^[this.registrations source] this
  | .dispatch => if this.blockListenerScheduled then this.dispatch else this
  | .fetched index receipt =>
      match this.fetching[index]? with
      | none => this
      | some fetch =>
          passReceipt { this with fetching := this.fetching.eraseIdx index } fetch receipt
  | .failed index => { this with fetching := this.fetching.eraseIdx index }
  | .openWebSocket url network => this.openWebSocket url network
  | .closeWebSocket => this.closeWebSocket
  | .closed number => if number ∈ this.onClose then this.onWebSocketClose else this
  | .reconnect timerId =>
      if timerId ∈ this.timers then
        let this := { this with timers := this.timers.erase timerId }
        match this.wsParams with
        | some (url, network) => this.openWebSocket url network
        | none => this
      else this

/-- The listener for blocks is registered once on the active provider if there are
listeners and not otherwise, and never on a base provider that is not active. -/
def Registered (this : WebSocketAugmentedProvider Receipt) : Prop :=
  this.registrations this.active = (if this.blockListeners = [] then 0 else 1) ∧
    (this.wsProvider ≠ none → this.registrations .base = 0)

instance (this : WebSocketAugmentedProvider Receipt) : Decidable this.Registered :=
  inferInstanceAs (Decidable (_ ∧ _))

/-- Nothing is registered on a WebSocket that is not open yet, and a listener has one
entry. -/
structure Consistent (this : WebSocketAugmentedProvider Receipt) : Prop where
  unopened : ∀ number, this.webSockets ≤ number → this.registrations (.webSocket number) = 0
  opened : ∀ number, this.wsProvider = some number → number < this.webSockets
  keys : (this.blockListeners.map Prod.fst).Nodup

/-- No listener that removes itself is the last one. -/
def SparesLast (this : WebSocketAugmentedProvider Receipt) : Event Receipt → Prop
  | .dispatch => this.blockListenerScheduled = true → this.blockListeners ≠ [] →
      ∃ entry ∈ this.blockListeners, entry.2 ≠ .passOnce
  | .fetched index (some _) => ∀ fetch, this.fetching[index]? = some fetch → fetch.once = true →
      this.has fetch.key = true → ∃ entry ∈ this.blockListeners, entry.1 ≠ fetch.key
  | _ => True

theorem consistent_initial : (initial : WebSocketAugmentedProvider Receipt).Consistent where
  unopened := fun _ _ => rfl
  opened := by
    rintro _ ⟨⟩
  keys := .nil

section Steps

variable {this next : WebSocketAugmentedProvider Receipt}

theorem has_iff {key : Nat} :
    this.has key = true ↔ ∃ entry ∈ this.blockListeners, entry.1 = key := by
  simp [has]

/-- A step that at most removes listeners, and deregisters nothing. -/
structure OnlyRemoves (this next : WebSocketAugmentedProvider Receipt) : Prop where
  registrations : next.registrations = this.registrations
  wsProvider : next.wsProvider = this.wsProvider
  webSockets : next.webSockets = this.webSockets
  blockListeners : next.blockListeners.Sublist this.blockListeners

theorem OnlyRemoves.trans {last : WebSocketAugmentedProvider Receipt} (h : OnlyRemoves this next)
    (hnext : OnlyRemoves next last) : OnlyRemoves this last where
  registrations := hnext.registrations.trans h.registrations
  wsProvider := hnext.wsProvider.trans h.wsProvider
  webSockets := hnext.webSockets.trans h.webSockets
  blockListeners := hnext.blockListeners.trans h.blockListeners

theorem OnlyRemoves.active_eq (h : OnlyRemoves this next) : next.active = this.active := by
  unfold active
  rw [h.wsProvider]

theorem OnlyRemoves.consistent (h : OnlyRemoves this next) (hthis : this.Consistent) :
    next.Consistent where
  unopened := by
    rw [h.registrations, h.webSockets]
    exact hthis.unopened
  opened := by
    rw [h.wsProvider, h.webSockets]
    exact hthis.opened
  keys := hthis.keys.sublist (h.blockListeners.map _)

/-- Such a step keeps the registration right exactly if it does not empty the listeners. -/
theorem OnlyRemoves.registered_iff (h : OnlyRemoves this next) (hthis : this.Registered) :
    next.Registered ↔ (next.blockListeners = [] → this.blockListeners = []) := by
  unfold Registered at hthis ⊢
  rw [h.active_eq, h.registrations, h.wsProvider, hthis.1]
  constructor
  · rintro ⟨hcount, _⟩ hafter
    by_contra hbefore
    rw [if_pos hafter, if_neg hbefore] at hcount
    cases hcount
  · intro hkept
    refine ⟨?_, hthis.2⟩
    by_cases hbefore : this.blockListeners = []
    · have hafter : next.blockListeners = [] := by
        have := h.blockListeners
        rwa [hbefore, List.sublist_nil] at this
      rw [if_pos hbefore, if_pos hafter]
    · rw [if_neg hbefore, if_neg fun hafter => hbefore (hkept hafter)]

/-- The listener of the step keeps the registration right if it removes nothing. -/
theorem OnlyRemoves.registered (h : OnlyRemoves this next) (hthis : this.Registered)
    (hkept : next.blockListeners = this.blockListeners) : next.Registered :=
  (h.registered_iff hthis).mpr fun hafter => hkept ▸ hafter

theorem onlyRemoves_callListener (blockNumber : Nat) (entry : Nat × BlockListener) :
    OnlyRemoves this (callListener blockNumber this entry) := by
  unfold callListener
  cases entry.2 with
  | passOnce => exact ⟨rfl, rfl, rfl, List.filter_sublist⟩
  | _ => exact ⟨rfl, rfl, rfl, .refl _⟩

/-- Calling listeners at most removes some. -/
theorem onlyRemoves_foldl (blockNumber : Nat) (entries : List (Nat × BlockListener)) :
    OnlyRemoves this (entries.foldl (callListener blockNumber) this) := by
  induction entries generalizing this with
  | nil => exact ⟨rfl, rfl, rfl, .refl _⟩
  | cons entry entries ih => exact (onlyRemoves_callListener blockNumber entry).trans ih

theorem mem_callListener {blockNumber : Nat} {called entry : Nat × BlockListener} :
    entry ∈ (callListener blockNumber this called).blockListeners ↔
      entry ∈ this.blockListeners ∧ (called.2 = .passOnce → called.1 ≠ entry.1) := by
  unfold callListener
  cases hkind : called.2 with
  | passOnce =>
      change entry ∈ this.blockListeners.filter (fun other => other.1 != called.1) ↔ _
      rw [List.mem_filter, bne_iff_ne]
      exact and_congr_right fun _ => ⟨fun hother _ => hother.symm, fun hother => (hother rfl).symm⟩
  | _ => simp [defer, fetchReceipt]

/-- Calling listeners removes those that listen once. -/
theorem mem_foldl_callListener {blockNumber : Nat} {entries : List (Nat × BlockListener)}
    {entry : Nat × BlockListener} :
    entry ∈ (entries.foldl (callListener blockNumber) this).blockListeners ↔
      entry ∈ this.blockListeners ∧
        ∀ called ∈ entries, called.2 = .passOnce → called.1 ≠ entry.1 := by
  induction entries generalizing this with
  | nil => simp
  | cons first entries ih =>
      rw [List.foldl_cons, ih, mem_callListener, List.forall_mem_cons, and_assoc]

/-- A dispatch empties the listeners exactly if all of them listen for one block. -/
theorem dispatch_eq_nil_iff (h : this.Consistent) :
    this.dispatch.blockListeners = [] ↔ ∀ entry ∈ this.blockListeners, entry.2 = .passOnce := by
  rw [List.eq_nil_iff_forall_not_mem]
  unfold dispatch
  simp only [mem_foldl_callListener, not_and, not_forall, not_not]
  constructor
  · intro hremoved entry hentry
    obtain ⟨called, hcalled, hkind, hkey⟩ := hremoved entry hentry
    rwa [← List.inj_on_of_nodup_map h.keys hcalled hentry hkey]
  · intro hall entry hentry
    exact ⟨entry, hentry, hall entry hentry, rfl⟩

/-- Removing a listener empties the listeners exactly if it is the only one. -/
theorem removeMe_eq_nil_iff {key : Nat} :
    (this.removeMe key).blockListeners = [] ↔ ∀ entry ∈ this.blockListeners, entry.1 = key := by
  simp [removeMe, List.filter_eq_nil_iff]

theorem consistent_register (h : this.Consistent) {source : BlockSource}
    (hsource : ∀ number, source = .webSocket number → number < this.webSockets) :
    (this.register source).Consistent where
  unopened := by
    intro number hnumber
    have hne : (BlockSource.webSocket number) ≠ source := by
      intro heq
      have := hsource number heq.symm
      exact absurd hnumber (Nat.not_le.mpr this)
    change Function.update _ _ _ _ = 0
    rw [Function.update_of_ne hne]
    exact h.unopened number hnumber
  opened := h.opened
  keys := h.keys

theorem consistent_deregister (h : this.Consistent) (source : BlockSource) :
    (this.deregister source).Consistent where
  unopened := by
    intro number hnumber
    change Function.update _ _ _ _ = 0
    rw [Function.update_apply]
    split
    · rename_i heq
      rw [← heq, h.unopened number hnumber]
    · exact h.unopened number hnumber
  opened := h.opened
  keys := h.keys

theorem active_lt (h : this.Consistent) (number : Nat) (hactive : this.active = .webSocket number) :
    number < this.webSockets := by
  unfold active at hactive
  split at hactive
  · rename_i hws
    cases hactive
    exact h.opened number hws
  · cases hactive

theorem active_ne_base (hws : this.wsProvider ≠ none) : BlockSource.base ≠ this.active := by
  unfold active
  split
  · exact fun heq => by cases heq
  · rename_i hnone
    exact absurd hnone hws

/-- Starting block events for listeners that have none registers once. -/
theorem registered_startBlockEvents (hlisteners : this.blockListeners ≠ [])
    (hactive : this.registrations this.active = 0)
    (hbase : this.wsProvider ≠ none → this.registrations .base = 0) :
    this.startBlockEvents.Registered := by
  constructor
  · change Function.update _ _ _ this.active = if this.blockListeners = [] then 0 else 1
    rw [Function.update_self, hactive, if_neg hlisteners]
  · intro hws
    have hne : BlockSource.base ≠ this.active := active_ne_base hws
    change Function.update _ _ _ _ = 0
    rw [Function.update_of_ne hne]
    exact hbase hws

/-- Stopping block events without listeners leaves nothing registered. -/
theorem registered_stopBlockEvents (hlisteners : this.blockListeners = [])
    (hactive : this.registrations this.active = 1)
    (hbase : this.wsProvider ≠ none → this.registrations .base = 0) :
    this.stopBlockEvents.Registered := by
  constructor
  · change Function.update _ _ _ this.active = if this.blockListeners = [] then 0 else 1
    rw [Function.update_self, hactive, if_pos hlisteners]
  · intro hws
    have hne : BlockSource.base ≠ this.active := active_ne_base hws
    change Function.update _ _ _ _ = 0
    rw [Function.update_of_ne hne]
    exact hbase hws

/-- A function that has no entry gets its only one. -/
theorem nodup_keys_append (h : (this.blockListeners.map Prod.fst).Nodup) {key : Nat}
    (hkey : this.has key = false) (blockListener : BlockListener) :
    ((this.blockListeners ++ [(key, blockListener)]).map Prod.fst).Nodup := by
  rw [List.map_append, List.nodup_append]
  refine ⟨h, List.nodup_singleton _, ?_⟩
  intro old hold new hnew heq
  obtain ⟨entry, hentry, rfl⟩ := List.mem_map.mp hold
  rw [List.map_singleton, List.mem_singleton] at hnew
  have hhas : this.has key = true := has_iff.mpr ⟨entry, hentry, heq.trans hnew⟩
  rw [hkey] at hhas
  cases hhas

/-- Adding a listener registers the listener for blocks if it is the first one. -/
theorem addBlockListener_kept (h : this.Consistent) (hregistered : this.Registered) (key : Nat)
    (blockListener : BlockListener) :
    (this.addBlockListener key blockListener).Consistent ∧
      (this.addBlockListener key blockListener).Registered := by
  unfold addBlockListener
  by_cases hkey : this.has key = true
  · rw [hkey]
    exact ⟨h, hregistered⟩
  · rw [Bool.not_eq_true] at hkey
    rw [hkey]
    simp only [Bool.not_false, if_true]
    have hadded : Consistent { this with
        blockListeners := this.blockListeners ++ [(key, blockListener)] } :=
      ⟨h.unopened, h.opened, nodup_keys_append h.keys hkey blockListener⟩
    by_cases hfirst : this.blockListeners = []
    · rw [if_pos (by simp [hfirst])]
      constructor
      · exact consistent_register hadded (active_lt hadded)
      · apply registered_startBlockEvents
        · exact List.concat_ne_nil _ _
        · have hnone := hregistered.1
          rwa [if_pos hfirst] at hnone
        · exact hregistered.2
    · rw [if_neg (by simp [hfirst])]
      refine ⟨hadded, ?_, hregistered.2⟩
      have hone := hregistered.1
      rw [if_neg hfirst] at hone
      rw [if_neg (List.concat_ne_nil _ _)]
      exact hone

/-- Removing a listener deregisters the listener for blocks if it was the last one. -/
theorem removeBlockListener_kept (h : this.Consistent) (hregistered : this.Registered) (key : Nat) :
    (this.removeBlockListener key).Consistent ∧ (this.removeBlockListener key).Registered := by
  unfold removeBlockListener
  by_cases hkey : this.has key = true
  · rw [if_pos hkey]
    have hremoves : OnlyRemoves this (this.removeMe key) := ⟨rfl, rfl, rfl, List.filter_sublist⟩
    have hremoved := hremoves.consistent h
    have hbefore : this.blockListeners ≠ [] := by
      obtain ⟨entry, hentry, _⟩ := has_iff.mp hkey
      exact List.ne_nil_of_mem hentry
    by_cases hlast : (this.removeMe key).blockListeners = []
    · simp only [hlast, List.length_nil, if_true]
      constructor
      · exact consistent_deregister hremoved _
      · apply registered_stopBlockEvents hlast
        · have hone := hregistered.1
          rwa [if_neg hbefore] at hone
        · exact hregistered.2
    · simp only [List.length_eq_zero_iff, if_neg hlast]
      exact ⟨hremoved, (hremoves.registered_iff hregistered).mpr fun hafter => absurd hafter hlast⟩
  · rw [if_neg hkey]
    exact ⟨h, hregistered⟩

theorem Registered.base_le_one (h : this.Registered) : this.registrations .base ≤ 1 := by
  cases hws : this.wsProvider with
  | none =>
      have hactive : this.active = .base := by
        unfold active
        rw [hws]
      rw [← hactive, h.1]
      split
      · exact Nat.zero_le _
      · exact Nat.le_refl _
  | some number =>
      rw [h.2 (by simp [hws])]
      exact Nat.zero_le _

theorem Registered.base_eq_zero (h : this.Registered) (hempty : this.blockListeners = []) :
    this.registrations .base = 0 := by
  cases hws : this.wsProvider with
  | none =>
      have hactive : this.active = .base := by
        unfold active
        rw [hws]
      rw [← hactive, h.1, if_pos hempty]
  | some number => exact h.2 (by simp [hws])

/-- Switching over to a WebSocket on which nothing is registered yet registers there. -/
theorem switchover_opened (h : this.Consistent) {number : Nat}
    (hws : this.wsProvider = some number) (hfresh : this.registrations (.webSocket number) = 0)
    (hle : this.registrations .base ≤ 1)
    (hidle : this.blockListeners = [] → this.registrations .base = 0) :
    this.switchover.Consistent ∧ this.switchover.Registered := by
  have hactive : this.active = .webSocket number := by
    unfold active
    rw [hws]
  unfold switchover
  by_cases hempty : this.blockListeners = []
  · have hlength : ¬ this.blockListeners.length > 0 := by simp [hempty]
    rw [if_neg hlength]
    refine ⟨h, ?_, fun _ => hidle hempty⟩
    rw [hactive, hfresh, if_pos hempty]
  · have hlength : this.blockListeners.length > 0 := List.length_pos_iff.mpr hempty
    rw [if_pos hlength, if_pos (by simp [hws])]
    have hleft := consistent_deregister h .base
    constructor
    · exact consistent_register hleft (active_lt hleft)
    · apply @registered_startBlockEvents _ (this.deregister .base) hempty
      · change Function.update this.registrations .base (this.registrations .base - 1)
          this.active = 0
        rw [hactive, Function.update_of_ne (by simp)]
        exact hfresh
      · intro _
        change Function.update this.registrations .base (this.registrations .base - 1) .base = 0
        rw [Function.update_self]
        exact Nat.sub_eq_zero_of_le hle

/-- Switching back to the base provider, on which nothing is registered, registers there. -/
theorem switchover_closed (h : this.Consistent) (hws : this.wsProvider = none)
    (hbase : this.registrations .base = 0) :
    this.switchover.Consistent ∧ this.switchover.Registered := by
  have hactive : this.active = .base := by
    unfold active
    rw [hws]
  unfold switchover
  by_cases hempty : this.blockListeners = []
  · have hlength : ¬ this.blockListeners.length > 0 := by simp [hempty]
    rw [if_neg hlength]
    refine ⟨h, ?_, fun hne => absurd hws hne⟩
    rw [hactive, hbase, if_pos hempty]
  · have hlength : this.blockListeners.length > 0 := List.length_pos_iff.mpr hempty
    rw [if_pos hlength, if_neg (by simp [hws])]
    constructor
    · exact consistent_register h (active_lt h)
    · exact registered_startBlockEvents hempty (hactive ▸ hbase) fun hne => absurd hws hne

/-- Opening a WebSocket moves the registration to it. -/
theorem openWebSocket_kept (h : this.Consistent) (hregistered : this.Registered)
    (url network : String) :
    (this.openWebSocket url network).Consistent ∧ (this.openWebSocket url network).Registered := by
  apply switchover_opened
  · constructor
    · exact fun number hnumber => h.unopened number (Nat.le_of_succ_le hnumber)
    · rintro _ ⟨⟩
      exact Nat.lt_succ_self _
    · exact h.keys
  · rfl
  · exact h.unopened _ (Nat.le_refl _)
  · exact hregistered.base_le_one
  · exact hregistered.base_eq_zero

/-- Closing the WebSocket moves the registration back to the base provider. -/
theorem closeWebSocket_kept (h : this.Consistent) (hregistered : this.Registered) :
    this.closeWebSocket.Consistent ∧ this.closeWebSocket.Registered := by
  unfold closeWebSocket
  cases hws : this.wsProvider with
  | none => exact ⟨h, hregistered⟩
  | some number =>
      have hclosed : Consistent { this with
          onClose := this.onClose.erase number
          wsProvider := none } := by
        constructor
        · exact h.unopened
        · rintro _ ⟨⟩
        · exact h.keys
      have hswitched := switchover_closed hclosed rfl (hregistered.2 (by simp [hws]))
      dsimp only
      split
      · exact hswitched
      · obtain ⟨hconsistent, hright⟩ := hswitched
        exact ⟨⟨hconsistent.unopened, hconsistent.opened, hconsistent.keys⟩, hright⟩

theorem on_kept (h : this.Consistent) (hregistered : this.Registered) (eventName : EventType)
    (listener : Nat) :
    (this.on eventName listener).Consistent ∧ (this.on eventName listener).Registered := by
  cases eventName with
  | block => exact addBlockListener_kept h hregistered listener .pass
  | transactionHash hash =>
      have hfetching : (this.fetchReceipt ⟨listener, hash, none, false⟩).Consistent :=
        ⟨h.unopened, h.opened, h.keys⟩
      exact addBlockListener_kept hfetching hregistered listener (.passReceipt hash)

theorem once_kept (h : this.Consistent) (hregistered : this.Registered) (eventName : EventType)
    (listener : Nat) :
    (this.once eventName listener).Consistent ∧ (this.once eventName listener).Registered := by
  cases eventName with
  | block => exact addBlockListener_kept h hregistered listener .passOnce
  | transactionHash hash =>
      have hfetching : (this.fetchReceipt ⟨listener, hash, none, true⟩).Consistent :=
        ⟨h.unopened, h.opened, h.keys⟩
      exact addBlockListener_kept hfetching hregistered listener (.passReceiptOnce hash)

theorem onWebSocketClose_kept (h : this.Consistent) (hregistered : this.Registered) :
    this.onWebSocketClose.Consistent ∧ this.onWebSocketClose.Registered := by
  obtain ⟨hconsistent, hright⟩ := closeWebSocket_kept h hregistered
  exact ⟨⟨hconsistent.unopened, hconsistent.opened, hconsistent.keys⟩, hright⟩

/-- Blocks change nothing but what is seen and scheduled. -/
theorem onlyRemoves_onBlock (blockNumber times : Nat) :
    OnlyRemoves this ((onBlock blockNumber)^[times] this) ∧
      ((onBlock blockNumber)^[times] this).blockListeners = this.blockListeners := by
  induction times generalizing this with
  | zero => exact ⟨⟨rfl, rfl, rfl, .refl _⟩, rfl⟩
  | succ times ih =>
      have hone : OnlyRemoves this (onBlock blockNumber this) ∧
          (onBlock blockNumber this).blockListeners = this.blockListeners := by
        simp only [onBlock]
        split <;> exact ⟨⟨rfl, rfl, rfl, .refl _⟩, rfl⟩
      obtain ⟨hrest, hsame⟩ := @ih (onBlock blockNumber this)
      exact ⟨hone.1.trans hrest, hsame.trans hone.2⟩

/-- A dispatch keeps the registration right exactly if a listener remains. -/
theorem dispatch_kept (h : this.Consistent) (hregistered : this.Registered) :
    this.dispatch.Consistent ∧ (this.dispatch.Registered ↔
      (this.blockListeners ≠ [] → ∃ entry ∈ this.blockListeners, entry.2 ≠ .passOnce)) := by
  have hremoves : OnlyRemoves this this.dispatch := by
    have hunscheduled : OnlyRemoves this { this with blockListenerScheduled := false } :=
      ⟨rfl, rfl, rfl, .refl _⟩
    exact hunscheduled.trans (onlyRemoves_foldl _ _)
  refine ⟨hremoves.consistent h, ?_⟩
  rw [hremoves.registered_iff hregistered, dispatch_eq_nil_iff h]
  constructor
  · intro hkept hbefore
    by_contra hnone
    push Not at hnone
    exact hbefore (hkept hnone)
  · intro hspared hall
    by_contra hbefore
    obtain ⟨entry, hentry, hkind⟩ := hspared hbefore
    exact hkind (hall entry hentry)

/-- A receipt keeps the registration right exactly if a listener remains. -/
theorem passReceipt_kept (h : this.Consistent) (hregistered : this.Registered)
    (fetch : ReceiptFetch) (receipt : Receipt) :
    (this.passReceipt fetch (some receipt)).Consistent ∧
      ((this.passReceipt fetch (some receipt)).Registered ↔ (fetch.once = true →
        this.has fetch.key = true → ∃ entry ∈ this.blockListeners, entry.1 ≠ fetch.key)) := by
  simp only [passReceipt]
  by_cases hkey : this.has fetch.key = true
  · rw [if_pos hkey]
    by_cases honce : fetch.once = true
    · rw [if_pos honce]
      have hremoves : OnlyRemoves this ((this.defer fetch.key (.receipt receipt)).removeMe
          fetch.key) := ⟨rfl, rfl, rfl, List.filter_sublist⟩
      refine ⟨hremoves.consistent h, ?_⟩
      have hbefore : this.blockListeners ≠ [] := by
        obtain ⟨entry, hentry, _⟩ := has_iff.mp hkey
        exact List.ne_nil_of_mem hentry
      rw [hremoves.registered_iff hregistered, removeMe_eq_nil_iff]
      constructor
      · intro hkept _ _
        by_contra hnone
        push Not at hnone
        exact hbefore (hkept hnone)
      · intro hspared hall
        obtain ⟨entry, hentry, hother⟩ := hspared honce hkey
        exact absurd (hall entry hentry) hother
    · rw [if_neg honce]
      exact ⟨⟨h.unopened, h.opened, h.keys⟩, iff_of_true hregistered fun h => absurd h honce⟩
  · rw [if_neg hkey]
    exact ⟨h, iff_of_true hregistered fun _ h => absurd h hkey⟩

theorem kept_of_spared {next : WebSocketAugmentedProvider Receipt} {spares : Prop}
    (hkept : next.Consistent ∧ next.Registered) (hspares : spares) :
    next.Consistent ∧ (next.Registered ↔ spares) :=
  ⟨hkept.1, iff_of_true hkept.2 hspares⟩

/-- A step keeps the registration right exactly if no listener that removes itself is the
last one. -/
theorem step_kept (h : this.Consistent) (hregistered : this.Registered) (event : Event Receipt) :
    (this.step event).Consistent ∧ ((this.step event).Registered ↔ this.SparesLast event) := by
  cases event with
  | on eventName listener =>
      exact kept_of_spared (on_kept h hregistered eventName listener) trivial
  | once eventName listener =>
      exact kept_of_spared (once_kept h hregistered eventName listener) trivial
  | off eventName listener =>
      exact kept_of_spared (removeBlockListener_kept h hregistered listener) trivial
  | block source blockNumber =>
      obtain ⟨hremoves, hsame⟩ :=
        @onlyRemoves_onBlock _ this blockNumber (this.registrations source)
      exact kept_of_spared ⟨hremoves.consistent h, hremoves.registered hregistered hsame⟩ trivial
  | dispatch =>
      simp only [step, SparesLast]
      by_cases hscheduled : this.blockListenerScheduled = true
      · rw [if_pos hscheduled]
        obtain ⟨hconsistent, hright⟩ := dispatch_kept h hregistered
        exact ⟨hconsistent,
          hright.trans ⟨fun hspared _ => hspared, fun hspared => hspared hscheduled⟩⟩
      · rw [if_neg hscheduled]
        exact ⟨h, iff_of_true hregistered fun hdue => absurd hdue hscheduled⟩
  | fetched index receipt =>
      simp only [step, SparesLast]
      cases hfetch : this.fetching[index]? with
      | none =>
          refine ⟨h, iff_of_true hregistered ?_⟩
          cases receipt with
          | none => trivial
          | some receipt =>
              intro fetch hfetched
              rw [hfetch] at hfetched
              cases hfetched
      | some fetch =>
          have htaken : Consistent { this with fetching := this.fetching.eraseIdx index } :=
            ⟨h.unopened, h.opened, h.keys⟩
          cases receipt with
          | none => exact kept_of_spared ⟨htaken, hregistered⟩ trivial
          | some receipt =>
              obtain ⟨hconsistent, hright⟩ := passReceipt_kept htaken hregistered fetch receipt
              refine ⟨hconsistent, hright.trans ⟨?_, fun hspared => hspared fetch hfetch⟩⟩
              intro hspared other hother
              rw [hfetch] at hother
              cases hother
              exact hspared
  | failed index =>
      exact ⟨⟨h.unopened, h.opened, h.keys⟩, iff_of_true hregistered trivial⟩
  | openWebSocket url network =>
      exact kept_of_spared (openWebSocket_kept h hregistered url network) trivial
  | closeWebSocket => exact kept_of_spared (closeWebSocket_kept h hregistered) trivial
  | closed number =>
      simp only [step, SparesLast]
      split
      · exact kept_of_spared (onWebSocketClose_kept h hregistered) trivial
      · exact kept_of_spared ⟨h, hregistered⟩ trivial
  | reconnect timerId =>
      simp only [step, SparesLast]
      split
      · have hfired : Consistent { this with timers := this.timers.erase timerId } :=
          ⟨h.unopened, h.opened, h.keys⟩
        split
        · exact kept_of_spared (openWebSocket_kept hfired hregistered _ _) trivial
        · exact kept_of_spared ⟨hfired, hregistered⟩ trivial
      · exact kept_of_spared ⟨h, hregistered⟩ trivial

end Steps

theorem registered_initial : (initial : WebSocketAugmentedProvider Receipt).Registered :=
  ⟨rfl, fun hne => absurd rfl hne⟩

/-- In a run the listener for blocks is registered right in every state exactly if no
listener that removes itself is the last one. -/
theorem registered_run_iff (events : List (Event Receipt)) :
    (∀ earlier later, events = earlier ++ later → (EventRun.run step initial earlier).Registered) ↔
      EventRun.Meets step SparesLast initial events := by
  suffices hfrom : ∀ this : WebSocketAugmentedProvider Receipt, this.Consistent →
      this.Registered → ((∀ earlier later, events = earlier ++ later →
        (EventRun.run step this earlier).Registered) ↔
          EventRun.Meets step SparesLast this events) from
    hfrom initial consistent_initial registered_initial
  induction events with
  | nil =>
      intro this _ hregistered
      refine iff_of_true ?_ trivial
      intro earlier later hsplit
      rw [(List.append_eq_nil_iff.mp hsplit.symm).1]
      exact hregistered
  | cons event events ih =>
      intro this h hregistered
      obtain ⟨hconsistent, hright⟩ := step_kept h hregistered event
      constructor
      · intro hall
        have hnext : (this.step event).Registered := hall [event] events rfl
        refine ⟨hright.mp hnext, (ih _ hconsistent hnext).mp ?_⟩
        rintro earlier later rfl
        exact hall (event :: earlier) later rfl
      · rintro ⟨hspares, hrest⟩ earlier later hsplit
        cases earlier with
        | nil => exact hregistered
        | cons first earlier =>
            cases hsplit
            exact (ih _ hconsistent (hright.mpr hspares)).mpr hrest earlier later rfl

/-- A listener that listens for one block is called, and the base provider keeps reporting
blocks; the next subscription registers once more. -/
theorem registered_after_once :
    let subscribed : List (Event Nat) := [.once .block 0, .block .base 1, .dispatch]
    let emptied := EventRun.run step initial subscribed
    emptied.blockListeners = [] ∧ emptied.registrations .base = 1 ∧ ¬ emptied.Registered ∧
      (emptied.step (.on .block 1)).registrations .base = 2 := by
  refine ⟨rfl, rfl, ?_, rfl⟩
  rintro ⟨hnone, _⟩
  cases hnone

end WebSocketAugmentedProvider

end HLiquity
