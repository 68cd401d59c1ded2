import HLiquity.ListenerEffects
import Mathlib.Data.List.InsertIdx

/-!
# Registrations of listeners

The ledger of registrations says what subscribing is for: every registration delivers the
events that it is for, until it is cancelled or has delivered once. The provider keeps one
entry for each function instead. It does what the ledger says as long as a function is
registered once at a time, is cancelled for the event that it is registered for, and is not
registered again while a receipt of an earlier registration is on its way.
-/

namespace HLiquity

/-- A registration of a listener; the number tells those of one function apart. -/
structure Registration where
  number : Nat
  eventName : EventType
  listener : Nat
  once : Bool
  deriving DecidableEq, Repr

namespace Registration

/-- Registrations for a transaction deliver what is fetched, others the block itself. -/
def fetches (registration : Registration) : Bool :=
  match registration.eventName with
  | .block => false
  | .transactionHash _ => true

/-- What the provider wraps the listener of a registration in. -/
def blockListener (registration : Registration) : BlockListener :=
  match registration.eventName, registration.once with
  | .block, false => .pass
  | .block, true => .passOnce
  | .transactionHash hash, false => .passReceipt hash
  | .transactionHash hash, true => .passReceiptOnce hash

def entry (registration : Registration) : Nat × BlockListener :=
  (registration.listener, registration.blockListener)

end Registration

/-- The registrations that are live, those that a receipt is being fetched for, and what has
been delivered for which registration. -/
structure ListenerLedger (Receipt : Type) where
  live : List Registration
  registered : Nat
  fetching : List Registration
  delivered : List (Registration × Notification Receipt)

namespace ListenerLedger

variable {Receipt : Type}

def initial : ListenerLedger Receipt := ⟨[], 0, [], []⟩

/-- A new registration is live, and fetches a receipt right away if it is for one. -/
def register (ledger : ListenerLedger Receipt) (eventName : EventType) (listener : Nat)
    (once : Bool) : ListenerLedger Receipt :=
  let registration : Registration := ⟨ledger.registered, eventName, listener, once⟩
  { ledger with
    live := ledger.live ++ [registration]
    registered := ledger.registered + 1
    fetching := ledger.fetching ++ if registration.fetches then [registration] else [] }

/-- Only the registrations of the event are cancelled. -/
def cancel (ledger : ListenerLedger Receipt) (eventName : EventType) (listener : Nat) :
    ListenerLedger Receipt :=
  { ledger with
    live := ledger.live.filter fun registration =>
      decide ¬ (registration.eventName = eventName ∧ registration.listener = listener) }

/-- Every live registration delivers the block or starts a fetch. -/
def dispatch (ledger : ListenerLedger Receipt) (blockNumber : Nat) : ListenerLedger Receipt :=
  { ledger with
    live := ledger.live.filter fun registration => registration.fetches || !registration.once
    fetching := ledger.fetching ++ ledger.live.filter Registration.fetches
    delivered := ledger.delivered ++
      (ledger.live.filter fun registration => !registration.fetches).map fun registration =>
        (registration, .block blockNumber) }

/-- A receipt is delivered for the registration that it was fetched for, if that is live. -/
def complete (ledger : ListenerLedger Receipt) (registration : Registration)
    (receipt : Option Receipt) : ListenerLedger Receipt :=
  match receipt with
  | none => ledger
  | some receipt =>
      if registration ∈ ledger.live then
        { ledger with
          live :=
            if registration.once then ledger.live.filter fun other => other != registration
            else ledger.live
          delivered := ledger.delivered ++ [(registration, .receipt receipt)] }
      else ledger

/-- What an event should do, where a dispatch is due as the provider has it. -/
def step (this : WebSocketAugmentedProvider Receipt) (ledger : ListenerLedger Receipt) :
    WebSocketAugmentedProvider.Event Receipt → ListenerLedger Receipt
  | .on eventName listener => ledger.register eventName listener false
  | .once eventName listener => ledger.register eventName listener true
  | .off eventName listener => ledger.cancel eventName listener
  | .dispatch => if this.blockListenerScheduled then ledger.dispatch this.seenBlock else ledger
  | .fetched index receipt =>
      match ledger.fetching[index]? with
      | none => ledger
      | some registration =>
          complete { ledger with fetching := ledger.fetching.eraseIdx index } registration receipt
  | .failed index => { ledger with fetching := ledger.fetching.eraseIdx index }
  | .block _ _ | .openWebSocket _ _ | .closeWebSocket | .closed _ | .reconnect _ => ledger

end ListenerLedger

/-- The provider, and the ledger of what it should deliver. -/
structure Subscriptions (Receipt : Type) where
  provider : WebSocketAugmentedProvider Receipt
  ledger : ListenerLedger Receipt

namespace Subscriptions

open WebSocketAugmentedProvider (Event)

variable {Receipt : Type}

def initial : Subscriptions Receipt := ⟨WebSocketAugmentedProvider.initial, .initial⟩

def step (subscriptions : Subscriptions Receipt) (event : Event Receipt) :
    Subscriptions Receipt :=
  ⟨subscriptions.provider.step event, subscriptions.ledger.step subscriptions.provider event⟩

/-- The registrations are independent: the provider listens for exactly those that are live,
has called the listeners as the ledger says, and learns of blocks while one is live. -/
structure Independent (subscriptions : Subscriptions Receipt) : Prop where
  listening : subscriptions.provider.blockListeners =
    subscriptions.ledger.live.map Registration.entry
  delivered : subscriptions.provider.deferred =
    subscriptions.ledger.delivered.map fun delivery => (delivery.1.listener, delivery.2)
  reported : subscriptions.ledger.live ≠ [] →
    0 < subscriptions.provider.registrations subscriptions.provider.active

/-- A function is registered only while it is not registered, and cancelled only for the
event that it is registered for. A receipt for a registration that is not live comes only
while its function is not registered. -/
def Separate (subscriptions : Subscriptions Receipt) : Event Receipt → Prop
  | .on _ listener | .once _ listener =>
      ∀ registration ∈ subscriptions.ledger.live, registration.listener ≠ listener
  | .off eventName listener =>
      ∀ registration ∈ subscriptions.ledger.live, registration.listener = listener →
        registration.eventName = eventName
  | .fetched index (some _) =>
      ∀ registration ∈ subscriptions.ledger.fetching[index]?,
        registration ∉ subscriptions.ledger.live →
          ∀ other ∈ subscriptions.ledger.live, other.listener ≠ registration.listener
  | _ => True

instance (subscriptions : Subscriptions Receipt) (event : Event Receipt) :
    Decidable (subscriptions.Separate event) :=
  match event with
  | .on _ _ | .once _ _ | .off _ _ | .fetched _ (some _) => inferInstanceAs (Decidable (∀ _, _))
  | .fetched _ none | .block _ _ | .dispatch | .failed _ | .openWebSocket _ _ | .closeWebSocket
  | .closed _ | .reconnect _ => .isTrue trivial

/-- The provider's entries, fetches and calls are those of its ledger. -/
structure Agree (subscriptions : Subscriptions Receipt) : Prop where
  keyed : subscriptions.provider.Keyed
  listening : subscriptions.provider.blockListeners =
    subscriptions.ledger.live.map Registration.entry
  fetching : (subscriptions.provider.fetching.map fun fetch => (fetch.key, fetch.once)) =
    subscriptions.ledger.fetching.map fun registration =>
      (registration.listener, registration.once)
  delivered : subscriptions.provider.deferred =
    subscriptions.ledger.delivered.map fun delivery => (delivery.1.listener, delivery.2)

variable {subscriptions : Subscriptions Receipt}

theorem Agree.has_iff (h : subscriptions.Agree) {listener : Nat} :
    subscriptions.provider.has listener = true ↔
      ∃ registration ∈ subscriptions.ledger.live, registration.listener = listener := by
  rw [WebSocketAugmentedProvider.has_iff, h.listening]
  simp [Registration.entry]

theorem Agree.has_eq_false (h : subscriptions.Agree) {listener : Nat}
    (hfree : ∀ registration ∈ subscriptions.ledger.live, registration.listener ≠ listener) :
    subscriptions.provider.has listener = false := by
  rw [← Bool.not_eq_true, h.has_iff]
  rintro ⟨registration, hlive, hlistener⟩
  exact hfree registration hlive hlistener

/-- A function has one live registration. -/
theorem Agree.eq_of_listener_eq (h : subscriptions.Agree) {registration other : Registration}
    (hlive : registration ∈ subscriptions.ledger.live) (hother : other ∈ subscriptions.ledger.live)
    (heq : registration.listener = other.listener) : registration = other := by
  have hkeyed := h.keyed
  rw [WebSocketAugmentedProvider.Keyed, h.listening, List.map_map] at hkeyed
  exact List.inj_on_of_nodup_map hkeyed hlive hother heq

/-- What the provider does for a registration of a function that is not registered. -/
structure Registers (this next : WebSocketAugmentedProvider Receipt)
    (registration : Registration) : Prop where
  blockListeners : next.blockListeners = this.blockListeners ++ [registration.entry]
  fetching : (next.fetching.map fun fetch => (fetch.key, fetch.once)) =
    (this.fetching.map fun fetch => (fetch.key, fetch.once)) ++
      if registration.fetches then [(registration.listener, registration.once)] else []
  deferred : next.deferred = this.deferred

/-- Adding the listener registers it, after its fetch has started. -/
theorem registers_addBlockListener {this started : WebSocketAugmentedProvider Receipt}
    {registration : Registration} (hfree : this.has registration.listener = false)
    (hlisteners : started.blockListeners = this.blockListeners)
    (hfetching : (started.fetching.map fun fetch => (fetch.key, fetch.once)) =
      (this.fetching.map fun fetch => (fetch.key, fetch.once)) ++
        if registration.fetches then [(registration.listener, registration.once)] else [])
    (hdeferred : started.deferred = this.deferred) :
    Registers this (started.addBlockListener registration.listener registration.blockListener)
      registration := by
  obtain ⟨hadded, hsame, hcalls⟩ := WebSocketAugmentedProvider.addBlockListener_effect started
    registration.listener registration.blockListener
  have hidle : started.has registration.listener = false := by
    rw [WebSocketAugmentedProvider.has, hlisteners]
    exact hfree
  rw [hidle, if_neg Bool.false_ne_true, hlisteners] at hadded
  exact ⟨hadded, hsame ▸ hfetching, hcalls.trans hdeferred⟩

theorem registers_on {this : WebSocketAugmentedProvider Receipt} {registration : Registration}
    (hfree : this.has registration.listener = false) (honce : registration.once = false) :
    Registers this (this.on registration.eventName registration.listener) registration := by
  obtain ⟨number, eventName, listener, once⟩ := registration
  subst honce
  cases eventName with
  | block =>
      exact @registers_addBlockListener _ _ this ⟨number, .block, listener, false⟩ hfree rfl
        (List.append_nil _).symm rfl
  | transactionHash hash =>
      exact @registers_addBlockListener _ _ (this.fetchReceipt ⟨listener, hash, none, false⟩)
        ⟨number, .transactionHash hash, listener, false⟩ hfree rfl List.map_append rfl

theorem registers_once {this : WebSocketAugmentedProvider Receipt} {registration : Registration}
    (hfree : this.has registration.listener = false) (honce : registration.once = true) :
    Registers this (this.once registration.eventName registration.listener) registration := by
  obtain ⟨number, eventName, listener, once⟩ := registration
  subst honce
  cases eventName with
  | block =>
      exact @registers_addBlockListener _ _ this ⟨number, .block, listener, true⟩ hfree rfl
        (List.append_nil _).symm rfl
  | transactionHash hash =>
      exact @registers_addBlockListener _ _ (this.fetchReceipt ⟨listener, hash, none, true⟩)
        ⟨number, .transactionHash hash, listener, true⟩ hfree rfl List.map_append rfl

theorem agree_register (h : subscriptions.Agree) {next : WebSocketAugmentedProvider Receipt}
    (hkeyed : next.Keyed) {eventName : EventType} {listener : Nat} {once : Bool}
    (hregisters : Registers subscriptions.provider next
      ⟨subscriptions.ledger.registered, eventName, listener, once⟩) :
    Agree ⟨next, subscriptions.ledger.register eventName listener once⟩ where
  keyed := hkeyed
  listening := by
    rw [hregisters.blockListeners, h.listening, ListenerLedger.register, List.map_append]
    rfl
  fetching := by
    rw [hregisters.fetching, h.fetching, ListenerLedger.register, List.map_append]
    congr 1
    split <;> rfl
  delivered := hregisters.deferred.trans h.delivered

/-- A function that is registered for the event only is cancelled in both. -/
theorem agree_cancel (h : subscriptions.Agree) {eventName : EventType} {listener : Nat}
    (hseparate : ∀ registration ∈ subscriptions.ledger.live, registration.listener = listener →
      registration.eventName = eventName) :
    Agree ⟨subscriptions.provider.off eventName listener,
      subscriptions.ledger.cancel eventName listener⟩ := by
  obtain ⟨hlisteners, hfetching, hdeferred⟩ :=
    WebSocketAugmentedProvider.removeBlockListener_effect subscriptions.provider listener
  refine ⟨WebSocketAugmentedProvider.keyed_removeBlockListener h.keyed listener, ?_, ?_, ?_⟩
  · calc
      (subscriptions.provider.off eventName listener).blockListeners =
          subscriptions.provider.blockListeners.filter fun entry => entry.1 != listener :=
        hlisteners
      _ = (subscriptions.ledger.live.filter
            fun registration => registration.listener != listener).map Registration.entry := by
        rw [h.listening, List.filter_map]
        rfl
      _ = (subscriptions.ledger.cancel eventName listener).live.map Registration.entry := ?_
    apply congrArg
    apply List.filter_congr
    intro registration hlive
    rw [Bool.eq_iff_iff, bne_iff_ne, decide_eq_true_iff]
    exact ⟨fun hother hboth => hother hboth.2,
      fun hkept hlistener => hkept ⟨hseparate registration hlive hlistener, hlistener⟩⟩
  · exact (congrArg _ hfetching).trans h.fetching
  · exact hdeferred.trans h.delivered

theorem filter_blockListeners (live : List Registration) :
    ((live.map Registration.entry).filter fun entry => entry.2 != .passOnce) =
      (live.filter fun registration => registration.fetches || !registration.once).map
        Registration.entry := by
  rw [List.filter_map]
  congr 2
  funext registration
  obtain ⟨number, eventName, listener, once⟩ := registration
  cases eventName <;> cases once <;> rfl

theorem filterMap_startedFetch (blockNumber : Nat) (live : List Registration) :
    ((live.map Registration.entry).filterMap
        (WebSocketAugmentedProvider.startedFetch blockNumber)).map
          (fun fetch => (fetch.key, fetch.once)) =
      (live.filter Registration.fetches).map fun registration =>
        (registration.listener, registration.once) := by
  induction live with
  | nil => rfl
  | cons registration live ih =>
      obtain ⟨number, eventName, listener, once⟩ := registration
      cases eventName with
      | block => cases once <;> exact ih
      | transactionHash hash => cases once <;> exact congrArg (List.cons _) ih

theorem filterMap_passedBlock (blockNumber : Nat) (live : List Registration) :
    (live.map Registration.entry).filterMap
        (@WebSocketAugmentedProvider.passedBlock Receipt blockNumber) =
      (live.filter fun registration => !registration.fetches).map fun registration =>
        (registration.listener, .block blockNumber) := by
  induction live with
  | nil => rfl
  | cons registration live ih =>
      obtain ⟨number, eventName, listener, once⟩ := registration
      cases eventName with
      | block => cases once <;> exact congrArg (List.cons _) ih
      | transactionHash hash => cases once <;> exact ih

theorem agree_dispatch (h : subscriptions.Agree) :
    Agree ⟨subscriptions.provider.dispatch,
      subscriptions.ledger.dispatch subscriptions.provider.seenBlock⟩ := by
  obtain ⟨hlisteners, hfetching, hdeferred⟩ := WebSocketAugmentedProvider.dispatch_effect h.keyed
  refine ⟨?_, ?_, ?_, ?_⟩
  · apply WebSocketAugmentedProvider.keyed_of_sublist h.keyed
    rw [hlisteners]
    exact List.filter_sublist
  · rw [hlisteners, h.listening]
    exact filter_blockListeners _
  · rw [hfetching, List.map_append, h.fetching, h.listening, filterMap_startedFetch,
      ← List.map_append]
    rfl
  · rw [hdeferred, h.delivered, h.listening, filterMap_passedBlock, ListenerLedger.dispatch,
      List.map_append, List.map_map]
    rfl

/-- A receipt of a live registration is delivered in both. That of another is dropped in both,
as its function is not registered. -/
theorem agree_complete (h : subscriptions.Agree) {fetch : ReceiptFetch}
    {registration : Registration} (hkey : fetch.key = registration.listener)
    (honce : fetch.once = registration.once) (receipt : Receipt)
    (hseparate : registration ∉ subscriptions.ledger.live →
      ∀ other ∈ subscriptions.ledger.live, other.listener ≠ registration.listener) :
    Agree ⟨subscriptions.provider.passReceipt fetch (some receipt),
      subscriptions.ledger.complete registration (some receipt)⟩ := by
  simp only [WebSocketAugmentedProvider.passReceipt, ListenerLedger.complete]
  by_cases hlive : registration ∈ subscriptions.ledger.live
  · have hhas : subscriptions.provider.has fetch.key = true :=
      h.has_iff.mpr ⟨registration, hlive, hkey.symm⟩
    rw [if_pos hhas, if_pos hlive]
    have hdelivered : subscriptions.provider.deferred ++
          [(fetch.key, Notification.receipt receipt)] =
        (subscriptions.ledger.delivered ++ [(registration, Notification.receipt receipt)]).map
          fun delivery => (delivery.1.listener, delivery.2) := by
      rw [List.map_append, h.delivered, hkey]
      rfl
    by_cases hends : registration.once = true
    · rw [if_pos (honce.trans hends)]
      refine ⟨?_, ?_, h.fetching, hdelivered⟩
      · exact WebSocketAugmentedProvider.keyed_of_sublist h.keyed List.filter_sublist
      · calc
          (subscriptions.provider.blockListeners.filter fun entry => entry.1 != fetch.key) =
              (subscriptions.ledger.live.filter
                fun other => other.listener != registration.listener).map Registration.entry := by
            rw [h.listening, List.filter_map, hkey]
            rfl
          _ = (subscriptions.ledger.live.filter
                fun other => other != registration).map Registration.entry := ?_
          _ = _ := by rw [if_pos hends]
        apply congrArg
        apply List.filter_congr
        intro other hother
        rw [Bool.eq_iff_iff, bne_iff_ne, bne_iff_ne, not_iff_not]
        exact ⟨h.eq_of_listener_eq hother hlive, congrArg Registration.listener⟩
    · rw [if_neg fun hfetch => hends (honce.symm.trans hfetch), if_neg hends]
      exact ⟨h.keyed, h.listening, h.fetching, hdelivered⟩
  · have hidle : ¬ subscriptions.provider.has fetch.key = true := by
      rw [Bool.not_eq_true]
      apply h.has_eq_false
      rw [hkey]
      exact hseparate hlive
    rw [if_neg hidle, if_neg hlive]
    exact h

/-- A fetch has its registration at the same index. -/
theorem Agree.getElem?_fetching (h : subscriptions.Agree) (index : Nat) :
    (subscriptions.provider.fetching[index]?).map (fun fetch => (fetch.key, fetch.once)) =
      (subscriptions.ledger.fetching[index]?).map fun registration =>
        (registration.listener, registration.once) := by
  rw [← List.getElem?_map, ← List.getElem?_map, h.fetching]

theorem Agree.eraseIdx (h : subscriptions.Agree) (index : Nat) :
    Agree ⟨{ subscriptions.provider with
        fetching := subscriptions.provider.fetching.eraseIdx index },
      { subscriptions.ledger with
        fetching := subscriptions.ledger.fetching.eraseIdx index }⟩ where
  keyed := h.keyed
  listening := h.listening
  fetching := by
    rw [← List.eraseIdx_map, ← List.eraseIdx_map, h.fetching]
  delivered := h.delivered

/-- What a step leaves alone in the provider stays in agreement with the ledger. -/
theorem Agree.of_sameListeners (h : subscriptions.Agree)
    {next : WebSocketAugmentedProvider Receipt} (hkeyed : next.Keyed)
    (hsame : WebSocketAugmentedProvider.SameListeners subscriptions.provider next) :
    Agree ⟨next, subscriptions.ledger⟩ where
  keyed := hkeyed
  listening := hsame.blockListeners.trans h.listening
  fetching := (congrArg _ hsame.fetching).trans h.fetching
  delivered := hsame.deferred.trans h.delivered

/-- Separate steps keep the provider in agreement with its ledger. -/
theorem agree_step (h : subscriptions.Agree) {event : Event Receipt}
    (hseparate : subscriptions.Separate event) : (subscriptions.step event).Agree := by
  have hkeyed := WebSocketAugmentedProvider.keyed_step h.keyed event
  cases event with
  | on eventName listener =>
      exact agree_register h hkeyed
        (@registers_on _ _ ⟨_, eventName, listener, false⟩ (h.has_eq_false hseparate) rfl)
  | once eventName listener =>
      exact agree_register h hkeyed
        (@registers_once _ _ ⟨_, eventName, listener, true⟩ (h.has_eq_false hseparate) rfl)
  | off eventName listener => exact agree_cancel h hseparate
  | dispatch =>
      simp only [step, WebSocketAugmentedProvider.step, ListenerLedger.step]
      split
      · exact agree_dispatch h
      · exact h
  | fetched index receipt =>
      have hindex := h.getElem?_fetching index
      simp only [step, WebSocketAugmentedProvider.step, ListenerLedger.step]
      cases hfetch : subscriptions.provider.fetching[index]? with
      | none =>
          rw [hfetch, Option.map_none, eq_comm, Option.map_eq_none_iff] at hindex
          rw [hindex]
          exact h
      | some fetch =>
          rw [hfetch, Option.map_some, eq_comm, Option.map_eq_some_iff] at hindex
          obtain ⟨registration, hregistration, hsame⟩ := hindex
          rw [hregistration]
          obtain ⟨hkey, honce⟩ := Prod.mk.inj hsame
          cases receipt with
          | none => exact h.eraseIdx index
          | some receipt =>
              exact agree_complete (h.eraseIdx index) hkey.symm honce.symm receipt
                (hseparate registration hregistration)
  | failed index => exact h.eraseIdx index
  | block | openWebSocket | closeWebSocket | closed | reconnect =>
      exact h.of_sameListeners hkeyed (WebSocketAugmentedProvider.sameListeners_step trivial)

theorem agree_initial : (initial : Subscriptions Receipt).Agree :=
  ⟨List.nodup_nil, rfl, rfl, rfl⟩

theorem Agree.independent (h : subscriptions.Agree) (hreports : subscriptions.provider.Reports) :
    subscriptions.Independent where
  listening := h.listening
  delivered := h.delivered
  reported := by
    intro hlive
    apply hreports
    rw [h.listening]
    exact fun hempty => hlive (List.map_eq_nil_iff.mp hempty)

/-- In a run of separate steps the registrations are independent in every state. -/
theorem independent_run {events : List (Event Receipt)}
    (h : EventRun.Meets step Separate initial events) :
    ∀ earlier later, events = earlier ++ later →
      (EventRun.run step (initial : Subscriptions Receipt) earlier).Independent := by
  rintro earlier later rfl
  have hearlier := ((EventRun.meets_append step Separate initial earlier later).mp h).1
  have hkeep (state : Subscriptions Receipt) (event : Event Receipt)
      (hstate : state.Agree ∧ state.provider.Reports) (hseparate : state.Separate event) :
      (state.step event).Agree ∧ (state.step event).provider.Reports :=
    ⟨agree_step hstate.1 hseparate, WebSocketAugmentedProvider.reports_step hstate.2 event⟩
  obtain ⟨hagree, hreports⟩ := EventRun.run_invariant_of_meets step hkeep
    ⟨agree_initial, fun hne => absurd rfl hne⟩ hearlier
  exact hagree.independent hreports

/-- A function listens for blocks, and again after `off`, while receipts of another one come. -/
theorem independent_run_again :
    let events : List (Event Nat) :=
      [.on .block 0, .once (.transactionHash "0xab") 1, .block .base 7, .dispatch,
        .fetched 1 (some 5), .off .block 0, .on .block 0, .fetched 0 (some 5)]
    EventRun.Meets step Separate initial events ∧
      (EventRun.run step (initial : Subscriptions Nat) events).provider.deferred =
        [(0, .block 7), (1, .receipt 5)] ∧
      (EventRun.run step (initial : Subscriptions Nat) events).Independent := by
  intro events
  have hmeets : EventRun.Meets step Separate initial events := by decide
  exact ⟨hmeets, rfl, independent_run hmeets events [] rfl⟩

/-- One function listens for blocks and for a receipt. Cancelling the latter cancels both, and
a block that another function is called with is not delivered to it. -/
theorem off_cancels_other_event :
    let events : List (Event Nat) :=
      [.on .block 0, .on .block 1, .on (.transactionHash "0xab") 1,
        .off (.transactionHash "0xab") 1, .block .base 7, .dispatch]
    let last := EventRun.run step (initial : Subscriptions Nat) events
    last.ledger.delivered = [(⟨0, .block, 0, false⟩, .block 7), (⟨1, .block, 1, false⟩, .block 7)] ∧
      last.provider.deferred = [(0, .block 7)] ∧ ¬ last.Independent := by
  refine ⟨rfl, rfl, ?_⟩
  intro h
  have hdelivered := congrArg List.length h.delivered
  exact absurd hdelivered (by decide)

end Subscriptions

end HLiquity
