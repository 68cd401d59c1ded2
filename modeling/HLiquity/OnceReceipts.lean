import HLiquity.ListenerEffects
import Mathlib.Data.List.Perm.Basic

/-!
# Receipts for a listener that listens once

A listener that is registered a single time with `once` for the hash of a transaction may
have many receipts that are being fetched for it, one from its registration and one from
every dispatch. They complete in any order. The listener is removed in the step in which
the first call of it is deferred, so no other completion finds it active.
-/

namespace HLiquity

/-- The provider with the calls of listeners that its timers have made. -/
structure ProviderCalls (Receipt : Type) where
  provider : WebSocketAugmentedProvider Receipt
  handed : List (Nat × Notification Receipt)

namespace ProviderCalls

open WebSocketAugmentedProvider (Event)

variable {Receipt : Type}

/-- Either the provider takes a step, or the timer of a deferred call fires. -/
inductive CallEvent (Receipt : Type) where
  | provider (event : Event Receipt)
  | timer (index : Nat)

def initial : ProviderCalls Receipt := ⟨WebSocketAugmentedProvider.initial, []⟩

def step (calls : ProviderCalls Receipt) : CallEvent Receipt → ProviderCalls Receipt
  | .provider event => { calls with provider := calls.provider.step event }
  | .timer index =>
      match calls.provider.deferred[index]? with
      | none => calls
      | some call =>
          { provider := { calls.provider with
              deferred := calls.provider.deferred.eraseIdx index }
            handed := calls.handed ++ [call] }

/-- What a listener has been handed. -/
def handedTo (calls : ProviderCalls Receipt) (listener : Nat) : List (Notification Receipt) :=
  (calls.handed.filter fun call => call.1 == listener).map Prod.snd

/-- What the deferred calls are going to hand to a listener. -/
def dueTo (calls : ProviderCalls Receipt) (listener : Nat) : List (Notification Receipt) :=
  (calls.provider.deferred.filter fun call => call.1 == listener).map Prod.snd

/-- The event registers a listener. -/
def Registers (listener : Nat) : CallEvent Receipt → Prop
  | .provider (.on _ registered) | .provider (.once _ registered) => registered = listener
  | _ => False

end ProviderCalls

namespace WebSocketAugmentedProvider

variable {Receipt : Type} {this next : WebSocketAugmentedProvider Receipt} {listener : Nat}

/-- A listener listens for receipts only, and once. -/
structure ListensOnce (this : WebSocketAugmentedProvider Receipt) (listener : Nat) : Prop where
  listens : ∀ entry ∈ this.blockListeners, entry.1 = listener →
    ∃ hash, entry.2 = .passReceiptOnce hash
  fetches : ∀ fetch ∈ this.fetching, fetch.key = listener → fetch.once = true

/-- A step that neither adds a listener nor fetches for it other than once. -/
structure AddsNothing (this next : WebSocketAugmentedProvider Receipt) (listener : Nat) :
    Prop where
  listeners : ∀ entry ∈ next.blockListeners, entry.1 = listener → entry ∈ this.blockListeners
  fetches : ∀ fetch ∈ next.fetching, fetch.key = listener →
    fetch ∈ this.fetching ∨ fetch.once = true

/-- The deferred calls of a listener. -/
def callsOf (this : WebSocketAugmentedProvider Receipt) (listener : Nat) :
    List (Nat × Notification Receipt) :=
  this.deferred.filter fun call => call.1 == listener

theorem AddsNothing.listensOnce (h : AddsNothing this next listener)
    (honce : this.ListensOnce listener) : next.ListensOnce listener where
  listens := fun entry hentry hkey => honce.listens entry (h.listeners entry hentry hkey) hkey
  fetches := by
    intro fetch hfetch hkey
    cases h.fetches fetch hfetch hkey with
    | inl hbefore => exact honce.fetches fetch hbefore hkey
    | inr honceFetch => exact honceFetch

theorem AddsNothing.has_of_has (h : AddsNothing this next listener)
    (hhas : next.has listener = true) : this.has listener = true := by
  obtain ⟨entry, hentry, hkey⟩ := has_iff.mp hhas
  exact has_iff.mpr ⟨entry, h.listeners entry hentry hkey, hkey⟩

theorem SameListeners.addsNothing (h : SameListeners this next) :
    AddsNothing this next listener where
  listeners := fun _ hentry _ => h.blockListeners ▸ hentry
  fetches := fun _ hfetch _ => .inl (h.fetching ▸ hfetch)

theorem SameListeners.callsOf_eq (h : SameListeners this next) :
    next.callsOf listener = this.callsOf listener := by
  rw [callsOf, callsOf, h.deferred]

theorem AddsNothing.trans {last : WebSocketAugmentedProvider Receipt}
    (h : AddsNothing this next listener) (hnext : AddsNothing next last listener) :
    AddsNothing this last listener where
  listeners := fun entry hentry hkey => h.listeners entry (hnext.listeners entry hentry hkey) hkey
  fetches := by
    intro fetch hfetch hkey
    cases hnext.fetches fetch hfetch hkey with
    | inl hbefore => exact h.fetches fetch hbefore hkey
    | inr honce => exact .inr honce

theorem addsNothing_addBlockListener {other : Nat} (hother : other ≠ listener)
    (blockListener : BlockListener) :
    AddsNothing this (this.addBlockListener other blockListener) listener := by
  obtain ⟨hlisteners, hfetching, _⟩ := addBlockListener_effect this other blockListener
  constructor
  · intro entry hentry hkey
    rw [hlisteners] at hentry
    split at hentry
    · exact hentry
    · rw [List.mem_append, List.mem_singleton] at hentry
      cases hentry with
      | inl hbefore => exact hbefore
      | inr hadded =>
          subst hadded
          exact absurd hkey hother
  · intro fetch hfetch _
    exact .inl (hfetching ▸ hfetch)

theorem addsNothing_fetchReceipt {fetch : ReceiptFetch}
    (hfetch : fetch.key = listener → fetch.once = true) :
    AddsNothing this (this.fetchReceipt fetch) listener where
  listeners := fun _ hentry _ => hentry
  fetches := by
    intro other hother hkey
    change other ∈ this.fetching ++ [fetch] at hother
    rw [List.mem_append, List.mem_singleton] at hother
    cases hother with
    | inl hbefore => exact .inl hbefore
    | inr hadded =>
        subst hadded
        exact .inr (hfetch hkey)

/-- Subscribing another function adds nothing of a listener and defers no call. -/
theorem subscribe_other {other : Nat} (hother : other ≠ listener) (eventName : EventType) :
    (AddsNothing this (this.on eventName other) listener ∧
        (this.on eventName other).deferred = this.deferred) ∧
      AddsNothing this (this.once eventName other) listener ∧
        (this.once eventName other).deferred = this.deferred := by
  cases eventName with
  | block =>
      exact ⟨⟨addsNothing_addBlockListener hother _, (addBlockListener_effect _ _ _).2.2⟩,
        addsNothing_addBlockListener hother _, (addBlockListener_effect _ _ _).2.2⟩
  | transactionHash hash =>
      constructor
      · exact ⟨(addsNothing_fetchReceipt fun hkey => absurd hkey hother).trans
          (addsNothing_addBlockListener hother _), (addBlockListener_effect _ _ _).2.2⟩
      · exact ⟨(addsNothing_fetchReceipt fun hkey => absurd hkey hother).trans
          (addsNothing_addBlockListener hother _), (addBlockListener_effect _ _ _).2.2⟩

theorem addsNothing_removeBlockListener (key : Nat) :
    AddsNothing this (this.removeBlockListener key) listener := by
  obtain ⟨hlisteners, hfetching, _⟩ := removeBlockListener_effect this key
  constructor
  · intro entry hentry _
    rw [hlisteners] at hentry
    exact List.mem_of_mem_filter hentry
  · intro fetch hfetch _
    exact .inl (hfetching ▸ hfetch)

/-- A dispatch calls a listener that listens for receipts to fetch only. -/
theorem dispatch_once (h : this.Keyed) (honce : this.ListensOnce listener) :
    AddsNothing this this.dispatch listener ∧
      this.dispatch.callsOf listener = this.callsOf listener := by
  obtain ⟨hlisteners, hfetching, hdeferred⟩ := dispatch_effect h
  refine ⟨⟨?_, ?_⟩, ?_⟩
  · intro entry hentry _
    rw [hlisteners] at hentry
    exact List.mem_of_mem_filter hentry
  · intro fetch hfetch hkey
    rw [hfetching, List.mem_append, List.mem_filterMap] at hfetch
    obtain hbefore | ⟨⟨key, kind⟩, hentry, hstarted⟩ := hfetch
    · exact .inl hbefore
    · cases kind with
      | pass | passOnce => cases hstarted
      | passReceipt hash =>
          cases hstarted
          obtain ⟨_, hkind⟩ := honce.listens _ hentry hkey
          cases hkind
      | passReceiptOnce hash =>
          cases hstarted
          exact .inr rfl
  · rw [callsOf, callsOf, hdeferred, List.filter_append]
    rw [List.append_right_eq_self, List.filter_eq_nil_iff]
    intro call hcall
    obtain ⟨⟨key, kind⟩, hentry, hpassed⟩ := List.mem_filterMap.mp hcall
    rw [beq_iff_eq]
    rintro hkey
    cases kind with
    | passReceipt | passReceiptOnce => cases hpassed
    | pass | passOnce =>
        cases hpassed
        obtain ⟨_, hkind⟩ := honce.listens _ hentry hkey
        cases hkind

/-- A step defers a receipt for a listener and removes the listener. -/
structure Hands (this next : WebSocketAugmentedProvider Receipt) (listener : Nat)
    (receipt : Receipt) : Prop where
  active : this.has listener = true
  removed : next.has listener = false
  deferred : next.deferred = this.deferred ++ [(listener, .receipt receipt)]

theorem addsNothing_of_subset (hlisteners : next.blockListeners ⊆ this.blockListeners)
    (hfetching : next.fetching ⊆ this.fetching) : AddsNothing this next listener :=
  ⟨fun _ hentry _ => hlisteners hentry, fun _ hfetch _ => .inl (hfetching hfetch)⟩

/-- A receipt is handed to an active listener only, which is then removed. -/
theorem passReceipt_once (honce : this.ListensOnce listener) {fetch : ReceiptFetch}
    (hfetch : fetch.key = listener → fetch.once = true) (receipt : Receipt) :
    AddsNothing this (this.passReceipt fetch (some receipt)) listener ∧
      ((this.passReceipt fetch (some receipt)).callsOf listener = this.callsOf listener ∨
        Hands this (this.passReceipt fetch (some receipt)) listener receipt) := by
  simp only [passReceipt]
  by_cases hactive : this.has fetch.key = true
  · rw [if_pos hactive]
    by_cases hkey : fetch.key = listener
    · subst hkey
      rw [if_pos (hfetch rfl)]
      refine ⟨addsNothing_of_subset (List.filter_subset_self _) (List.Subset.refl _), .inr ?_⟩
      refine ⟨hactive, ?_, rfl⟩
      rw [← Bool.not_eq_true, has_removeMe]
      exact fun hkept => hkept.2 rfl
    · have hcalls : (this.defer fetch.key (.receipt receipt)).callsOf listener =
          this.callsOf listener := by
        simp only [callsOf, defer, List.filter_append]
        rw [List.append_right_eq_self, List.filter_eq_nil_iff]
        intro call hcall
        rw [List.mem_singleton.mp hcall, beq_iff_eq]
        exact hkey
      split
      · exact ⟨addsNothing_of_subset (List.filter_subset_self _) (List.Subset.refl _),
          .inl hcalls⟩
      · exact ⟨addsNothing_of_subset (List.Subset.refl _) (List.Subset.refl _), .inl hcalls⟩
  · rw [if_neg hactive]
    exact ⟨addsNothing_of_subset (List.Subset.refl _) (List.Subset.refl _), .inl rfl⟩

/-- A step that does not register a listener defers a call of it only for a receipt that was
fetched while it is active, and then removes it. -/
theorem step_once (h : this.Keyed) (honce : this.ListensOnce listener)
    {event : Event Receipt} (hother : ¬ ProviderCalls.Registers listener (.provider event)) :
    AddsNothing this (this.step event) listener ∧
      ((this.step event).callsOf listener = this.callsOf listener ∨
        ∃ index receipt, event = .fetched index (some receipt) ∧
          Hands this (this.step event) listener receipt) := by
  have hleaves (hleaves : LeavesListeners event) : AddsNothing this (this.step event) listener ∧
      (this.step event).callsOf listener = this.callsOf listener :=
    ⟨(sameListeners_step hleaves).addsNothing, (sameListeners_step hleaves).callsOf_eq⟩
  cases event with
  | on eventName registered =>
      obtain ⟨⟨hadds, hdeferred⟩, _⟩ := @subscribe_other _ this _ _ hother eventName
      exact ⟨hadds, .inl (by rw [callsOf, callsOf, step, hdeferred])⟩
  | once eventName registered =>
      obtain ⟨_, hadds, hdeferred⟩ := @subscribe_other _ this _ _ hother eventName
      exact ⟨hadds, .inl (by rw [callsOf, callsOf, step, hdeferred])⟩
  | off eventName removed =>
      have hdeferred := (removeBlockListener_effect this removed).2.2
      exact ⟨addsNothing_removeBlockListener removed,
        .inl (by rw [callsOf, callsOf, step, off, hdeferred])⟩
  | dispatch =>
      simp only [step]
      split
      · exact ⟨(dispatch_once h honce).1, .inl (dispatch_once h honce).2⟩
      · exact ⟨addsNothing_of_subset (List.Subset.refl _) (List.Subset.refl _), .inl rfl⟩
  | fetched index receipt =>
      simp only [step]
      cases hfetch : this.fetching[index]? with
      | none => exact ⟨addsNothing_of_subset (List.Subset.refl _) (List.Subset.refl _), .inl rfl⟩
      | some fetch =>
          have htaken : AddsNothing this
              { this with fetching := this.fetching.eraseIdx index } listener :=
            addsNothing_of_subset (List.Subset.refl _) List.eraseIdx_subset
          cases receipt with
          | none => exact ⟨htaken, .inl rfl⟩
          | some receipt =>
              obtain ⟨hadds, hcalls⟩ := passReceipt_once (htaken.listensOnce honce)
                (honce.fetches fetch (List.mem_of_getElem? hfetch)) receipt
              refine ⟨htaken.trans hadds, hcalls.imp id ?_⟩
              intro hhands
              exact ⟨index, receipt, rfl, hhands.active, hhands.removed, hhands.deferred⟩
  | failed index =>
      exact ⟨addsNothing_of_subset (List.Subset.refl _) List.eraseIdx_subset, .inl rfl⟩
  | block | openWebSocket | closeWebSocket | closed | reconnect =>
      exact ⟨(hleaves trivial).1, .inl (hleaves trivial).2⟩

end WebSocketAugmentedProvider

namespace ProviderCalls

open WebSocketAugmentedProvider

variable {Receipt : Type} {calls : ProviderCalls Receipt} {listener : Nat}

/-- The calls of a listener that are made or due. -/
def completed (calls : ProviderCalls Receipt) (listener : Nat) :
    List (Nat × Notification Receipt) :=
  (calls.handed.filter fun call => call.1 == listener) ++ calls.provider.callsOf listener

/-- The invariant of runs in which a listener listens once. -/
structure ListensOnce (calls : ProviderCalls Receipt) (listener : Nat) : Prop where
  keyed : calls.provider.Keyed
  once : calls.provider.ListensOnce listener

/-- A timer moves a call from those that are due to those that are made. -/
theorem timer_perm (index : Nat) :
    ((calls.step (.timer index)).completed listener).Perm (calls.completed listener) := by
  simp only [step]
  cases hcall : calls.provider.deferred[index]? with
  | none => exact .refl _
  | some call =>
      obtain ⟨hindex, rfl⟩ := List.getElem?_eq_some_iff.mp hcall
      simp only [completed, callsOf]
      rw [← List.filter_append, ← List.filter_append, List.append_assoc]
      apply List.Perm.filter
      exact (List.getElem_cons_eraseIdx_perm hindex).append_left calls.handed

/-- A step that does not register a listener completes a call of it only for a receipt that
was fetched while it is active, and then removes it. -/
theorem step_completed (h : calls.ListensOnce listener) {event : CallEvent Receipt}
    (hother : ¬ Registers listener event) :
    (calls.step event).ListensOnce listener ∧
      ((calls.step event).provider.has listener = true →
        calls.provider.has listener = true) ∧
      (((calls.step event).completed listener).Perm (calls.completed listener) ∨
        ∃ index receipt, event = .provider (.fetched index (some receipt)) ∧
          calls.provider.has listener = true ∧
          (calls.step event).provider.has listener = false ∧
          (calls.step event).completed listener =
            calls.completed listener ++ [(listener, .receipt receipt)]) := by
  cases event with
  | timer index =>
      have hprovider : (calls.step (.timer index)).provider.blockListeners =
            calls.provider.blockListeners ∧
          (calls.step (.timer index)).provider.fetching = calls.provider.fetching := by
        simp only [step]
        split <;> exact ⟨rfl, rfl⟩
      obtain ⟨hlisteners, hfetching⟩ := hprovider
      refine ⟨⟨?_, ?_, ?_⟩, ?_, .inl (timer_perm index)⟩
      · exact keyed_of_sublist h.keyed (hlisteners ▸ .refl _)
      · exact hlisteners ▸ h.once.listens
      · exact hfetching ▸ h.once.fetches
      · rw [has, has, hlisteners]
        exact id
  | provider event =>
      obtain ⟨hadds, hcalls⟩ := step_once h.keyed h.once hother
      refine ⟨⟨keyed_step h.keyed event, hadds.listensOnce h.once⟩, hadds.has_of_has, ?_⟩
      cases hcalls with
      | inl hsame =>
          left
          simp only [completed, step]
          rw [hsame]
      | inr hhands =>
          obtain ⟨index, receipt, rfl, hhands⟩ := hhands
          refine .inr ⟨index, receipt, rfl, hhands.active, hhands.removed, ?_⟩
          simp only [completed, callsOf, step]
          rw [hhands.deferred, List.filter_append, ← List.append_assoc]
          simp

/-- Once a listener is removed, no further call of it completes. -/
theorem run_removed (h : calls.ListensOnce listener)
    (hremoved : calls.provider.has listener = false) {events : List (CallEvent Receipt)}
    (hother : ∀ event ∈ events, ¬ Registers listener event) :
    (EventRun.run step calls events).ListensOnce listener ∧
      (EventRun.run step calls events).provider.has listener = false ∧
      ((EventRun.run step calls events).completed listener).Perm (calls.completed listener) := by
  induction events generalizing calls with
  | nil => exact ⟨h, hremoved, .refl _⟩
  | cons event events ih =>
      rw [List.forall_mem_cons] at hother
      obtain ⟨hnext, hhas, hcompleted⟩ := step_completed h hother.1
      have hstill : (calls.step event).provider.has listener = false := by
        rw [← Bool.not_eq_true] at hremoved ⊢
        exact fun hactive => hremoved (hhas hactive)
      obtain ⟨hend, hendRemoved, hperm⟩ := ih hnext hstill hother.2
      refine ⟨hend, hendRemoved, ?_⟩
      cases hcompleted with
      | inl hsame => exact hperm.trans hsame
      | inr hhands =>
          obtain ⟨_, _, _, hactive, _⟩ := hhands
          rw [hremoved] at hactive
          cases hactive

/-- Of all fetches for a listener at most one completes a call, for its receipt. -/
theorem run_completed (h : calls.ListensOnce listener) (hnone : calls.completed listener = [])
    {events : List (CallEvent Receipt)} (hother : ∀ event ∈ events, ¬ Registers listener event) :
    (EventRun.run step calls events).completed listener = [] ∨
      ∃ receipt, (EventRun.run step calls events).completed listener =
          [(listener, .receipt receipt)] ∧
        (EventRun.run step calls events).provider.has listener = false ∧
        ∃ index, CallEvent.provider (.fetched index (some receipt)) ∈ events := by
  induction events generalizing calls with
  | nil => exact .inl hnone
  | cons event events ih =>
      rw [List.forall_mem_cons] at hother
      obtain ⟨hnext, _, hcompleted⟩ := step_completed h hother.1
      rw [hnone] at hcompleted
      cases hcompleted with
      | inl hsame =>
          refine (ih hnext hsame.eq_nil hother.2).imp id ?_
          rintro ⟨receipt, hlast, hremoved, index, hmem⟩
          exact ⟨receipt, hlast, hremoved, index, List.mem_cons_of_mem _ hmem⟩
      | inr hhands =>
          obtain ⟨index, receipt, rfl, _, hremoved, hcompleted⟩ := hhands
          obtain ⟨_, hendRemoved, hperm⟩ := run_removed hnext hremoved hother.2
          rw [hcompleted] at hperm
          exact .inr ⟨receipt, List.perm_singleton.mp hperm, hendRemoved, index,
            List.mem_cons_self⟩

theorem listensOnce_initial : (initial : ProviderCalls Receipt).ListensOnce listener where
  keyed := List.nodup_nil
  once := ⟨fun _ hentry => absurd hentry List.not_mem_nil,
    fun _ hfetch => absurd hfetch List.not_mem_nil⟩

/-- The registration makes the listener listen once and completes nothing. -/
theorem once_listensOnce (h : calls.ListensOnce listener)
    (hremoved : calls.provider.has listener = false) (hash : String) :
    (calls.step (.provider (.once (.transactionHash hash) listener))).ListensOnce listener ∧
      (calls.step (.provider (.once (.transactionHash hash) listener))).completed listener =
        calls.completed listener := by
  let fetching := calls.provider.fetchReceipt ⟨listener, hash, none, true⟩
  obtain ⟨hlisteners, hfetching, hdeferred⟩ :=
    addBlockListener_effect fetching listener (.passReceiptOnce hash)
  have hidle : fetching.has listener = false := hremoved
  rw [hidle, if_neg Bool.false_ne_true] at hlisteners
  have hfetches : AddsNothing calls.provider fetching listener :=
    addsNothing_fetchReceipt fun _ => rfl
  refine ⟨⟨keyed_step h.keyed _, ?_, ?_⟩, ?_⟩
  · intro entry hentry hkey
    rw [step, WebSocketAugmentedProvider.step, once, hlisteners, List.mem_append,
      List.mem_singleton] at hentry
    cases hentry with
    | inl hbefore => exact h.once.listens entry hbefore hkey
    | inr hadded => exact ⟨hash, congrArg Prod.snd hadded⟩
  · intro fetch hfetch hkey
    rw [step, WebSocketAugmentedProvider.step, once, hfetching] at hfetch
    exact (hfetches.listensOnce h.once).fetches fetch hfetch hkey
  · rw [completed, callsOf, step, WebSocketAugmentedProvider.step, once, hdeferred]
    rfl

theorem run_listensOnce (h : calls.ListensOnce listener) {events : List (CallEvent Receipt)}
    (hother : ∀ event ∈ events, ¬ Registers listener event) :
    (EventRun.run step calls events).ListensOnce listener := by
  have hkeep (state : ProviderCalls Receipt) (event : CallEvent Receipt)
      (hstate : state.ListensOnce listener) (hevent : ¬ Registers listener event) :
      (state.step event).ListensOnce listener := (step_completed hstate hevent).1
  exact EventRun.run_invariant_of_meets step hkeep h (EventRun.meets_of_forall step hother calls)

/-- After `off` no further call of the listener completes. -/
theorem run_off (h : calls.ListensOnce listener) (eventName : EventType)
    {events : List (CallEvent Receipt)} (hother : ∀ event ∈ events, ¬ Registers listener event) :
    ((EventRun.run step calls (.provider (.off eventName listener) :: events)).completed
      listener).Perm (calls.completed listener) := by
  have hoff : ¬ @Registers Receipt listener (.provider (.off eventName listener)) := id
  obtain ⟨hnext, _, hcompleted⟩ := step_completed h hoff
  have hremoved : (calls.step (.provider (.off eventName listener))).provider.has listener =
      false := by
    have hlisteners := (removeBlockListener_effect calls.provider listener).1
    rw [← Bool.not_eq_true, step, WebSocketAugmentedProvider.step, off, has, hlisteners, ← has,
      has_removeMe]
    exact fun hkept => hkept.2 rfl
  obtain ⟨_, _, hperm⟩ := run_removed hnext hremoved hother
  cases hcompleted with
  | inl hsame => exact hperm.trans hsame
  | inr hhands =>
      obtain ⟨_, _, heq, _⟩ := hhands
      cases heq

theorem handedTo_append_dueTo (calls : ProviderCalls Receipt) (listener : Nat) :
    calls.handedTo listener ++ calls.dueTo listener =
      (calls.completed listener).map Prod.snd := by
  rw [handedTo, dueTo, completed, List.map_append]
  rfl

/-- A listener that is registered a single time, with `once` for the hash of a transaction, is
handed nothing or a single receipt that was fetched, and no longer listens once it is handed
one. What it is handed after `off` was fetched before. -/
theorem once_handed (listener : Nat) (hash : String) (earlier later : List (CallEvent Receipt))
    (hsingle : ∀ event ∈ earlier ++ later, ¬ Registers listener event) :
    let registered := earlier ++ [.provider (.once (.transactionHash hash) listener)]
    let last := EventRun.run step initial (registered ++ later)
    (last.handedTo listener = [] ∨
        ∃ receipt, last.handedTo listener = [.receipt receipt] ∧
          last.provider.has listener = false ∧
          ∃ index, CallEvent.provider (.fetched index (some receipt)) ∈ later) ∧
      ∀ before eventName after, later = before ++ .provider (.off eventName listener) :: after →
        let removed := EventRun.run step initial (registered ++ before)
        ∀ notification ∈ last.handedTo listener,
          notification ∈ removed.handedTo listener ++ removed.dueTo listener := by
  intro registered last
  rw [List.forall_mem_append] at hsingle
  obtain ⟨hearlier, hlater⟩ := hsingle
  obtain ⟨hidle, hidleRemoved, hnone⟩ :=
    run_removed (@listensOnce_initial Receipt listener) rfl hearlier
  obtain ⟨hlistens, hcompleted⟩ := once_listensOnce hidle hidleRemoved hash
  rw [hnone.eq_nil] at hcompleted
  have hregistered : EventRun.run step initial registered = step
      (EventRun.run step initial earlier) (.provider (.once (.transactionHash hash) listener)) := by
    rw [EventRun.run_append]
    rfl
  rw [← hregistered] at hlistens hcompleted
  have hlast : last = EventRun.run step (EventRun.run step initial registered) later :=
    EventRun.run_append _ _ _ _
  constructor
  · have hsplit := handedTo_append_dueTo last listener
    cases run_completed hlistens hcompleted hlater with
    | inl hempty =>
        rw [hlast, hempty] at hsplit
        exact .inl (hlast ▸ (List.append_eq_nil_iff.mp hsplit).1)
    | inr hone =>
        obtain ⟨receipt, hone, hremoved, hfetched⟩ := hone
        rw [hlast, hone, List.map_singleton, List.append_eq_singleton_iff] at hsplit
        rw [← hlast] at hsplit hremoved
        exact hsplit.imp And.left fun hhanded => ⟨receipt, hhanded.1, hremoved, hfetched⟩
  · rintro before eventName after rfl removed notification hnotification
    rw [List.forall_mem_append, List.forall_mem_cons] at hlater
    have hbefore := run_listensOnce hlistens hlater.1
    have hperm := run_off hbefore eventName hlater.2.2
    have hremoved : removed = EventRun.run step (EventRun.run step initial registered) before :=
      EventRun.run_append _ _ _ _
    rw [← EventRun.run_append, ← hlast, ← hremoved] at hperm
    have hmem : notification ∈ last.handedTo listener ++ last.dueTo listener :=
      List.mem_append_left _ hnotification
    rw [handedTo_append_dueTo] at hmem ⊢
    exact (hperm.map Prod.snd).mem_iff.mp hmem

/-- Two receipts are fetched at once and the later one completes first; only it is handed
over. -/
theorem once_handed_raced :
    let raced : List (CallEvent Nat) :=
      [.provider (.block .base 7), .provider .dispatch, .provider (.fetched 1 (some 5)),
        .provider (.fetched 0 (some 4)), .timer 0]
    let registered := [.provider (.once (.transactionHash "0xab") 0)]
    let last := EventRun.run step initial (registered ++ raced)
    last.handedTo 0 = [.receipt 5] ∧ (last.handedTo 0 = [] ∨
      ∃ receipt, last.handedTo 0 = [.receipt receipt] ∧ last.provider.has 0 = false ∧
        ∃ index, CallEvent.provider (.fetched index (some receipt)) ∈ raced) := by
  intro raced registered last
  have hsingle : ∀ event ∈ [] ++ raced, ¬ Registers 0 event := by simp [raced, Registers]
  exact ⟨rfl, (once_handed 0 "0xab" [] raced hsingle).1⟩

end ProviderCalls

end HLiquity
