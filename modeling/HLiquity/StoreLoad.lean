import HLiquity.StoreEvents

/-!
# Loading once

Whatever order the fetches of a store settle in, one of them loads it: the
first that delivers values from which the derived state can be computed. A load
whose derivation throws leaves the store unloaded, and the next fetch loads it
again.
-/

namespace HLiquity

variable {constants : Constants}

/-- The assertions in `_load` and `_update`. -/
def methodAssertions : List Failure :=
  [.assertion "!this._loaded", .assertion "this._baseState && this._derivedState",
    .assertion "this._extraState"]

/-- A call of `_load` that returned. -/
def hasLoaded : StoreMethod × Result Unit → Bool
  | (.load, .ok ()) => true
  | _ => false

namespace StoreSystem

variable {implementation : StoreImplementation constants}

/-- The event delivers values from which the derived state can be computed. -/
def DeliversDerivable (history : Nat → ChainState) (this : StoreSystem implementation)
    (event : StoreEvent) : Prop :=
  ∃ number fetch fetched, this.delivered history event = some (number, fetch, fetched) ∧
    fetched.1.Derivable

/-- What holds of the calls and the callbacks after every event. -/
structure LoadsOnce (this : StoreSystem implementation) : Prop where
  count : this.calls.countP hasLoaded = if this.store.loaded then 1 else 0
  callbacks : if this.store.loaded then
      ∃ params : List (LiquityStoreListenerParams constants implementation.extra),
        this.store.callbacks = .onLoaded :: params.map .notified
    else this.store.callbacks = []
  outcomes : ∀ call ∈ this.calls, call.2 = .ok () ∨ call.2 = .error Decimal.powAssertion

theorem loadsOnce_initial : LoadsOnce (initial : StoreSystem implementation) :=
  ⟨rfl, rfl, fun _ hcall => by cases hcall⟩

/-- A call whose outcome is one of the two possible ones keeps the outcomes. -/
theorem outcomes_called {this : StoreSystem implementation}
    (h : ∀ call ∈ this.calls, call.2 = .ok () ∨ call.2 = .error Decimal.powAssertion)
    (method : StoreMethod) {outcome : Result Unit}
    (houtcome : outcome = .ok () ∨ outcome = .error Decimal.powAssertion)
    (store : HLiquityStore constants implementation.extra) :
    ∀ call ∈ (this.called method outcome store).calls,
      call.2 = .ok () ∨ call.2 = .error Decimal.powAssertion := by
  intro call hcall
  rcases List.mem_append.mp hcall with hbefore | hnow
  · exact h call hbefore
  · rw [List.mem_singleton.mp hnow]
    exact houtcome

theorem countP_called (this : StoreSystem implementation) (method : StoreMethod)
    (outcome : Result Unit) (store : HLiquityStore constants implementation.extra) :
    (this.called method outcome store).calls.countP hasLoaded =
      this.calls.countP hasLoaded + if hasLoaded (method, outcome) then 1 else 0 := by
  simp [called, List.countP_append, List.countP_singleton]

/-- Every delivery keeps it. -/
theorem LoadsOnce.delivery {this next : StoreSystem implementation}
    {fetched : Fetched constants} (h : LoadsOnce this)
    (hdelivery : Delivery this fetched next) : LoadsOnce next := by
  obtain ⟨hcount, hcallbacks, houtcomes⟩ := h
  cases hdelivery with
  | updateThrows hloaded hbefore hnot =>
      refine ⟨?_, hcallbacks, outcomes_called houtcomes _ (.inr rfl) _⟩
      rw [countP_called, hcount]
      rfl
  | updated hloaded hbefore hderivedBefore hextraBefore hderivable hderive =>
      rw [if_pos hloaded] at hcallbacks
      obtain ⟨params, hparams⟩ := hcallbacks
      refine ⟨?_, ?_, outcomes_called houtcomes _ (.inl rfl) _⟩
      · rw [countP_called, hcount]
        rfl
      · obtain ⟨last, hlast⟩ := this.store.updated_callbacks _ _ _
        refine (if_pos hloaded).mpr ⟨params ++ [last], ?_⟩
        rw [List.map_append, ← List.cons_append, ← hparams]
        exact hlast
  | loadThrows hloaded hnot =>
      refine ⟨?_, hcallbacks, outcomes_called houtcomes _ (.inr rfl) _⟩
      rw [countP_called, hcount]
      rfl
  | loaded hloaded hderivable hderive hagain =>
      rw [if_neg (by simp [hloaded])] at hcallbacks hcount
      refine ⟨?_, ?_, outcomes_called houtcomes _ (.inl rfl) _⟩
      · rw [countP_called, hcount]
        rfl
      · obtain ⟨first, hfirst⟩ := HLiquityStore.updated_callbacks
          (this.store.loadedWith fetched.1 _ (some fetched.2)) _ _ _
        refine ⟨[first], hfirst.trans ?_⟩
        rw [HLiquityStore.loadedWith, hcallbacks]
        rfl

/-- Every event keeps what holds of the calls, and the store is loaded after it
exactly when it was before or the event delivers derivable values. -/
theorem loadsOnce_step {history : Nat → ChainState} {this : StoreSystem implementation}
    (hcomplete : this.Complete) (h : LoadsOnce this) (event : StoreEvent) :
    LoadsOnce (step history this event) ∧ ((step history this event).store.loaded = true ↔
      this.store.loaded = true ∨ DeliversDerivable history this event) := by
  rcases step_cases history this event with
    ⟨hnone, hstore, hcalls⟩ | ⟨number, latest, fetch, fetched, hsome, _, _, _, hstep⟩
  · refine ⟨?_, ?_⟩
    · obtain ⟨hcount, hcallbacks, houtcomes⟩ := h
      constructor
      · rw [hstore, hcalls]
        exact hcount
      · rw [hstore]
        exact hcallbacks
      · rw [hcalls]
        exact houtcomes
    · rw [hstore, DeliversDerivable, hnone]
      simp
  · have hsettled : (this.settling number).Complete := hcomplete
    have hsettledOnce : LoadsOnce (this.settling number) := ⟨h.count, h.callbacks, h.outcomes⟩
    have hiff : DeliversDerivable history this event ↔ fetched.1.Derivable := by
      constructor
      · rintro ⟨_, _, _, hagain, hderivable⟩
        rw [hsome] at hagain
        cases hagain
        exact hderivable
      · exact fun hderivable => ⟨number, fetch, fetched, hsome, hderivable⟩
    rw [hstep, hiff]
    rcases deliver_cases hsettled fetch.origin fetched with ⟨hsame, hloaded, _⟩ | ⟨_, hdelivery⟩
    · rw [hsame]
      exact ⟨hsettledOnce, fun _ => .inl hloaded, fun _ => hloaded⟩
    · exact ⟨hsettledOnce.delivery hdelivery, hdelivery.loaded_iff⟩

/-- In every run of either store a load returns at most once, and has returned
exactly if some event delivered derivable values; `onLoaded` is called once,
before every notification; and no method fails one of its assertions. -/
theorem load_once (history : Nat → ChainState) (events : List StoreEvent) :
    let final := EventRun.run (step history) (initial : StoreSystem implementation) events
    final.calls.countP hasLoaded = (if final.store.loaded then 1 else 0) ∧
    (final.store.loaded = true ↔
      EventRun.Fires (step history) (DeliversDerivable history)
        (initial : StoreSystem implementation) events) ∧
    (if final.store.loaded then
        ∃ params : List (LiquityStoreListenerParams constants implementation.extra),
          final.store.callbacks = .onLoaded :: params.map .notified
      else final.store.callbacks = []) ∧
    ∀ call ∈ final.calls, ∀ assertion ∈ methodAssertions, call.2 ≠ .error assertion := by
  intro final
  have hinitial : (initial : StoreSystem implementation).Complete ∧
      LoadsOnce (initial : StoreSystem implementation) := ⟨complete_initial, loadsOnce_initial⟩
  have hkeep (this : StoreSystem implementation) (event : StoreEvent)
      (h : this.Complete ∧ LoadsOnce this) :
      (step history this event).Complete ∧ LoadsOnce (step history this event) :=
    ⟨complete_step h.1 event, (loadsOnce_step h.1 h.2 event).1⟩
  have hfinal : final.Complete ∧ LoadsOnce final :=
    EventRun.run_invariant (step history) hkeep hinitial events
  have hloads (this : StoreSystem implementation) (event : StoreEvent)
      (h : this.Complete ∧ LoadsOnce this) :
      (step history this event).store.loaded = true ↔
        this.store.loaded = true ∨ DeliversDerivable history this event :=
    (loadsOnce_step h.1 h.2 event).2
  have hloaded : final.store.loaded = true ↔ _ :=
    EventRun.run_iff_fires (P := fun this => this.store.loaded = true) (step history) hkeep hloads
      hinitial events
  obtain ⟨-, hcount, hcallbacks, houtcomes⟩ := hfinal
  refine ⟨hcount, ?_, hcallbacks, ?_⟩
  · rw [hloaded]
    exact ⟨fun h => h.resolve_left (by simp [initial, HLiquityStore.new]), .inr⟩
  · intro call hcall assertion hassertion heq
    rcases houtcomes call hcall with hok | hpow
    · rw [hok] at heq
      cases heq
    · rw [hpow] at heq
      cases heq
      revert hassertion
      decide

/-- The empty chain at a block that is more than 2^32 - 1 minutes after its last
fee operation. -/
def distantChain : ChainState := { genesisChain with blockTimestamp := 60 * 2 ^ 32 }

/-- Both fetches of this run succeed and run a load, which throws while deriving. -/
theorem load_runs_twice :
    (EventRun.run (step fun _ => distantChain)
      (initial : StoreSystem (HashgraphLiquity.implementation exampleOptions :
        StoreImplementation defaults))
      [.start 0, .refresh 0, .settled 0 true 0, .settled 1 true 0]).calls =
        [(.load, .error Decimal.powAssertion), (.load, .error Decimal.powAssertion)] := by
  rfl

end StoreSystem

end HLiquity
