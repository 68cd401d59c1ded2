import HLiquity.Library.EventRun
import HLiquity.StoreFetch

/-!
# Stores and their fetches

A store issues fetches when it is started, when it is refreshed and, if it
polls, at new blocks. The fetches are independent promises: each observes some
block, and they settle in any order, with the fetched values or with a failure.
Only then is the store updated or loaded. Its callbacks are taken to return.
-/

namespace HLiquity

variable {constants : Constants}

/-- What distinguishes the implementations: how they fetch and reduce, whether
the fetch of `start` also updates a loaded store, and whether `start` listens
to blocks. -/
structure StoreImplementation (constants : Constants) where
  fetch (chain latest : ChainState) (blockTag : Option Nat) (source : Nat) :
    Result (Fetched constants)
  reduceExtra : BlockExtraState → BlockExtraUpdate → BlockExtraState
  updatesOnStart : Bool
  polls : Bool
  fetch_ok : ∀ {chain latest : ChainState} {blockTag : Option Nat} {source : Nat}
    {baseState : LiquityStoreBaseState constants} {extraState : BlockExtraState},
    fetch chain latest blockTag source = .ok (baseState, extraState) →
      (∃ options riskiestTrove,
        fetchBaseState options chain latest riskiestTrove source = .ok baseState) ∧
      extraState = ⟨blockTag, chain.blockTimestamp⟩
  reduceExtra_blockTimestamp : ∀ extraState extraStateUpdate : BlockExtraState,
    (reduceExtra extraState extraStateUpdate.toUpdate).blockTimestamp =
      extraStateUpdate.blockTimestamp

/-- The extra state of an implementation. -/
abbrev StoreImplementation.extra (implementation : StoreImplementation constants) : ExtraState :=
  ⟨BlockExtraState, BlockExtraUpdate, implementation.reduceExtra, BlockExtraState.difference⟩

/-- `BlockPolledLiquityStore` -/
def BlockPolledLiquityStore.implementation (connection : EthersLiquityConnection) :
    StoreImplementation constants where
  fetch := get connection
  reduceExtra := reduceExtra
  updatesOnStart := false
  polls := true
  fetch_ok h := by
    obtain ⟨_, hbase, h⟩ := Result.bind_eq_ok.mp h
    cases h
    exact ⟨⟨_, _, hbase⟩, rfl⟩
  reduceExtra_blockTimestamp _ _ := rfl

/-- `HashgraphLiquity` as a store. -/
def HashgraphLiquity.implementation (options : HashgraphOptions) :
    StoreImplementation constants where
  fetch := fetchStoreValues options
  reduceExtra := reduceExtra
  updatesOnStart := true
  polls := false
  fetch_ok h := by
    obtain ⟨_, hbase, h⟩ := Result.bind_eq_ok.mp h
    cases h
    exact ⟨⟨_, _, hbase⟩, rfl⟩
  reduceExtra_blockTimestamp _ _ := rfl

/-- The block tag of a store's state, which a state without extra state lacks. -/
def HLiquityStore.blockTag {implementation : StoreImplementation constants}
    (this : HLiquityStore constants implementation.extra) : Option Nat :=
  Option.bind this.extraState BlockExtraState.blockTag

/-- The block timestamp of a store's state. -/
def HLiquityStore.blockTimestamp {implementation : StoreImplementation constants}
    (this : HLiquityStore constants implementation.extra) : Option Nat :=
  Option.map BlockExtraState.blockTimestamp this.extraState

/-- What issued a fetch. -/
inductive FetchOrigin where
  | start
  | refresh
  | block
  deriving DecidableEq, Repr

/-- A fetch, with the block tag it was given and the block that it observes. -/
structure Fetch where
  origin : FetchOrigin
  blockTag : Option Nat
  observed : Nat
  deriving DecidableEq, Repr

/-- Events of a store. A fetch is named by its number, in the order of their
starts, and a poller by its position. A fetch settles with the block that was the
latest when it read the token associations. -/
inductive StoreEvent where
  | start (observed : Nat)
  | stop (poller : Nat)
  | interval (poller : Nat)
  | block (blockTag : Nat)
  | refresh (observed : Nat)
  | settled (number : Nat) (succeeded : Bool) (latest : Nat)
  deriving DecidableEq, Repr

/-- The methods that a settled fetch calls. -/
inductive StoreMethod where
  | load
  | update
  deriving DecidableEq, Repr

/-- A store with its pollers' `doUpdate` flags, all fetches that it has issued,
the numbers of those that have settled and the outcomes of the methods that
they have called, each in their order. -/
structure StoreSystem (implementation : StoreImplementation constants) where
  store : HLiquityStore constants implementation.extra
  pollers : List Bool
  fetches : List Fetch
  settled : List Nat
  calls : List (StoreMethod × Result Unit)

namespace StoreSystem

variable {implementation : StoreImplementation constants}

/-- A system with a new store. -/
def initial : StoreSystem implementation := ⟨.new, [], [], [], []⟩

/-- A fetch that has been issued and has not settled. -/
def pending (this : StoreSystem implementation) (number : Nat) : Option Fetch :=
  if number ∈ this.settled then none else this.fetches[number]?

/-- The continuation of a fetch that returned. -/
def deliver (this : StoreSystem implementation) (origin : FetchOrigin)
    (fetched : Fetched constants) : StoreSystem implementation :=
  if this.store.loaded ∧ origin = .start ∧ implementation.updatesOnStart = false then this
  else
    let result := receive this.store fetched.1 fetched.2 fetched.2.toUpdate
    { this with
      store := result.2
      calls := this.calls ++ [(if this.store.loaded then .update else .load, result.1)] }

/-- What a settled fetch of a block of the history delivers. -/
def settle (history : Nat → ChainState) (this : StoreSystem implementation) (number : Nat)
    (succeeded : Bool) (latest : Nat) : StoreSystem implementation :=
  match this.pending number with
  | none => this
  | some fetch =>
      let this := { this with settled := this.settled ++ [number] }
      match implementation.fetch (history fetch.observed) (history latest) fetch.blockTag
          number with
      | .ok fetched => if succeeded then this.deliver fetch.origin fetched else this
      | .error _ => this

/-- One event. A block makes every poller fetch whose interval has elapsed. -/
def step (history : Nat → ChainState) (this : StoreSystem implementation) :
    StoreEvent → StoreSystem implementation
  | .start observed =>
      { this with
        fetches := this.fetches ++ [⟨.start, none, observed⟩]
        pollers := if implementation.polls then this.pollers ++ [false] else this.pollers }
  | .stop poller => { this with pollers := this.pollers.eraseIdx poller }
  | .interval poller => { this with pollers := this.pollers.set poller true }
  | .block blockTag =>
      { this with
        fetches := this.fetches ++
          List.replicate (this.pollers.count true) ⟨.block, some blockTag, blockTag⟩
        pollers := this.pollers.map fun _ => false }
  | .refresh observed =>
      { this with fetches := this.fetches ++ [⟨.refresh, none, observed⟩] }
  | .settled number succeeded latest => this.settle history number succeeded latest

/-- The pending fetch whose values an event delivers, with its number and the values. -/
def delivered (history : Nat → ChainState) (this : StoreSystem implementation) :
    StoreEvent → Option (Nat × Fetch × Fetched constants)
  | .settled number true latest =>
      match this.pending number with
      | none => none
      | some fetch =>
          match implementation.fetch (history fetch.observed) (history latest) fetch.blockTag
              number with
          | .ok fetched => some (number, fetch, fetched)
          | .error _ => none
  | _ => none

/-- The system once a fetch counts as settled. -/
def settling (this : StoreSystem implementation) (number : Nat) : StoreSystem implementation :=
  { this with settled := this.settled ++ [number] }

/-- The fetches that an event issues. -/
def issued (this : StoreSystem implementation) : StoreEvent → List Fetch
  | .start observed => [⟨.start, none, observed⟩]
  | .block blockTag =>
      List.replicate (this.pollers.count true) ⟨.block, some blockTag, blockTag⟩
  | .refresh observed => [⟨.refresh, none, observed⟩]
  | _ => []

/-- What one event does to the store: nothing, or it delivers the values of a
pending fetch. -/
theorem step_cases (history : Nat → ChainState) (this : StoreSystem implementation)
    (event : StoreEvent) :
    (this.delivered history event = none ∧ (step history this event).store = this.store ∧
      (step history this event).calls = this.calls) ∨
    ∃ number latest fetch fetched, this.delivered history event = some (number, fetch, fetched) ∧
      event = .settled number true latest ∧ this.pending number = some fetch ∧
      implementation.fetch (history fetch.observed) (history latest) fetch.blockTag number =
        .ok fetched ∧
      step history this event = (this.settling number).deliver fetch.origin fetched := by
  cases event with
  | start observed => exact .inl ⟨rfl, rfl, rfl⟩
  | stop poller => exact .inl ⟨rfl, rfl, rfl⟩
  | interval poller => exact .inl ⟨rfl, rfl, rfl⟩
  | block blockTag => exact .inl ⟨rfl, rfl, rfl⟩
  | refresh observed => exact .inl ⟨rfl, rfl, rfl⟩
  | settled number succeeded latest =>
      cases hpending : this.pending number with
      | none => cases succeeded <;> exact .inl (by simp [delivered, step, settle, hpending])
      | some fetch =>
          cases hfetch : implementation.fetch (history fetch.observed) (history latest)
              fetch.blockTag number with
          | error failure =>
              cases succeeded <;> exact .inl (by simp [delivered, step, settle, hpending, hfetch])
          | ok fetched =>
              cases succeeded with
              | false => exact .inl (by simp [delivered, step, settle, hpending, hfetch])
              | true =>
                  refine .inr ⟨number, latest, fetch, fetched, ?_, rfl, hpending, hfetch, ?_⟩
                  · simp [delivered, hpending, hfetch]
                  · simp [step, settle, settling, hpending, hfetch]

/-- A loaded store holds all three states. -/
def Complete (this : StoreSystem implementation) : Prop :=
  this.store.loaded = true → ∃ baseState derivedState extraState,
    this.store.baseState = some baseState ∧ this.store.derivedState = some derivedState ∧
      this.store.extraState = some extraState

/-- The system after a method of the store. -/
def called (this : StoreSystem implementation) (method : StoreMethod) (outcome : Result Unit)
    (store : HLiquityStore constants implementation.extra) : StoreSystem implementation :=
  { this with store := store, calls := this.calls ++ [(method, outcome)] }

/-- The four ways of a delivery that calls a method: it updates a loaded store
or loads one that is not, and the derivation returns or throws. -/
inductive Delivery (this : StoreSystem implementation) (fetched : Fetched constants) :
    StoreSystem implementation → Prop
  | updateThrows {before : LiquityStoreBaseState constants} (hloaded : this.store.loaded = true)
      (hbefore : this.store.baseState = some before) (h : ¬ fetched.1.Derivable) :
      Delivery this fetched (this.called .update (.error Decimal.powAssertion)
        (this.store.withBase (reduce before fetched.1.toUpdate)))
  | updated {before : LiquityStoreBaseState constants}
      {derivedBefore derived : LiquityStoreDerivedState constants} {extraBefore : BlockExtraState}
      (hloaded : this.store.loaded = true) (hbefore : this.store.baseState = some before)
      (hderivedBefore : this.store.derivedState = some derivedBefore)
      (hextraBefore : this.store.extraState = some extraBefore) (h : fetched.1.Derivable)
      (hderive : derive (reduce before fetched.1.toUpdate) this.store.allocations = .ok derived) :
      Delivery this fetched (this.called .update (.ok ())
        (this.store.updated (reduce before fetched.1.toUpdate)
          (reduceDerived derivedBefore derived)
          (some (implementation.reduceExtra extraBefore fetched.2.toUpdate))))
  | loadThrows (hloaded : this.store.loaded = false) (h : ¬ fetched.1.Derivable) :
      Delivery this fetched (this.called .load (.error Decimal.powAssertion)
        (this.store.withBase fetched.1))
  | loaded {derived again : LiquityStoreDerivedState constants}
      (hloaded : this.store.loaded = false) (h : fetched.1.Derivable)
      (hderive : derive fetched.1 this.store.allocations = .ok derived)
      (hagain : derive fetched.1 (this.store.allocations + 4) = .ok again) :
      Delivery this fetched (this.called .load (.ok ())
        ((this.store.loadedWith fetched.1 derived (some fetched.2)).updated fetched.1
          (reduceDerived derived again) (some fetched.2)))

/-- A delivery to a complete store changes nothing, or it is one of the four. -/
theorem deliver_cases {this : StoreSystem implementation} (h : this.Complete)
    (origin : FetchOrigin) (fetched : Fetched constants) :
    (this.deliver origin fetched = this ∧ this.store.loaded = true ∧ origin = .start ∧
      implementation.updatesOnStart = false) ∨
    ((this.store.loaded = true → implementation.updatesOnStart = false → origin ≠ .start) ∧
      Delivery this fetched (this.deliver origin fetched)) := by
  unfold deliver
  split
  · next hskip => exact .inl ⟨rfl, hskip.1, hskip.2.1, hskip.2.2⟩
  · next hnot =>
    refine .inr ⟨fun hloaded hupdates hstart => hnot ⟨hloaded, hstart, hupdates⟩, ?_⟩
    cases hloaded : this.store.loaded with
    | true =>
        obtain ⟨before, derivedBefore, extraBefore, hbefore, hderivedBefore, hextraBefore⟩ :=
          h hloaded
        rcases receive_of_loaded hloaded hbefore hderivedBefore hextraBefore fetched.1 fetched.2
            fetched.2.toUpdate with
          ⟨hnot, failure, hderive, hreceive⟩ | ⟨hderivable, derived, hderive, hreceive⟩
        · rw [eq_powAssertion_of_derive hderive] at hreceive
          simp only [hreceive]
          exact .updateThrows hloaded hbefore hnot
        · simp only [hreceive]
          exact .updated hloaded hbefore hderivedBefore hextraBefore hderivable hderive
    | false =>
        rcases receive_of_not_loaded hloaded fetched.1 fetched.2 fetched.2.toUpdate with
          ⟨hnot, failure, hderive, hreceive⟩ |
          ⟨hderivable, derived, again, hderive, hagain, hreceive⟩
        · rw [eq_powAssertion_of_derive hderive] at hreceive
          simp only [hreceive]
          exact .loadThrows hloaded hnot
        · simp only [hreceive]
          exact .loaded hloaded hderivable hderive hagain

/-- What is fetched and settled is not touched by a delivery. -/
@[simp] theorem deliver_fetches (this : StoreSystem implementation) (origin : FetchOrigin)
    (fetched : Fetched constants) : (this.deliver origin fetched).fetches = this.fetches := by
  unfold deliver
  split <;> rfl

@[simp] theorem deliver_settled (this : StoreSystem implementation) (origin : FetchOrigin)
    (fetched : Fetched constants) : (this.deliver origin fetched).settled = this.settled := by
  unfold deliver
  split <;> rfl

theorem pending_eq_some {this : StoreSystem implementation} {number : Nat} {fetch : Fetch} :
    this.pending number = some fetch ↔
      number ∉ this.settled ∧ this.fetches[number]? = some fetch := by
  unfold pending
  split
  · next hsettled => simp [hsettled]
  · next hsettled => simp [hsettled]

/-- A settled fetch is ignored, fails, or delivers its values. -/
theorem settle_cases (history : Nat → ChainState) (this : StoreSystem implementation)
    (number : Nat) (succeeded : Bool) (latest : Nat) :
    this.settle history number succeeded latest = this ∨
    this.settle history number succeeded latest = this.settling number ∨
    ∃ origin fetched,
      this.settle history number succeeded latest =
        (this.settling number).deliver origin fetched := by
  unfold settle
  cases this.pending number with
  | none => exact .inl rfl
  | some fetch =>
      cases hfetch : implementation.fetch (history fetch.observed) (history latest)
          fetch.blockTag number with
      | error failure => exact .inr (.inl (by simp only [hfetch, settling]))
      | ok fetched =>
          cases succeeded with
          | false => exact .inr (.inl (by simp [hfetch, settling]))
          | true => exact .inr (.inr ⟨fetch.origin, fetched, by simp [hfetch, settling]⟩)

/-- An event adds the fetches that it issues, and nothing else. -/
@[simp] theorem step_fetches (history : Nat → ChainState) (this : StoreSystem implementation)
    (event : StoreEvent) :
    (step history this event).fetches = this.fetches ++ this.issued event := by
  cases event with
  | start observed => rfl
  | stop poller => exact (List.append_nil _).symm
  | interval poller => exact (List.append_nil _).symm
  | block blockTag => rfl
  | refresh observed => rfl
  | settled number succeeded latest =>
      change (this.settle history number succeeded latest).fetches = this.fetches ++ []
      rw [List.append_nil]
      rcases settle_cases history this number succeeded latest with h | h | ⟨origin, fetched, h⟩
      · rw [h]
      · rw [h, settling]
      · rw [h, deliver_fetches, settling]

/-- A settled fetch stays settled. -/
theorem settled_subset_step (history : Nat → ChainState) (this : StoreSystem implementation)
    (event : StoreEvent) : this.settled ⊆ (step history this event).settled := by
  cases event with
  | start observed => exact List.Subset.refl _
  | stop poller => exact List.Subset.refl _
  | interval poller => exact List.Subset.refl _
  | block blockTag => exact List.Subset.refl _
  | refresh observed => exact List.Subset.refl _
  | settled number succeeded latest =>
      change this.settled ⊆ (this.settle history number succeeded latest).settled
      rcases settle_cases history this number succeeded latest with h | h | ⟨origin, fetched, h⟩
      · rw [h]
        exact List.Subset.refl _
      · rw [h]
        exact List.subset_append_left _ _
      · rw [h, deliver_settled]
        exact List.subset_append_left _ _

/-- An issued fetch keeps its number. -/
theorem getElem?_fetches_step (history : Nat → ChainState) (this : StoreSystem implementation)
    (event : StoreEvent) {number : Nat} {fetch : Fetch}
    (h : this.fetches[number]? = some fetch) :
    (step history this event).fetches[number]? = some fetch := by
  obtain ⟨hlt, _⟩ := List.getElem?_eq_some_iff.mp h
  rw [step_fetches, List.getElem?_append_left hlt, h]

/-- A fetch with a block tag observes the block of its tag. -/
theorem observed_of_issued {this : StoreSystem implementation} {event : StoreEvent}
    {fetch : Fetch} (h : fetch ∈ this.issued event) {blockTag : Nat}
    (htag : fetch.blockTag = some blockTag) : fetch.observed = blockTag := by
  cases event with
  | start observed =>
      rw [List.mem_singleton.mp h] at htag
      cases htag
  | refresh observed =>
      rw [List.mem_singleton.mp h] at htag
      cases htag
  | block tag =>
      rw [List.eq_of_mem_replicate h] at htag ⊢
      exact Option.some.inj htag
  | stop poller => cases h
  | interval poller => cases h
  | settled number succeeded latest => cases h

/-- All fetches that an event issues observe one block. -/
theorem observed_eq_of_issued {this : StoreSystem implementation} {event : StoreEvent}
    {a b : Fetch} (ha : a ∈ this.issued event) (hb : b ∈ this.issued event) :
    a.observed = b.observed := by
  cases event with
  | start observed => rw [List.mem_singleton.mp ha, List.mem_singleton.mp hb]
  | refresh observed => rw [List.mem_singleton.mp ha, List.mem_singleton.mp hb]
  | block blockTag => rw [List.eq_of_mem_replicate ha, List.eq_of_mem_replicate hb]
  | stop poller => cases ha
  | interval poller => cases ha
  | settled number succeeded latest => cases ha

/-- After a delivery every allowance is the one before it or the one that it delivers. -/
theorem Delivery.allowance {this next : StoreSystem implementation}
    {fetched : Fetched constants} (hdelivery : Delivery this fetched next)
    {baseState : LiquityStoreBaseState constants} (hbase : next.store.baseState = some baseState)
    (key : AllowanceKey) :
    (∃ before, this.store.baseState = some before ∧
      baseState.allowance key = before.allowance key) ∨
    baseState.allowance key = fetched.1.allowance key := by
  have hreduced {before : LiquityStoreBaseState constants}
      (hbefore : this.store.baseState = some before)
      (hnext : some (reduce before fetched.1.toUpdate) = some baseState) :
      (∃ before, this.store.baseState = some before ∧
        baseState.allowance key = before.allowance key) ∨
      baseState.allowance key = fetched.1.allowance key := by
    cases hnext
    rw [reduce_allowance, fetched.1.toUpdate_allowance]
    rcases KeepIfEqual.keep_eq_or key.equals (before.allowance key) (fetched.1.allowance key) with
      hkept | htaken
    · exact .inl ⟨before, hbefore, hkept⟩
    · exact .inr htaken
  cases hdelivery with
  | updateThrows _ hbefore hnot => exact hreduced hbefore hbase
  | updated _ hbefore => exact hreduced hbefore hbase
  | loadThrows _ hnot =>
      cases hbase
      exact .inr rfl
  | loaded =>
      cases hbase
      exact .inr rfl

/-- A delivery from which values can be derived sets the timestamp of its fetch. -/
theorem Delivery.blockTimestamp {this next : StoreSystem implementation}
    {fetched : Fetched constants} (hdelivery : Delivery this fetched next) :
    next.store.blockTimestamp =
      if fetched.1.Derivable then some fetched.2.blockTimestamp
      else this.store.blockTimestamp := by
  cases hdelivery with
  | updateThrows _ hbefore hnot =>
      rw [if_neg hnot]
      rfl
  | updated _ _ _ hextra hderivable =>
      rw [if_pos hderivable]
      exact congrArg some (implementation.reduceExtra_blockTimestamp _ _)
  | loadThrows _ hnot =>
      rw [if_neg hnot]
      rfl
  | loaded _ hderivable =>
      rw [if_pos hderivable]
      rfl

/-- Every delivery leaves the store complete. -/
theorem Delivery.complete {this next : StoreSystem implementation}
    {fetched : Fetched constants} (h : this.Complete) (hdelivery : Delivery this fetched next) :
    next.Complete := by
  cases hdelivery with
  | updateThrows hloaded hbefore hnot =>
      obtain ⟨_, derivedState, extraState, _, hderived, hextra⟩ := h hloaded
      exact fun _ => ⟨_, derivedState, extraState, rfl, hderived, hextra⟩
  | updated => exact fun _ => ⟨_, _, _, rfl, rfl, rfl⟩
  | loadThrows hloaded hnot => exact fun hnow => absurd (hloaded.symm.trans hnow) (by simp)
  | loaded => exact fun _ => ⟨_, _, _, rfl, rfl, rfl⟩

/-- A delivery loads the store or leaves it loaded, unless nothing can be derived. -/
theorem Delivery.loaded_iff {this next : StoreSystem implementation}
    {fetched : Fetched constants} (hdelivery : Delivery this fetched next) :
    next.store.loaded = true ↔ this.store.loaded = true ∨ fetched.1.Derivable := by
  cases hdelivery with
  | updateThrows hloaded hbefore hnot => exact ⟨fun _ => .inl hloaded, fun _ => hloaded⟩
  | updated hloaded => exact ⟨fun _ => .inl hloaded, fun _ => hloaded⟩
  | loadThrows hloaded hnot =>
      refine ⟨fun h => .inl h, ?_⟩
      rintro (h | h)
      · exact h
      · exact absurd h hnot
  | loaded hloaded hderivable => exact ⟨fun _ => .inr hderivable, fun _ => rfl⟩

theorem complete_initial : (initial : StoreSystem implementation).Complete :=
  fun h => by cases h

/-- Every event leaves the store complete. -/
theorem complete_step {history : Nat → ChainState} {this : StoreSystem implementation}
    (h : this.Complete) (event : StoreEvent) : (step history this event).Complete := by
  rcases step_cases history this event with
    ⟨_, hstore, _⟩ | ⟨number, latest, fetch, fetched, _, _, _, _, hstep⟩
  · rw [Complete, hstore]
    exact h
  · rw [hstep]
    have hsettled : (this.settling number).Complete := h
    rcases deliver_cases hsettled fetch.origin fetched with ⟨hsame, _⟩ | ⟨_, hdelivery⟩
    · rw [hsame]
      exact h
    · exact hdelivery.complete hsettled

end StoreSystem

end HLiquity
