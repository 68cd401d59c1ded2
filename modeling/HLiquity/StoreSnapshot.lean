import HLiquity.StoreCache
import HLiquity.Library.EventRun

/-!
# Snapshots

An update takes over every value of its fetch, but the block-polled store keeps
the recorded block tag when the fetch has none. In runs where such a fetch only
meets the tag of the block that it observed, and where no update throws, the
cache answers a read at a block with values that were fetched at that block. The
token associations, which no cached read is about, are of that block only where
they were read while it was the latest.
-/

namespace HLiquity

variable {constants : Constants}

/-- Two values of a key are the same, wherever their objects live. -/
def StateKey.SameValue : (key : StateKey) → key.Value constants → key.Value constants → Prop
  | .base key, a, b => key.SameValue a b
  | .derived key, a, b => key.equals a b = true

/-- All values but the token associations are read with the block tag of the fetch. -/
def StateKey.readWithTag : StateKey → Bool
  | .base key => key.readWithTag
  | .derived _ => true

namespace StoreSystem

variable {implementation : StoreImplementation constants}

/-- The state that a fetch stands for: its base state with what is derived from it. -/
def fetchedState (fetched : Fetched constants) :
    Result (LiquityStoreState constants implementation.extra) := do
  let derivedState ← derive fetched.1 0
  return ⟨fetched.1, derivedState, some fetched.2⟩

theorem exists_fetchedState {fetched : Fetched constants} (h : fetched.1.Derivable) :
    ∃ state : LiquityStoreState constants implementation.extra,
      fetchedState fetched = .ok state := by
  obtain ⟨computed, hcomputed⟩ := (derive_ok_iff 0).mpr h
  refine ⟨⟨fetched.1, computed, some fetched.2⟩, ?_⟩
  rw [fetchedState, hcomputed]
  rfl

/-- A store shows the values of a state and its block timestamp. -/
structure Shows (store : HLiquityStore constants implementation.extra)
    (fetched : LiquityStoreState constants implementation.extra) : Prop where
  values : ∀ key : StateKey, key.SameValue (store.state.get key) (fetched.get key)
  blockTimestamp : store.blockTimestamp =
    Option.map BlockExtraState.blockTimestamp fetched.extra

/-- An allowance without a user, or an object of one of the numbered sources. -/
def OwnedBy (numbers : List Nat) (allowance : Obj Decimal) : Prop :=
  allowance = ⟨.decimalZero, Decimal.zero⟩ ∨
    ∃ number ∈ numbers, ∃ index, allowance.address = .supplied number index

/-- An allowance of a new source only has the address of an equal one. -/
theorem OwnedBy.value_eq {numbers : List Nat} {number : Nat} {before allowance : Obj Decimal}
    (hbefore : OwnedBy numbers before) (hnew : number ∉ numbers)
    (hallowance : OwnedBy [number] allowance) (haddress : before.address = allowance.address) :
    before.value = allowance.value := by
  rcases hbefore with hbefore | ⟨source, hsource, index, hindex⟩
  · rcases hallowance with hallowance | ⟨_, _, index, hindex⟩
    · rw [hbefore, hallowance]
    · rw [hbefore, hindex] at haddress
      cases haddress
  · rcases hallowance with hallowance | ⟨_, hnumber, index', hindex'⟩
    · rw [hallowance, hindex] at haddress
      cases haddress
    · rw [hindex, hindex'] at haddress
      cases haddress
      rw [List.mem_singleton.mp hnumber] at hsource
      exact absurd hsource hnew

/-- After a delivery from which values can be derived, the store shows them. -/
theorem Delivery.shows {this next : StoreSystem implementation} {fetched : Fetched constants}
    {state : LiquityStoreState constants implementation.extra}
    (haddress : ∀ before, this.store.baseState = some before → ∀ key : AllowanceKey,
      (before.allowance key).address = (fetched.1.allowance key).address →
        (before.allowance key).value = (fetched.1.allowance key).value)
    (hstate : fetchedState fetched = .ok state) (hdelivery : Delivery this fetched next) :
    Shows next.store state := by
  obtain ⟨computed, hcomputed, hstate⟩ := Result.bind_eq_ok.mp hstate
  cases hstate
  have hderivable : fetched.1.Derivable := (derive_ok_iff 0).mp ⟨computed, hcomputed⟩
  cases hdelivery with
  | updateThrows hloaded hbefore hnot => exact absurd hderivable hnot
  | loadThrows hloaded hnot => exact absurd hderivable hnot
  | updated hloaded hbefore hderivedBefore hextraBefore _ hderive =>
      have hbase := reduce_toUpdate_sameValue (haddress _ hbefore)
      refine ⟨?_, congrArg some (implementation.reduceExtra_blockTimestamp _ _)⟩
      intro key
      cases key with
      | base key => exact hbase key
      | derived key => exact reduceDerived_equals hbase hderive hcomputed _ key
  | loaded hloaded _ hderive hagain =>
      have hbase (key : BaseKey) : key.SameValue (fetched.1.get key) (fetched.1.get key) :=
        key.sameValue_refl _
      refine ⟨?_, rfl⟩
      intro key
      cases key with
      | base key => exact hbase key
      | derived key => exact reduceDerived_equals hbase hagain hcomputed _ key

/-- A state that some settled fetch read at a block, with the token associations of the block
that was then the latest. -/
def FetchedAt (history : Nat → ChainState) (this : StoreSystem implementation)
    (block latest : Nat) (state : LiquityStoreState constants implementation.extra) : Prop :=
  ∃ number fetch fetched, number ∈ this.settled ∧ this.fetches[number]? = some fetch ∧
    fetch.observed = block ∧
    implementation.fetch (history block) (history latest) fetch.blockTag number = .ok fetched ∧
    fetchedState fetched = .ok state

/-- What was fetched stays fetched. -/
theorem FetchedAt.step {history : Nat → ChainState} {this : StoreSystem implementation}
    {block latest : Nat} {state : LiquityStoreState constants implementation.extra}
    (h : FetchedAt history this block latest state) (event : StoreEvent) :
    FetchedAt history (step history this event) block latest state := by
  obtain ⟨number, fetch, fetched, hnumber, hfetch, hrest⟩ := h
  exact ⟨number, fetch, fetched, settled_subset_step history this event hnumber,
    getElem?_fetches_step history this event hfetch, hrest⟩

/-- A fetched state has the timestamp of its block. -/
theorem FetchedAt.blockTimestamp {history : Nat → ChainState}
    {this : StoreSystem implementation} {block latest : Nat}
    {state : LiquityStoreState constants implementation.extra}
    (h : FetchedAt history this block latest state) :
    Option.map BlockExtraState.blockTimestamp state.extra =
      some (history block).blockTimestamp := by
  obtain ⟨number, fetch, fetched, _, _, _, hfetched, hstate⟩ := h
  obtain ⟨computed, _, hstate⟩ := Result.bind_eq_ok.mp hstate
  cases hstate
  exact congrArg (fun extraState => some extraState.blockTimestamp)
    (implementation.fetch_ok hfetched).2

/-- A fetched state has the price of its block. -/
theorem FetchedAt.price {history : Nat → ChainState} {this : StoreSystem implementation}
    {block latest : Nat} {state : LiquityStoreState constants implementation.extra}
    (h : FetchedAt history this block latest state) :
    state.base.price.value = (history block).getPrice := by
  obtain ⟨number, fetch, fetched, _, _, _, hfetched, hstate⟩ := h
  obtain ⟨computed, _, hstate⟩ := Result.bind_eq_ok.mp hstate
  cases hstate
  obtain ⟨⟨options, riskiestTrove, hbase⟩, _⟩ := implementation.fetch_ok hfetched
  exact fetchBaseState_price hbase

theorem OwnedBy.mono {numbers more : List Nat} (hsubset : numbers ⊆ more) {allowance : Obj Decimal}
    (h : OwnedBy numbers allowance) : OwnedBy more allowance := by
  rcases h with h | ⟨number, hnumber, index, hindex⟩
  · exact .inl h
  · exact .inr ⟨number, hsubset hnumber, index, hindex⟩

/-- The allowances that a fetch reads are its own. -/
theorem ownedBy_of_fetch {chain latest : ChainState} {blockTag : Option Nat} {number : Nat}
    {fetched : Fetched constants}
    (h : implementation.fetch chain latest blockTag number = .ok fetched)
    (key : AllowanceKey) : OwnedBy [number] (fetched.1.allowance key) := by
  obtain ⟨⟨options, riskiestTrove, hbase⟩, _⟩ := implementation.fetch_ok h
  rcases fetchBaseState_allowance hbase key with hzero | ⟨index, value, _, hindex⟩
  · exact .inl hzero
  · exact .inr ⟨number, List.mem_singleton_self number, index, congrArg Obj.address hindex⟩

/-- Every allowance that a store holds is owned by a settled fetch. -/
def Owned (this : StoreSystem implementation) : Prop :=
  ∀ baseState, this.store.baseState = some baseState → ∀ key : AllowanceKey,
    OwnedBy this.settled (baseState.allowance key)

theorem owned_step {history : Nat → ChainState} {this : StoreSystem implementation}
    (hcomplete : this.Complete) (h : Owned this) (event : StoreEvent) :
    Owned (step history this event) := by
  intro baseState hbase key
  have hsubset := settled_subset_step history this event
  rcases step_cases history this event with
    ⟨_, hstore, _⟩ | ⟨number, latest, fetch, fetched, _, _, _, hfetched, hstep⟩
  · rw [hstore] at hbase
    exact (h baseState hbase key).mono hsubset
  · have hsettledComplete : (this.settling number).Complete := hcomplete
    rcases deliver_cases hsettledComplete fetch.origin fetched with ⟨hskip, _⟩ | ⟨_, hdelivery⟩
    · rw [hstep, hskip] at hbase
      exact (h baseState hbase key).mono hsubset
    · rw [← hstep] at hdelivery
      rcases hdelivery.allowance hbase key with ⟨before, hbefore, hkept⟩ | htaken
      · rw [hkept]
        exact (h before hbefore key).mono hsubset
      · have hsettled : (step history this event).settled = this.settled ++ [number] := by
          rw [hstep, deliver_settled, settling]
        rw [htaken, hsettled]
        exact (ownedBy_of_fetch hfetched key).mono (List.subset_append_right _ _)

/-- The allowances of a new fetch only have the addresses of equal ones. -/
theorem Owned.value_eq {this : StoreSystem implementation} (h : Owned this) {number : Nat}
    (hnew : number ∉ this.settled) {chain latest : ChainState} {blockTag : Option Nat}
    {fetched : Fetched constants}
    (hfetched : implementation.fetch chain latest blockTag number = .ok fetched) :
    ∀ before, (this.settling number).store.baseState = some before → ∀ key : AllowanceKey,
      (before.allowance key).address = (fetched.1.allowance key).address →
        (before.allowance key).value = (fetched.1.allowance key).value :=
  fun before hbefore key =>
    (h before hbefore key).value_eq hnew (ownedBy_of_fetch hfetched key)

/-- A block-polled store and its fetches. -/
abbrev PolledSystem (constants : Constants) (connection : EthersLiquityConnection) :=
  StoreSystem (BlockPolledLiquityStore.implementation connection : StoreImplementation constants)

section BlockPolled

variable {connection : EthersLiquityConnection}

/-- What the block-polled store relies on for its recorded tag: a delivery that
finds a recorded tag can be derived, and has observed the recorded block if it
has no tag of its own. -/
def KeepsTag (history : Nat → ChainState) (this : PolledSystem constants connection)
    (event : StoreEvent) : Prop :=
  ∀ delivery ∈ this.delivered history event, delivery.2.1.origin ≠ .start →
    ∀ recorded ∈ this.store.blockTag, delivery.2.2.1.Derivable ∧
      (delivery.2.1.blockTag = none → delivery.2.1.observed = recorded)

instance (history : Nat → ChainState) (this : PolledSystem constants connection)
    (event : StoreEvent) : Decidable (KeepsTag history this event) :=
  inferInstanceAs (Decidable (∀ delivery ∈ this.delivered history event,
    delivery.2.1.origin ≠ .start → ∀ recorded ∈ this.store.blockTag,
      delivery.2.2.1.Derivable ∧
        (delivery.2.1.blockTag = none → delivery.2.1.observed = recorded)))

/-- The block that was the latest when a fetch that settles read the token associations. -/
def latestOf : StoreEvent → Option Nat
  | .settled _ _ latest => some latest
  | _ => none

/-- A fetch that is applied has observed a block that stands in a relation to the block whose token
associations it has read. -/
def Associates (P : Nat → Nat → Prop) (history : Nat → ChainState)
    (this : PolledSystem constants connection) (event : StoreEvent) : Prop :=
  ∀ delivery ∈ this.delivered history event,
    (this.store.loaded = true → delivery.2.1.origin ≠ .start) →
      ∀ latest ∈ latestOf event, P delivery.2.1.observed latest

instance (P : Nat → Nat → Prop) [∀ observed latest, Decidable (P observed latest)]
    (history : Nat → ChainState) (this : PolledSystem constants connection) (event : StoreEvent) :
    Decidable (Associates P history this event) :=
  inferInstanceAs (Decidable (∀ delivery ∈ this.delivered history event,
    (this.store.loaded = true → delivery.2.1.origin ≠ .start) →
      ∀ latest ∈ latestOf event, P delivery.2.1.observed latest))

/-- The token associations were read while the block that the fetch observed was the latest. -/
abbrev AssociatesObserved (history : Nat → ChainState) (this : PolledSystem constants connection)
    (event : StoreEvent) : Prop :=
  Associates (fun observed latest => latest = observed) history this event

/-- But for the token associations, the state that a fetch has read at a block is the one that it
would have read while that block was the latest. -/
theorem FetchedAt.exists_observed {history : Nat → ChainState}
    {this : PolledSystem constants connection} {block latest : Nat}
    {state : LiquityStoreState constants (StoreImplementation.extra
      (BlockPolledLiquityStore.implementation connection : StoreImplementation constants))}
    (h : FetchedAt history this block latest state) :
    ∃ observed, FetchedAt history this block block observed ∧
      ∀ key : StateKey, key.readWithTag = true → state.get key = observed.get key := by
  obtain ⟨number, fetch, fetched, hnumber, hfetch, hobserved, hfetched, hstate⟩ := h
  obtain ⟨baseState, hbase, hfetched⟩ := Result.bind_eq_ok.mp hfetched
  obtain ⟨alone, halone, rfl⟩ := exists_fetchBaseState_observed hbase
  cases hfetched
  obtain ⟨computed, hcomputed, hstate⟩ := Result.bind_eq_ok.mp hstate
  cases hstate
  refine ⟨⟨alone, computed, _⟩, ⟨number, fetch, (alone, _), hnumber, hfetch, hobserved,
    Result.bind_eq_ok.mpr ⟨alone, halone, rfl⟩,
    Result.bind_eq_ok.mpr ⟨computed, hcomputed, rfl⟩⟩, ?_⟩
  intro key hkey
  cases key with
  | base key => exact alone.withAssociations_get _ _ hkey
  | derived key => rfl

/-- What holds after every event whose delivery keeps the tag and reads the token associations of a
block as required. -/
structure Tagged (P : Nat → Nat → Prop) (history : Nat → ChainState)
    (this : PolledSystem constants connection) : Prop where
  complete : this.Complete
  loaded : ∀ recorded, this.store.blockTag = some recorded → this.store.loaded = true
  tags : ∀ fetch ∈ this.fetches, ∀ blockTag, fetch.blockTag = some blockTag →
    fetch.observed = blockTag
  owned : Owned this
  shows : ∀ recorded, this.store.blockTag = some recorded →
    ∃ latest state, P recorded latest ∧ FetchedAt history this recorded latest state ∧
      Shows this.store state

/-- A delivery from which values can be derived records the tag of its fetch, or
keeps the recorded one. -/
theorem Delivery.blockTag {this next : PolledSystem constants connection}
    {fetched : Fetched constants}
    (hdelivery : Delivery this fetched next)
    (hloaded : ∀ recorded, this.store.blockTag = some recorded → this.store.loaded = true) :
    next.store.blockTag =
      if fetched.1.Derivable then fetched.2.blockTag <|> this.store.blockTag
      else this.store.blockTag := by
  cases hdelivery with
  | updateThrows _ hbefore hnot =>
      rw [if_neg hnot]
      rfl
  | updated _ hbefore hderivedBefore hextraBefore hderivable hderive =>
      rw [if_pos hderivable]
      have hrecorded : this.store.blockTag = _ :=
        congrArg (Option.bind · BlockExtraState.blockTag) hextraBefore
      rw [hrecorded]
      rfl
  | loadThrows _ hnot =>
      rw [if_neg hnot]
      rfl
  | loaded hnew hderivable hderive hagain =>
      have hnone : this.store.blockTag = none := by
        cases hrecorded : this.store.blockTag with
        | none => rfl
        | some recorded =>
            rw [hloaded recorded hrecorded] at hnew
            cases hnew
      rw [if_pos hderivable, hnone]
      change fetched.2.blockTag = _
      cases fetched.2.blockTag <;> rfl

theorem tagged_initial (P : Nat → Nat → Prop) (history : Nat → ChainState) :
    Tagged P history (initial : PolledSystem constants connection) where
  complete := complete_initial
  loaded _ h := by cases h
  tags _ h := by cases h
  owned _ h := by cases h
  shows _ h := by cases h

/-- After a delivery that keeps the tag, the recorded block is the one that its
fetch has observed. -/
theorem Tagged.observed_delivery {P : Nat → Nat → Prop} {history : Nat → ChainState}
    {this next : PolledSystem constants connection} (h : Tagged P history this)
    {event : StoreEvent} (hkeeps : KeepsTag history this event) {number : Nat} {fetch : Fetch}
    {fetched : Fetched constants}
    (hdelivered : this.delivered history event = some (number, fetch, fetched))
    (hfetch : fetch ∈ this.fetches) (hblockTag : fetched.2.blockTag = fetch.blockTag)
    (hstart : this.store.loaded = true → fetch.origin ≠ .start)
    (hdelivery : Delivery (this.settling number) fetched next)
    {recorded : Nat} (hrecorded : next.store.blockTag = some recorded) :
    fetched.1.Derivable ∧ fetch.observed = recorded := by
  have hkept (hbefore : this.store.blockTag = some recorded) :
      fetched.1.Derivable ∧ (fetch.blockTag = none → fetch.observed = recorded) :=
    hkeeps _ hdelivered (hstart (h.loaded recorded hbefore)) recorded hbefore
  have htag : next.store.blockTag =
      if fetched.1.Derivable then fetched.2.blockTag <|> this.store.blockTag
      else this.store.blockTag := hdelivery.blockTag h.loaded
  rw [hrecorded, hblockTag] at htag
  by_cases hderivable : fetched.1.Derivable
  · rw [if_pos hderivable] at htag
    refine ⟨hderivable, ?_⟩
    cases htagged : fetch.blockTag with
    | none =>
        rw [htagged] at htag
        exact (hkept htag.symm).2 htagged
    | some blockTag =>
        rw [htagged] at htag
        cases htag
        exact h.tags fetch hfetch recorded htagged
  · rw [if_neg hderivable] at htag
    exact absurd (hkept htag.symm).1 hderivable

/-- Every event that keeps the tag keeps what holds of it. -/
theorem Tagged.step {P : Nat → Nat → Prop} {history : Nat → ChainState}
    {this : PolledSystem constants connection} (h : Tagged P history this) {event : StoreEvent}
    (hkeeps : KeepsTag history this event) (hassociates : Associates P history this event) :
    Tagged P history (step history this event) := by
  have htags : ∀ fetch ∈ (StoreSystem.step history this event).fetches, ∀ blockTag,
      fetch.blockTag = some blockTag → fetch.observed = blockTag := by
    intro fetch hfetch blockTag htag
    rw [step_fetches] at hfetch
    rcases List.mem_append.mp hfetch with hbefore | hissued
    · exact h.tags fetch hbefore blockTag htag
    · exact observed_of_issued hissued htag
  have howned : Owned (StoreSystem.step history this event) :=
    owned_step h.complete h.owned event
  -- what holds of the store lasts as long as the store stays
  have hsame (hstore : (StoreSystem.step history this event).store = this.store) :
      Tagged P history (StoreSystem.step history this event) := by
    refine ⟨complete_step h.complete event, ?_, htags, howned, ?_⟩
    · rw [hstore]
      exact h.loaded
    · rw [hstore]
      intro recorded hrecorded
      obtain ⟨latest, state, hlatest, hfetched, hshows⟩ := h.shows recorded hrecorded
      exact ⟨latest, state, hlatest, hfetched.step event, hstore ▸ hshows⟩
  rcases step_cases history this event with
    ⟨_, hstore, _⟩ |
    ⟨number, latest, fetch, fetched, hdelivered, hevent, hpending, hfetched, hstep⟩
  · exact hsame hstore
  · have hcomplete : (this.settling number).Complete := h.complete
    obtain ⟨hnew, hget⟩ := pending_eq_some.mp hpending
    rcases deliver_cases hcomplete fetch.origin fetched with ⟨hskip, _⟩ | ⟨hstart, hdelivery⟩
    · refine hsame ?_
      rw [hstep, hskip]
      rfl
    · rw [← hstep] at hdelivery
      have hsettled : (StoreSystem.step history this event).settled = this.settled ++ [number] := by
        rw [hstep, deliver_settled, settling]
      have hextra := (StoreImplementation.fetch_ok _ hfetched).2
      have hobserved {recorded : Nat}
          (hrecorded : (StoreSystem.step history this event).store.blockTag = some recorded) :
          fetched.1.Derivable ∧ fetch.observed = recorded :=
        h.observed_delivery hkeeps hdelivered (List.mem_of_getElem? hget)
          (congrArg BlockExtraState.blockTag hextra) (fun hloaded => hstart hloaded rfl)
          hdelivery hrecorded
      refine ⟨complete_step h.complete event, ?_, htags, howned, ?_⟩
      · exact fun recorded hrecorded => hdelivery.loaded_iff.mpr (.inr (hobserved hrecorded).1)
      · intro recorded hrecorded
        obtain ⟨hderivable, rfl⟩ := hobserved hrecorded
        obtain ⟨state, hstate⟩ := exists_fetchedState hderivable
        refine ⟨latest, state, ?_, ⟨number, fetch, fetched, ?_,
          getElem?_fetches_step history this event hget, rfl, hfetched, hstate⟩,
          hdelivery.shows (h.owned.value_eq hnew hfetched) hstate⟩
        · exact hassociates _ hdelivered (fun hloaded => hstart hloaded rfl) latest
            (congrArg latestOf hevent)
        · rw [hsettled]
          exact List.mem_append_right _ (List.mem_singleton_self number)

/-- What holds after a run. -/
theorem tagged_run {P : Nat → Nat → Prop} (history : Nat → ChainState) {events : List StoreEvent}
    (hkeeps : EventRun.Meets (StoreSystem.step history) (KeepsTag history)
      (initial : PolledSystem constants connection) events)
    (hassociates : EventRun.Meets (StoreSystem.step history) (Associates P history)
      (initial : PolledSystem constants connection) events) :
    Tagged P history (EventRun.run (StoreSystem.step history)
      (initial : PolledSystem constants connection) events) := by
  have hstep (this : PolledSystem constants connection) (event : StoreEvent)
      (h : Tagged P history this)
      (hmeets : KeepsTag history this event ∧ Associates P history this event) :
      Tagged P history (StoreSystem.step history this event) := h.step hmeets.1 hmeets.2
  exact EventRun.run_invariant_of_meets (StoreSystem.step history) hstep
    (tagged_initial P history) ((EventRun.meets_and _).mpr ⟨hkeeps, hassociates⟩)

/-- The cache of the store. -/
def cache (this : PolledSystem constants connection) :
    BlockPolledLiquityStoreBasedCache constants :=
  ⟨connection, this.store⟩

/-- In every run whose deliveries keep the tag, whatever the cache answers to a
read at a block was fetched at that block, and the recorded block is the one
at which all that the store shows was fetched, but for the token associations. These
are of that block too if every applied fetch read them while it was the latest. -/
theorem read_fetched_at (history : Nat → ChainState) {events : List StoreEvent}
    (hmeets : EventRun.Meets (StoreSystem.step history) (KeepsTag history)
      (initial : PolledSystem constants connection) events) :
    let final := EventRun.run (StoreSystem.step history)
      (initial : PolledSystem constants connection) events
    (∀ (block : Nat) (hit : CacheHit) (key : StateKey) (value : key.Value constants),
      key.readWithTag = true →
      final.cache.read hit key (some ⟨some (.number block)⟩) = some value →
        ∃ state, FetchedAt history final block block state ∧ key.SameValue value (state.get key)) ∧
    (∀ recorded, final.store.blockTag = some recorded →
      final.store.blockTimestamp = some (history recorded).blockTimestamp ∧
      ∃ state, FetchedAt history final recorded recorded state ∧
        ∀ key : StateKey, key.readWithTag = true →
          key.SameValue (final.store.state.get key) (state.get key)) ∧
    (EventRun.Meets (StoreSystem.step history) (AssociatesObserved history)
        (initial : PolledSystem constants connection) events →
      ∀ recorded, final.store.blockTag = some recorded →
        ∃ state, FetchedAt history final recorded recorded state ∧
          ∀ key : StateKey, key.SameValue (final.store.state.get key) (state.get key)) := by
  intro final
  have hanywhere : EventRun.Meets (StoreSystem.step history)
      (Associates (fun _ _ => True) history) (initial : PolledSystem constants connection)
      events := (EventRun.meets_iff_forall _ _ _ _).mpr fun _ _ _ _ _ _ _ _ _ => trivial
  have hfinal : Tagged (fun _ _ => True) history final := tagged_run history hmeets hanywhere
  have hshown (recorded : Nat) (hrecorded : final.store.blockTag = some recorded) :
      final.store.blockTimestamp = some (history recorded).blockTimestamp ∧
      ∃ state, FetchedAt history final recorded recorded state ∧
        ∀ key : StateKey, key.readWithTag = true →
          key.SameValue (final.store.state.get key) (state.get key) := by
    obtain ⟨latest, state, _, hfetched, hshows⟩ := hfinal.shows recorded hrecorded
    obtain ⟨observed, hobserved, hsame⟩ := hfetched.exists_observed
    refine ⟨hshows.blockTimestamp.trans hfetched.blockTimestamp, observed, hobserved, ?_⟩
    intro key hkey
    rw [← hsame key hkey]
    exact hshows.values key
  refine ⟨?_, hshown, ?_⟩
  · intro block hit key value hkey hread
    obtain ⟨hrecorded, rfl⟩ := final.cache.blockTag_of_read hread
    obtain ⟨_, state, hfetched, hvalues⟩ := hshown block hrecorded
    exact ⟨state, hfetched, hvalues key hkey⟩
  · intro hassociates recorded hrecorded
    have htagged : Tagged (fun observed latest => latest = observed) history final :=
      tagged_run history hmeets hassociates
    obtain ⟨_, state, rfl, hfetched, hshows⟩ := htagged.shows recorded hrecorded
    exact ⟨state, hfetched, hshows.values⟩

end BlockPolled

/-- A block that is polled after the load, then a refresh that observes the given block. The token
associations of the polled block are read when the next one is the latest. -/
def refreshAfterBlock (observed : Nat) : List StoreEvent :=
  [.start 0, .settled 0 true 0, .interval 0, .block 1, .settled 1 true 2, .refresh observed,
    .settled 2 true 2]

/-- A refresh that still observes the polled block keeps the tag. -/
theorem read_fetched_at_refreshed :
    let final := EventRun.run (StoreSystem.step countingHistory)
      (initial : PolledSystem defaults exampleConnection) (refreshAfterBlock 1)
    ∃ price state, final.cache.getPrice (some ⟨some (.number 1)⟩) = some price ∧
      FetchedAt countingHistory final 1 1 state ∧ price.value = state.base.price.value := by
  intro final
  have hhit : (final.cache.getPrice (some ⟨some (.number 1)⟩)).isSome = true := by decide +kernel
  obtain ⟨price, hprice⟩ := Option.isSome_iff_exists.mp hhit
  obtain ⟨state, hfetched, hsame⟩ :=
    (read_fetched_at countingHistory (by decide +kernel)).1 1 .block (.base .price) price rfl hprice
  exact ⟨price, state, hprice, hfetched, hsame⟩

/-- A refresh that observes the next block leaves the tag of the polled block on
values that no fetch of that block has read. -/
theorem read_of_later_block :
    let final := EventRun.run (StoreSystem.step countingHistory)
      (initial : PolledSystem defaults exampleConnection) (refreshAfterBlock 2)
    final.store.blockTag = some 1 ∧ final.store.blockTimestamp = some 2 ∧
      ∃ price, final.cache.getPrice (some ⟨some (.number 1)⟩) = some price ∧
        ∀ latest state, FetchedAt countingHistory final 1 latest state →
          price.value ≠ state.base.price.value := by
  intro final
  have hread : (final.cache.getPrice (some ⟨some (.number 1)⟩)).map Obj.value =
      some (countingHistory 2).getPrice := by decide +kernel
  obtain ⟨price, hprice, hvalue⟩ := Option.map_eq_some_iff.mp hread
  refine ⟨by decide +kernel, by decide +kernel, price, hprice, ?_⟩
  intro latest state hfetched
  rw [hvalue, hfetched.price]
  decide +kernel

end StoreSystem

end HLiquity
