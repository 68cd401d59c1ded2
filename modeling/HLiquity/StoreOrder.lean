import HLiquity.Library.EventRun
import HLiquity.StoreApprovals
import Mathlib.Order.Monotone.Defs

/-!
# The order of fetches

A store shows the fetch that was applied last, whatever it observed. In runs
that never apply a fetch after a later one the store does not go back: its
block timestamp does not decrease, and an allowance that was written
optimistically stays until a fetch or an approval that came later.
-/

namespace HLiquity

variable {constants : Constants}

namespace StoreClient

variable {implementation : StoreImplementation constants}

/-- A fetch observes the same block as the fetches that were started before it, or
a later one. -/
def ObservesInOrder (this : StoreClient implementation) (event : ClientEvent) : Prop :=
  ∀ issued ∈ this.issued event, ∀ fetch ∈ this.system.fetches, fetch.observed ≤ issued.observed

instance (this : StoreClient implementation) (event : ClientEvent) :
    Decidable (this.ObservesInOrder event) :=
  inferInstanceAs (Decidable (∀ issued ∈ this.issued event,
    ∀ fetch ∈ this.system.fetches, fetch.observed ≤ issued.observed))

/-- A fetch is applied after no fetch, and no refresh of an approval, that was
started later. -/
def AppliesInOrder (history : Nat → ChainState) (this : StoreClient implementation)
    (event : ClientEvent) : Prop :=
  ∀ number ∈ this.applied history event, ∀ earlier ∈ this.writes, earlier < number

instance (history : Nat → ChainState) (this : StoreClient implementation) (event : ClientEvent) :
    Decidable (this.AppliesInOrder history event) :=
  inferInstanceAs (Decidable (∀ number ∈ this.applied history event,
    ∀ earlier ∈ this.writes, earlier < number))

/-- Both orders. -/
def InOrder (history : Nat → ChainState) (this : StoreClient implementation)
    (event : ClientEvent) : Prop :=
  this.ObservesInOrder event ∧ this.AppliesInOrder history event

instance (history : Nat → ChainState) (this : StoreClient implementation) (event : ClientEvent) :
    Decidable (this.InOrder history event) :=
  inferInstanceAs (Decidable (this.ObservesInOrder event ∧ this.AppliesInOrder history event))

/-- What holds after every event of a run in order. -/
structure Ordered (history : Nat → ChainState) (this : StoreClient implementation) : Prop where
  complete : this.system.Complete
  fetches : this.system.fetches.Pairwise (·.observed ≤ ·.observed)
  exposed : ∀ timestamp, this.system.store.blockTimestamp = some timestamp →
    ∃ number ∈ this.writes, ∃ fetch, this.system.fetches[number]? = some fetch ∧
      timestamp = (history fetch.observed).blockTimestamp
  amounts : ∀ baseState, this.system.store.baseState = some baseState →
    ∀ (key : AllowanceKey) (position : Nat),
      (baseState.allowance key).address = .supplied position 25 → position ∈ this.optimistic

theorem ordered_initial (history : Nat → ChainState) :
    Ordered history (initial : StoreClient implementation) where
  complete := StoreSystem.complete_initial
  fetches := List.Pairwise.nil
  exposed _ h := by cases h
  amounts _ h := by cases h

theorem observed_eq_of_issued {this : StoreClient implementation} {event : ClientEvent}
    {a b : Fetch} (ha : a ∈ this.issued event) (hb : b ∈ this.issued event) :
    a.observed = b.observed := by
  cases event with
  | store event => exact StoreSystem.observed_eq_of_issued ha hb
  | approve key amount observed =>
      have ha' : a ∈ this.system.issued (.refresh observed) := ha
      exact StoreSystem.observed_eq_of_issued ha' hb
  | optimistic position => cases ha

/-- The fetches of a run in order stay in the order of what they observe. -/
theorem pairwise_fetches_step {history : Nat → ChainState} {this : StoreClient implementation}
    (h : this.system.fetches.Pairwise (·.observed ≤ ·.observed)) {event : ClientEvent}
    (horder : this.ObservesInOrder event) :
    (step history this event).system.fetches.Pairwise (·.observed ≤ ·.observed) := by
  rw [step_fetches, List.pairwise_append]
  refine ⟨h, ?_, ?_⟩
  · exact List.pairwise_of_forall_mem_list fun a ha b hb => (observed_eq_of_issued ha hb).le
  · exact fun fetch hfetch issued hissued => horder issued hissued fetch hfetch

/-- The amount of an optimistic update is no object of a fetch. -/
theorem address_ne_of_fetch {chain latest : ChainState} {blockTag : Option Nat} {number : Nat}
    {fetched : Fetched constants}
    (h : implementation.fetch chain latest blockTag number = .ok fetched)
    (key : AllowanceKey) (position : Nat) :
    (fetched.1.allowance key).address ≠ .supplied position 25 := by
  obtain ⟨⟨options, riskiestTrove, hbase⟩, _⟩ := implementation.fetch_ok h
  rcases fetchBaseState_allowance hbase key with hzero | ⟨index, value, hlt, hindex⟩
  · rw [hzero]
    exact fun heq => by cases heq
  · rw [hindex]
    intro heq
    cases heq
    omega

theorem getElem?_fetches_step (history : Nat → ChainState) (this : StoreClient implementation)
    (event : ClientEvent) {number : Nat} {fetch : Fetch}
    (h : this.system.fetches[number]? = some fetch) :
    (step history this event).system.fetches[number]? = some fetch := by
  obtain ⟨hlt, _⟩ := List.getElem?_eq_some_iff.mp h
  rw [step_fetches, List.getElem?_append_left hlt, h]

/-- What is exposed of the writes of a client lasts as long as the timestamp of its store. -/
theorem Ordered.exposed_step {history : Nat → ChainState} {this : StoreClient implementation}
    (h : Ordered history this) {event : ClientEvent}
    (hsame : (step history this event).system.store.blockTimestamp =
      this.system.store.blockTimestamp)
    (hwrites : this.writes ⊆ (step history this event).writes) {timestamp : Nat}
    (htimestamp : (step history this event).system.store.blockTimestamp = some timestamp) :
    ∃ number ∈ (step history this event).writes, ∃ fetch,
      (step history this event).system.fetches[number]? = some fetch ∧
        timestamp = (history fetch.observed).blockTimestamp := by
  rw [hsame] at htimestamp
  obtain ⟨number, hnumber, fetch, hfetch, hobserved⟩ := h.exposed timestamp htimestamp
  exact ⟨number, hwrites hnumber, fetch, getElem?_fetches_step history this event hfetch,
    hobserved⟩

/-- What an optimistic update leaves of the store and what it writes to its base state. -/
theorem update_cases {this : StoreClient implementation} (h : this.system.Complete)
    (position : Nat) (approval : Approval) :
    let next := this.update position approval
    next.system.Complete ∧ this.writes ⊆ next.writes ∧
    next.system.store.blockTimestamp = this.system.store.blockTimestamp ∧
    ((this.system.store.loaded = false ∧
        next.system.store.baseState = this.system.store.baseState) ∨
      ∃ before, this.system.store.baseState = some before ∧
        next.system.store.baseState = some (reduce before
          (approval.key.toUpdate ⟨.supplied position 25, approval.amount⟩))) := by
  intro next
  obtain ⟨hloaded, hextra, hbase⟩ := store_update_cases this.system.store
    (approval.key.toUpdate ⟨.supplied position 25, approval.amount⟩)
  have hwrites : this.writes ⊆ next.writes := by
    change this.writes ⊆ if this.system.store.loaded then this.writes ++ [approval.refresh]
      else this.writes
    split
    · exact List.subset_append_left _ _
    · exact List.Subset.refl _
  have htimestamp : next.system.store.blockTimestamp = this.system.store.blockTimestamp :=
    congrArg (Option.map BlockExtraState.blockTimestamp) hextra
  rcases hbase with ⟨hnone, hbase⟩ | ⟨before, hbefore, hbase, hderived⟩
  · have hunloaded : this.system.store.loaded = false := by
      cases hcase : this.system.store.loaded with
      | false => rfl
      | true =>
          obtain ⟨_, _, _, hbefore, hderived, _⟩ := h hcase
          rcases hnone with hnone | hnone
          · rw [hnone] at hbefore
            cases hbefore
          · rw [hnone] at hderived
            cases hderived
    refine ⟨fun hnow => ?_, hwrites, htimestamp, .inl ⟨hunloaded, hbase⟩⟩
    rw [hloaded.symm.trans hnow] at hunloaded
    cases hunloaded
  · refine ⟨fun hnow => ?_, hwrites, htimestamp, .inr ⟨before, hbefore, hbase⟩⟩
    obtain ⟨_, _, extraState, _, _, hextraState⟩ := h (hloaded.symm.trans hnow)
    obtain ⟨derivedState, hderivedState⟩ := Option.isSome_iff_exists.mp hderived
    exact ⟨_, derivedState, extraState, hbase, hderivedState, hextra.trans hextraState⟩

/-- Every event in order keeps what holds of the client. -/
theorem Ordered.step {history : Nat → ChainState} {this : StoreClient implementation}
    (h : Ordered history this) {event : ClientEvent} (horder : this.InOrder history event) :
    Ordered history (step history this event) := by
  have hfetches : (StoreClient.step history this event).system.fetches.Pairwise
      (·.observed ≤ ·.observed) := pairwise_fetches_step h.fetches horder.1
  rcases step_cases h.complete event with
    ⟨hstore, hwrites, hoptimistic⟩ |
    ⟨number, latest, fetch, fetched, happlied, hpending, hfetched, hdelivery, hwrites,
      hoptimistic⟩ |
    ⟨position, approval, rfl, hready, hstep⟩
  · refine ⟨?_, hfetches, ?_, ?_⟩
    · rw [StoreSystem.Complete, hstore]
      exact h.complete
    · exact fun timestamp => h.exposed_step (congrArg HLiquityStore.blockTimestamp hstore)
        (hwrites ▸ List.Subset.refl _)
    · rw [hstore, hoptimistic]
      exact h.amounts
  · have hcomplete : (this.system.settling number).Complete := h.complete
    refine ⟨hdelivery.complete hcomplete, hfetches, ?_, ?_⟩
    · intro timestamp htimestamp
      by_cases hderivable : fetched.1.Derivable
      · have hnew := hdelivery.blockTimestamp
        rw [if_pos hderivable, htimestamp, (implementation.fetch_ok hfetched).2] at hnew
        obtain ⟨_, hget⟩ := StoreSystem.pending_eq_some.mp hpending
        refine ⟨number, ?_, fetch, getElem?_fetches_step history this event hget,
          Option.some.inj hnew⟩
        rw [hwrites]
        exact List.mem_append_right _ (List.mem_singleton_self number)
      · have hold := hdelivery.blockTimestamp
        rw [if_neg hderivable] at hold
        refine h.exposed_step hold ?_ htimestamp
        rw [hwrites]
        exact List.subset_append_left _ _
    · intro baseState hbase key position haddress
      rw [hoptimistic]
      rcases hdelivery.allowance hbase key with ⟨before, hbefore, hkept⟩ | htaken
      · rw [hkept] at haddress
        exact h.amounts before hbefore key position haddress
      · rw [htaken] at haddress
        exact absurd haddress (address_ne_of_fetch hfetched key position)
  · obtain ⟨hcomplete, hwrites, htimestamp, hbase⟩ := update_cases h.complete position approval
    rw [hstep] at hfetches ⊢
    refine ⟨hcomplete, hfetches, ?_, ?_⟩
    · intro timestamp hexposed
      rw [htimestamp] at hexposed
      obtain ⟨number, hnumber, hrest⟩ := h.exposed timestamp hexposed
      exact ⟨number, hwrites hnumber, hrest⟩
    · intro baseState hbaseState key other haddress
      rcases hbase with ⟨_, hsame⟩ | ⟨before, hbefore, hreduced⟩
      · rw [hsame] at hbaseState
        exact List.mem_append_left _ (h.amounts baseState hbaseState key other haddress)
      · rw [hreduced] at hbaseState
        cases hbaseState
        rcases approval.key.reduce_allowance_or before key _ with hkept | hwritten
        · rw [hkept] at haddress
          exact List.mem_append_left _ (h.amounts before hbefore key other haddress)
        · rw [hwritten] at haddress
          cases haddress
          exact List.mem_append_right _ (List.mem_singleton_self position)

theorem ordered_run (history : Nat → ChainState) {events : List ClientEvent}
    (hmeets : EventRun.Meets (StoreClient.step history) (InOrder history)
      (initial : StoreClient implementation) events) :
    Ordered history (EventRun.run (StoreClient.step history)
      (initial : StoreClient implementation) events) := by
  have hstep (this : StoreClient implementation) (event : ClientEvent)
      (h : Ordered history this) (horder : this.InOrder history event) :
      Ordered history (StoreClient.step history this event) := h.step horder
  exact EventRun.run_invariant_of_meets (StoreClient.step history) hstep (ordered_initial history)
    hmeets

/-- The block timestamp of a store is not followed by an earlier one. -/
def NotBefore (this next : StoreClient implementation) : Prop :=
  ∀ timestamp, this.system.store.blockTimestamp = some timestamp →
    ∃ later, next.system.store.blockTimestamp = some later ∧ timestamp ≤ later

/-- A fetch that is applied in order has observed no earlier block than what was written. -/
theorem Ordered.observed_le {history : Nat → ChainState} {this : StoreClient implementation}
    (h : Ordered history this) {event : ClientEvent} (horder : this.AppliesInOrder history event)
    {number earlier : Nat} {fetch before : Fetch}
    (happlied : this.applied history event = some number)
    (hfetch : this.system.fetches[number]? = some fetch) (hearlier : earlier ∈ this.writes)
    (hbefore : this.system.fetches[earlier]? = some before) :
    before.observed ≤ fetch.observed := by
  have hlt : earlier < number := horder number happlied earlier hearlier
  obtain ⟨hnumber, rfl⟩ := List.getElem?_eq_some_iff.mp hfetch
  obtain ⟨hearlier, rfl⟩ := List.getElem?_eq_some_iff.mp hbefore
  exact List.pairwise_iff_getElem.mp h.fetches earlier number hearlier hnumber hlt

/-- No event in order is followed by an earlier timestamp. -/
theorem Ordered.notBefore_step {history : Nat → ChainState}
    (hclock : Monotone fun block => (history block).blockTimestamp)
    {this : StoreClient implementation} (h : Ordered history this) {event : ClientEvent}
    (horder : this.InOrder history event) :
    NotBefore this (StoreClient.step history this event) := by
  intro timestamp htimestamp
  rcases step_cases h.complete event with
    ⟨hstore, _⟩ | ⟨number, latest, fetch, fetched, happlied, hpending, hfetched, hdelivery, _⟩ |
    ⟨position, approval, rfl, _, hstep⟩
  · exact ⟨timestamp, (congrArg HLiquityStore.blockTimestamp hstore).trans htimestamp, le_rfl⟩
  · have hnext := hdelivery.blockTimestamp
    by_cases hderivable : fetched.1.Derivable
    · rw [if_pos hderivable, (implementation.fetch_ok hfetched).2] at hnext
      refine ⟨_, hnext, ?_⟩
      obtain ⟨earlier, hearlier, before, hbefore, rfl⟩ := h.exposed timestamp htimestamp
      obtain ⟨_, hget⟩ := StoreSystem.pending_eq_some.mp hpending
      exact hclock (h.observed_le horder.2 happlied hget hearlier hbefore)
    · rw [if_neg hderivable] at hnext
      exact ⟨timestamp, hnext.trans htimestamp, le_rfl⟩
  · obtain ⟨_, _, hsame, _⟩ := update_cases h.complete position approval
    rw [hstep]
    exact ⟨timestamp, hsame.trans htimestamp, le_rfl⟩

/-- An event that may replace the allowance of an approval: it applies a fetch that
was started after the approval's refresh, or writes another approval of the key. -/
def Replaces (history : Nat → ChainState) (approval : Approval) (this : StoreClient implementation)
    (event : ClientEvent) : Prop :=
  (∃ number, this.applied history event = some number ∧ approval.refresh < number) ∨
    ∃ position other, event = .optimistic position ∧ this.ready position = some other ∧
      other.key = approval.key

/-- The store holds the allowance that an approval has written. -/
structure Holds (approval : Approval) (this : StoreClient implementation) : Prop where
  written : approval.refresh ∈ this.writes
  value : ∃ baseState, this.system.store.baseState = some baseState ∧
    (baseState.allowance approval.key).value = approval.amount

/-- An optimistic update of a loaded store writes the amount of its approval. -/
theorem Ordered.holds_update {history : Nat → ChainState} {this : StoreClient implementation}
    (h : Ordered history this) (hloaded : this.system.store.loaded = true) {position : Nat}
    {approval : Approval} (hready : this.ready position = some approval) :
    Holds approval (this.update position approval) := by
  obtain ⟨_, _, _, hbase⟩ := update_cases h.complete position approval
  rcases hbase with ⟨hunloaded, _⟩ | ⟨before, hbefore, hreduced⟩
  · rw [hloaded] at hunloaded
    cases hunloaded
  · constructor
    · rw [update, if_pos hloaded]
      exact List.mem_append_right _ (List.mem_singleton_self approval.refresh)
    · refine ⟨_, hreduced, ?_⟩
      have hnew : (before.allowance approval.key).address ≠ .supplied position 25 := by
        intro haddress
        have hrun := h.amounts before hbefore approval.key position haddress
        rw [ready, if_pos hrun] at hready
        cases hready
      rw [approval.key.reduce_allowance_self]
      exact KeepIfEqual.keep_induction (motive := fun kept => kept.value = approval.amount)
        approval.key.equals
        (approval.key.value_eq_of_equals fun haddress => absurd haddress hnew) rfl

/-- An event in order keeps a written allowance, unless it replaces it. -/
theorem Ordered.holds_step {history : Nat → ChainState} {this : StoreClient implementation}
    (h : Ordered history this) {event : ClientEvent} (horder : this.AppliesInOrder history event)
    {approval : Approval} (hholds : Holds approval this) :
    Holds approval (StoreClient.step history this event) ∨
      Replaces history approval this event := by
  obtain ⟨hwritten, baseState, hbaseState, hvalue⟩ := hholds
  rcases step_cases h.complete event with
    ⟨hstore, hwrites, _⟩ | ⟨number, latest, fetch, fetched, happlied, _⟩ |
    ⟨position, other, rfl, hready, hstep⟩
  · left
    refine ⟨hwrites ▸ hwritten, baseState, ?_, hvalue⟩
    rw [hstore]
    exact hbaseState
  · exact .inr (.inl ⟨number, happlied, horder number happlied approval.refresh hwritten⟩)
  · by_cases hkey : other.key = approval.key
    · exact .inr (.inr ⟨position, other, rfl, hready, hkey⟩)
    · left
      obtain ⟨_, hwrites, _, hbase⟩ := update_cases h.complete position other
      rw [hstep]
      refine ⟨hwrites hwritten, ?_⟩
      rcases hbase with ⟨_, hsame⟩ | ⟨before, hbefore, hreduced⟩
      · exact ⟨baseState, hsame.trans hbaseState, hvalue⟩
      · rw [hbaseState] at hbefore
        cases hbefore
        refine ⟨_, hreduced, ?_⟩
        rw [AllowanceKey.reduce_allowance_of_ne hkey]
        exact hvalue

theorem NotBefore.refl (this : StoreClient implementation) : NotBefore this this :=
  fun timestamp h => ⟨timestamp, h, le_rfl⟩

theorem NotBefore.trans {first second third : StoreClient implementation}
    (hfirst : NotBefore first second) (hsecond : NotBefore second third) :
    NotBefore first third := by
  intro timestamp h
  obtain ⟨middle, hmiddle, hle⟩ := hfirst timestamp h
  obtain ⟨last, hlast, hle'⟩ := hsecond middle hmiddle
  exact ⟨last, hlast, hle.trans hle'⟩

/-- The timestamp never goes back over a run in order. -/
theorem Ordered.notBefore_run {history : Nat → ChainState} {this : StoreClient implementation}
    (h : Ordered history this) (hclock : Monotone fun block => (history block).blockTimestamp)
    {events : List ClientEvent}
    (hmeets : EventRun.Meets (StoreClient.step history) (InOrder history) this events) :
    NotBefore this (EventRun.run (StoreClient.step history) this events) := by
  apply EventRun.run_related_of_meets (StoreClient.step history) NotBefore.refl
    (fun _ _ _ => NotBefore.trans) _ _ h hmeets
  · exact fun _ _ h horder => h.step horder
  · exact fun _ _ h horder => h.notBefore_step hclock horder

/-- What an optimistic update wrote is kept over a run in order until it is replaced. -/
theorem Ordered.holds_run {history : Nat → ChainState} {this : StoreClient implementation}
    {approval : Approval} (h : Ordered history this) (hholds : Holds approval this)
    {events : List ClientEvent}
    (hmeets : EventRun.Meets (StoreClient.step history) (InOrder history) this events) :
    Holds approval (EventRun.run (StoreClient.step history) this events) ∨
      EventRun.Fires (StoreClient.step history) (Replaces history approval) this events := by
  apply EventRun.run_or_fires_of_meets (StoreClient.step history) _ _ h hholds hmeets
  · exact fun _ _ h horder => h.step horder
  · exact fun _ _ h horder hholds => h.holds_step horder.2 hholds

/-- In a run that applies fetches in order, the exposed timestamp does not decrease;
a fetch is applied to what fetches of no later block have written; and what an
optimistic update writes to a loaded store stays until a fetch that was started
after the approval's refresh, or another approval of that allowance, replaces it. -/
theorem never_back_in_order (history : Nat → ChainState)
    (hclock : Monotone fun block => (history block).blockTimestamp)
    {earlier later : List ClientEvent}
    (hmeets : EventRun.Meets (StoreClient.step history) (InOrder history)
      (initial : StoreClient implementation) (earlier ++ later)) :
    let this := EventRun.run (StoreClient.step history)
      (initial : StoreClient implementation) earlier
    let final := EventRun.run (StoreClient.step history)
      (initial : StoreClient implementation) (earlier ++ later)
    NotBefore this final ∧
    (∀ event rest, later = event :: rest → ∀ number fetch,
      this.applied history event = some number → this.system.fetches[number]? = some fetch →
        ∀ written ∈ this.writes, ∀ before, this.system.fetches[written]? = some before →
          before.observed ≤ fetch.observed) ∧
    ∀ position rest approval, later = .optimistic position :: rest →
      this.ready position = some approval → this.system.store.loaded = true →
        (final.system.store.state.base.allowance approval.key).value = approval.amount ∨
          EventRun.Fires (StoreClient.step history) (Replaces history approval)
            (this.update position approval) rest := by
  intro this final
  obtain ⟨hearlier, hlater⟩ := (EventRun.meets_append _ _ _ _ _).mp hmeets
  have hordered : Ordered history this := ordered_run history hearlier
  have hfinal : final = EventRun.run (StoreClient.step history) this later :=
    EventRun.run_append _ _ _ _
  refine ⟨?_, ?_, ?_⟩
  · rw [hfinal]
    exact hordered.notBefore_run hclock hlater
  · rintro event rest rfl number fetch happlied hfetch written hwritten before hbefore
    exact hordered.observed_le hlater.1.2 happlied hfetch hwritten hbefore
  · rintro position rest approval rfl hready hloaded
    have hnext : StoreClient.step history this (.optimistic position) =
        this.update position approval := by
      rw [StoreClient.step, hready]
    have hholds : Holds approval (this.update position approval) :=
      hordered.holds_update hloaded hready
    have hend := (hordered.step hlater.1).holds_run (hnext ▸ hholds) hlater.2
    rw [hnext] at hend
    rcases hend with hend | hfires
    · left
      obtain ⟨_, baseState, hbaseState, hvalue⟩ := hend
      have hstate : final.system.store.baseState = some baseState := by
        rw [hfinal, EventRun.run_cons, hnext]
        exact hbaseState
      rw [HLiquityStore.state, hstate]
      exact hvalue
    · exact .inr hfires

/-- An approval whose refresh observes the next block. -/
def approvalRun : List ClientEvent :=
  [.store (.start 0), .store (.settled 0 true 0), approveHchfToSpendHchf ⟨5⟩ 1,
    .store (.settled 1 true 1)]

/-- Its optimistic update, and one more refresh. -/
def afterApproval : List ClientEvent := [.optimistic 0, .store (.refresh 2)]

theorem never_back_in_order_approval :
    let approval : Approval := ⟨.hchfTokenAllowanceOfHchfContract, ⟨5⟩, 1⟩
    let this := EventRun.run (StoreClient.step countingHistory)
      (initial : StoreClient (HashgraphLiquity.implementation exampleOptions :
        StoreImplementation defaults)) approvalRun
    let final := EventRun.run (StoreClient.step countingHistory)
      (initial : StoreClient (HashgraphLiquity.implementation exampleOptions :
        StoreImplementation defaults)) (approvalRun ++ afterApproval)
    NotBefore this final ∧
      ((final.system.store.state.base.allowance approval.key).value = approval.amount ∨
        EventRun.Fires (StoreClient.step countingHistory) (Replaces countingHistory approval)
          (this.update 0 approval) [.store (.refresh 2)]) := by
  intro approval this final
  have hclock : Monotone fun block => (countingHistory block).blockTimestamp := fun _ _ h => h
  have hmeets : EventRun.Meets (StoreClient.step countingHistory) (InOrder countingHistory)
      (initial : StoreClient (HashgraphLiquity.implementation exampleOptions :
        StoreImplementation defaults)) (approvalRun ++ afterApproval) := by
    decide +kernel
  have hrun := never_back_in_order countingHistory hclock hmeets
  exact ⟨hrun.1, hrun.2.2 0 [.store (.refresh 2)] approval rfl (by decide +kernel)
    (by decide +kernel)⟩

/-- An approval between a refresh and its completion. -/
def lateRefresh : List ClientEvent :=
  [.store (.start 0), .store (.settled 0 true 0), .store (.refresh 1),
    approveHchfToSpendHchf ⟨5⟩ 2, .store (.settled 2 true 2), .optimistic 0]

/-- The refresh that was started before the approval completes last: the timestamp
goes back, and the older allowance replaces the written one. -/
theorem late_refresh_goes_back :
    let this := EventRun.run (StoreClient.step countingHistory)
      (initial : StoreClient (HashgraphLiquity.implementation exampleOptions :
        StoreImplementation defaults)) lateRefresh
    let final := StoreClient.step countingHistory this (.store (.settled 1 true 1))
    EventRun.Meets (StoreClient.step countingHistory) ObservesInOrder
      (initial : StoreClient (HashgraphLiquity.implementation exampleOptions :
        StoreImplementation defaults)) (lateRefresh ++ [.store (.settled 1 true 1)]) ∧
    this.system.store.blockTimestamp = some 2 ∧
    final.system.store.blockTimestamp = some 1 ∧
    (this.system.store.state.base.allowance .hchfTokenAllowanceOfHchfContract).value = ⟨5⟩ ∧
    (final.system.store.state.base.allowance .hchfTokenAllowanceOfHchfContract).value = ⟨0⟩ := by
  decide +kernel

end StoreClient

end HLiquity
