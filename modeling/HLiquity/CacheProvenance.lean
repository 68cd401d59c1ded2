import HLiquity.CachedReads
import HLiquity.Population

/-!
# Where cached values come from

Whatever a store holds was delivered by one of its fetches. The cache answers
from the store's state, which stands in for what the store does not hold yet
and for the values of a user or a frontend that the connection lacks.
-/

namespace HLiquity

variable {constants : Constants}

namespace StoreSystem

section Deliveries

variable {implementation : StoreImplementation constants}

/-- The event delivers a fetch with its values. -/
def Delivers (history : Nat → ChainState) (number : Nat) (fetch : Fetch)
    (fetched : Fetched constants) (this : StoreSystem implementation) (event : StoreEvent) : Prop :=
  this.delivered history event = some (number, fetch, fetched)

/-- After a delivery the base state has the values of its fetch. -/
theorem Delivery.baseState_sameValue {this next : StoreSystem implementation}
    {fetched : Fetched constants}
    (haddress : ∀ before, this.store.baseState = some before → ∀ key : AllowanceKey,
      (before.allowance key).address = (fetched.1.allowance key).address →
        (before.allowance key).value = (fetched.1.allowance key).value)
    (hdelivery : Delivery this fetched next) {baseState : LiquityStoreBaseState constants}
    (hbase : next.store.baseState = some baseState) (key : BaseKey) :
    key.SameValue (baseState.get key) (fetched.1.get key) := by
  cases hdelivery with
  | updateThrows _ hbefore =>
      cases hbase
      exact reduce_toUpdate_sameValue (haddress _ hbefore) key
  | updated _ hbefore =>
      cases hbase
      exact reduce_toUpdate_sameValue (haddress _ hbefore) key
  | loadThrows =>
      cases hbase
      exact key.sameValue_refl _
  | loaded =>
      cases hbase
      exact key.sameValue_refl _

/-- After a delivery the derived state is the one before it, or has the values that are
derived from its fetch. -/
theorem Delivery.derivedState_equals {this next : StoreSystem implementation}
    {fetched : Fetched constants}
    (haddress : ∀ before, this.store.baseState = some before → ∀ key : AllowanceKey,
      (before.allowance key).address = (fetched.1.allowance key).address →
        (before.allowance key).value = (fetched.1.allowance key).value)
    (hdelivery : Delivery this fetched next) {derivedState : LiquityStoreDerivedState constants}
    (hderived : next.store.derivedState = some derivedState) :
    this.store.derivedState = some derivedState ∨
      ∃ computed, derive fetched.1 0 = .ok computed ∧
        ∀ key : DerivedKey, key.equals (derivedState.get key) (computed.get key) = true := by
  cases hdelivery with
  | updateThrows => exact .inl hderived
  | updated _ hbefore _ _ hderivable hderive =>
      cases hderived
      obtain ⟨computed, hcomputed⟩ := (derive_ok_iff 0).mpr hderivable
      exact .inr ⟨computed, hcomputed,
        reduceDerived_equals (reduce_toUpdate_sameValue (haddress _ hbefore)) hderive hcomputed _⟩
  | loadThrows => exact .inl hderived
  | loaded _ hderivable _ hagain =>
      cases hderived
      obtain ⟨computed, hcomputed⟩ := (derive_ok_iff 0).mpr hderivable
      exact .inr ⟨computed, hcomputed,
        reduceDerived_equals (fun key => key.sameValue_refl _) hagain hcomputed _⟩

/-- The values of a fetch that an event delivers are those of the block it observed, with the token
associations of the block that was then the latest. -/
theorem Delivers.fetch {history : Nat → ChainState} {this : StoreSystem implementation}
    {event : StoreEvent} {number : Nat} {fetch : Fetch} {fetched : Fetched constants}
    (h : Delivers history number fetch fetched this event) :
    ∃ latest, implementation.fetch (history fetch.observed) (history latest) fetch.blockTag number =
      .ok fetched := by
  rcases step_cases history this event with
    ⟨hnone, _⟩ | ⟨number, latest, fetch, fetched, hsome, _, _, hfetched, _⟩
  · cases hnone.symm.trans h
  · cases hsome.symm.trans h
    exact ⟨latest, hfetched⟩

/-- The base state after an event is the one before it, or has the values of a fetch
that the event delivers. -/
theorem baseState_step {history : Nat → ChainState} {this : StoreSystem implementation}
    (hcomplete : this.Complete) (howned : Owned this) {event : StoreEvent}
    {baseState : LiquityStoreBaseState constants}
    (hbase : (step history this event).store.baseState = some baseState) :
    this.store.baseState = some baseState ∨
      ∃ number fetch fetched, Delivers history number fetch fetched this event ∧
        ∀ key : BaseKey, key.SameValue (baseState.get key) (fetched.1.get key) := by
  rcases step_cases history this event with
    ⟨_, hstore, _⟩ | ⟨number, _, fetch, fetched, hdelivered, _, hpending, hfetched, hstep⟩
  · rw [hstore] at hbase
    exact .inl hbase
  · have hsettled : (this.settling number).Complete := hcomplete
    rcases deliver_cases hsettled fetch.origin fetched with ⟨hskip, _⟩ | ⟨_, hdelivery⟩
    · rw [hstep, hskip] at hbase
      exact .inl hbase
    · rw [← hstep] at hdelivery
      have haddress := howned.value_eq (pending_eq_some.mp hpending).1 hfetched
      exact .inr ⟨number, fetch, fetched, hdelivered,
        hdelivery.baseState_sameValue haddress hbase⟩

/-- The derived state after an event is the one before it, or has the values that are
derived from a fetch that the event delivers. -/
theorem derivedState_step {history : Nat → ChainState} {this : StoreSystem implementation}
    (hcomplete : this.Complete) (howned : Owned this) {event : StoreEvent}
    {derivedState : LiquityStoreDerivedState constants}
    (hderived : (step history this event).store.derivedState = some derivedState) :
    this.store.derivedState = some derivedState ∨
      ∃ number fetch fetched, Delivers history number fetch fetched this event ∧
        ∃ computed, derive fetched.1 0 = .ok computed ∧
          ∀ key : DerivedKey, key.equals (derivedState.get key) (computed.get key) = true := by
  rcases step_cases history this event with
    ⟨_, hstore, _⟩ | ⟨number, _, fetch, fetched, hdelivered, _, hpending, hfetched, hstep⟩
  · rw [hstore] at hderived
    exact .inl hderived
  · have hsettled : (this.settling number).Complete := hcomplete
    rcases deliver_cases hsettled fetch.origin fetched with ⟨hskip, _⟩ | ⟨_, hdelivery⟩
    · rw [hstep, hskip] at hderived
      exact .inl hderived
    · rw [← hstep] at hdelivery
      have haddress := howned.value_eq (pending_eq_some.mp hpending).1 hfetched
      exact (hdelivery.derivedState_equals haddress hderived).imp id fun hcomputed =>
        ⟨number, fetch, fetched, hdelivered, hcomputed⟩

/-- What a run ends with and a new system lacks is brought about by an event. -/
theorem fires_of_run {history : Nat → ChainState} {P : StoreSystem implementation → Prop}
    {fires : StoreSystem implementation → StoreEvent → Prop}
    (hstep : ∀ this event, this.Complete → Owned this → P (step history this event) →
      P this ∨ fires this event)
    (hnew : ¬ P initial) {events : List StoreEvent}
    (h : P (EventRun.run (step history) initial events)) :
    EventRun.Fires (step history) fires initial events := by
  have hinitial : (initial : StoreSystem implementation).Complete ∧
      Owned (initial : StoreSystem implementation) := ⟨complete_initial, fun _ h => by cases h⟩
  have hkeep (this : StoreSystem implementation) (event : StoreEvent)
      (h : this.Complete ∧ Owned this) :
      (step history this event).Complete ∧ Owned (step history this event) :=
    ⟨complete_step h.1 event, owned_step h.1 h.2 event⟩
  exact EventRun.fires_of_run (P := P) (step history) hkeep
    (fun this event h => hstep this event h.1 h.2) hinitial hnew h

/-- The base state that a run ends with has the values of a fetch that it delivers. -/
theorem exists_delivers_baseState (history : Nat → ChainState) (events : List StoreEvent)
    {baseState : LiquityStoreBaseState constants}
    (hbase : (EventRun.run (step history) (initial : StoreSystem implementation)
      events).store.baseState = some baseState) :
    ∃ number fetch fetched,
      EventRun.Fires (step history) (Delivers history number fetch fetched)
        (initial : StoreSystem implementation) events ∧
      (∃ latest, implementation.fetch (history fetch.observed) (history latest) fetch.blockTag
        number = .ok fetched) ∧
      ∀ key : BaseKey, key.SameValue (baseState.get key) (fetched.1.get key) := by
  obtain ⟨earlier, event, later, hsplit, number, fetch, fetched, hdelivers, hsame⟩ :=
    fires_of_run (P := fun this => this.store.baseState = some baseState)
      (fun _ _ hcomplete howned => baseState_step hcomplete howned) (fun h => by cases h) hbase
  exact ⟨number, fetch, fetched, ⟨earlier, event, later, hsplit, hdelivers⟩, hdelivers.fetch,
    hsame⟩

/-- The derived state that a run ends with has the values that are derived from a fetch
that it delivers. -/
theorem exists_delivers_derivedState (history : Nat → ChainState) (events : List StoreEvent)
    {derivedState : LiquityStoreDerivedState constants}
    (hderived : (EventRun.run (step history) (initial : StoreSystem implementation)
      events).store.derivedState = some derivedState) :
    ∃ number fetch fetched computed,
      EventRun.Fires (step history) (Delivers history number fetch fetched)
        (initial : StoreSystem implementation) events ∧
      (∃ latest, implementation.fetch (history fetch.observed) (history latest) fetch.blockTag
        number = .ok fetched) ∧
      derive fetched.1 0 = .ok computed ∧
      ∀ key : DerivedKey, key.equals (derivedState.get key) (computed.get key) = true := by
  obtain ⟨earlier, event, later, hsplit, number, fetch, fetched, hdelivers, computed, hcomputed,
    hequals⟩ := fires_of_run (P := fun this => this.store.derivedState = some derivedState)
      (fun _ _ hcomplete howned => derivedState_step hcomplete howned) (fun h => by cases h)
      hderived
  exact ⟨number, fetch, fetched, computed, ⟨earlier, event, later, hsplit, hdelivers⟩,
    hdelivers.fetch, hcomputed, hequals⟩

end Deliveries

end StoreSystem

/-- The overrides of a read at a block. -/
def EthersCallOverrides.atBlock (blockTag : Nat) : EthersCallOverrides :=
  ⟨some (.number blockTag)⟩

/-- The getter with the address of the connection that it defaults to. -/
def Getter.withDefault (connection : EthersLiquityConnection) : Getter → Getter
  | .user getter none => .user getter connection.userAddress
  | .frontendStatus none => .frontendStatus connection.frontendTag
  | getter => getter

theorem eq_some_of_configured {address : Option String} {text : String}
    (h : configured address = some text) : address = some text := by
  rw [configured, Option.filter_eq_some_iff] at h
  exact h.1

/-- A read of a user's value that hits is about the user of the connection. -/
theorem BlockPolledLiquityStoreBasedCache.withDefault_of_userHit
    {this : BlockPolledLiquityStoreBasedCache constants} {overrides : Option EthersCallOverrides}
    {address : Option String} (h : this.userHit address overrides = true) (getter : UserGetter) :
    (Getter.user getter address).withDefault this.connection =
      .user getter this.connection.userAddress := by
  have haddress := (Bool.and_eq_true_iff.mp h).2
  rcases Bool.or_eq_true_iff.mp haddress with hnone | huser
  · rw [beq_iff_eq.mp hnone]
    rfl
  · rw [beq_iff_eq.mp huser]
    cases husers : this.connection.userAddress with
    | none => exact congrArg (Getter.user getter) husers
    | some user => rfl

theorem BlockPolledLiquityStoreBasedCache.withDefault_of_frontendHit
    {this : BlockPolledLiquityStoreBasedCache constants} {overrides : Option EthersCallOverrides}
    {address : Option String} (h : this.frontendHit address overrides = true) :
    (Getter.frontendStatus address).withDefault this.connection =
      .frontendStatus this.connection.frontendTag := by
  have haddress := (Bool.and_eq_true_iff.mp h).2
  rcases Bool.or_eq_true_iff.mp haddress with hnone | hfrontend
  · rw [beq_iff_eq.mp hnone]
    rfl
  · rw [beq_iff_eq.mp hfrontend]
    cases htag : this.connection.frontendTag with
    | none => exact congrArg Getter.frontendStatus htag
    | some frontendTag => rfl

section Reading

variable {connection : EthersLiquityConnection} {chain latest : ChainState}
  {blockTag : Option Nat} {source : Nat} {overrides : EthersCallOverrides}
  {fetched : Fetched constants} {E : ExtraState}
  {state : LiquityStoreState constants E} {answer : Answer constants}

theorem read_block_of_answer
    (hfetch : BlockPolledLiquityStore.get connection chain latest blockTag source = .ok fetched)
    (hbase : state.base = fetched.1) {getter : BlockGetter}
    (hderive : getter = .fees → derive fetched.1 0 = .ok state.derived)
    (huser : getter.isTokenAddress = true → (configured connection.userAddress).isSome)
    (hanswer : state.answer (.block getter) = some answer) :
    (ReadableEthersLiquity.mk connection fun _ => chain).read (some overrides) (.block getter) =
      .ok answer := by
  let readable : ReadableEthersLiquity := ⟨connection, fun _ => chain⟩
  have hplain : BlockPolledLiquityStore.get readable.connection
      (readable.chainAt (some overrides)) latest blockTag source = .ok fetched := hfetch
  obtain ⟨_, hsome, hread⟩ := answer_block hplain hbase getter hderive
  cases hanswer.symm.trans hsome
  rw [if_neg] at hread
  · exact hread
  · intro hnone
    obtain ⟨haddress, hmissing⟩ := Bool.and_eq_true_iff.mp hnone
    rw [Option.isNone_iff_eq_none] at hmissing
    have := huser haddress
    rw [hmissing] at this
    cases this

theorem read_user_of_answer
    (hfetch : BlockPolledLiquityStore.get connection chain latest blockTag source = .ok fetched)
    (hbase : state.base = fetched.1) {getter : UserGetter}
    (hderive : getter = .trove → derive fetched.1 0 = .ok state.derived)
    (huser : (configured connection.userAddress).isSome) {address : Option String}
    (hanswer : state.answer (.user getter address) = some answer) :
    (ReadableEthersLiquity.mk connection fun _ => chain).read (some overrides)
      (.user getter connection.userAddress) = .ok answer := by
  let readable : ReadableEthersLiquity := ⟨connection, fun _ => chain⟩
  have hplain : BlockPolledLiquityStore.get readable.connection
      (readable.chainAt (some overrides)) latest blockTag source = .ok fetched := hfetch
  obtain ⟨user, hconfigured⟩ := Option.isSome_iff_exists.mp huser
  obtain ⟨_, hsome, hread⟩ := answer_user hconfigured hplain hbase getter
    (Bool.or_true _) hderive address
  cases hanswer.symm.trans hsome
  rw [eq_some_of_configured hconfigured]
  exact hread

theorem read_frontendStatus_of_answer
    (hfetch : BlockPolledLiquityStore.get connection chain latest blockTag source = .ok fetched)
    (hbase : state.base = fetched.1) (hfrontend : (configured connection.frontendTag).isSome)
    {address : Option String} (hanswer : state.answer (.frontendStatus address) = some answer) :
    (ReadableEthersLiquity.mk connection fun _ => chain).read (some overrides)
      (.frontendStatus connection.frontendTag) = .ok answer := by
  let readable : ReadableEthersLiquity := ⟨connection, fun _ => chain⟩
  have hplain : BlockPolledLiquityStore.get readable.connection
      (readable.chainAt (some overrides)) latest blockTag source = .ok fetched := hfetch
  obtain ⟨frontendTag, hconfigured⟩ := Option.isSome_iff_exists.mp hfrontend
  have hstatus := answer_frontendStatus hplain hbase address
  have hconfigured' : configured readable.connection.frontendTag = some frontendTag := hconfigured
  rw [hconfigured'] at hstatus
  cases hanswer.symm.trans hstatus
  rw [eq_some_of_configured hconfigured]
  rfl

end Reading

namespace StoreSystem

variable {connection : EthersLiquityConnection}

/-- The store holds what the getter reads, for a user or a frontend that the connection
has. -/
def Supplied (this : PolledSystem constants connection) : Getter → Prop
  | .block .fees => this.store.derivedState.isSome
  | .block getter => this.store.baseState.isSome ∧
      (getter.isTokenAddress = true → (configured connection.userAddress).isSome)
  | .user .trove _ => this.store.derivedState.isSome ∧ (configured connection.userAddress).isSome
  | .user _ _ => this.store.baseState.isSome ∧ (configured connection.userAddress).isSome
  | .frontendStatus _ =>
      this.store.baseState.isSome ∧ (configured connection.frontendTag).isSome
  | .troves _ => True

/-- The store answers from its base state what some delivered fetch answers. -/
theorem exists_answer_of_baseState (history : Nat → ChainState) (events : List StoreEvent) :
    let final := EventRun.run (StoreSystem.step history)
      (initial : PolledSystem constants connection) events
    final.store.baseState.isSome →
      ∃ number fetch fetched,
        EventRun.Fires (StoreSystem.step history) (Delivers history number fetch fetched)
          (initial : PolledSystem constants connection) events ∧
        (∃ latest, BlockPolledLiquityStore.get connection (history fetch.observed)
          (history latest) fetch.blockTag number = .ok fetched) ∧
        ∃ state : LiquityStoreState constants (StoreImplementation.extra
            (BlockPolledLiquityStore.implementation connection : StoreImplementation constants)),
          state.base = fetched.1 ∧
          ∀ getter, final.store.state.answer getter = state.answer getter := by
  intro final hsome
  obtain ⟨baseState, hbase⟩ := Option.isSome_iff_exists.mp hsome
  obtain ⟨number, fetch, fetched, hfires, hfetch, hsame⟩ :=
    exists_delivers_baseState history events hbase
  refine ⟨number, fetch, fetched, hfires, hfetch,
    ⟨fetched.1, final.store.state.derived, final.store.state.extra⟩, rfl, ?_⟩
  intro getter
  apply LiquityStoreState.answer_congr
  intro key
  cases key with
  | base key =>
      have hstate : final.store.state.base = baseState := congrArg (Option.getD · _) hbase
      change key.SameValue (final.store.state.base.get key) (fetched.1.get key)
      rw [hstate]
      exact hsame key
  | derived key => exact key.equals_refl _

/-- The store answers from its derived state what some delivered fetch answers. -/
theorem exists_answer_of_derivedState (history : Nat → ChainState) (events : List StoreEvent) :
    let final := EventRun.run (StoreSystem.step history)
      (initial : PolledSystem constants connection) events
    final.store.derivedState.isSome →
      ∃ number fetch fetched,
        EventRun.Fires (StoreSystem.step history) (Delivers history number fetch fetched)
          (initial : PolledSystem constants connection) events ∧
        (∃ latest, BlockPolledLiquityStore.get connection (history fetch.observed)
          (history latest) fetch.blockTag number = .ok fetched) ∧
        ∃ state : LiquityStoreState constants (StoreImplementation.extra
            (BlockPolledLiquityStore.implementation connection : StoreImplementation constants)),
          state.base = fetched.1 ∧ derive fetched.1 0 = .ok state.derived ∧
          final.store.state.answer (.block .fees) = state.answer (.block .fees) ∧
          ∀ address, final.store.state.answer (.user .trove address) =
            state.answer (.user .trove address) := by
  intro final hsome
  obtain ⟨derivedState, hderived⟩ := Option.isSome_iff_exists.mp hsome
  obtain ⟨number, fetch, fetched, computed, hfires, hfetch, hcomputed, hequals⟩ :=
    exists_delivers_derivedState history events hderived
  have hfees : derivedState.fees.value = computed.fees.value :=
    Fees.equals_iff.mp (hequals .fees)
  have htrove : derivedState.trove.value = computed.trove.value :=
    UserTrove.equals_iff.mp (hequals .trove)
  have hstate : final.store.state.derived = derivedState := congrArg (Option.getD · _) hderived
  refine ⟨number, fetch, fetched, hfires, hfetch,
    ⟨fetched.1, computed, final.store.state.extra⟩, rfl, hcomputed, ?_, ?_⟩
  · change some (Answer.fees final.store.state.derived.fees.value) = _
    rw [hstate, hfees]
    rfl
  · intro address
    change some (Answer.userTrove final.store.state.derived.trove.value) = _
    rw [hstate, htrove]
    rfl

/-- What the chain answers to a getter that is read with the tag of a block that a delivered fetch
has observed. -/
def WasFetched (history : Nat → ChainState) (events : List StoreEvent) (getter : Getter)
    (answer : Answer constants) : Prop :=
  ∃ number fetch fetched,
    EventRun.Fires (StoreSystem.step history) (Delivers history number fetch fetched)
      (initial : PolledSystem constants connection) events ∧
    (ReadableEthersLiquity.mk connection fun _ => history fetch.observed).read
      (some (.atBlock fetch.observed)) getter = .ok answer

section Provenance

variable {history : Nat → ChainState} {events : List StoreEvent} {answer : Answer constants}

/-- A getter without an address was fetched, the fees with the derivation that uses them. -/
theorem block_wasFetched {getter : BlockGetter}
    (hsupplied : (EventRun.run (StoreSystem.step history)
      (initial : PolledSystem constants connection) events).Supplied (.block getter))
    (hanswer : (EventRun.run (StoreSystem.step history)
      (initial : PolledSystem constants connection) events).store.state.answer (.block getter) =
        some answer) :
    @WasFetched _ connection history events (.block getter) answer := by
  by_cases hgetter : getter = .fees
  · subst hgetter
    obtain ⟨number, fetch, fetched, hfires, ⟨_, hfetch⟩, state, hbase, hderive, hfees, _⟩ :=
      exists_answer_of_derivedState history events hsupplied
    rw [hfees] at hanswer
    exact ⟨number, fetch, fetched, hfires,
      read_block_of_answer hfetch hbase (fun _ => hderive) (fun h => by cases h) hanswer⟩
  · have hholds : (EventRun.run (StoreSystem.step history)
          (initial : PolledSystem constants connection) events).store.baseState.isSome ∧
        (getter.isTokenAddress = true → (configured connection.userAddress).isSome) := by
      cases getter <;> first | exact hsupplied | exact absurd rfl hgetter
    obtain ⟨number, fetch, fetched, hfires, ⟨_, hfetch⟩, state, hbase, hstate⟩ :=
      exists_answer_of_baseState history events hholds.1
    rw [hstate] at hanswer
    exact ⟨number, fetch, fetched, hfires,
      read_block_of_answer hfetch hbase (fun h => absurd h hgetter) hholds.2 hanswer⟩

/-- A user's value was fetched for the user of the connection. -/
theorem user_wasFetched {getter : UserGetter} {address : Option String}
    (hsupplied : (EventRun.run (StoreSystem.step history)
      (initial : PolledSystem constants connection) events).Supplied (.user getter address))
    (hanswer : (EventRun.run (StoreSystem.step history)
      (initial : PolledSystem constants connection) events).store.state.answer
        (.user getter address) = some answer) :
    @WasFetched _ connection history events (.user getter connection.userAddress)
      answer := by
  by_cases hgetter : getter = .trove
  · subst hgetter
    obtain ⟨number, fetch, fetched, hfires, ⟨_, hfetch⟩, state, hbase, hderive, _, htrove⟩ :=
      exists_answer_of_derivedState history events hsupplied.1
    rw [htrove] at hanswer
    exact ⟨number, fetch, fetched, hfires,
      read_user_of_answer hfetch hbase (fun _ => hderive) hsupplied.2 hanswer⟩
  · have hholds : (EventRun.run (StoreSystem.step history)
          (initial : PolledSystem constants connection) events).store.baseState.isSome ∧
        (configured connection.userAddress).isSome := by
      cases getter <;> first | exact hsupplied | exact absurd rfl hgetter
    obtain ⟨number, fetch, fetched, hfires, ⟨_, hfetch⟩, state, hbase, hstate⟩ :=
      exists_answer_of_baseState history events hholds.1
    rw [hstate] at hanswer
    exact ⟨number, fetch, fetched, hfires,
      read_user_of_answer hfetch hbase (fun h => absurd h hgetter) hholds.2 hanswer⟩

/-- The status of a frontend was fetched for the frontend of the connection. -/
theorem frontendStatus_wasFetched {address : Option String}
    (hsupplied : (EventRun.run (StoreSystem.step history)
      (initial : PolledSystem constants connection) events).Supplied (.frontendStatus address))
    (hanswer : (EventRun.run (StoreSystem.step history)
      (initial : PolledSystem constants connection) events).store.state.answer
        (.frontendStatus address) = some answer) :
    @WasFetched _ connection history events
      (.frontendStatus connection.frontendTag) answer := by
  obtain ⟨number, fetch, fetched, hfires, ⟨_, hfetch⟩, state, hbase, hstate⟩ :=
    exists_answer_of_baseState history events hsupplied.1
  rw [hstate] at hanswer
  exact ⟨number, fetch, fetched, hfires,
    read_frontendStatus_of_answer hfetch hbase hsupplied.2 hanswer⟩

end Provenance

/-- Whatever the cache answers of what the store holds is what the plain client reads with the tag
of a block that a delivered fetch has observed, for the address of the read. -/
theorem answer_was_fetched (history : Nat → ChainState) (events : List StoreEvent)
    (overrides : Option EthersCallOverrides) (getter : Getter) {answer : Answer constants} :
    let final := EventRun.run (StoreSystem.step history)
      (initial : PolledSystem constants connection) events
    final.Supplied getter → final.cache.answer overrides getter = some answer →
      ∃ number fetch fetched,
        EventRun.Fires (StoreSystem.step history) (Delivers history number fetch fetched)
          (initial : PolledSystem constants connection) events ∧
        (ReadableEthersLiquity.mk connection fun _ => history fetch.observed).read
          (some (.atBlock fetch.observed)) (getter.withDefault connection) = .ok answer := by
  intro final hsupplied hanswer
  rw [BlockPolledLiquityStoreBasedCache.answer_eq] at hanswer
  split at hanswer
  · next hhit =>
    cases getter with
    | block getter => exact block_wasFetched hsupplied hanswer
    | user getter address =>
        have hwithDefault : (Getter.user getter address).withDefault connection =
            .user getter connection.userAddress :=
          BlockPolledLiquityStoreBasedCache.withDefault_of_userHit hhit getter
        rw [hwithDefault]
        exact user_wasFetched hsupplied hanswer
    | frontendStatus address =>
        have hwithDefault : (Getter.frontendStatus address).withDefault connection =
            .frontendStatus connection.frontendTag :=
          BlockPolledLiquityStoreBasedCache.withDefault_of_frontendHit hhit
        rw [hwithDefault]
        exact frontendStatus_wasFetched hsupplied hanswer
    | troves params => cases hanswer
  · cases hanswer

/-- After a load the cached price was fetched. -/
theorem answer_was_fetched_price :
    let final := EventRun.run (StoreSystem.step countingHistory)
      (initial : PolledSystem defaults exampleConnection) [.start 3, .settled 0 true 3]
    ∃ (answer : Answer defaults) (number : Nat) (fetch : Fetch) (fetched : Fetched defaults),
      final.cache.answer none (.block .price) = some answer ∧
      EventRun.Fires (StoreSystem.step countingHistory)
        (Delivers countingHistory number fetch fetched)
        (initial : PolledSystem defaults exampleConnection) [.start 3, .settled 0 true 3] ∧
      (ReadableEthersLiquity.mk exampleConnection fun _ => countingHistory fetch.observed).read
        (some (.atBlock fetch.observed)) (.block .price) = .ok answer := by
  intro final
  have hsome : (final.cache.answer none (.block .price)).isSome = true := by decide +kernel
  obtain ⟨answer, hanswer⟩ := Option.isSome_iff_exists.mp hsome
  obtain ⟨number, fetch, fetched, hfires, hread⟩ :=
    answer_was_fetched countingHistory [.start 3, .settled 0 true 3] none (.block .price)
      ⟨by decide +kernel, fun h => by cases h⟩ hanswer
  exact ⟨answer, number, fetch, fetched, hanswer, hfires, hread⟩

/-- Before the first fetch is delivered the cache answers with a zero price and no troves,
from which hints are invented too; and without a user a loaded store answers balances. -/
theorem cached_placeholders :
    let started := EventRun.run (StoreSystem.step fun _ => genesisChain)
      (initial : PolledSystem defaults exampleConnection) [.start 0]
    let userless := EventRun.run (StoreSystem.step fun _ => genesisChain)
      (initial : PolledSystem defaults CachedReadableLiquity.userlessConnection)
      [.start 0, .settled 0 true 0]
    (started.cache.answer none (.block .price) = some (.decimal Decimal.zero) ∧
      started.cache.answer none (.block .numberOfTroves) = some (.count 0) ∧
      (∀ number fetch fetched, ¬ EventRun.Fires (StoreSystem.step fun _ => genesisChain)
        (Delivers (fun _ => genesisChain) number fetch fetched)
        (initial : PolledSystem defaults exampleConnection) [.start 0]) ∧
      ∀ (population : Population defaults) (latestRandomSeed : Nat → Nat)
        (nominalCollateralRatio : Decimal), population.readable.getNumberOfTroves = 0 →
          population.findHintsForNominalCollateralRatio latestRandomSeed nominalCollateralRatio =
            (addressZero, addressZero)) ∧
    userless.store.loaded = true ∧
      userless.cache.answer none (.user .hchfBalance none) = some (.decimal Decimal.zero) := by
  refine ⟨⟨rfl, rfl, ?_, ?_⟩, by decide +kernel, by decide +kernel⟩
  · rintro number fetch fetched ⟨earlier, event, later, hsplit, hdelivers⟩
    have hevent : event = .start 0 := by
      have hmem : event ∈ [StoreEvent.start 0] :=
        hsplit ▸ List.mem_append_right _ List.mem_cons_self
      exact List.mem_singleton.mp hmem
    rw [hevent] at hdelivers
    cases hdelivers
  · intro population latestRandomSeed nominalCollateralRatio hnone
    rw [Population.findHintsForNominalCollateralRatio, if_pos hnone]

end StoreSystem

end HLiquity
