import HLiquity.StoreEvents
import Mathlib.Logic.Function.Basic

/-!
# The provider of the store

The provider shows a loader until its store is loaded, which it learns from the store's
`onLoaded` only. A store calls it once, when it is loaded for the first time, and the provider
forgets what it has learned when it mounts another store. So it shows a loaded store as
loaded if it mounts only stores that are not loaded yet.
-/

namespace HLiquity

def Callback.isOnLoaded {constants : Constants} {E : ExtraState} : Callback constants E → Bool
  | .onLoaded => true
  | .notified _ => false

namespace StoreSystem

variable {constants : Constants} {implementation : StoreImplementation constants}

/-- A store that was `before` has called `onLoaded` since. -/
def hasCalledOnLoaded (before after : StoreSystem implementation) : Bool :=
  (after.store.callbacks.drop before.store.callbacks.length).any Callback.isOnLoaded

/-- The fetch that an event delivers to a store which goes through with it. -/
def goesThrough (history : Nat → ChainState) (this : StoreSystem implementation)
    (event : StoreEvent) : Option Nat :=
  match this.delivered history event with
  | none => none
  | some (number, _, fetched) =>
      if (receive this.store fetched.1 fetched.2 fetched.2.toUpdate).1.isOk then some number
      else none

end StoreSystem

/-- A store whose effect has run: which one, the number of the refresh that the effect has
issued, and whether that refresh has gone through. -/
structure MountedStore where
  store : Nat
  refresh : Nat
  refreshed : Bool
  deriving DecidableEq, Repr

/-- The mounted store learns that a fetch of a store has gone through. -/
def MountedStore.notice (mounted : MountedStore) (store : Nat) (fetch : Option Nat) :
    MountedStore :=
  { mounted with
    refreshed := mounted.refreshed || (mounted.store == store && fetch == some mounted.refresh) }

@[simp] theorem MountedStore.notice_store (mounted : MountedStore) (store : Nat)
    (fetch : Option Nat) : (mounted.notice store fetch).store = mounted.store := rfl

section Provider

variable {constants : Nat → Constants}

/-- The provider and all stores, which are told apart by numbers: the store of its last render,
the mounted store, its state, and the stores whose `onLoaded` is its own. The refresh of a
store catches every failure, so that `storeError` is never set. -/
structure LiquityStoreProvider
    (implementation : (number : Nat) → StoreImplementation (constants number)) where
  stores : (number : Nat) → StoreSystem (implementation number)
  onLoaded : Nat → Bool
  store : Option Nat
  mounted : Option MountedStore
  isStoreLoaded : Bool

/-- A render with a store, the effect of the last render, whose refresh observes some block,
or an event of one of the stores. -/
inductive ProviderEvent where
  | render (store : Nat)
  | effect (observed : Nat)
  | store (number : Nat) (event : StoreEvent)

namespace LiquityStoreProvider

variable {implementation : (number : Nat) → StoreImplementation (constants number)}

/-- No store is loaded, and none has been given to the provider. -/
def initial : LiquityStoreProvider implementation where
  stores := fun _ => StoreSystem.initial
  onLoaded := fun _ => false
  store := none
  mounted := none
  isStoreLoaded := false

/-- What the effect returns: it runs before the effect for another store. -/
def cleanUp (this : LiquityStoreProvider implementation) : LiquityStoreProvider implementation :=
  match this.mounted with
  | none => this
  | some mounted =>
      { this with
        onLoaded := Function.update this.onLoaded mounted.store false
        isStoreLoaded := false
        mounted := none }

/-- The chain that each store observes, block by block. -/
abbrev Histories : Type := Nat → Nat → ChainState

/-- The effect. -/
def mount (histories : Histories) (this : LiquityStoreProvider implementation) (store : Nat)
    (observed : Nat) : LiquityStoreProvider implementation :=
  { this with
    onLoaded := Function.update this.onLoaded store true
    stores := Function.update this.stores store
      (StoreSystem.step (histories store) (this.stores store) (.refresh observed))
    mounted := some ⟨store, (this.stores store).fetches.length, false⟩ }

/-- The store that the effect of the last render mounts, if it is not mounted already. -/
def toMount (this : LiquityStoreProvider implementation) : Option Nat :=
  this.store.filter fun store => this.mounted.map MountedStore.store != some store

def storeEvent (histories : Histories) (this : LiquityStoreProvider implementation)
    (number : Nat) (event : StoreEvent) : LiquityStoreProvider implementation :=
  let before := this.stores number
  let after := StoreSystem.step (histories number) before event
  { this with
    stores := Function.update this.stores number after
    isStoreLoaded :=
      this.isStoreLoaded || (this.onLoaded number && before.hasCalledOnLoaded after)
    mounted := this.mounted.map fun mounted =>
      mounted.notice number (before.goesThrough (histories number) event) }

def step (histories : Histories) (this : LiquityStoreProvider implementation) :
    ProviderEvent → LiquityStoreProvider implementation
  | .render store => { this with store := some store }
  | .effect observed =>
      match this.toMount with
      | none => this
      | some store => this.cleanUp.mount histories store observed
  | .store number event => this.storeEvent histories number event

/-- Whether a store is loaded. -/
def isLoaded (this : LiquityStoreProvider implementation) (store : Nat) : Bool :=
  (this.stores store).store.loaded

/-- The mounted store is shown as loaded if it is loaded and the refresh of its mounting has
gone through, and it is not shown as loaded if it is not loaded. -/
structure ShowsLoaded (this : LiquityStoreProvider implementation) : Prop where
  eventually : ∀ mounted ∈ this.mounted, this.isLoaded mounted.store = true →
    mounted.refreshed = true → this.isStoreLoaded = true
  never : ∀ mounted ∈ this.mounted, this.isLoaded mounted.store = false →
    this.isStoreLoaded = false

/-- An effect mounts a store only while it is not loaded. -/
def MountsUnloaded (this : LiquityStoreProvider implementation) : ProviderEvent → Prop
  | .effect _ => ∀ store ∈ this.toMount, this.isLoaded store = false
  | _ => True

instance (this : LiquityStoreProvider implementation) :
    (event : ProviderEvent) → Decidable (this.MountsUnloaded event)
  | .render _ => .isTrue trivial
  | .effect _ => inferInstanceAs (Decidable (∀ store ∈ this.toMount, this.isLoaded store = false))
  | .store _ _ => .isTrue trivial

end LiquityStoreProvider

end Provider

namespace StoreSystem

variable {constants : Constants} {implementation : StoreImplementation constants}

theorem hasCalledOnLoaded_append {before after : StoreSystem implementation}
    {callbacks : List (Callback constants implementation.extra)}
    (h : after.store.callbacks = before.store.callbacks ++ callbacks) :
    before.hasCalledOnLoaded after = callbacks.any Callback.isOnLoaded := by
  rw [hasCalledOnLoaded, h, List.drop_left]

theorem hasCalledOnLoaded_of_eq {before after : StoreSystem implementation}
    (h : after.store.callbacks = before.store.callbacks) :
    before.hasCalledOnLoaded after = false :=
  hasCalledOnLoaded_append (h.trans (List.append_nil _).symm)

/-- A delivery loads a store and calls `onLoaded`, or does neither. -/
theorem Delivery.onLoaded {this next : StoreSystem implementation} {fetched : Fetched constants}
    (hdelivery : Delivery this fetched next) :
    (this.hasCalledOnLoaded next = false ∧ next.store.loaded = this.store.loaded) ∨
    (this.store.loaded = false ∧ next.store.loaded = true ∧
      this.hasCalledOnLoaded next = true) := by
  cases hdelivery with
  | updateThrows hloaded hbefore hnot =>
      exact .inl ⟨hasCalledOnLoaded_of_eq rfl, rfl⟩
  | updated hloaded =>
      obtain ⟨params, hparams⟩ := this.store.updated_callbacks _ _ _
      exact .inl ⟨(hasCalledOnLoaded_append hparams).trans rfl, rfl⟩
  | loadThrows hloaded hnot =>
      exact .inl ⟨hasCalledOnLoaded_of_eq rfl, rfl⟩
  | loaded hloaded hderivable hderive hagain =>
      obtain ⟨params, hparams⟩ := HLiquityStore.updated_callbacks
        (this.store.loadedWith fetched.1 _ (some fetched.2)) _ _ _
      rw [HLiquityStore.loadedWith, List.append_assoc] at hparams
      exact .inr ⟨hloaded, rfl, (hasCalledOnLoaded_append hparams).trans rfl⟩

/-- An event loads a store and calls `onLoaded`, or does neither. -/
theorem onLoaded_step (history : Nat → ChainState) {this : StoreSystem implementation}
    (h : this.Complete) (event : StoreEvent) :
    (this.hasCalledOnLoaded (step history this event) = false ∧
      (step history this event).store.loaded = this.store.loaded) ∨
    (this.store.loaded = false ∧ (step history this event).store.loaded = true ∧
      this.hasCalledOnLoaded (step history this event) = true) := by
  have hquiet {next : StoreSystem implementation} (hstore : next.store = this.store) :
      this.hasCalledOnLoaded next = false ∧ next.store.loaded = this.store.loaded :=
    ⟨hasCalledOnLoaded_of_eq (congrArg _ hstore), congrArg _ hstore⟩
  rcases step_cases history this event with
    ⟨_, hstore, _⟩ | ⟨number, latest, fetch, fetched, _, _, _, _, hstep⟩
  · exact .inl (hquiet hstore)
  · have hsettled : (this.settling number).Complete := h
    rw [hstep]
    rcases deliver_cases hsettled fetch.origin fetched with ⟨hsame, _⟩ | ⟨_, hdelivery⟩
    · rw [hsame]
      exact .inl (hquiet rfl)
    · exact hdelivery.onLoaded

end StoreSystem

namespace LiquityStoreProvider

variable {constants : Nat → Constants}
  {implementation : (number : Nat) → StoreImplementation (constants number)}
  {histories : Histories} {this : LiquityStoreProvider implementation}

/-- The provider listens to the mounted store alone, and shows only a loaded store as loaded. -/
structure Tracks (this : LiquityStoreProvider implementation) : Prop where
  complete : ∀ number, (this.stores number).Complete
  onLoaded : ∀ number, this.onLoaded number = true ↔
    ∃ mounted ∈ this.mounted, mounted.store = number
  loaded : this.isStoreLoaded = true → ∃ mounted ∈ this.mounted, this.isLoaded mounted.store = true

/-- The mounted store is shown as loaded as soon as it is loaded. -/
def ShowsAtOnce (this : LiquityStoreProvider implementation) : Prop :=
  ∀ mounted ∈ this.mounted, this.isLoaded mounted.store = true → this.isStoreLoaded = true

theorem tracks_initial : Tracks (initial : LiquityStoreProvider implementation) where
  complete _ := StoreSystem.complete_initial
  onLoaded number := by simp [initial]
  loaded h := by cases h

/-- A mounted store that is not loaded is not shown as loaded. -/
theorem Tracks.never (h : Tracks this) : ∀ mounted ∈ this.mounted,
    this.isLoaded mounted.store = false → this.isStoreLoaded = false := by
  intro mounted hmounted hunloaded
  by_contra hshown
  obtain ⟨other, hother, hloaded⟩ := h.loaded (Bool.eq_true_of_not_eq_false hshown)
  obtain rfl := Option.mem_unique hmounted hother
  rw [hunloaded] at hloaded
  cases hloaded

theorem Tracks.cleanUp_isStoreLoaded (h : Tracks this) : this.cleanUp.isStoreLoaded = false := by
  unfold cleanUp
  split
  · next hnone =>
      by_contra hshown
      obtain ⟨mounted, hmounted, -⟩ := h.loaded (Bool.eq_true_of_not_eq_false hshown)
      rw [hnone] at hmounted
      cases hmounted
  · rfl

/-- Nothing is listened to after the clean-up. -/
theorem Tracks.cleanUp_onLoaded (h : Tracks this) (number : Nat) :
    this.cleanUp.onLoaded number = false := by
  have hlistens := h.onLoaded number
  unfold cleanUp
  split
  · next hnone =>
      rw [hnone] at hlistens
      simpa using hlistens
  · next mounted hmounted =>
      by_cases heq : number = mounted.store
      · rw [heq]
        exact Function.update_self ..
      · have hother : this.onLoaded number ≠ true := by
          rw [Ne, hlistens, hmounted]
          simpa using Ne.symm heq
        simpa [Function.update_of_ne heq] using hother

@[simp] theorem cleanUp_stores (this : LiquityStoreProvider implementation) :
    this.cleanUp.stores = this.stores := by
  unfold cleanUp
  split <;> rfl

/-- The refresh that an effect issues does not load the store. -/
theorem isLoaded_mount (this : LiquityStoreProvider implementation) (store observed : Nat) :
    (this.mount histories store observed).isLoaded = this.isLoaded := by
  funext number
  by_cases heq : number = store
  · subst heq
    simp [isLoaded, mount, StoreSystem.step]
  · simp [isLoaded, mount, Function.update_of_ne heq]

theorem isLoaded_storeEvent_of_ne (this : LiquityStoreProvider implementation)
    {number store : Nat} (h : store ≠ number) (event : StoreEvent) :
    (this.storeEvent histories number event).isLoaded store = this.isLoaded store := by
  simp [isLoaded, storeEvent, Function.update_of_ne h]

theorem isLoaded_storeEvent (this : LiquityStoreProvider implementation) (number : Nat)
    (event : StoreEvent) :
    (this.storeEvent histories number event).isLoaded number =
      (StoreSystem.step (histories number) (this.stores number) event).store.loaded := by
  simp [isLoaded, storeEvent]

/-- An event of a store leaves the mounted store in place. -/
theorem exists_mounted_of_storeEvent {number : Nat} {event : StoreEvent} {mounted : MountedStore}
    (h : mounted ∈ (this.storeEvent histories number event).mounted) :
    ∃ before ∈ this.mounted, before.store = mounted.store := by
  obtain ⟨before, hbefore, rfl⟩ := Option.map_eq_some_iff.mp h
  exact ⟨before, hbefore, rfl⟩

theorem exists_mounted_storeEvent (histories : Histories) (number : Nat) (event : StoreEvent)
    {mounted : MountedStore} (h : mounted ∈ this.mounted) :
    ∃ after ∈ (this.storeEvent histories number event).mounted, after.store = mounted.store :=
  ⟨_, Option.map_eq_some_iff.mpr ⟨mounted, h, rfl⟩, rfl⟩

/-- What an event of a store does to the mounted one: nothing, or it loads it and tells the
provider. -/
theorem Tracks.storeEvent_cases (h : Tracks this) (histories : Histories) (number : Nat)
    (event : StoreEvent) {mounted : MountedStore} (hmounted : mounted ∈ this.mounted) :
    ((this.storeEvent histories number event).isLoaded mounted.store =
        this.isLoaded mounted.store ∧
      (this.storeEvent histories number event).isStoreLoaded = this.isStoreLoaded) ∨
    (this.isLoaded mounted.store = false ∧
      (this.storeEvent histories number event).isLoaded mounted.store = true ∧
      (this.storeEvent histories number event).isStoreLoaded = true) := by
  have hflag : (this.storeEvent histories number event).isStoreLoaded =
      (this.isStoreLoaded || (this.onLoaded number && (this.stores number).hasCalledOnLoaded
        (StoreSystem.step (histories number) (this.stores number) event))) := rfl
  by_cases heq : mounted.store = number
  · subst heq
    have hlistens : this.onLoaded mounted.store = true :=
      (h.onLoaded _).mpr ⟨mounted, hmounted, rfl⟩
    rw [isLoaded_storeEvent, hflag, hlistens]
    rcases StoreSystem.onLoaded_step (histories mounted.store) (h.complete mounted.store)
        event with ⟨hcalled, hsame⟩ | ⟨hunloaded, hloaded, hcalled⟩
    · exact .inl ⟨hsame, by simp [hcalled]⟩
    · exact .inr ⟨hunloaded, hloaded, by simp [hcalled]⟩
  · have hdeaf : this.onLoaded number = false := by
      by_contra hlistens
      obtain ⟨other, hother, hstore⟩ :=
        (h.onLoaded number).mp (Bool.eq_true_of_not_eq_false hlistens)
      obtain rfl := Option.mem_unique hmounted hother
      exact heq hstore
    exact .inl ⟨isLoaded_storeEvent_of_ne this heq event, by simp [hflag, hdeaf]⟩

theorem Tracks.storeEvent (h : Tracks this) (number : Nat) (event : StoreEvent) :
    Tracks (this.storeEvent histories number event) where
  complete other := by
    by_cases heq : other = number
    · subst heq
      simpa [LiquityStoreProvider.storeEvent] using
        StoreSystem.complete_step (h.complete other) event
    · simpa [LiquityStoreProvider.storeEvent, Function.update_of_ne heq] using h.complete other
  onLoaded other := by
    refine (h.onLoaded other).trans ⟨?_, ?_⟩
    · rintro ⟨mounted, hmounted, rfl⟩
      exact exists_mounted_storeEvent histories number event hmounted
    · rintro ⟨mounted, hmounted, rfl⟩
      exact exists_mounted_of_storeEvent hmounted
  loaded hshown := by
    obtain ⟨mounted, hmounted⟩ : ∃ mounted, mounted ∈ this.mounted := by
      rcases Bool.or_eq_true_iff.mp hshown with hbefore | hnow
      · obtain ⟨mounted, hmounted, -⟩ := h.loaded hbefore
        exact ⟨mounted, hmounted⟩
      · obtain ⟨mounted, hmounted, -⟩ :=
          (h.onLoaded number).mp (Bool.and_eq_true_iff.mp hnow).1
        exact ⟨mounted, hmounted⟩
    obtain ⟨after, hafter, hstore⟩ :=
      exists_mounted_storeEvent histories number event hmounted
    refine ⟨after, hafter, hstore ▸ ?_⟩
    rcases h.storeEvent_cases histories number event hmounted with
      ⟨hsame, hflag⟩ | ⟨-, hloaded, -⟩
    · obtain ⟨before, hbefore, hloaded⟩ := h.loaded (hflag ▸ hshown)
      obtain rfl := Option.mem_unique hmounted hbefore
      exact hsame.trans hloaded
    · exact hloaded

theorem Tracks.effect (h : Tracks this) (store observed : Nat) :
    Tracks (this.cleanUp.mount histories store observed) where
  complete number := by
    by_cases heq : number = store
    · subst heq
      simpa [mount] using StoreSystem.complete_step (h.complete number) (.refresh observed)
    · simpa [mount, Function.update_of_ne heq] using h.complete number
  onLoaded number := by
    by_cases heq : number = store
    · subst heq
      simp [mount]
    · simp [mount, Function.update_of_ne heq, h.cleanUp_onLoaded, Ne.symm heq]
  loaded hshown := by
    rw [mount, h.cleanUp_isStoreLoaded] at hshown
    cases hshown

theorem Tracks.step (h : Tracks this) (event : ProviderEvent) :
    Tracks (this.step histories event) := by
  cases event with
  | render store => exact ⟨h.complete, h.onLoaded, h.loaded⟩
  | store number event => exact h.storeEvent number event
  | effect observed =>
      cases hstore : this.toMount with
      | none => simpa only [LiquityStoreProvider.step, hstore] using h
      | some store => simpa only [LiquityStoreProvider.step, hstore] using h.effect store observed

/-- A step that mounts no loaded store shows the mounted store as loaded as soon as it is. -/
theorem ShowsAtOnce.step (hshows : ShowsAtOnce this) (h : Tracks this) {event : ProviderEvent}
    (hmounts : this.MountsUnloaded event) : ShowsAtOnce (this.step histories event) := by
  cases event with
  | render store => exact hshows
  | store number event =>
      intro after hafter hloaded
      obtain ⟨mounted, hmounted, hstore⟩ := exists_mounted_of_storeEvent hafter
      rw [← hstore] at hloaded
      rcases h.storeEvent_cases histories number event hmounted with
        ⟨hsame, hflag⟩ | ⟨-, -, hflag⟩
      · exact hflag.trans (hshows mounted hmounted (hsame.symm.trans hloaded))
      · exact hflag
  | effect observed =>
      cases hstore : this.toMount with
      | none => simpa only [LiquityStoreProvider.step, hstore] using hshows
      | some store =>
          intro mounted hmounted hloaded
          simp only [LiquityStoreProvider.step, hstore] at hmounted hloaded
          obtain rfl := Option.some.inj hmounted
          -- the store was not loaded when it was mounted
          rw [isLoaded_mount, isLoaded, cleanUp_stores] at hloaded
          have hunloaded : (this.stores store).store.loaded = false := hmounts store hstore
          rw [hunloaded] at hloaded
          cases hloaded

/-- In every run a store that is not loaded is not shown as loaded. -/
theorem tracks_run (histories : Histories) (events : List ProviderEvent) :
    Tracks (EventRun.run (step histories)
      (initial : LiquityStoreProvider implementation) events) :=
  EventRun.run_invariant (step histories) (fun _ event h => h.step event) tracks_initial events

/-- In every run that mounts only stores that are not loaded the provider shows the mounted
store as loaded once it is loaded, and never before. -/
theorem showsLoaded_run (histories : Histories) {events : List ProviderEvent}
    (hmeets : EventRun.Meets (step histories) MountsUnloaded
      (initial : LiquityStoreProvider implementation) events) :
    ShowsLoaded (EventRun.run (step histories)
      (initial : LiquityStoreProvider implementation) events) := by
  have hstep (this : LiquityStoreProvider implementation) (event : ProviderEvent)
      (h : Tracks this ∧ ShowsAtOnce this) (hmounts : this.MountsUnloaded event) :
      Tracks (this.step histories event) ∧ ShowsAtOnce (this.step histories event) :=
    ⟨h.1.step event, h.2.step h.1 hmounts⟩
  have hinitial : Tracks (initial : LiquityStoreProvider implementation) ∧
      ShowsAtOnce (initial : LiquityStoreProvider implementation) :=
    ⟨tracks_initial, fun _ h => by cases h⟩
  obtain ⟨htracks, hshows⟩ :=
    EventRun.run_invariant_of_meets (step histories) hstep hinitial hmeets
  exact ⟨fun mounted hmounted hloaded _ => hshows mounted hmounted hloaded, htracks.never⟩

/-- The event mounts no store. -/
def KeepsMounted (this : LiquityStoreProvider implementation) : ProviderEvent → Prop
  | .effect _ => this.toMount = none
  | _ => True

/-- A loaded store that is not shown as loaded is not shown after the next event either. -/
theorem stuck_step (h : Tracks this) (hflag : this.isStoreLoaded = false) {mounted : MountedStore}
    (hmounted : mounted ∈ this.mounted) (hloaded : this.isLoaded mounted.store = true)
    {event : ProviderEvent} (hkeeps : this.KeepsMounted event) :
    (this.step histories event).isStoreLoaded = false ∧
      ∃ after ∈ (this.step histories event).mounted,
        (this.step histories event).isLoaded after.store = true := by
  cases event with
  | render store => exact ⟨hflag, mounted, hmounted, hloaded⟩
  | effect observed =>
      have hnone : this.toMount = none := hkeeps
      simp only [step, hnone]
      exact ⟨hflag, mounted, hmounted, hloaded⟩
  | store number event =>
      obtain ⟨after, hafter, hstore⟩ :=
        exists_mounted_storeEvent histories number event hmounted
      rcases h.storeEvent_cases histories number event hmounted with
        ⟨hsame, hsameFlag⟩ | ⟨hunloaded, -, -⟩
      · exact ⟨hsameFlag.trans hflag, after, hafter, hstore ▸ hsame.trans hloaded⟩
      · rw [hloaded] at hunloaded
        cases hunloaded

/-- A store that is loaded when it is mounted is not shown as loaded until a store is mounted
again. -/
theorem stuck_run (h : Tracks this) {store : Nat} (hstore : this.toMount = some store)
    (hloaded : this.isLoaded store = true) (observed : Nat) {events : List ProviderEvent}
    (hmeets : EventRun.Meets (step histories) KeepsMounted
      (this.step histories (.effect observed)) events) :
    (EventRun.run (step histories) (this.step histories (.effect observed)) events).isStoreLoaded =
      false := by
  have hkeep (next : LiquityStoreProvider implementation) (event : ProviderEvent)
      (hnext : Tracks next ∧ next.isStoreLoaded = false ∧
        ∃ mounted ∈ next.mounted, next.isLoaded mounted.store = true)
      (hkeeps : next.KeepsMounted event) :
      Tracks (next.step histories event) ∧ (next.step histories event).isStoreLoaded = false ∧
        ∃ mounted ∈ (next.step histories event).mounted,
          (next.step histories event).isLoaded mounted.store = true := by
    obtain ⟨htracks, hflag, mounted, hmounted, hloaded⟩ := hnext
    exact ⟨htracks.step event, stuck_step htracks hflag hmounted hloaded hkeeps⟩
  have hmounts : (this.step histories (.effect observed)).isStoreLoaded = false ∧
      ∃ mounted ∈ (this.step histories (.effect observed)).mounted,
        (this.step histories (.effect observed)).isLoaded mounted.store = true := by
    simp only [step, hstore]
    refine ⟨h.cleanUp_isStoreLoaded, _, rfl, ?_⟩
    rw [isLoaded_mount, isLoaded, cleanUp_stores]
    exact hloaded
  exact (EventRun.run_invariant_of_meets (step histories) hkeep ⟨h.step _, hmounts⟩ hmeets).2.1

/-- Two stores of one deployment. -/
abbrev exampleStores (_ : Nat) : StoreImplementation defaults :=
  HashgraphLiquity.implementation exampleOptions

/-- A render with a store, its effect, and the end of a fetch of the store. -/
def showStore (store fetch : Nat) : List ProviderEvent :=
  [.render store, .effect 0, .store store (.settled fetch true 0)]

theorem showsLoaded_run_twoStores :
    ShowsLoaded (EventRun.run (step fun _ _ => genesisChain)
      (initial : LiquityStoreProvider exampleStores) (showStore 0 0 ++ showStore 1 0)) :=
  showsLoaded_run _ (by decide +kernel)

/-- The first store is not shown as loaded when it returns. -/
theorem not_showsLoaded_returning :
    ¬ShowsLoaded (EventRun.run (step fun _ _ => genesisChain)
      (initial : LiquityStoreProvider exampleStores)
      (showStore 0 0 ++ showStore 1 0 ++ showStore 0 1)) := by
  intro h
  have hshown := h.eventually ⟨0, 1, true⟩ (by decide +kernel) (by decide +kernel) rfl
  revert hshown
  decide +kernel

end LiquityStoreProvider

end HLiquity
