import HLiquity.Library.RenderCycle
import HLiquity.LiquityReducer

/-!
# A selector that follows the store

The hook `useLiquitySelector` keeps a state of the store and subscribes in an effect, like the hook
of a reducer. It subscribes again whenever its state is another one, and compares what it is told
with the state of the render whose effect has subscribed. So it may keep a state that is not the
current one until the next effect, but no longer: the notification that the subscription sends
brings the current one.
-/

namespace HLiquity

variable {constants : Constants} {E : ExtraState}

/-- The keys of a base state. -/
def BaseKey.all : List BaseKey :=
  [.frontend, .ownFrontend, .numberOfTroves, .accountBalance, .hchfBalance, .hchfTokenAddress,
    .hlqtTokenAddress, .hlqtBalance, .uniTokenBalance, .uniTokenAllowance,
    .remainingLiquidityMiningHLQTReward, .liquidityMiningStake, .totalStakedUniTokens,
    .liquidityMiningHLQTReward, .collateralSurplusBalance, .price, .hchfInStabilityPool, .total,
    .totalRedistributed, .troveBeforeRedistribution, .stabilityDeposit,
    .remainingStabilityPoolHLQTReward, .feesInNormalMode, .hlqtStake, .totalStakedHLQT,
    .riskiestTroveBeforeRedistribution, .userHasAssociatedWithHchf, .userHasAssociatedWithHlqt,
    .userHasAssociatedWithLpToken, .hchfTokenAllowanceOfHchfContract,
    .hlqtTokenAllowanceOfHlqtContract]

theorem BaseKey.mem_all (key : BaseKey) : key ∈ all := by
  cases key <;> decide

/-- The keys of a derived state. -/
def DerivedKey.all : List DerivedKey :=
  [.trove, .fees, .borrowingRate, .redemptionRate, .haveUndercollateralizedTroves]

theorem DerivedKey.mem_all (key : DerivedKey) : key ∈ all := by
  cases key <;> decide

/-- `equals` on two states: every property is identical in both. Those of the extra state are
compared by a parameter. -/
def LiquityStoreState.equals (extraEquals : Option E.State → Option E.State → Bool)
    (a b : LiquityStoreState constants E) : Bool :=
  BaseKey.all.all (fun key => key.strictEquals (a.base.get key) (b.base.get key)) &&
    DerivedKey.all.all (fun key => key.strictEquals (a.derived.get key) (b.derived.get key)) &&
    extraEquals a.extra b.extra

theorem LiquityStoreState.equals_refl {extraEquals : Option E.State → Option E.State → Bool}
    (hextra : ∀ extra, extraEquals extra extra = true) (a : LiquityStoreState constants E) :
    a.equals extraEquals a = true := by
  rw [equals, Bool.and_eq_true, Bool.and_eq_true, List.all_eq_true, List.all_eq_true]
  exact ⟨⟨fun key _ => key.strictEquals_refl _, fun key _ => key.strictEquals_refl _⟩, hextra _⟩

/-- The store holds both states. One that does not returns other objects each time that its state
is read. -/
def HLiquityStore.Held (this : HLiquityStore constants E) : Prop :=
  this.baseState.isSome = true ∧ this.derivedState.isSome = true

instance (this : HLiquityStore constants E) : Decidable this.Held :=
  inferInstanceAs (Decidable (_ ∧ _))

/-- A call does not throw. -/
def StoreCall.Returns (this : HLiquityStore constants E) : StoreCall constants E → Prop
  | load baseState extraState => (this.load baseState extraState).1 = .ok ()
  | update call => (this.update call.base call.extra).1 = .ok ()

namespace HLiquityStore

/-- A call tells the listeners nothing and throws, or it tells them once, of the state that the
store has after it. -/
inductive Tells (this after : HLiquityStore constants E) (returns : Prop) : Prop where
  | silent (hnotified : this.notifiedSince after = []) (hthrows : ¬ returns)
      (hheld : this.Held → after.Held)
  | told (params : LiquityStoreListenerParams constants E)
      (hnotified : this.notifiedSince after = [params]) (hstate : params.newState = after.state)
      (hheld : after.Held)

theorem tells_load (this : HLiquityStore constants E)
    (baseState : LiquityStoreBaseState constants) (extraState : Option E.State) :
    this.Tells (this.load baseState extraState).2
      ((this.load baseState extraState).1 = .ok ()) := by
  by_cases hloaded : this.loaded = true
  · have hload : this.load baseState extraState = (.error (.assertion "!this._loaded"), this) := by
      rw [load, if_pos hloaded]
    rw [hload]
    exact .silent (notifiedSince_eq_nil rfl) (fun h => by cases h) id
  · rw [Bool.not_eq_true] at hloaded
    by_cases hderivable : baseState.Derivable
    · obtain ⟨derived, again, _, _, hload⟩ := load_of_derivable hloaded hderivable extraState
      rw [hload]
      exact .told _ (notifiedSince_append [.onLoaded, .notified _] (List.append_assoc _ _ _)) rfl
        ⟨rfl, rfl⟩
    · obtain ⟨failure, _, hload⟩ := load_of_not_derivable hloaded hderivable extraState
      rw [hload]
      exact .silent (notifiedSince_eq_nil rfl) (fun h => by cases h) fun h => ⟨rfl, h.2⟩

theorem tells_update (this : HLiquityStore constants E) (call : UpdateCall constants E) :
    this.Tells (this.afterUpdate call) ((this.update call.base call.extra).1 = .ok ()) := by
  unfold afterUpdate
  cases hb : this.baseState with
  | none =>
      have hupdate : this.update call.base call.extra =
          (.error (.assertion "this._baseState && this._derivedState"), this) := by
        simp [update, hb]
      rw [hupdate]
      exact .silent (notifiedSince_eq_nil rfl) (fun h => by cases h) id
  | some baseState =>
      cases hd : this.derivedState with
      | none =>
          rw [update_of_derivedState_none hd]
          exact .silent (notifiedSince_eq_nil rfl) (fun h => by cases h) id
      | some derivedState =>
          rcases update_cases hb hd call.base call.extra with
            ⟨failure, _, hupdate⟩ | ⟨computed, failure, _, _, hupdate⟩ |
            ⟨computed, extraState, _, _, hupdate⟩
          · rw [hupdate]
            exact .silent (notifiedSince_eq_nil rfl) (fun h => by cases h) fun h => ⟨rfl, h.2⟩
          · rw [hupdate]
            exact .silent (notifiedSince_eq_nil rfl) (fun h => by cases h) fun _ => ⟨rfl, rfl⟩
          · rw [hupdate]
            exact .told _ (notifiedSince_append [.notified _] rfl) rfl ⟨rfl, rfl⟩

theorem tells_run (this : HLiquityStore constants E) (call : StoreCall constants E) :
    this.Tells (call.run this) (call.Returns this) := by
  cases call with
  | load baseState extraState => exact this.tells_load baseState extraState
  | update call => exact this.tells_update call

end HLiquityStore

/-- The functions that components select with, each with an identity of its own, and the equality
of the extra state. -/
structure LiquitySelector (constants : Constants) (E : ExtraState) where
  Select : Type
  Selected : Type
  select : Select → LiquityStoreState constants E → Selected
  extraEquals : Option E.State → Option E.State → Bool
  extraEquals_refl : ∀ extra, extraEquals extra extra = true

namespace LiquitySelector

section Hooks

variable (selector : LiquitySelector constants E) (Id : Type)

/-- What the hook keeps between renders: the store, the selecting function and the state of the last
render, the state that is set since, what has been selected, whether the effect of the last render
has still to run, and the store that it is subscribed to with the state that its subscriber compares
with. -/
structure Hook where
  store : Id
  select : selector.Select
  storeState : LiquityStoreState constants E
  next : Option (LiquityStoreState constants E)
  selectedState : selector.Selected
  effectPending : Bool
  subscribed : Option (Id × LiquityStoreState constants E)

/-- The stores of the application and the hook of a component, if it is mounted. -/
structure World where
  stores : Id → HLiquityStore constants E
  hook : Option (selector.Hook Id)

/-- A store is called, the component renders with a store and a selecting function, its effect runs,
or it is unmounted. -/
inductive Event where
  | call (id : Id) (call : StoreCall constants E)
  | render (id : Id) (select : selector.Select)
  | effect
  | unmount

end Hooks

variable {selector : LiquitySelector constants E} {Id : Type}

namespace Hook

/-- `subscriber`, which is told of a state of a store. -/
def subscriber (this : selector.Hook Id) (store : HLiquityStore constants E)
    (newState : LiquityStoreState constants E) : selector.Hook Id :=
  match this.subscribed with
  | some (_, storeState) =>
      if store.Held ∧ newState.equals selector.extraEquals storeState = true then this
      else { this with next := some newState }
  | none => this

/-- The effect of the last render subscribes to the store that was rendered, which notifies at
once. -/
def runEffect (stores : Id → HLiquityStore constants E) (this : selector.Hook Id) :
    selector.Hook Id :=
  if this.effectPending then
    let subscribed : selector.Hook Id :=
      { this with effectPending := false, subscribed := some (this.store, this.storeState) }
    subscribed.subscriber (stores this.store) (stores this.store).catchUp.newState
  else this

/-- The first render. -/
def mount (stores : Id → HLiquityStore constants E) (id : Id) (select : selector.Select) :
    selector.Hook Id where
  store := id
  select := select
  storeState := (stores id).state
  next := none
  selectedState := selector.select select (stores id).state
  effectPending := true
  subscribed := none

/-- A later render, before which the effect of the last one has run. A state that was set is always
another object. -/
def render [DecidableEq Id] [DecidableEq selector.Select]
    (stores : Id → HLiquityStore constants E) (id : Id) (select : selector.Select)
    (this : selector.Hook Id) : selector.Hook Id :=
  let this := this.runEffect stores
  let storeState := this.next.getD this.storeState
  { this with
    store := id
    select := select
    storeState := storeState
    next := none
    selectedState :=
      if this.next.isSome ∨ this.select ≠ select then selector.select select storeState
      else this.selectedState
    effectPending := this.next.isSome || this.store ≠ id || this.select ≠ select }

/-- The hook is told of what a store notifies during a call, if it is subscribed to this store. -/
def afterCall [DecidableEq Id] (this : selector.Hook Id) (id : Id)
    (store after : HLiquityStore constants E) : selector.Hook Id :=
  if this.subscribed.map Prod.fst = some id then
    (store.notifiedSince after).foldl
      (fun hook params => hook.subscriber after params.newState) this
  else this

end Hook

/-- The world before anything happens. -/
def initial : selector.World Id := ⟨fun _ => .new, none⟩

section Steps

variable [DecidableEq Id] [DecidableEq selector.Select]

def World.step (this : selector.World Id) : selector.Event Id → selector.World Id
  | .call id call =>
      let after := call.run (this.stores id)
      { stores := Function.update this.stores id after
        hook := this.hook.map fun hook => hook.afterCall id (this.stores id) after }
  | .render id select =>
      match this.hook with
      | none => { this with hook := some (.mount this.stores id select) }
      | some hook => { this with hook := some (hook.render this.stores id select) }
  | .effect => { this with hook := this.hook.map (Hook.runEffect this.stores) }
  | .unmount => { this with hook := none }

end Steps

namespace Hook

variable {stores : Id → HLiquityStore constants E} {this : selector.Hook Id}

/-- What holds of a hook: it has selected from its state, and once its effect has run, it is
subscribed to the store that was rendered, compares with its state, and rests only if the store
holds its states. -/
structure Attached (stores : Id → HLiquityStore constants E) (this : selector.Hook Id) : Prop where
  selected : this.selectedState = selector.select this.select this.storeState
  subscribed : this.effectPending = false → this.subscribed = some (this.store, this.storeState)
  held : this.effectPending = false → this.next = none → (stores this.store).Held

/-- A hook that rests shows the state of the store. -/
def ShowsCurrent (stores : Id → HLiquityStore constants E) (this : selector.Hook Id) : Prop :=
  this.effectPending = false → this.next = none →
    (stores this.store).state.equals selector.extraEquals this.storeState = true

/-- What being told of a state may change. -/
theorem subscriber_cases (store : HLiquityStore constants E)
    (newState : LiquityStoreState constants E) {id : Id}
    {storeState : LiquityStoreState constants E} (h : this.subscribed = some (id, storeState)) :
    (store.Held ∧ newState.equals selector.extraEquals storeState = true ∧
        this.subscriber store newState = this) ∨
      (¬ (store.Held ∧ newState.equals selector.extraEquals storeState = true) ∧
        this.subscriber store newState = { this with next := some newState }) := by
  rw [subscriber, h]
  by_cases hequals : store.Held ∧ newState.equals selector.extraEquals storeState = true
  · exact .inl ⟨hequals.1, hequals.2, if_pos hequals⟩
  · exact .inr ⟨hequals, if_neg hequals⟩

/-- An effect that has to run subscribes, and sets the state of the store unless that is the one of
the hook. -/
theorem runEffect_cases (stores : Id → HLiquityStore constants E)
    (hpending : this.effectPending = true) :
    let subscribed : selector.Hook Id :=
      { this with effectPending := false, subscribed := some (this.store, this.storeState) }
    ((stores this.store).Held ∧
        (stores this.store).state.equals selector.extraEquals this.storeState = true ∧
        this.runEffect stores = subscribed) ∨
      (¬ ((stores this.store).Held ∧
          (stores this.store).state.equals selector.extraEquals this.storeState = true) ∧
        this.runEffect stores = { subscribed with next := some (stores this.store).state }) := by
  intro subscribed
  rw [runEffect, if_pos hpending]
  exact subscribed.subscriber_cases _ _ rfl

theorem runEffect_of_not_pending (h : this.effectPending = false) :
    this.runEffect stores = this := by
  rw [runEffect, if_neg (by simp [h])]

/-- The effect changes none of what was rendered. -/
theorem runEffect_rendered (this : selector.Hook Id) (stores : Id → HLiquityStore constants E) :
    (this.runEffect stores).store = this.store ∧
      (this.runEffect stores).select = this.select ∧
      (this.runEffect stores).storeState = this.storeState ∧
      (this.runEffect stores).selectedState = this.selectedState ∧
      (this.runEffect stores).effectPending = false := by
  cases hpending : this.effectPending with
  | false =>
      rw [runEffect_of_not_pending hpending]
      exact ⟨rfl, rfl, rfl, rfl, hpending⟩
  | true =>
      rcases runEffect_cases stores hpending with ⟨_, _, heffect⟩ | ⟨_, heffect⟩ <;>
        rw [heffect] <;> exact ⟨rfl, rfl, rfl, rfl, rfl⟩

theorem Attached.runEffect (h : this.Attached stores) :
    (this.runEffect stores).Attached stores := by
  cases hpending : this.effectPending with
  | false => rwa [runEffect_of_not_pending hpending]
  | true =>
      rcases runEffect_cases stores hpending with ⟨hheld, _, heffect⟩ | ⟨_, heffect⟩
      · rw [heffect]
        exact ⟨h.selected, fun _ => rfl, fun _ _ => hheld⟩
      · rw [heffect]
        refine ⟨h.selected, fun _ => rfl, ?_⟩
        intro _ hnext
        cases hnext

/-- The notification of the subscription brings the current state. -/
theorem ShowsCurrent.runEffect (h : this.ShowsCurrent stores) :
    (this.runEffect stores).ShowsCurrent stores := by
  cases hpending : this.effectPending with
  | false => rwa [runEffect_of_not_pending hpending]
  | true =>
      rcases runEffect_cases stores hpending with ⟨_, hequals, heffect⟩ | ⟨_, heffect⟩
      · rw [heffect]
        exact fun _ _ => hequals
      · rw [heffect]
        intro _ hnext
        cases hnext

section Render

variable [DecidableEq Id] [DecidableEq selector.Select] {id : Id} {select : selector.Select}

/-- A render after which no effect has to run has changed nothing. -/
theorem render_of_not_pending (h : (this.render stores id select).effectPending = false) :
    this.render stores id select = this.runEffect stores := by
  have heffect := (this.runEffect_rendered stores).2.2.2.2
  simp only [render, Bool.or_eq_false_iff, decide_eq_false_iff_not, not_not,
    Option.isSome_eq_false_iff, Option.isNone_iff_eq_none] at h ⊢
  obtain ⟨⟨hnext, hstore⟩, hselect⟩ := h
  rcases heq : this.runEffect stores with
    ⟨store, select', storeState, next, selectedState, effectPending, subscribed⟩
  rw [heq] at heffect hnext hstore hselect
  subst hstore hselect hnext heffect
  simp

theorem Attached.render (h : this.Attached stores) :
    (this.render stores id select).Attached stores := by
  by_cases hpending : (this.render stores id select).effectPending = false
  · rw [render_of_not_pending hpending]
    exact h.runEffect
  · refine ⟨?_, fun hnot => absurd hnot hpending, fun hnot => absurd hnot hpending⟩
    simp only [Hook.render]
    split_ifs with hchanged
    · rfl
    · rw [not_or, Option.not_isSome_iff_eq_none, not_not] at hchanged
      rw [hchanged.1, Option.getD_none, ← hchanged.2]
      exact h.runEffect.selected

theorem ShowsCurrent.render (h : this.ShowsCurrent stores) :
    (this.render stores id select).ShowsCurrent stores := by
  by_cases hpending : (this.render stores id select).effectPending = false
  · rw [render_of_not_pending hpending]
    exact h.runEffect
  · exact fun hnot => absurd hnot hpending

end Render

end Hook

section Calls

variable [DecidableEq Id] [DecidableEq selector.Select]

omit [DecidableEq selector.Select] in
/-- A call of a store may set a state, and changes nothing else. -/
theorem Hook.afterCall_cases (this : selector.Hook Id) (id : Id)
    (store : HLiquityStore constants E) (call : StoreCall constants E) :
    let after := call.run store
    (this.afterCall id store after = this ∧ (∀ storeState, this.subscribed = some (id, storeState) →
        (¬ call.Returns store ∧ (store.Held → after.Held)) ∨
          after.Held ∧ after.state.equals selector.extraEquals storeState = true)) ∨
      ∃ newState, this.afterCall id store after = { this with next := some newState } := by
  intro after
  rw [Hook.afterCall]
  by_cases hsubscribed : this.subscribed.map Prod.fst = some id
  · obtain ⟨⟨_, storeState⟩, hentry, rfl⟩ := Option.map_eq_some_iff.mp hsubscribed
    rw [if_pos hsubscribed]
    cases store.tells_run call with
    | silent hnotified hthrows hheld =>
        rw [hnotified]
        exact .inl ⟨rfl, fun _ _ => .inl ⟨hthrows, hheld⟩⟩
    | told params hnotified hstate hheld =>
        rw [hnotified, List.foldl_cons, List.foldl_nil, hstate]
        rcases this.subscriber_cases after after.state hentry with
          ⟨_, hequals, hsame⟩ | ⟨_, hset⟩
        · refine .inl ⟨hsame, ?_⟩
          intro storeState' hsubscribed'
          rw [hentry] at hsubscribed'
          cases hsubscribed'
          exact .inr ⟨hheld, hequals⟩
        · exact .inr ⟨_, hset⟩
  · rw [if_neg hsubscribed]
    refine .inl ⟨rfl, ?_⟩
    intro storeState hentry
    exact absurd (by rw [hentry]; rfl) hsubscribed

omit [DecidableEq selector.Select] in
theorem Hook.Attached.afterCall {stores : Id → HLiquityStore constants E}
    {this : selector.Hook Id} (h : this.Attached stores) (id : Id) (call : StoreCall constants E) :
    (this.afterCall id (stores id) (call.run (stores id))).Attached
      (Function.update stores id (call.run (stores id))) := by
  rcases this.afterCall_cases id (stores id) call with ⟨hsame, htold⟩ | ⟨newState, hset⟩
  · rw [hsame]
    refine ⟨h.selected, h.subscribed, ?_⟩
    intro hpending hnext
    have hheld := h.held hpending hnext
    by_cases hstore : this.store = id
    · subst hstore
      rw [Function.update_self]
      rcases htold _ (h.subscribed hpending) with ⟨_, hkept⟩ | ⟨hafter, _⟩
      · exact hkept hheld
      · exact hafter
    · rwa [Function.update_of_ne hstore]
  · rw [hset]
    refine ⟨h.selected, h.subscribed, ?_⟩
    intro _ hnext
    cases hnext

/-- A call of a store that throws leaves the state of the store, if a component has rendered it. -/
def World.Learns (this : selector.World Id) : selector.Event Id → Prop
  | .call id call => ∀ hook ∈ this.hook, hook.store = id →
      call.Returns (this.stores id) ∨ (call.run (this.stores id)).state = (this.stores id).state
  | _ => True

omit [DecidableEq selector.Select] in
theorem Hook.ShowsCurrent.afterCall {stores : Id → HLiquityStore constants E}
    {this : selector.Hook Id} (hattached : this.Attached stores) (h : this.ShowsCurrent stores)
    {id : Id} {call : StoreCall constants E}
    (hlearns : this.store = id →
      call.Returns (stores id) ∨ (call.run (stores id)).state = (stores id).state) :
    (this.afterCall id (stores id) (call.run (stores id))).ShowsCurrent
      (Function.update stores id (call.run (stores id))) := by
  rcases this.afterCall_cases id (stores id) call with ⟨hsame, htold⟩ | ⟨newState, hset⟩
  · rw [hsame]
    intro hpending hnext
    by_cases hstore : this.store = id
    · subst hstore
      rw [Function.update_self]
      rcases htold _ (hattached.subscribed hpending) with ⟨hthrows, _⟩ | ⟨_, hequals⟩
      · rw [(hlearns rfl).resolve_left hthrows]
        exact h hpending hnext
      · exact hequals
    · rw [Function.update_of_ne hstore]
      exact h hpending hnext
  · rw [hset]
    intro _ hnext
    cases hnext

theorem attached_step {this : selector.World Id}
    (h : ∀ hook ∈ this.hook, hook.Attached this.stores) (event : selector.Event Id) :
    ∀ hook ∈ (this.step event).hook, hook.Attached (this.step event).stores := by
  cases event with
  | call id call =>
      intro next hnext
      obtain ⟨hook, hhook, rfl⟩ := Option.map_eq_some_iff.mp hnext
      exact (h hook hhook).afterCall id call
  | render id select =>
      cases hhook : this.hook with
      | none =>
          simp only [World.step, hhook]
          rintro next ⟨⟩
          refine ⟨rfl, ?_, ?_⟩ <;>
            · intro hnot
              cases hnot
      | some hook =>
          simp only [World.step, hhook]
          rintro next ⟨⟩
          exact (h hook hhook).render
  | effect =>
      intro next hnext
      obtain ⟨hook, hhook, rfl⟩ := Option.map_eq_some_iff.mp hnext
      exact (h hook hhook).runEffect
  | unmount =>
      rintro next ⟨⟩

theorem showsCurrent_step {this : selector.World Id}
    (hattached : ∀ hook ∈ this.hook, hook.Attached this.stores)
    (h : ∀ hook ∈ this.hook, hook.ShowsCurrent this.stores) {event : selector.Event Id}
    (hlearns : this.Learns event) :
    ∀ hook ∈ (this.step event).hook, hook.ShowsCurrent (this.step event).stores := by
  cases event with
  | call id call =>
      intro next hnext
      obtain ⟨hook, hhook, rfl⟩ := Option.map_eq_some_iff.mp hnext
      exact (h hook hhook).afterCall (hattached hook hhook) (hlearns hook hhook)
  | render id select =>
      cases hhook : this.hook with
      | none =>
          simp only [World.step, hhook]
          rintro next ⟨⟩ hnot
          cases hnot
      | some hook =>
          simp only [World.step, hhook]
          rintro next ⟨⟩
          exact (h hook hhook).render
  | effect =>
      intro next hnext
      obtain ⟨hook, hhook, rfl⟩ := Option.map_eq_some_iff.mp hnext
      exact (h hook hhook).runEffect
  | unmount =>
      rintro next ⟨⟩

theorem attached_run (events : List (selector.Event Id)) :
    let this := EventRun.run World.step (initial : selector.World Id) events
    ∀ hook ∈ this.hook, hook.Attached this.stores := by
  have hstep (this : selector.World Id) (event : selector.Event Id)
      (h : ∀ hook ∈ this.hook, hook.Attached this.stores) :
      ∀ hook ∈ (this.step event).hook, hook.Attached (this.step event).stores :=
    attached_step h event
  exact EventRun.run_invariant World.step hstep (by rintro hook ⟨⟩) events

/-- In every run of calls of the stores, renders with any store and selecting function, effects and
unmounts, a component that awaits neither its effect nor another render has selected from its
state, which is the current one of the store that was rendered, if no call of it changes its state
and throws. -/
theorem rest_run {events : List (selector.Event Id)}
    (hlearns : EventRun.Meets World.step World.Learns (initial : selector.World Id) events) :
    let this := EventRun.run World.step initial events
    ∀ hook ∈ this.hook, hook.effectPending = false → hook.next = none →
      hook.selectedState = selector.select hook.select hook.storeState ∧
        (this.stores hook.store).Held ∧
        (this.stores hook.store).state.equals selector.extraEquals hook.storeState = true := by
  have hstep (this : selector.World Id) (event : selector.Event Id)
      (h : (∀ hook ∈ this.hook, hook.Attached this.stores) ∧
        ∀ hook ∈ this.hook, hook.ShowsCurrent this.stores) (hevent : this.Learns event) :
      (∀ hook ∈ (this.step event).hook, hook.Attached (this.step event).stores) ∧
        ∀ hook ∈ (this.step event).hook, hook.ShowsCurrent (this.step event).stores :=
    ⟨attached_step h.1 event, showsCurrent_step h.1 h.2 hevent⟩
  have hrun := EventRun.run_invariant_of_meets World.step hstep
    ⟨by rintro hook ⟨⟩, by rintro hook ⟨⟩⟩ hlearns
  intro this hook hhook hpending hnext
  have hattached := hrun.1 hook hhook
  exact ⟨hattached.selected, hattached.held hpending hnext, hrun.2 hook hhook hpending hnext⟩

end Calls

/-- The hook selects the stability deposit. -/
def selectDeposit : LiquitySelector defaults TroveManager.noExtraState where
  Select := Unit
  Selected := StabilityDeposit
  select _ state := state.base.stabilityDeposit.value
  extraEquals _ _ := true
  extraEquals_refl _ := rfl

instance : DecidableEq selectDeposit.Select := inferInstanceAs (DecidableEq Unit)

/-- The liquidation that a reducer does not learn of, and what React does then. -/
def liquidatedInBetween : List (selectDeposit.Event Unit) :=
  [.call () LiquityReducer.load100, .render () (), .call () LiquityReducer.update80, .effect,
    .render () (), .effect]

theorem learns_liquidatedInBetween :
    EventRun.Meets World.step World.Learns initial liquidatedInBetween := by
  refine ⟨?_, trivial, ?_, trivial, trivial, trivial, trivial⟩
  · rintro hook ⟨⟩
  · rintro hook ⟨⟩ _
    exact .inl rfl

/-- The notification of the subscription brings the liquidation. -/
theorem rest_run_liquidatedInBetween :
    let this := EventRun.run World.step initial liquidatedInBetween
    ∃ hook, this.hook = some hook ∧
      hook.selectedState = selectDeposit.select hook.select hook.storeState ∧
      (this.stores hook.store).state.equals selectDeposit.extraEquals hook.storeState = true := by
  refine ⟨_, rfl, ?_⟩
  obtain ⟨hselected, _, hequals⟩ := rest_run learns_liquidatedInBetween _ rfl rfl rfl
  exact ⟨hselected, hequals⟩

example :
    (EventRun.run World.step initial liquidatedInBetween).hook.map Hook.selectedState =
      some LiquityReducer.updated80.value := rfl

namespace Hook

variable [DecidableEq Id] [DecidableEq selector.Select]
  {stores : Id → HLiquityStore constants E} {this : selector.Hook Id}
  {renew : selector.Select → selector.Select}

/-- What React does next with a component while nothing else happens: it runs the effect, or it
renders if a state was set. The selecting function may be another one with every render. -/
def round (stores : Id → HLiquityStore constants E) (renew : selector.Select → selector.Select)
    (this : selector.Hook Id) : Option (selector.Hook Id) :=
  if this.effectPending then some (this.runEffect stores)
  else if this.next.isSome then some (this.render stores this.store (renew this.select))
  else none

theorem round_effect (h : this.effectPending = true) :
    this.round stores renew = some (this.runEffect stores) := if_pos h

/-- A render takes over the state that was set, and its effect has to run. -/
theorem round_render (h : this.effectPending = false) {newState : LiquityStoreState constants E}
    (hnext : this.next = some newState) :
    ∃ rendered, this.round stores renew = some rendered ∧ rendered.store = this.store ∧
      rendered.storeState = newState ∧ rendered.next = none ∧ rendered.effectPending = true := by
  refine ⟨this.render stores this.store (renew this.select), ?_, ?_⟩
  · rw [round, if_neg (by simp [h]), if_pos (by simp [hnext])]
  · simp [render, runEffect_of_not_pending h, hnext]

theorem terminates_at_rest (h : this.effectPending = false) (hnext : this.next = none) :
    RenderCycle.Terminates (round stores renew) this := by
  apply RenderCycle.terminates_of_none
  rw [round, if_neg (by simp [h]), if_neg (by simp [hnext])]

section Held

variable (hheld : (stores this.store).Held)
include hheld

/-- The render of the current state is the last one. -/
theorem terminates_of_current (h : this.effectPending = true) (hnext : this.next = none)
    (hstate : this.storeState = (stores this.store).state) :
    RenderCycle.Terminates (round stores renew) this := by
  apply RenderCycle.terminates_of_some (round_effect h)
  have hequals : (stores this.store).state.equals selector.extraEquals this.storeState = true := by
    rw [hstate]
    exact LiquityStoreState.equals_refl selector.extraEquals_refl _
  rcases runEffect_cases stores h with ⟨_, _, heffect⟩ | ⟨hnot, _⟩
  · rw [heffect]
    exact terminates_at_rest rfl hnext
  · exact absurd ⟨hheld, hequals⟩ hnot

/-- The effect of a render sets the current state, or none. -/
theorem terminates_of_rendered (h : this.effectPending = true) (hnext : this.next = none) :
    RenderCycle.Terminates (round stores renew) this := by
  apply RenderCycle.terminates_of_some (round_effect h)
  rcases runEffect_cases stores h with ⟨_, _, heffect⟩ | ⟨_, heffect⟩
  · rw [heffect]
    exact terminates_at_rest rfl hnext
  · rw [heffect]
    let subscribed : selector.Hook Id := { this with
      effectPending := false
      subscribed := some (this.store, this.storeState)
      next := some (stores this.store).state }
    obtain ⟨rendered, hround, hstore, hstate, hnone, hpending⟩ :
        ∃ rendered, subscribed.round stores renew = some rendered ∧ rendered.store = this.store ∧
          rendered.storeState = (stores this.store).state ∧ rendered.next = none ∧
          rendered.effectPending = true := round_render rfl rfl
    apply RenderCycle.terminates_of_some hround
    apply terminates_of_current (by rwa [hstore]) hpending hnone
    rw [hstate, hstore]

theorem terminates_of_set (h : this.effectPending = false)
    {newState : LiquityStoreState constants E} (hnext : this.next = some newState) :
    RenderCycle.Terminates (round stores renew) this := by
  obtain ⟨rendered, hround, hstore, _, hnone, hpending⟩ := round_render h hnext
  apply RenderCycle.terminates_of_some hround
  exact terminates_of_rendered (by rwa [hstore]) hpending hnone

theorem terminates_of_held : RenderCycle.Terminates (round stores renew) this := by
  have hsettles (settled : selector.Hook Id) (hstore : settled.store = this.store)
      (h : settled.effectPending = false) :
      RenderCycle.Terminates (round stores renew) settled := by
    cases hnext : settled.next with
    | none => exact terminates_at_rest h hnext
    | some newState => exact terminates_of_set (by rwa [hstore]) h hnext
  cases hpending : this.effectPending with
  | false => exact hsettles this rfl hpending
  | true =>
      apply RenderCycle.terminates_of_some (round_effect hpending)
      obtain ⟨hstore, _, _, _, heffect⟩ := this.runEffect_rendered stores
      exact hsettles _ hstore heffect

end Held

/-- Each subscription to a store that does not hold its states sets another state, and with it
leads to another subscription. -/
theorem not_terminates_of_not_held (hheld : ¬ (stores this.store).Held)
    (h : this.effectPending = true ∨ this.next.isSome = true) :
    ¬ RenderCycle.Terminates (round stores renew) this := by
  have hround (hook : selector.Hook Id)
      (hinv : ¬ (stores hook.store).Held ∧
        (hook.effectPending = true ∨ hook.next.isSome = true)) :
      ∃ next, hook.round stores renew = some next ∧ ¬ (stores next.store).Held ∧
        (next.effectPending = true ∨ next.next.isSome = true) := by
    obtain ⟨hheld, hbusy⟩ := hinv
    cases hpending : hook.effectPending with
    | true =>
        refine ⟨_, round_effect hpending, ?_⟩
        rcases runEffect_cases stores hpending with ⟨hnot, _⟩ | ⟨_, heffect⟩
        · exact absurd hnot hheld
        · rw [heffect]
          exact ⟨hheld, .inr rfl⟩
    | false =>
        obtain ⟨newState, hnext⟩ :=
          Option.isSome_iff_exists.mp (hbusy.resolve_left (by simp [hpending]))
        obtain ⟨rendered, hnextRound, hstore, _, _, hagain⟩ := round_render hpending hnext
        exact ⟨rendered, hnextRound, by rwa [hstore], .inl hagain⟩
  exact RenderCycle.not_terminates hround ⟨hheld, h⟩

end Hook

/-- After every run, the renders of a mounted component come to rest, while nothing else happens,
exactly if the store that it rendered holds its states. -/
theorem terminates_run [DecidableEq Id] [DecidableEq selector.Select]
    (events : List (selector.Event Id)) (renew : selector.Select → selector.Select) :
    let this := EventRun.run World.step (initial : selector.World Id) events
    ∀ hook ∈ this.hook, RenderCycle.Terminates (Hook.round this.stores renew) hook ↔
      (this.stores hook.store).Held := by
  intro this hook hhook
  constructor
  · intro hterminates
    by_contra hheld
    refine Hook.not_terminates_of_not_held hheld ?_ hterminates
    by_contra hrest
    rw [not_or, Bool.not_eq_true, Option.not_isSome_iff_eq_none] at hrest
    exact hheld ((attached_run events hook hhook).held hrest.1 hrest.2)
  · exact fun hheld => Hook.terminates_of_held hheld

/-- Only a loaded store lets the renders come to rest. -/
theorem terminates_run_unloaded :
    let this := EventRun.run World.step (initial : selectDeposit.World Bool)
      [.call true LiquityReducer.load100, .render true (), .effect, .render false ()]
    ∃ hook, this.hook = some hook ∧ ¬ RenderCycle.Terminates (Hook.round this.stores id) hook ∧
      RenderCycle.Terminates (Hook.round this.stores id) { hook with store := true } := by
  refine ⟨_, rfl, ?_, ?_⟩
  · rw [terminates_run _ id _ rfl]
    decide
  · exact Hook.terminates_of_held (by decide)

end LiquitySelector

end HLiquity
