import HLiquity.PendingEdits
import HLiquity.StateChange

/-!
# A reducer that follows the store

The hook `useLiquityReducer` initialises the state of a reducer when a component
renders with a store, and subscribes to that store in an effect, which runs
later. A notification that arrives in between reaches nobody, and the one that
the subscription sends reports no change. The reducers of the deposit and of the
stake react to reported changes only, so they show what the store held when they
were rendered.
-/

namespace HLiquity

variable {constants : Constants} {E : ExtraState}

/-- A call that may change a store. -/
inductive StoreCall (constants : Constants) (E : ExtraState) where
  | load (baseState : LiquityStoreBaseState constants) (extraState : Option E.State)
  | update (call : UpdateCall constants E)

namespace StoreCall

/-- The store after a call, whether it returned or threw. -/
def run (this : HLiquityStore constants E) : StoreCall constants E → HLiquityStore constants E
  | load baseState extraState => (this.load baseState extraState).2
  | update call => this.afterUpdate call

/-- The call is an update that returns. -/
def Updates (this : HLiquityStore constants E) : StoreCall constants E → Prop
  | load _ _ => False
  | update call => (this.update call.base call.extra).1 = .ok ()

/-- The value that a call supplies for a key. -/
def supplied (key : BaseKey) : StoreCall constants E → Option (key.Value constants)
  | load baseState _ => some (baseState.get key)
  | update call => call.supplied key

end StoreCall

/-- The parameters of a callback of a listener. -/
def Callback.params : Callback constants E → Option (LiquityStoreListenerParams constants E)
  | onLoaded => none
  | notified params => some params

namespace HLiquityStore

/-- The notifications that a store has sent between two moments. -/
def notifiedSince (before after : HLiquityStore constants E) :
    List (LiquityStoreListenerParams constants E) :=
  (after.callbacks.drop before.callbacks.length).filterMap Callback.params

/-- The notification that `subscribe` sends at once. -/
def catchUp (this : HLiquityStore constants E) : LiquityStoreListenerParams constants E where
  newState := this.state
  oldState := this.state
  stateChange := ⟨fun _ => none, fun _ => none, E.difference this.extraState this.extraState⟩

/-- The value of a base variable. -/
def get (this : HLiquityStore constants E) (key : BaseKey) : key.Value constants :=
  this.state.base.get key

/-- A store that derives its state holds one of the known values of a variable. -/
def HoldsKnown (key : BaseKey) (known : List (key.Value constants))
    (this : HLiquityStore constants E) : Prop :=
  this.derivedState = none ∨
    ∃ baseState, this.baseState = some baseState ∧ baseState.get key ∈ known

section Told

variable {this : HLiquityStore constants E} {key : BaseKey}

theorem notifiedSince_eq_nil {after : HLiquityStore constants E}
    (h : after.callbacks = this.callbacks) : this.notifiedSince after = [] := by
  rw [notifiedSince, h, List.drop_length, List.filterMap_nil]

theorem notifiedSince_append {after : HLiquityStore constants E}
    (callbacks : List (Callback constants E))
    (h : after.callbacks = this.callbacks ++ callbacks) :
    this.notifiedSince after = callbacks.filterMap Callback.params := by
  rw [notifiedSince, h, List.drop_left]

/-- A load reports no change, although it brings a new base state. -/
theorem notifiedSince_load (baseState : LiquityStoreBaseState constants)
    (extraState : Option E.State) :
    ∀ params ∈ this.notifiedSince (this.load baseState extraState).2,
      params.stateChange.base key = none := by
  by_cases hloaded : this.loaded = true
  · have hload : (this.load baseState extraState).2 = this := by rw [load, if_pos hloaded]
    rw [hload, notifiedSince_eq_nil rfl]
    exact fun params hmem => absurd hmem List.not_mem_nil
  · rw [Bool.not_eq_true] at hloaded
    by_cases hderivable : baseState.Derivable
    · obtain ⟨derived, again, _, _, hload⟩ := load_of_derivable hloaded hderivable extraState
      rw [hload, notifiedSince_append [.onLoaded, .notified _] (List.append_assoc _ _ _)]
      intro params hmem
      obtain rfl := List.mem_singleton.mp hmem
      exact if_pos (key.strictEquals_refl _)
    · obtain ⟨failure, _, hload⟩ := load_of_not_derivable hloaded hderivable extraState
      have hsilent : this.notifiedSince (this.load baseState extraState).2 = [] := by
        rw [hload]
        exact notifiedSince_eq_nil rfl
      rw [hsilent]
      exact fun params hmem => absurd hmem List.not_mem_nil

/-- An update that throws is silent, and one that returns reports a variable exactly if
another reference is stored. -/
theorem notifiedSince_update (call : UpdateCall constants E) :
    (this.notifiedSince (this.afterUpdate call) = [] ∧
        (this.update call.base call.extra).1 ≠ .ok ()) ∨
      ∃ params, this.notifiedSince (this.afterUpdate call) = [params] ∧
        params.stateChange.base key =
          if key.strictEquals ((this.afterUpdate call).get key) (this.get key) then none
          else some ((this.afterUpdate call).get key) := by
  unfold afterUpdate
  cases hb : this.baseState with
  | none =>
      have hupdate : this.update call.base call.extra =
          (.error (.assertion "this._baseState && this._derivedState"), this) := by
        simp [update, hb]
      rw [hupdate]
      exact .inl ⟨notifiedSince_eq_nil rfl, fun h => by cases h⟩
  | some baseState =>
      cases hd : this.derivedState with
      | none =>
          rw [update_of_derivedState_none hd]
          exact .inl ⟨notifiedSince_eq_nil rfl, fun h => by cases h⟩
      | some derivedState =>
          rcases update_cases hb hd call.base call.extra with
            ⟨failure, _, hupdate⟩ | ⟨computed, failure, _, _, hupdate⟩ |
            ⟨computed, extraState, _, _, hupdate⟩
          · rw [hupdate]
            exact .inl ⟨notifiedSince_eq_nil rfl, fun h => by cases h⟩
          · rw [hupdate]
            exact .inl ⟨notifiedSince_eq_nil rfl, fun h => by cases h⟩
          · rw [hupdate]
            exact .inr ⟨_, notifiedSince_append [.notified _] rfl, rfl⟩

variable {known : List (key.Value constants)}

/-- An update that supplies known values of a variable stores one of them. -/
theorem afterUpdate_mem {baseState : LiquityStoreBaseState constants}
    {derivedState : LiquityStoreDerivedState constants} (hb : this.baseState = some baseState)
    (hd : this.derivedState = some derivedState) (hmem : baseState.get key ∈ known)
    {call : UpdateCall constants E}
    (hknown : ∀ value, call.supplied key = some value → value ∈ known) :
    ∃ next, (this.afterUpdate call).baseState = some next ∧ next.get key ∈ known := by
  obtain ⟨hbase, _, _⟩ := afterUpdate_fields hb hd call
  refine ⟨_, hbase, ?_⟩
  rw [reducedBase_get]
  cases hsupplied : call.supplied key with
  | none => exact hmem
  | some next =>
      rcases KeepIfEqual.keep_eq_or key.equals (baseState.get key) next with hkept | htaken
      · rw [hkept]
        exact hmem
      · rw [htaken]
        exact hknown next hsupplied

/-- Calls that supply known values keep them. -/
theorem HoldsKnown.run (h : HoldsKnown key known this) {call : StoreCall constants E}
    (hknown : ∀ value, call.supplied key = some value → value ∈ known) :
    HoldsKnown key known (call.run this) := by
  cases call with
  | load baseState extraState =>
      have hmem : baseState.get key ∈ known := hknown _ rfl
      rw [StoreCall.run]
      by_cases hloaded : this.loaded = true
      · rw [load, if_pos hloaded]
        exact h
      · rw [Bool.not_eq_true] at hloaded
        by_cases hderivable : baseState.Derivable
        · obtain ⟨derived, again, _, _, hload⟩ := load_of_derivable hloaded hderivable extraState
          rw [hload]
          exact .inr ⟨baseState, rfl, hmem⟩
        · obtain ⟨failure, _, hload⟩ := load_of_not_derivable hloaded hderivable extraState
          rw [hload]
          exact .inr ⟨baseState, rfl, hmem⟩
  | update call =>
      cases hd : this.derivedState with
      | none =>
          rw [StoreCall.run, afterUpdate, update_of_derivedState_none hd]
          exact h
      | some derivedState =>
          obtain ⟨baseState, hb, hmem⟩ :=
            h.resolve_left fun hnone => by cases hd.symm.trans hnone
          exact .inr (afterUpdate_mem hb hd hmem hknown)

/-- What a call tells its listeners: either nothing of the variable, which has not changed
then if the call updates, or its new value. -/
theorem HoldsKnown.notified (h : HoldsKnown key known this)
    (hreferences : ∀ a ∈ known, ∀ b ∈ known, key.strictEquals a b = true → key.SameValue a b)
    {call : StoreCall constants E}
    (hknown : ∀ value, call.supplied key = some value → value ∈ known) :
    ((∀ params ∈ this.notifiedSince (call.run this), params.stateChange.base key = none) ∧
        (call.Updates this → key.SameValue (this.get key) ((call.run this).get key))) ∨
      ∃ params, this.notifiedSince (call.run this) = [params] ∧
        params.stateChange.base key = some ((call.run this).get key) := by
  cases call with
  | load baseState extraState =>
      exact .inl ⟨notifiedSince_load baseState extraState, fun hupdates => hupdates.elim⟩
  | update call =>
      rw [StoreCall.run]
      rcases notifiedSince_update call with ⟨hsilent, hthrows⟩ | ⟨params, hnotified, hreported⟩
      · rw [hsilent]
        exact .inl ⟨fun params hmem => absurd hmem List.not_mem_nil,
          fun hupdates => absurd hupdates hthrows⟩
      · by_cases hidentical :
            key.strictEquals ((this.afterUpdate call).get key) (this.get key) = true
        · rw [if_pos hidentical] at hreported
          refine .inl ⟨?_, fun _ => ?_⟩
          · rw [hnotified]
            exact List.forall_mem_singleton.mpr hreported
          · cases hd : this.derivedState with
            | none =>
                rw [afterUpdate, update_of_derivedState_none hd]
                exact key.sameValue_refl _
            | some derivedState =>
                obtain ⟨baseState, hb, hmem⟩ :=
                  h.resolve_left fun hnone => by cases hd.symm.trans hnone
                obtain ⟨next, hnext, hnextMem⟩ := afterUpdate_mem hb hd hmem hknown
                have hbefore : this.get key = baseState.get key := by simp [get, state, hb]
                have hafter : (this.afterUpdate call).get key = next.get key := by
                  simp [get, state, hnext]
                rw [hbefore, hafter] at hidentical ⊢
                exact key.sameValue_symm (hreferences _ hnextMem _ hmem hidentical)
        · rw [if_neg hidentical] at hreported
          exact .inr ⟨params, hnotified, hreported⟩

end Told

end HLiquityStore

/-- What the hook is called with. -/
structure LiquityReducer (constants : Constants) (E : ExtraState) where
  State : Type
  Action : Type
  reduce : State → Action → Result State
  updateStore : LiquityStoreListenerParams constants E → Action
  init : LiquityStoreState constants E → State

namespace LiquityReducer

section Hooks

variable (reducer : LiquityReducer constants E) (Id : Type)

/-- What the hook keeps between renders: the store of the last render, the state, whether
the effect of the last render has still to run, and the store that it is subscribed to. -/
structure Hook where
  oldStore : Id
  state : reducer.State
  effectPending : Bool
  subscribed : Option Id

/-- The stores of the application and the hook of a component, if it is mounted. -/
structure World where
  stores : Id → HLiquityStore constants E
  hook : Option (reducer.Hook Id)

/-- A store is called, the component renders with a store, its effect runs, it dispatches
an action of its own, or it is unmounted. -/
inductive Event where
  | call (id : Id) (call : StoreCall constants E)
  | render (id : Id)
  | effect
  | dispatch (action : reducer.Action) (own : ∀ params, action ≠ reducer.updateStore params)
  | unmount

end Hooks

variable {reducer : LiquityReducer constants E} {Id : Type}

namespace Hook

/-- `dispatch`, which keeps the state when the reducer throws. -/
def dispatch (this : reducer.Hook Id) (action : reducer.Action) : reducer.Hook Id :=
  match reducer.reduce this.state action with
  | .ok newState => { this with state := newState }
  | .error _ => this

/-- The hook is notified by the store that it is subscribed to. -/
def notify (this : reducer.Hook Id) (params : LiquityStoreListenerParams constants E) :
    reducer.Hook Id :=
  this.dispatch (reducer.updateStore params)

/-- The effect of the last render unsubscribes from the store before and subscribes to the
store that was rendered, which notifies at once. -/
def runEffect (stores : Id → HLiquityStore constants E) (this : reducer.Hook Id) :
    reducer.Hook Id :=
  if this.effectPending then
    let subscribed : reducer.Hook Id :=
      { this with effectPending := false, subscribed := some this.oldStore }
    subscribed.notify (stores this.oldStore).catchUp
  else this

/-- The first render. -/
def mount (stores : Id → HLiquityStore constants E) (id : Id) : reducer.Hook Id where
  oldStore := id
  state := reducer.init (stores id).state
  effectPending := true
  subscribed := none

/-- A later render, before which the effect of the last one has run. The effect runs again
when the store is another one; the reducer, and with it `dispatch`, is always the same. -/
def render [DecidableEq Id] (stores : Id → HLiquityStore constants E) (id : Id)
    (this : reducer.Hook Id) : reducer.Hook Id :=
  let this := this.runEffect stores
  if this.oldStore ≠ id then
    { this with
      oldStore := id, state := reducer.init (stores id).state, effectPending := true }
  else this

end Hook

/-- The world before anything happens. -/
def initial : reducer.World Id := ⟨fun _ => .new, none⟩

def World.step [DecidableEq Id] (this : reducer.World Id) : reducer.Event Id → reducer.World Id
  | .call id call =>
      let after := call.run (this.stores id)
      { stores := Function.update this.stores id after
        hook := this.hook.map fun hook =>
          if hook.subscribed = some id then
            ((this.stores id).notifiedSince after).foldl Hook.notify hook
          else hook }
  | .render id =>
      match this.hook with
      | none => { this with hook := some (.mount this.stores id) }
      | some hook => { this with hook := some (hook.render this.stores id) }
  | .effect => { this with hook := this.hook.map (Hook.runEffect this.stores) }
  | .dispatch action _ => { this with hook := this.hook.map fun hook => hook.dispatch action }
  | .unmount => { this with hook := none }

/-- A state of the reducer shows a value of a variable, which is initialised from the store
and replaced by what a notification reports. -/
structure Follows (reducer : LiquityReducer constants E) (key : BaseKey)
    (Shows : reducer.State → key.Value constants → Prop) : Prop where
  init : ∀ state, Shows (reducer.init state) (state.base.get key)
  taken : ∀ state params value, params.stateChange.base key = some value →
    ∃ next, reducer.reduce state (reducer.updateStore params) = .ok next ∧ Shows next value
  kept : ∀ state params next value, params.stateChange.base key = none →
    reducer.reduce state (reducer.updateStore params) = .ok next →
    Shows state value → Shows next value
  own : ∀ state action next value, (∀ params, action ≠ reducer.updateStore params) →
    reducer.reduce state action = .ok next → Shows state value → Shows next value
  sameValue : ∀ state a b, key.SameValue a b → Shows state a → Shows state b

/-- Whenever the hook is subscribed to the store that was rendered, its state shows the value
of that store. -/
def World.ShowsCurrent (key : BaseKey) (Shows : reducer.State → key.Value constants → Prop)
    (this : reducer.World Id) : Prop :=
  ∀ hook, this.hook = some hook → hook.subscribed = some hook.oldStore →
    Shows hook.state ((this.stores hook.oldStore).get key)

/-- The hook learns of the event: if a call changes the variable in the store that was
rendered, it is an update that returns, and the hook is subscribed to the store already. As
long as it is still subscribed to the store before, that one reports no other value. -/
def World.Learns (key : BaseKey) (this : reducer.World Id) : reducer.Event Id → Prop
  | .call id call => ∀ hook, this.hook = some hook →
      (hook.oldStore = id →
        ¬ key.SameValue ((this.stores id).get key) ((call.run (this.stores id)).get key) →
        hook.subscribed = some id ∧ call.Updates (this.stores id)) ∧
      (hook.oldStore ≠ id → hook.subscribed = some id →
        ∀ params ∈ (this.stores id).notifiedSince (call.run (this.stores id)),
        ∀ value, params.stateChange.base key = some value →
          key.SameValue value ((this.stores hook.oldStore).get key))
  | _ => True

/-- The values of a variable that the events supply to a store. -/
def suppliedTo [DecidableEq Id] (key : BaseKey) (id : Id) (events : List (reducer.Event Id)) :
    List (key.Value constants) :=
  events.filterMap fun
    | .call id' call => if id' = id then call.supplied key else none
    | _ => none

/-- One reference refers to one object. -/
def References [DecidableEq Id] (key : BaseKey) (events : List (reducer.Event Id)) : Prop :=
  ∀ id, ∀ a ∈ suppliedTo key id events, ∀ b ∈ suppliedTo key id events,
    key.strictEquals a b = true → key.SameValue a b

section Invariant

variable {key : BaseKey} {Shows : reducer.State → key.Value constants → Prop}
  (hfollows : reducer.Follows key Shows)
include hfollows

/-- A notification that reports no change keeps what is shown. -/
theorem Follows.notify_kept {hook : reducer.Hook Id} {value : key.Value constants}
    (h : Shows hook.state value) {params : LiquityStoreListenerParams constants E}
    (hreported : params.stateChange.base key = none) : Shows (hook.notify params).state value := by
  unfold Hook.notify Hook.dispatch
  cases hreduce : reducer.reduce hook.state (reducer.updateStore params) with
  | error failure => exact h
  | ok next => exact hfollows.kept _ _ _ _ hreported hreduce h

/-- A notification that reports a value shows it. -/
theorem Follows.notify_taken (hook : reducer.Hook Id) {value : key.Value constants}
    {params : LiquityStoreListenerParams constants E}
    (hreported : params.stateChange.base key = some value) :
    Shows (hook.notify params).state value := by
  obtain ⟨next, hreduce, hnext⟩ := hfollows.taken hook.state params value hreported
  rw [Hook.notify, Hook.dispatch, hreduce]
  exact hnext

/-- Notifications that report nothing but values equal to the one shown keep it. -/
theorem Follows.foldl_notify {hook : reducer.Hook Id} {value : key.Value constants}
    (h : Shows hook.state value) {notified : List (LiquityStoreListenerParams constants E)}
    (hreported : ∀ params ∈ notified, ∀ reported, params.stateChange.base key = some reported →
      key.SameValue reported value) :
    Shows (notified.foldl Hook.notify hook).state value := by
  induction notified generalizing hook with
  | nil => exact h
  | cons params rest ih =>
      rw [List.forall_mem_cons] at hreported
      refine ih ?_ hreported.2
      cases hchange : params.stateChange.base key with
      | none => exact hfollows.notify_kept h hchange
      | some reported =>
          exact hfollows.sameValue _ _ _ (hreported.1 reported hchange)
            (hfollows.notify_taken hook hchange)

/-- The effect keeps what is shown, since the notification at once reports no change. -/
theorem Follows.runEffect {hook : reducer.Hook Id}
    {stores : Id → HLiquityStore constants E} {value : key.Value constants}
    (h : Shows hook.state value) : Shows (hook.runEffect stores).state value := by
  unfold Hook.runEffect
  split_ifs with hpending
  · refine hfollows.notify_kept ?_ rfl
    exact h
  · exact h

/-- A hook that shows the value of a store shows the new one after a call of that store that
it is notified of, if a call that changes the value updates. -/
theorem Follows.told {known : List (key.Value constants)}
    (hreferences : ∀ a ∈ known, ∀ b ∈ known, key.strictEquals a b = true → key.SameValue a b)
    {store : HLiquityStore constants E} (hstore : store.HoldsKnown key known)
    {call : StoreCall constants E}
    (hknown : ∀ value, call.supplied key = some value → value ∈ known)
    {hook : reducer.Hook Id} (hshows : Shows hook.state (store.get key))
    (hupdates : ¬ key.SameValue (store.get key) ((call.run store).get key) →
      call.Updates store) :
    Shows ((store.notifiedSince (call.run store)).foldl Hook.notify hook).state
      ((call.run store).get key) := by
  rcases hstore.notified hreferences hknown with
    ⟨hnone, hunchanged⟩ | ⟨params, hnotified, hreported⟩
  · have hvalue : key.SameValue (store.get key) ((call.run store).get key) := by
      by_contra hchanged
      exact hchanged (hunchanged (hupdates hchanged))
    apply hfollows.foldl_notify (hfollows.sameValue _ _ _ hvalue hshows)
    intro params hmem value hreported
    cases (hnone params hmem).symm.trans hreported
  · rw [hnotified]
    exact hfollows.notify_taken hook hreported

end Invariant

theorem dispatch_oldStore (hook : reducer.Hook Id) (action : reducer.Action) :
    (hook.dispatch action).oldStore = hook.oldStore := by
  unfold Hook.dispatch
  cases reducer.reduce hook.state action <;> rfl

theorem runEffect_oldStore (hook : reducer.Hook Id) (stores : Id → HLiquityStore constants E) :
    (hook.runEffect stores).oldStore = hook.oldStore := by
  unfold Hook.runEffect
  split_ifs with hpending
  · exact dispatch_oldStore _ _
  · rfl

theorem foldl_notify_oldStore (hook : reducer.Hook Id)
    (notified : List (LiquityStoreListenerParams constants E)) :
    (notified.foldl Hook.notify hook).oldStore = hook.oldStore := by
  induction notified generalizing hook with
  | nil => rfl
  | cons params rest ih => exact (ih _).trans (dispatch_oldStore hook _)

/-- What holds of the world: the stores hold known values, and the state shows the value of
the store that was rendered, also before the hook is subscribed to it. -/
structure World.Invariant (key : BaseKey) (Shows : reducer.State → key.Value constants → Prop)
    (known : Id → List (key.Value constants)) (this : reducer.World Id) : Prop where
  stores : ∀ id, (this.stores id).HoldsKnown key (known id)
  shows : ∀ hook, this.hook = some hook →
    Shows hook.state ((this.stores hook.oldStore).get key)

section Steps

variable [DecidableEq Id] {key : BaseKey} {Shows : reducer.State → key.Value constants → Prop}
  {known : Id → List (key.Value constants)}

/-- A render shows the store that it renders. -/
theorem Follows.render (hfollows : reducer.Follows key Shows) {hook : reducer.Hook Id}
    {stores : Id → HLiquityStore constants E} {id : Id}
    (h : Shows hook.state ((stores hook.oldStore).get key)) :
    Shows (hook.render stores id).state
      ((stores (hook.render stores id).oldStore).get key) := by
  by_cases hswitched : (hook.runEffect stores).oldStore ≠ id
  · rw [Hook.render, if_pos hswitched]
    exact hfollows.init _
  · rw [Hook.render, if_neg hswitched, runEffect_oldStore]
    exact hfollows.runEffect h

/-- A call keeps the invariant if the hook learns of it. -/
theorem World.Invariant.call (hfollows : reducer.Follows key Shows)
    (hreferences : ∀ id, ∀ a ∈ known id, ∀ b ∈ known id,
      key.strictEquals a b = true → key.SameValue a b)
    {this : reducer.World Id} (h : this.Invariant key Shows known) {id : Id}
    {call : StoreCall constants E}
    (hknown : ∀ value, call.supplied key = some value → value ∈ known id)
    (hlearns : this.Learns key (.call id call)) :
    (this.step (.call id call)).Invariant key Shows known := by
  constructor
  · intro other
    simp only [World.step]
    by_cases hother : other = id
    · subst hother
      rw [Function.update_self]
      exact (h.stores other).run hknown
    · rw [Function.update_of_ne hother]
      exact h.stores other
  · intro next hnext
    obtain ⟨hook, hhook, rfl⟩ := Option.map_eq_some_iff.mp hnext
    obtain ⟨hsame, hother⟩ := hlearns hook hhook
    have hshows := h.shows hook hhook
    have holdStore : (if hook.subscribed = some id then
        ((this.stores id).notifiedSince (call.run (this.stores id))).foldl Hook.notify hook
        else hook).oldStore = hook.oldStore := by
      split_ifs
      · exact foldl_notify_oldStore hook _
      · rfl
    simp only [World.step]
    rw [holdStore]
    by_cases hrendered : hook.oldStore = id
    · subst hrendered
      rw [Function.update_self]
      split_ifs with hsubscribed
      · exact hfollows.told (hreferences _) (h.stores hook.oldStore) hknown hshows
          fun hvalue => (hsame rfl hvalue).2
      · refine hfollows.sameValue _ _ _ (not_not.mp fun hvalue => ?_) hshows
        exact hsubscribed (hsame rfl hvalue).1
    · rw [Function.update_of_ne hrendered]
      split_ifs with hsubscribed
      · exact hfollows.foldl_notify hshows (hother hrendered hsubscribed)
      · exact hshows

/-- Every event that the hook learns of keeps the invariant. -/
theorem World.Invariant.step (hfollows : reducer.Follows key Shows)
    (hreferences : ∀ id, ∀ a ∈ known id, ∀ b ∈ known id,
      key.strictEquals a b = true → key.SameValue a b)
    {this : reducer.World Id} (h : this.Invariant key Shows known) {event : reducer.Event Id}
    (hknown : ∀ id call, event = .call id call →
      ∀ value, call.supplied key = some value → value ∈ known id)
    (hlearns : this.Learns key event) : (this.step event).Invariant key Shows known := by
  cases event with
  | call id call => exact h.call hfollows hreferences (hknown id call rfl) hlearns
  | render id =>
      cases hhook : this.hook with
      | none =>
          simp only [World.step, hhook]
          refine ⟨h.stores, ?_⟩
          rintro next ⟨⟩
          exact hfollows.init _
      | some hook =>
          simp only [World.step, hhook]
          refine ⟨h.stores, ?_⟩
          rintro next ⟨⟩
          exact hfollows.render (h.shows hook hhook)
  | effect =>
      refine ⟨h.stores, ?_⟩
      intro next hnext
      obtain ⟨hook, hhook, rfl⟩ := Option.map_eq_some_iff.mp hnext
      rw [runEffect_oldStore]
      exact hfollows.runEffect (h.shows hook hhook)
  | dispatch action own =>
      refine ⟨h.stores, ?_⟩
      intro next hnext
      obtain ⟨hook, hhook, rfl⟩ := Option.map_eq_some_iff.mp hnext
      rw [dispatch_oldStore]
      have hshows := h.shows hook hhook
      unfold Hook.dispatch
      cases hreduce : reducer.reduce hook.state action with
      | error failure => exact hshows
      | ok state => exact hfollows.own _ _ _ _ own hreduce hshows
  | unmount =>
      refine ⟨h.stores, ?_⟩
      rintro next ⟨⟩

end Steps

section Runs

variable [DecidableEq Id] {key : BaseKey} {Shows : reducer.State → key.Value constants → Prop}

/-- After every run whose events the hook all learns of, its state shows the value of the
store that was rendered. -/
theorem showsCurrent_of_learns (hfollows : reducer.Follows key Shows)
    {events : List (reducer.Event Id)} (hreferences : References key events)
    (hlearns : EventRun.Meets World.step (World.Learns key) initial events) :
    (EventRun.run World.step initial events).ShowsCurrent key Shows := by
  have hknown : EventRun.Meets World.step (fun _ event => ∀ id call, event = .call id call →
      ∀ value, call.supplied key = some value → value ∈ suppliedTo key id events)
      (initial : reducer.World Id) events := by
    apply EventRun.meets_of_forall
    rintro event hmem id call rfl value hsupplied
    exact List.mem_filterMap.mpr ⟨_, hmem, by simpa using hsupplied⟩
  have hmeets := (EventRun.meets_and World.step).mpr ⟨hknown, hlearns⟩
  have hinitial : (initial : reducer.World Id).Invariant key Shows
      (fun id => suppliedTo key id events) :=
    ⟨fun _ => .inl rfl, fun _ hhook => by cases hhook⟩
  have hinvariant := EventRun.run_invariant_of_meets World.step
    (fun world event h hcondition => h.step hfollows hreferences hcondition.1 hcondition.2)
    hinitial hmeets
  exact fun hook hhook _ => hinvariant.shows hook hhook

end Runs

end LiquityReducer

namespace StabilityDepositManager

/-- The reducer of the stability deposit. -/
def reducer (constants : Constants) (E : ExtraState) : LiquityReducer constants E where
  State := State
  Action := Action constants E
  reduce := State.reduce
  updateStore := .updateStore
  init := State.init

namespace State

variable {this next : State} {params : LiquityStoreListenerParams constants E}
  {action : Action constants E}

/-- A reported deposit is taken over, whether it commits the pending change or not. -/
theorem reduce_of_reported {deposit : Obj StabilityDeposit}
    (h : params.stateChange.base .stabilityDeposit = some deposit) :
    ∃ next, this.reduce (.updateStore params) = .ok next ∧
      next.originalDeposit = deposit.value := by
  rw [reduce, h, Option.map_some]
  by_cases hcommits :
      (this.changePending && changeCommitted this.originalDeposit deposit.value) = true
  · exact ⟨_, if_pos hcommits, rfl⟩
  · rw [updateStore, if_neg hcommits, StabilityDeposit.whatChanged_eq, Result.ok_bind,
      StabilityDeposit.apply_changeOfEdit]
    exact ⟨_, rfl, rfl⟩

theorem reduce_of_unreported (h : params.stateChange.base .stabilityDeposit = none) :
    this.reduce (.updateStore params) = .ok this := by
  rw [reduce, h]
  rfl

/-- No other action replaces the original deposit. -/
theorem reduce_own (hown : ∀ params, action ≠ .updateStore params)
    (h : this.reduce action = .ok next) : next.originalDeposit = this.originalDeposit := by
  cases action with
  | updateStore params => exact absurd rfl (hown params)
  | startChange | finishChange | revert =>
      cases h
      rfl
  | setDeposit newValue =>
      obtain ⟨editedHCHF, _, hnext⟩ := Result.bind_eq_ok.mp h
      cases hnext
      rfl

end State

/-- The state shows a deposit as the original one. -/
def Shows (this : State) (deposit : Obj StabilityDeposit) : Prop :=
  this.originalDeposit = deposit.value

theorem follows : (reducer constants E).Follows .stabilityDeposit Shows where
  init _ := rfl
  taken _ _ _ hreported := State.reduce_of_reported hreported
  kept _ _ _ _ hreported hreduce hshows := by
    obtain rfl := Except.ok.inj ((State.reduce_of_unreported hreported).symm.trans hreduce)
    exact hshows
  own _ _ _ _ hown hreduce hshows := (State.reduce_own hown hreduce).trans hshows
  sameValue _ _ _ hsame hshows := hshows.trans hsame

end StabilityDepositManager

namespace StakingManager

/-- The reducer of the stake. -/
def reducer (constants : Constants) (E : ExtraState) : LiquityReducer constants E where
  State := State
  Action := Action constants E
  reduce := State.reduce
  updateStore := .updateStore
  init := State.init

namespace State

variable {this next : State} {params : LiquityStoreListenerParams constants E}
  {action : Action constants E}

/-- A reported stake is taken over. -/
theorem reduce_of_reported {stake : Obj HLQTStake}
    (h : params.stateChange.base .hlqtStake = some stake) :
    ∃ next, this.reduce (.updateStore params) = .ok next ∧ next.originalStake = stake.value := by
  rw [reduce, h, Option.map_some, updateStore, HLQTStake.whatChanged_eq, Result.ok_bind,
    HLQTStake.apply_changeOfEdit]
  exact ⟨_, rfl, rfl⟩

theorem reduce_of_unreported (h : params.stateChange.base .hlqtStake = none) :
    this.reduce (.updateStore params) = .ok this := by
  rw [reduce, h]
  rfl

/-- No other action replaces the original stake. -/
theorem reduce_own (hown : ∀ params, action ≠ .updateStore params)
    (h : this.reduce action = .ok next) : next.originalStake = this.originalStake := by
  cases action with
  | updateStore params => exact absurd rfl (hown params)
  | revert =>
      cases h
      rfl
  | setStake newValue =>
      obtain ⟨editedLQTY, _, hnext⟩ := Result.bind_eq_ok.mp h
      cases hnext
      rfl

end State

/-- The state shows a stake as the original one. -/
def Shows (this : State) (stake : Obj HLQTStake) : Prop := this.originalStake = stake.value

theorem follows : (reducer constants E).Follows .hlqtStake Shows where
  init _ := rfl
  taken _ _ _ hreported := State.reduce_of_reported hreported
  kept _ _ _ _ hreported hreduce hshows := by
    obtain rfl := Except.ok.inj ((State.reduce_of_unreported hreported).symm.trans hreduce)
    exact hshows
  own _ _ _ _ hown hreduce hshows := (State.reduce_own hown hreduce).trans hshows
  sameValue _ _ _ hsame hshows := hshows.trans hsame

end StakingManager

namespace LiquityReducer

variable {Id : Type} [DecidableEq Id]

/-- In every run whose events the hook all learns of, the original deposit and the original
stake are the current ones of the store that was rendered, once the hook is subscribed to it. -/
theorem useLiquityReducer_follows :
    (∀ events : List ((StabilityDepositManager.reducer constants E).Event Id),
      References .stabilityDeposit events →
      EventRun.Meets World.step (World.Learns .stabilityDeposit) initial events →
      let world := EventRun.run World.step initial events
      ∀ hook, world.hook = some hook → hook.subscribed = some hook.oldStore →
        (hook.state : StabilityDepositManager.State).originalDeposit =
          (world.stores hook.oldStore).state.base.stabilityDeposit.value) ∧
    ∀ events : List ((StakingManager.reducer constants E).Event Id),
      References .hlqtStake events →
      EventRun.Meets World.step (World.Learns .hlqtStake) initial events →
      let world := EventRun.run World.step initial events
      ∀ hook, world.hook = some hook → hook.subscribed = some hook.oldStore →
        (hook.state : StakingManager.State).originalStake =
          (world.stores hook.oldStore).state.base.hlqtStake.value := by
  constructor
  · intro events hreferences hlearns
    exact showsCurrent_of_learns StabilityDepositManager.follows hreferences hlearns
  · intro events hreferences hlearns
    exact showsCurrent_of_learns StakingManager.follows hreferences hlearns

/-- A deposit of 100 HCHF of which a liquidation has left something. -/
def leftOf100 (currentHCHF : Decimal) (h : currentHCHF ≤ ⟨10000000000⟩) : StabilityDeposit :=
  ⟨⟨10000000000⟩, currentHCHF, Decimal.zero, Decimal.zero, "", h⟩

theorem all_le_100 : (⟨10000000000⟩ : Decimal) ≤ ⟨10000000000⟩ := by decide

theorem left80_le_100 : (⟨8000000000⟩ : Decimal) ≤ ⟨10000000000⟩ := by decide

/-- The deposit that is loaded, and the one that an update supplies. -/
def loaded100 : Obj StabilityDeposit :=
  ⟨.supplied 0 0, leftOf100 ⟨10000000000⟩ all_le_100⟩

def updated80 : Obj StabilityDeposit := ⟨.supplied 0 1, leftOf100 ⟨8000000000⟩ left80_le_100⟩

def load100 : StoreCall defaults TroveManager.noExtraState :=
  .load { defaultBaseState with stabilityDeposit := loaded100 } none

def update80 : StoreCall defaults TroveManager.noExtraState :=
  .update ⟨some fun
    | .stabilityDeposit => some updated80
    | _ => none, none⟩

/-- The liquidation comes after the effect. -/
def liquidatedLater :
    List ((StabilityDepositManager.reducer defaults TroveManager.noExtraState).Event Unit) :=
  [.call () load100, .render (), .effect, .call () update80]

/-- The liquidation comes between the render and the effect that subscribes. -/
def liquidatedInBetween :
    List ((StabilityDepositManager.reducer defaults TroveManager.noExtraState).Event Unit) :=
  [.call () load100, .render (), .call () update80, .effect]

theorem references_of_two
    {events : List
      ((StabilityDepositManager.reducer defaults TroveManager.noExtraState).Event Unit)}
    (h : suppliedTo .stabilityDeposit () events = [loaded100, updated80]) :
    References .stabilityDeposit events := by
  rintro ⟨⟩ a ha b hb hidentical
  rw [h] at ha hb
  simp only [List.mem_cons, List.not_mem_nil, or_false] at ha hb
  rcases ha with rfl | rfl <;> rcases hb with rfl | rfl
  · rfl
  · cases hidentical
  · cases hidentical
  · rfl

/-- The subscribed hook learns of the later liquidation. -/
theorem learns_liquidatedLater :
    EventRun.Meets World.step (World.Learns .stabilityDeposit) initial liquidatedLater := by
  refine ⟨?_, trivial, trivial, ?_, trivial⟩
  · rintro hook ⟨⟩
  · rintro hook ⟨⟩
    exact ⟨fun _ _ => ⟨rfl, rfl⟩, fun hother => absurd rfl hother⟩

theorem useLiquityReducer_follows_liquidatedLater :
    let world := EventRun.run World.step initial liquidatedLater
    ∃ hook, world.hook = some hook ∧
      (hook.state : StabilityDepositManager.State).originalDeposit = updated80.value := by
  refine ⟨_, rfl, ?_⟩
  exact useLiquityReducer_follows.1 liquidatedLater (references_of_two rfl)
    learns_liquidatedLater _ rfl rfl

/-- Subscribed to the store that has 80 HCHF left, the manager goes on showing 100 HCHF. -/
theorem update_lost_in_between :
    References .stabilityDeposit liquidatedInBetween ∧
    let world := EventRun.run World.step initial liquidatedInBetween
    ∃ hook, world.hook = some hook ∧ hook.subscribed = some hook.oldStore ∧
      (hook.state : StabilityDepositManager.State).originalDeposit = loaded100.value ∧
      (world.stores hook.oldStore).state.base.stabilityDeposit.value = updated80.value ∧
      loaded100.value ≠ updated80.value := by
  refine ⟨references_of_two rfl, _, rfl, rfl, rfl, rfl, ?_⟩
  intro hsame
  cases hsame

end LiquityReducer

end HLiquity
