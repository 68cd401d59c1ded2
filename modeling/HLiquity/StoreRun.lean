import HLiquity.Library.EventRun
import HLiquity.Store
import Mathlib.Data.List.ReduceOption

/-!
# Runs of the store

After a load and any updates the base state is what was supplied last, the
derived state is what the base state derives to, and each notification starts
where the one before ended. An update that throws before it notifies breaks only
the last of these: it keeps its base state without notifying. An exception of a
callback leaves the method and changes nothing else.
-/

namespace HLiquity

variable {constants : Constants} {E : ExtraState}

/-- The arguments of an update. -/
structure UpdateCall (constants : Constants) (E : ExtraState) where
  base : Option (PartialBaseState constants)
  extra : Option E.Update

/-- The value that an update supplies for a key. -/
def UpdateCall.supplied (call : UpdateCall constants E) (key : BaseKey) :
    Option (key.Value constants) :=
  call.base.bind (· key)

/-- An update with the exception that one of its listeners throws, if any does. -/
structure ListenedUpdate (constants : Constants) (E : ExtraState) extends
    UpdateCall constants E where
  thrown : Option Failure

namespace HLiquityStore

/-- The store after an update, whether it returned or threw. -/
def afterUpdate (this : HLiquityStore constants E) (call : UpdateCall constants E) :
    HLiquityStore constants E :=
  (this.update call.base call.extra).2

/-- The store after an update whose listeners may throw. -/
def afterListened (this : HLiquityStore constants E) (call : ListenedUpdate constants E) :
    HLiquityStore constants E :=
  (this.update call.base call.extra call.thrown).2

/-- What an update notified: the callback that it added. -/
def notifiedBy (this : HLiquityStore constants E) (call : UpdateCall constants E) :
    Option (LiquityStoreListenerParams constants E) :=
  match (this.afterUpdate call).callbacks.drop this.callbacks.length with
  | [.notified params] => some params
  | _ => none

/-- What each update of a run notified. -/
def notifications (this : HLiquityStore constants E) :
    List (ListenedUpdate constants E) → List (Option (LiquityStoreListenerParams constants E))
  | [] => []
  | call :: calls =>
      this.notifiedBy call.toUpdateCall :: (this.afterListened call).notifications calls

/-- The value last supplied for a key. -/
def lastSupplied (loaded : LiquityStoreBaseState constants)
    (calls : List (UpdateCall constants E)) (key : BaseKey) : key.Value constants :=
  KeepIfEqual.last (loaded.get key) (calls.map (·.supplied key))

/-- A notification that follows another starts where that one ended. -/
def Consecutive (before after : Option (LiquityStoreListenerParams constants E)) : Prop :=
  ∀ p ∈ before, ∀ q ∈ after, q.oldState = p.newState

theorem reducedBase_get (baseState : LiquityStoreBaseState constants)
    (call : UpdateCall constants E) (key : BaseKey) :
    (reducedBase baseState call.base).get key =
      KeepIfEqual.keep key.equals (baseState.get key) (call.supplied key) := by
  unfold reducedBase UpdateCall.supplied
  cases call.base with
  | none => rfl
  | some update => exact reduce_get baseState update key

theorem reducedExtra_isSome {extraState next : Option E.State} {extraStateUpdate : Option E.Update}
    (h : reducedExtra extraState extraStateUpdate = .ok next) :
    next.isSome = extraState.isSome := by
  unfold reducedExtra at h
  cases extraStateUpdate with
  | none =>
      cases h
      rfl
  | some update =>
      cases extraState with
      | none => cases h
      | some extraState =>
          cases h
          rfl

/-- The extra state is reduced exactly when there is one to reduce. -/
theorem reducedExtra_ok_iff (extraState : Option E.State) (extraStateUpdate : Option E.Update) :
    (∃ next, reducedExtra extraState extraStateUpdate = .ok next) ↔
      (extraStateUpdate.isSome = true → extraState.isSome = true) := by
  cases extraStateUpdate <;> cases extraState <;> simp [reducedExtra]

/-- The exceptions of the listeners do not show in the store. -/
theorem afterListened_eq (this : HLiquityStore constants E) (call : ListenedUpdate constants E) :
    this.afterListened call = this.afterUpdate call.toUpdateCall :=
  this.update_thrown_store call.base call.extra call.thrown

section OneUpdate

variable {this : HLiquityStore constants E} {baseState : LiquityStoreBaseState constants}
  {derivedState : LiquityStoreDerivedState constants}

/-- Every update reduces the base state, and a derived state that can be
computed is reduced to it. -/
theorem afterUpdate_fields (hb : this.baseState = some baseState)
    (hd : this.derivedState = some derivedState) (call : UpdateCall constants E) :
    (this.afterUpdate call).baseState = some (reducedBase baseState call.base) ∧
      (∃ next, (this.afterUpdate call).derivedState = some next ∧
        ∀ computed, derive (reducedBase baseState call.base) this.allocations = .ok computed →
          next = reduceDerived derivedState computed) ∧
      (this.afterUpdate call).extraState.isSome = this.extraState.isSome := by
  unfold afterUpdate
  rcases update_cases hb hd call.base call.extra with
    ⟨failure, hderive, hupdate⟩ | ⟨derived, failure, hderive, _, hupdate⟩ |
    ⟨derived, extraState, hderive, hextra, hupdate⟩
  · rw [hupdate]
    refine ⟨rfl, ⟨derivedState, hd, ?_⟩, rfl⟩
    intro computed hcomputed
    rw [hcomputed] at hderive
    cases hderive
  · rw [hupdate]
    refine ⟨rfl, ⟨_, rfl, ?_⟩, rfl⟩
    intro computed hcomputed
    rw [hcomputed] at hderive
    cases hderive
    rfl
  · rw [hupdate]
    refine ⟨rfl, ⟨_, rfl, ?_⟩, reducedExtra_isSome hextra⟩
    intro computed hcomputed
    rw [hcomputed] at hderive
    cases hderive
    rfl

/-- An update notifies once, from the state before to the state after, or it throws before it
notifies. -/
theorem notifiedBy_cases (hb : this.baseState = some baseState)
    (hd : this.derivedState = some derivedState) (call : UpdateCall constants E) :
    (this.notifiedBy call = none ∧ (this.afterUpdate call).callbacks = this.callbacks ∧
      (∀ thrown, (this.update call.base call.extra thrown).1 ≠ .ok ()) ∧
      ¬ ((reducedBase baseState call.base).Derivable ∧
        (call.extra.isSome = true → this.extraState.isSome = true))) ∨
    ∃ params, this.notifiedBy call = some params ∧
      (this.afterUpdate call).callbacks = this.callbacks ++ [.notified params] ∧
      (∀ thrown, (this.update call.base call.extra thrown).1 = calledBack thrown) ∧
      params.oldState = this.state ∧ params.newState = (this.afterUpdate call).state ∧
      (reducedBase baseState call.base).Derivable ∧
        (call.extra.isSome = true → this.extraState.isSome = true) := by
  unfold notifiedBy afterUpdate
  rcases update_thrown_cases hb hd call.base call.extra with
    ⟨failure, hderive, hupdate⟩ | ⟨derived, failure, hderive, hextra, hupdate⟩ |
    ⟨derived, extraState, hderive, hextra, hupdate⟩
  · left
    rw [hupdate]
    refine ⟨by simp [withBase], rfl, ?_, ?_⟩
    · intro thrown hok
      rw [hupdate thrown] at hok
      cases hok
    · rintro ⟨hderivable, _⟩
      obtain ⟨derived, hok⟩ := (derive_ok_iff this.allocations).mpr hderivable
      rw [hok] at hderive
      cases hderive
  · left
    rw [hupdate]
    refine ⟨by simp [withBase], rfl, ?_, ?_⟩
    · intro thrown hok
      rw [hupdate thrown] at hok
      cases hok
    · rintro ⟨_, hsome⟩
      obtain ⟨next, hok⟩ := (reducedExtra_ok_iff _ _).mpr hsome
      rw [hok] at hextra
      cases hextra
  · right
    rw [hupdate]
    obtain ⟨params, hparams⟩ := this.updated_callbacks (reducedBase baseState call.base)
      (reduceDerived derivedState derived) extraState
    refine ⟨_, by simp [updated, withBase, notify], rfl, ?_, rfl, rfl,
      (derive_ok_iff _).mp ⟨derived, hderive⟩, (reducedExtra_ok_iff _ _).mp ⟨extraState, hextra⟩⟩
    intro thrown
    rw [hupdate thrown]

end OneUpdate

/-- What holds of a store that was loaded with a base state and then updated. -/
structure Follows (loaded : LiquityStoreBaseState constants) (withExtra : Bool)
    (calls : List (UpdateCall constants E)) (this : HLiquityStore constants E) : Prop where
  holdsBase : this.baseState = some this.state.base
  holdsDerived : this.derivedState = some this.state.derived
  extra : this.extraState.isSome = withExtra
  base : ∀ key : BaseKey, this.state.base.get key =
    (calls.map (·.supplied key)).foldl (KeepIfEqual.keep key.equals) (loaded.get key)
  derived : ∀ allocations computed, derive this.state.base allocations = .ok computed →
    ∀ key : DerivedKey, key.equals (this.state.derived.get key) (computed.get key) = true

/-- A load establishes what the updates keep, also one that a callback ends. -/
theorem follows_load {this : HLiquityStore constants E} (hloaded : this.loaded = false)
    {baseState : LiquityStoreBaseState constants} (h : baseState.Derivable)
    (extraState : Option E.State) (onLoadedThrown thrown : Option Failure) :
    Follows baseState extraState.isSome []
      (this.load baseState extraState onLoadedThrown thrown).2 := by
  obtain ⟨derived, again, hderive, hagain, hload⟩ :=
    load_thrown_of_derivable hloaded h extraState onLoadedThrown thrown
  rw [hload]
  cases onLoadedThrown with
  | some failure =>
      refine ⟨rfl, rfl, rfl, fun _ => rfl, ?_⟩
      intro allocations computed hcomputed key
      exact derive_equals (fun key => key.sameValue_refl _) hderive hcomputed key
  | none =>
      refine ⟨rfl, rfl, rfl, fun _ => rfl, ?_⟩
      intro allocations computed hcomputed key
      exact reduceDerived_equals (fun key => key.sameValue_refl _) hagain hcomputed derived key

/-- A load calls `onLoaded`, and notifies the listeners of the loaded state if that returns. -/
theorem callbacks_load {this : HLiquityStore constants E} (hloaded : this.loaded = false)
    {baseState : LiquityStoreBaseState constants} (h : baseState.Derivable)
    (extraState : Option E.State) (onLoadedThrown thrown : Option Failure) :
    let loaded := (this.load baseState extraState onLoadedThrown thrown).2
    (this.load baseState extraState onLoadedThrown thrown).1 =
        calledBack (onLoadedThrown.or thrown) ∧
      ∃ first : Option (LiquityStoreListenerParams constants E),
        first.isSome = onLoadedThrown.isNone ∧
        loaded.callbacks = this.callbacks ++ .onLoaded :: first.toList.map .notified ∧
        ∀ params ∈ first, params.newState = loaded.state := by
  obtain ⟨derived, again, _, _, hload⟩ :=
    load_thrown_of_derivable hloaded h extraState onLoadedThrown thrown
  simp only [hload]
  cases onLoadedThrown with
  | some failure => exact ⟨rfl, none, rfl, rfl, fun _ hnone => by cases hnone⟩
  | none =>
      refine ⟨rfl, some _, rfl, List.append_assoc _ _ _, ?_⟩
      rintro params ⟨⟩
      rfl

/-- Every update keeps it, also one that throws. -/
theorem follows_afterUpdate {this : HLiquityStore constants E}
    {loaded : LiquityStoreBaseState constants} {withExtra : Bool}
    {calls : List (UpdateCall constants E)} (h : Follows loaded withExtra calls this)
    (call : UpdateCall constants E) :
    Follows loaded withExtra (calls ++ [call]) (this.afterUpdate call) := by
  obtain ⟨hbase, ⟨next, hnext, hreduced⟩, hextra⟩ :=
    afterUpdate_fields h.holdsBase h.holdsDerived call
  have hstate : (this.afterUpdate call).state.base = reducedBase this.state.base call.base := by
    simp [state, hbase]
  have hderived : (this.afterUpdate call).state.derived = next := by
    simp [state, hnext]
  refine ⟨by rw [hbase, hstate], by rw [hnext, hderived], hextra.trans h.extra, ?_, ?_⟩
  · intro key
    rw [hstate, reducedBase_get, h.base key, List.map_append, List.foldl_append]
    rfl
  · intro allocations computed hcomputed key
    rw [hstate] at hcomputed
    rw [hderived]
    obtain ⟨again, hagain⟩ := (derive_ok_iff this.allocations).mpr
      ((derive_ok_iff allocations).mp ⟨computed, hcomputed⟩)
    rw [hreduced again hagain]
    exact reduceDerived_equals (fun key => key.sameValue_refl _) hagain hcomputed
      this.state.derived key

theorem follows_run {this : HLiquityStore constants E}
    {loaded : LiquityStoreBaseState constants} {withExtra : Bool}
    (h : Follows loaded withExtra [] this) (calls : List (ListenedUpdate constants E)) :
    Follows loaded withExtra (calls.map (·.toUpdateCall))
      (EventRun.run afterListened this calls) := by
  induction calls using List.reverseRecOn with
  | nil => exact h
  | append_singleton calls call ih =>
      rw [EventRun.run_append, List.map_append]
      have hnext := follows_afterUpdate ih call.toUpdateCall
      rw [← afterListened_eq] at hnext
      exact hnext

/-- The notifications of a run are appended to the callbacks, and each starts
where the one before ended as long as every update between them notifies. -/
theorem notifications_run {this : HLiquityStore constants E}
    {loaded : LiquityStoreBaseState constants} {withExtra : Bool}
    {earlier : List (UpdateCall constants E)} (h : Follows loaded withExtra earlier this)
    (calls : List (ListenedUpdate constants E))
    {before : Option (LiquityStoreListenerParams constants E)}
    (hbefore : ∀ p ∈ before, p.newState = this.state) :
    (EventRun.run afterListened this calls).callbacks =
        this.callbacks ++ (this.notifications calls).reduceOption.map .notified ∧
      List.IsChain Consecutive (before :: this.notifications calls) := by
  induction calls generalizing this earlier before with
  | nil => simp [notifications, List.reduceOption_nil]
  | cons call calls ih =>
      have hnext := follows_afterUpdate h call.toUpdateCall
      rw [← afterListened_eq] at hnext
      rcases notifiedBy_cases h.holdsBase h.holdsDerived call.toUpdateCall with
        ⟨hnone, hcallbacks, _⟩ | ⟨params, hsome, hcallbacks, _, hold, hnew, _⟩
      · rw [← afterListened_eq] at hcallbacks
        have hnothing : ∀ p ∈ (none : Option (LiquityStoreListenerParams constants E)),
            p.newState = (this.afterListened call).state := by simp
        obtain ⟨happended, hchain⟩ := ih hnext hnothing
        rw [EventRun.run_cons, happended, hcallbacks, notifications, hnone]
        refine ⟨rfl, List.isChain_cons_cons.mpr ⟨?_, hchain⟩⟩
        simp [Consecutive]
      · rw [← afterListened_eq] at hcallbacks hnew
        have hparams : ∀ p ∈ some params, p.newState = (this.afterListened call).state := by
          rintro p ⟨⟩
          exact hnew
        obtain ⟨happended, hchain⟩ := ih hnext hparams
        rw [EventRun.run_cons, happended, hcallbacks, notifications, hsome]
        refine ⟨by simp [List.reduceOption_cons_of_some],
          List.isChain_cons_cons.mpr ⟨?_, hchain⟩⟩
        rintro p hp q ⟨⟩
        rw [hold, hbefore p hp]

/-- After a load that derives and any updates, whatever the callbacks throw, every base field is
what was supplied last, every derived field is what the base state derives to, and the
notifications chain wherever every update between them notifies. An update notifies exactly
if its base state derives and there is extra state for an extra update; its outcome is
then that of the listeners. -/
theorem run_update {this : HLiquityStore constants E} (hunloaded : this.loaded = false)
    {baseState : LiquityStoreBaseState constants} (hderivable : baseState.Derivable)
    (extraState : Option E.State) (onLoadedThrown thrown : Option Failure)
    (calls : List (ListenedUpdate constants E)) :
    let loaded := (this.load baseState extraState onLoadedThrown thrown).2
    let final := EventRun.run afterListened loaded calls
    (this.load baseState extraState onLoadedThrown thrown).1 =
      calledBack (onLoadedThrown.or thrown) ∧
    (∀ key : BaseKey, key.equals (final.state.base.get key)
      (lastSupplied baseState (calls.map (·.toUpdateCall)) key) = true) ∧
    (∀ allocations computed, derive final.state.base allocations = .ok computed →
      ∀ key : DerivedKey, key.equals (final.state.derived.get key) (computed.get key) = true) ∧
    (∃ first : Option (LiquityStoreListenerParams constants E),
      first.isSome = onLoadedThrown.isNone ∧
      loaded.callbacks = this.callbacks ++ .onLoaded :: first.toList.map .notified ∧
      final.callbacks =
        loaded.callbacks ++ (loaded.notifications calls).reduceOption.map .notified ∧
      List.IsChain Consecutive (first :: loaded.notifications calls)) ∧
    ∀ call : UpdateCall constants E,
      let notifies := (reducedBase final.state.base call.base).Derivable ∧
        (call.extra.isSome = true → extraState.isSome = true)
      (final.notifiedBy call = none ↔ ¬ notifies) ∧
      ∀ thrown, ((final.update call.base call.extra thrown).1 = .ok () ↔
          notifies ∧ thrown = none) ∧
        (notifies → (final.update call.base call.extra thrown).1 = calledBack thrown) := by
  intro loaded final
  have hload : Follows baseState extraState.isSome [] loaded :=
    follows_load hunloaded hderivable extraState onLoadedThrown thrown
  have hfinal : Follows baseState extraState.isSome (calls.map (·.toUpdateCall)) final :=
    follows_run hload calls
  obtain ⟨houtcome, first, hfirst, hcallbacks, hstate⟩ :=
    callbacks_load hunloaded hderivable extraState onLoadedThrown thrown
  refine ⟨houtcome, ?_, hfinal.derived, ?_, ?_⟩
  · intro key
    rw [hfinal.base key]
    exact KeepIfEqual.equals_foldl_keep key.equals key.equals_refl _ _
  · obtain ⟨happended, hchain⟩ := notifications_run hload calls hstate
    exact ⟨first, hfirst, hcallbacks, happended, hchain⟩
  · intro call
    dsimp only
    rw [← hfinal.extra]
    rcases notifiedBy_cases hfinal.holdsBase hfinal.holdsDerived call with
      ⟨hnone, _, hthrows, hnot⟩ | ⟨params, hsome, _, hreturns, _, _, hok⟩
    · refine ⟨⟨fun _ => hnot, fun _ => hnone⟩, fun thrown => ⟨?_, fun h => absurd h hnot⟩⟩
      exact ⟨fun h => absurd h (hthrows thrown), fun h => absurd h.1 hnot⟩
    · refine ⟨⟨fun h => ?_, fun h => absurd hok h⟩, fun thrown => ⟨?_, fun _ => hreturns thrown⟩⟩
      · rw [hsome] at h
        cases h
      · rw [hreturns thrown, calledBack_eq_ok]
        exact ⟨fun h => ⟨hok, h⟩, And.right⟩

/-- A store without extra state. -/
def noExtraState : ExtraState := ⟨Unit, Unit, fun extraState _ => extraState, fun _ _ => ()⟩

/-- Fees whose dates are the given number of milliseconds apart. -/
def feesAfter (milliseconds : Int) : Fees defaults :=
  ⟨Decimal.zero, Decimal.zero, Decimal.zero, 0, milliseconds, false, Decimal.zero_lt_one⟩

/-- An update of the price together with fees that cannot be derived from. -/
def priceWithDistantFees : PartialBaseState defaults
  | .price => some ⟨.supplied 0 0, Decimal.one⟩
  | .feesInNormalMode => some ⟨.supplied 0 1, feesAfter (60000 * 2 ^ 32)⟩
  | _ => none

/-- An update back to fees that can be derived from. -/
def recentFees : PartialBaseState defaults
  | .feesInNormalMode => some ⟨.supplied 0 2, feesAfter 0⟩
  | _ => none

theorem halfLife_decays : (⟨99903775⟩ : Decimal) < Decimal.one := by decide

/-- A system of 3000 HBAR and 2500 HCHF at a price of 2, with a decaying base rate. -/
def lentBase : LiquityStoreBaseState defaults :=
  { defaultBaseState with
    price := ⟨.supplied 1 0, ⟨200000000⟩⟩
    total := ⟨.supplied 1 1, ⟨⟨300000000000⟩, ⟨250000000000⟩⟩⟩
    feesInNormalMode := ⟨.supplied 1 2,
      ⟨⟨2000000⟩, ⟨99903775⟩, ⟨200000000⟩, 0, 600000, false, halfLife_decays⟩⟩ }

/-- The price falls until the system is in recovery mode, which one listener answers by throwing;
the debt is repaid; fees arrive that cannot be derived from, and then others. -/
def recoveryCalls : List (ListenedUpdate defaults noExtraState) :=
  [⟨⟨some fun | .price => some ⟨.supplied 2 0, Decimal.one⟩ | _ => none, none⟩,
      some (.error "listener")⟩,
    ⟨⟨some fun | .total => some ⟨.supplied 3 0, ⟨⟨300000000000⟩, ⟨150000000000⟩⟩⟩ | _ => none,
      none⟩, none⟩,
    ⟨⟨some priceWithDistantFees, none⟩, none⟩,
    ⟨⟨some recentFees, none⟩, none⟩]

/-- Along this run the derived recovery mode is notified as it comes and goes, and the update that
cannot derive is silent. -/
theorem run_update_recovery :
    let loaded := ((new : HLiquityStore defaults noExtraState).load lentBase none).2
    let final := EventRun.run afterListened loaded recoveryCalls
    (∀ key : BaseKey, key.equals (final.state.base.get key)
        (lastSupplied lentBase (recoveryCalls.map (·.toUpdateCall)) key) = true) ∧
      (∀ allocations computed, derive final.state.base allocations = .ok computed →
        ∀ key : DerivedKey,
          key.equals (final.state.derived.get key) (computed.get key) = true) ∧
      (∃ first, List.IsChain Consecutive (first :: loaded.notifications recoveryCalls)) ∧
      (loaded.notifications recoveryCalls).map (·.map fun params =>
          (params.oldState.derived.fees.value.recoveryMode,
            params.newState.derived.fees.value.recoveryMode)) =
        [some (false, true), some (true, false), none, some (false, false)] := by
  obtain ⟨_, hbase, hderived, ⟨first, _, _, _, hchain⟩, _⟩ :=
    run_update (rfl : (new : HLiquityStore defaults noExtraState).loaded = false)
      (by decide : lentBase.Derivable) none none none recoveryCalls
  exact ⟨hbase, hderived, ⟨first, hchain⟩, by decide⟩

/-- Between the two notifications of this run an update throws after it has set
the price, so the second does not start where the first ended. -/
theorem run_update_broken :
    ∃ first second, (EventRun.run afterUpdate
        ((new : HLiquityStore defaults noExtraState).load defaultBaseState none).2
        [⟨some priceWithDistantFees, none⟩, ⟨some recentFees, none⟩]).callbacks =
        [.onLoaded, .notified first, .notified second] ∧
      first.newState.base.price.value = Decimal.zero ∧
      second.oldState.base.price.value = Decimal.one := by
  refine ⟨_, _, rfl, rfl, rfl⟩

end HLiquityStore

end HLiquity
