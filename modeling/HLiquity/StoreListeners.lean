import HLiquity.Library.LiveDispatch
import HLiquity.Outcome

/-!
# Listeners of a store

Every subscription wraps its listener in a function of its own, so the set of listeners
holds as many members as there are subscriptions, also of one function. A notification
goes through a copy of the set and skips what has been unsubscribed in the meantime.
-/

namespace HLiquity

variable {F : Type}

/-- The function that `wrap` returns: another object for every subscription. -/
structure UniqueListener (F : Type) where
  number : Nat
  listener : F

/-- `_listeners`, in the order of insertion, with the count of the wrapped listeners. -/
structure ListenerSet (F : Type) where
  listeners : List (UniqueListener F)
  created : Nat
  fresh : ∀ unique ∈ listeners, unique.number < created
  distinct : (listeners.map UniqueListener.number).Nodup

namespace ListenerSet

def empty : ListenerSet F := ⟨[], 0, by simp, List.nodup_nil⟩

def has (this : ListenerSet F) (unique : UniqueListener F) : Bool :=
  this.listeners.any fun other => other.number == unique.number

/-- `_listeners.add(wrap(listener))` -/
def add (this : ListenerSet F) (listener : F) : ListenerSet F where
  listeners := this.listeners ++ [⟨this.created, listener⟩]
  created := this.created + 1
  fresh unique hunique := by
    rw [List.mem_append, List.mem_singleton] at hunique
    rcases hunique with hold | rfl
    · exact Nat.lt_succ_of_lt (this.fresh unique hold)
    · exact Nat.lt_succ_self _
  distinct := by
    rw [List.map_append, List.map_singleton, List.nodup_append]
    refine ⟨this.distinct, List.nodup_singleton _, ?_⟩
    intro number hnumber other hother
    rw [List.mem_singleton] at hother
    obtain ⟨unique, hunique, rfl⟩ := List.mem_map.mp hnumber
    rw [hother]
    exact Nat.ne_of_lt (this.fresh unique hunique)

/-- `_listeners.delete(uniqueListener)` -/
def delete (this : ListenerSet F) (number : Nat) : ListenerSet F where
  listeners := this.listeners.filter fun unique => unique.number != number
  created := this.created
  fresh unique hunique := this.fresh unique (List.mem_of_mem_filter hunique)
  distinct := this.distinct.sublist (List.filter_sublist.map _)

theorem has_iff {this : ListenerSet F} {unique : UniqueListener F} :
    this.has unique = true ↔ unique.number ∈ this.listeners.map UniqueListener.number := by
  simp [has]

theorem has_of_mem {this : ListenerSet F} {unique : UniqueListener F}
    (h : unique ∈ this.listeners) : this.has unique = true :=
  has_iff.mpr (List.mem_map_of_mem h)

/-- A subscription adds nothing but its own listener. -/
theorem has_add_iff {this : ListenerSet F} {listener : F} {unique : UniqueListener F} :
    (this.add listener).has unique = true ↔
      this.has unique = true ∨ unique.number = this.created := by
  simp [has_iff, add]

/-- An unsubscription removes nothing but its own listener. -/
theorem has_delete_iff {this : ListenerSet F} {number : Nat} {unique : UniqueListener F} :
    (this.delete number).has unique = true ↔
      this.has unique = true ∧ unique.number ≠ number := by
  rw [has_iff, has_iff, delete]
  simp only [List.mem_map, List.mem_filter, bne_iff_ne, ne_eq]
  constructor
  · rintro ⟨other, ⟨hother, hne⟩, heq⟩
    exact ⟨⟨other, hother, heq⟩, heq ▸ hne⟩
  · rintro ⟨⟨other, hother, heq⟩, hne⟩
    exact ⟨other, ⟨hother, heq ▸ hne⟩, heq⟩

theorem nodup (this : ListenerSet F) : this.listeners.Nodup :=
  List.Nodup.of_map _ this.distinct

end ListenerSet

/-- What one call of a listener does. It may subscribe, which calls the subscribed listener
at once, and whose outcome it may handle or pass on in what it does next, and it may
unsubscribe any subscription. -/
inductive Behaviour (F : Type) where
  | returns
  | throws (failure : Failure)
  | subscribe (listener : F) (catchUp next : Behaviour F)
  | unsubscribe (number : Nat) (next : Behaviour F)

/-- The listeners of a store during a notification, with the listeners that it has called
and the subscriptions that have been cancelled. -/
structure Notifying (F : Type) where
  set : ListenerSet F
  calls : List (UniqueListener F)
  unsubscribed : List Nat

namespace Notifying

def start (set : ListenerSet F) : Notifying F := ⟨set, [], []⟩

/-- The function that `subscribe` returns. -/
def unsubscribe (this : Notifying F) (number : Nat) : Notifying F :=
  { this with
    set := this.set.delete number
    unsubscribed := this.unsubscribed ++ [number] }

end Notifying

namespace Behaviour

/-- Run a call up to its end. -/
def run : Behaviour F → Notifying F → Option Failure × Notifying F
  | returns, state => (none, state)
  | throws failure, state => (some failure, state)
  | subscribe listener catchUp next, state =>
      next.run (catchUp.run { state with set := state.set.add listener }).2
  | unsubscribe number next, state => next.run (state.unsubscribe number)

end Behaviour

/-- `subscribe`, which adds the listener and calls it with the current state. -/
def Notifying.subscribe (this : Notifying F) (listener : F) (catchUp : Behaviour F) :
    Option Failure × Notifying F :=
  catchUp.run { this with set := this.set.add listener }

theorem Behaviour.run_subscribe (listener : F) (catchUp next : Behaviour F)
    (state : Notifying F) :
    (Behaviour.subscribe listener catchUp next).run state =
      next.run (state.subscribe listener catchUp).2 := rfl

section Notify

-- how the listeners behave, depending on the calls before
variable (behave : List (UniqueListener F) → UniqueListener F → Behaviour F)

/-- `listener(params)` -/
def callListener (state : Notifying F) (unique : UniqueListener F) :
    Option Failure × Notifying F :=
  (behave state.calls unique).run { state with calls := state.calls ++ [unique] }

/-- `_notify`, on a part of the copy of the set. -/
def notifyCopy (set : ListenerSet F) (copy : List (UniqueListener F)) :
    LiveDispatch.Dispatched (Notifying F) (UniqueListener F) Failure :=
  LiveDispatch.dispatch (fun state unique => state.set.has unique) (callListener behave)
    (Notifying.start set) copy

/-- `_notify` on the copy of the whole set. -/
def notifyListeners (set : ListenerSet F) :
    LiveDispatch.Dispatched (Notifying F) (UniqueListener F) Failure :=
  notifyCopy behave set set.listeners

/-- What a notification keeps: of the listeners that it has begun with exactly those are
left whose own subscription has not been cancelled. -/
def Notifying.Keeps (set : ListenerSet F) (state : Notifying F) : Prop :=
  set.created ≤ state.set.created ∧
    ∀ unique ∈ set.listeners,
      (state.set.has unique = true ↔ unique.number ∉ state.unsubscribed)

theorem Notifying.keeps_start (set : ListenerSet F) : (Notifying.start set).Keeps set :=
  ⟨Nat.le_refl _, fun _ hunique => iff_of_true (ListenerSet.has_of_mem hunique) List.not_mem_nil⟩

theorem Notifying.Keeps.add {set : ListenerSet F} {state : Notifying F} (h : state.Keeps set)
    (listener : F) : Keeps set { state with set := state.set.add listener } := by
  refine ⟨Nat.le_succ_of_le h.1, fun unique hunique => ?_⟩
  have hless : unique.number ≠ state.set.created :=
    Nat.ne_of_lt (Nat.lt_of_lt_of_le (set.fresh unique hunique) h.1)
  rw [ListenerSet.has_add_iff, or_iff_left hless]
  exact h.2 unique hunique

theorem Notifying.Keeps.unsubscribe {set : ListenerSet F} {state : Notifying F}
    (h : state.Keeps set) (number : Nat) : (state.unsubscribe number).Keeps set := by
  refine ⟨h.1, fun unique hunique => ?_⟩
  simp only [Notifying.unsubscribe, ListenerSet.has_delete_iff, h.2 unique hunique,
    List.mem_append, List.mem_singleton, not_or]

/-- By induction on what a call does. -/
theorem Behaviour.keeps_run {set : ListenerSet F} (behaviour : Behaviour F)
    {state : Notifying F} (h : state.Keeps set) : (behaviour.run state).2.Keeps set := by
  induction behaviour generalizing state with
  | returns => exact h
  | throws failure => exact h
  | subscribe listener catchUp next ihCatchUp ihNext =>
      rw [Behaviour.run_subscribe]
      exact ihNext (ihCatchUp (h.add listener))
  | unsubscribe number next ih => exact ih (h.unsubscribe number)

theorem keeps_callListener {set : ListenerSet F} (state : Notifying F)
    (unique : UniqueListener F) (h : state.Keeps set) :
    (callListener behave state unique).2.Keeps set := by
  have hcalled : Notifying.Keeps set { state with calls := state.calls ++ [unique] } := h
  exact (behave state.calls unique).keeps_run hcalled

theorem keeps_notifyCopy (set : ListenerSet F) (copy : List (UniqueListener F)) :
    (notifyCopy behave set copy).state.Keeps set :=
  LiveDispatch.invariant (keeps_callListener behave) (Notifying.keeps_start set) copy

/-- A notification calls, of the listeners that it has begun with, those that have not been
unsubscribed before their turn. -/
def CallsExactly (set : ListenerSet F) : Prop :=
  ∀ before unique after, set.listeners = before ++ unique :: after →
    (unique ∈ (notifyListeners behave set).called ↔
      unique.number ∉ (notifyCopy behave set before).state.unsubscribed)

/-- The turn of a listener comes if no earlier one has thrown. -/
theorem mem_called_iff {set : ListenerSet F} {before after : List (UniqueListener F)}
    {unique : UniqueListener F} (hsplit : set.listeners = before ++ unique :: after) :
    unique ∈ (notifyListeners behave set).called ↔
      (notifyCopy behave set before).failure = none ∧
        unique.number ∉ (notifyCopy behave set before).state.unsubscribed := by
  have hnodup := set.nodup
  have hmem : unique ∈ set.listeners := by simp [hsplit]
  rw [hsplit] at hnodup
  rw [notifyListeners, notifyCopy, hsplit, LiveDispatch.mem_called_iff hnodup,
    ← (keeps_notifyCopy behave set before).2 unique hmem]
  rfl

/-- A notification calls the listeners in the order of their subscription, each at most once
and none that it has not begun with. It calls those whose turn comes before they have been
unsubscribed, which is all the others as long as no listener throws. Every subscription,
also of the same function, is a member of its own that only its own unsubscription
removes. -/
theorem notifyListeners_exact (set : ListenerSet F) :
    (notifyListeners behave set).called.Sublist set.listeners ∧
    (notifyListeners behave set).called.Nodup ∧
    (∀ before unique after, set.listeners = before ++ unique :: after →
      (unique ∈ (notifyListeners behave set).called ↔
        (notifyCopy behave set before).failure = none ∧
          unique.number ∉ (notifyCopy behave set before).state.unsubscribed)) ∧
    ((notifyListeners behave set).failure = none → CallsExactly behave set) ∧
    (∀ unique ∈ set.listeners, (notifyListeners behave set).state.set.has unique = true ↔
      unique.number ∉ (notifyListeners behave set).state.unsubscribed) ∧
    (∀ listener, (set.add listener).listeners =
      set.listeners ++ [⟨set.created, listener⟩] ∧
        ∀ unique ∈ set.listeners, unique.number ≠ set.created) := by
  have hsublist : (notifyListeners behave set).called.Sublist set.listeners :=
    LiveDispatch.called_sublist _ _
  refine ⟨hsublist, set.nodup.sublist hsublist, fun _ _ _ => mem_called_iff behave, ?_,
    (keeps_notifyCopy behave set set.listeners).2,
    fun listener => ⟨rfl, fun unique hunique => Nat.ne_of_lt (set.fresh unique hunique)⟩⟩
  intro hreturned before unique after hsplit
  rw [mem_called_iff behave hsplit]
  apply and_iff_right
  rw [notifyListeners, notifyCopy, hsplit] at hreturned
  exact LiveDispatch.failure_of_append hreturned

end Notify

/-- A listener that throws keeps the next one from being called. -/
theorem throwing_not_exact :
    ¬ CallsExactly (fun _ unique =>
        if unique.number = 0 then .throws (.error "listener") else .returns)
      (((ListenerSet.empty : ListenerSet Unit).add ()).add ()) := by
  intro h
  have hcalled : (⟨1, ()⟩ : UniqueListener Unit) ∈ [(⟨0, ()⟩ : UniqueListener Unit)] :=
    (h [⟨0, ()⟩] ⟨1, ()⟩ [] rfl).mpr (by decide)
  cases List.mem_singleton.mp hcalled

end HLiquity
