import HLiquity.Library.EventRun

/-!
# Stable values

A hook stores a value and returns it at each render. After a render, its effect stores the value
that the render was given, unless the two are equal. What a render returns is therefore as old as
the render before it.
-/

namespace StableValue

/-- The state, with what the last render was given and has returned. -/
structure Hook (Value : Type*) where
  stored : Value
  given : Value
  returned : Value
  effectPending : Bool
  deriving DecidableEq, Repr

/-- A render, or the effect of the last one. -/
inductive Event (Value : Type*) where
  | render (given : Value)
  | effect
  deriving DecidableEq, Repr

def Event.map {Value Other : Type*} (f : Value → Other) : Event Value → Event Other
  | .render given => .render (f given)
  | .effect => .effect

/-- What the render before the last one was given. The first render counts as the one before it. -/
def previous {Value : Type*} : Value → Value → List (Event Value) → Value
  | before, _, [] => before
  | _, given, .render next :: events => previous given next events
  | before, given, .effect :: events => previous before given events

theorem previous_map {Value Other : Type*} (f : Value → Other) (before given : Value)
    (events : List (Event Value)) :
    previous (f before) (f given) (events.map (Event.map f)) =
      f (previous before given events) := by
  induction events generalizing before given with
  | nil => rfl
  | cons event events ih =>
      cases event with
      | render next => exact ih given next
      | effect => exact ih before given

/-- It was given to some render. -/
theorem previous_mem {Value : Type*} (before given : Value) (events : List (Event Value)) :
    previous before given events = before ∨ previous before given events = given ∨
      .render (previous before given events) ∈ events := by
  induction events generalizing before given with
  | nil => exact .inl rfl
  | cons event events ih =>
      cases event with
      | render next =>
          rcases ih given next with h | h | h
          · exact .inr (.inl h)
          · exact .inr (.inr (by simp [previous, h]))
          · exact .inr (.inr (List.mem_cons_of_mem _ h))
      | effect =>
          rcases ih before given with h | h | h
          · exact .inl h
          · exact .inr (.inl h)
          · exact .inr (.inr (List.mem_cons_of_mem _ h))

section Hook

variable {Value : Type*} (isEqual : Value → Value → Bool)

def mount (given : Value) : Hook Value := ⟨given, given, given, true⟩

/-- The effect, which runs once for each render. -/
def runEffect (hook : Hook Value) : Hook Value :=
  if hook.effectPending then
    { hook with
      stored := if isEqual hook.returned hook.given then hook.stored else hook.given
      effectPending := false }
  else hook

/-- No render begins before the effect of the last one has run. -/
def step (hook : Hook Value) : Event Value → Hook Value
  | .render given =>
      let flushed := runEffect isEqual hook
      ⟨flushed.stored, given, flushed.stored, true⟩
  | .effect => runEffect isEqual hook

/-- No effect is to run, and no stored value is to be rendered. -/
def AtRest (hook : Hook Value) : Prop := hook.effectPending = false ∧ hook.returned = hook.stored

/-- Until its effect has run, a render has returned what is stored. Afterwards, what is stored is
equal to what it was given. -/
structure Current (hook : Hook Value) : Prop where
  rendered : hook.effectPending = true → hook.returned = hook.stored
  stored : hook.effectPending = false → isEqual hook.stored hook.given = true

variable {isEqual} {hook : Hook Value}

theorem current_mount (given : Value) : Current isEqual (mount given) :=
  ⟨fun _ => rfl, fun h => by cases h⟩

@[simp] theorem runEffect_given (hook : Hook Value) :
    (runEffect isEqual hook).given = hook.given := by
  unfold runEffect
  split <;> rfl

@[simp] theorem runEffect_returned (hook : Hook Value) :
    (runEffect isEqual hook).returned = hook.returned := by
  unfold runEffect
  split <;> rfl

@[simp] theorem runEffect_effectPending (hook : Hook Value) :
    (runEffect isEqual hook).effectPending = false := by
  unfold runEffect
  split
  · rfl
  · next h => exact Bool.eq_false_iff.mpr h

/-- At rest, the returned value is equal to the given one. -/
theorem Current.returned_of_atRest (h : Current isEqual hook) (hrest : AtRest hook) :
    isEqual hook.returned hook.given = true := by
  rw [hrest.2]
  exact h.stored hrest.1

variable (hrefl : ∀ value, isEqual value value = true)
include hrefl

/-- The effect leaves a value stored that is equal to the given one. -/
theorem Current.runEffect_stored (h : Current isEqual hook) :
    isEqual (runEffect isEqual hook).stored hook.given = true := by
  unfold runEffect
  split
  · next hpending =>
      split
      · next hequal => exact h.rendered hpending ▸ hequal
      · exact hrefl hook.given
  · next hpending => exact h.stored (Bool.eq_false_iff.mpr hpending)

theorem Current.step (h : Current isEqual hook) (event : Event Value) :
    Current isEqual (step isEqual hook event) := by
  cases event with
  | render given =>
      constructor
      · intro _
        rfl
      · rintro ⟨⟩
  | effect =>
      constructor
      · intro hpending
        rw [StableValue.step, runEffect_effectPending] at hpending
        cases hpending
      · intro _
        rw [StableValue.step, runEffect_given]
        exact h.runEffect_stored hrefl

theorem Current.run (h : Current isEqual hook) (events : List (Event Value)) :
    Current isEqual (EventRun.run (StableValue.step isEqual) hook events) :=
  EventRun.run_invariant (StableValue.step isEqual)
    (fun _ event hcurrent => hcurrent.step hrefl event) h events

/-- In every run, the last render has returned a value equal to what the render before it was
given. -/
theorem returned_isEqual_previous {before : Value} (h : Current isEqual hook)
    (hbefore : isEqual hook.returned before = true) (events : List (Event Value)) :
    isEqual (EventRun.run (step isEqual) hook events).returned
      (previous before hook.given events) = true := by
  induction events generalizing hook before with
  | nil => exact hbefore
  | cons event events ih =>
      have hnext := h.step hrefl event
      cases event with
      | render next => exact ih hnext (h.runEffect_stored hrefl)
      | effect =>
          rw [EventRun.run_cons]
          have hkeep : isEqual (StableValue.step isEqual hook .effect).returned before = true := by
            rw [StableValue.step, runEffect_returned]
            exact hbefore
          have hgiven : (StableValue.step isEqual hook .effect).given = hook.given :=
            runEffect_given hook
          rw [previous, ← hgiven]
          exact ih hnext hkeep

/-- A render whose effect stores nothing is at rest; one that is repeated is such a render. -/
theorem atRest_of_repeated (hook : Hook Value) (given : Value) :
    AtRest (EventRun.run (step isEqual) hook [.render given, .effect, .render given, .effect]) := by
  simp only [EventRun.run_cons, EventRun.run_nil, StableValue.step, AtRest,
    runEffect_effectPending, runEffect_returned, true_and]
  generalize (runEffect isEqual hook).stored = stored
  by_cases hequal : isEqual stored given = true
  · simp [runEffect, hequal]
  · simp [runEffect, hequal, hrefl]

end Hook

end StableValue
