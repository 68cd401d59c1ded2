import Mathlib.Data.List.Induction
import Mathlib.Logic.Basic

/-!
# Runs of event systems

A system reacts to each event with a step. A property that every step keeps
holds after every run, and a property that a step keeps under a condition holds
after every run whose steps all meet the condition.
-/

namespace EventRun

variable {State Event : Type*} (step : State → Event → State)

/-- The state after a list of events. -/
def run (state : State) (events : List Event) : State := events.foldl step state

@[simp] theorem run_nil (state : State) : run step state [] = state := rfl

@[simp] theorem run_cons (state : State) (event : Event) (events : List Event) :
    run step state (event :: events) = run step (step state event) events := rfl

@[simp] theorem run_append (state : State) (events later : List Event) :
    run step state (events ++ later) = run step (run step state events) later :=
  List.foldl_append

/-- The induction rule of runs. -/
theorem run_invariant {Inv : State → Prop}
    (hstep : ∀ state event, Inv state → Inv (step state event))
    {state : State} (h : Inv state) (events : List Event) : Inv (run step state events) := by
  induction events generalizing state with
  | nil => exact h
  | cons event events ih => exact ih (hstep state event h)

/-- Every step of the run from a state meets the condition. -/
def Meets (condition : State → Event → Prop) : State → List Event → Prop
  | _, [] => True
  | state, event :: events =>
      condition state event ∧ Meets condition (step state event) events

instance decidableMeets (condition : State → Event → Prop)
    [∀ state event, Decidable (condition state event)] :
    (state : State) → (events : List Event) → Decidable (Meets step condition state events)
  | _, [] => .isTrue trivial
  | state, event :: events =>
      have : Decidable (Meets step condition (step state event) events) :=
        decidableMeets condition (step state event) events
      inferInstanceAs (Decidable (condition state event ∧ _))

/-- The induction rule of runs whose steps all meet a condition. -/
theorem run_invariant_of_meets {condition : State → Event → Prop} {Inv : State → Prop}
    (hstep : ∀ state event, Inv state → condition state event → Inv (step state event))
    {state : State} (h : Inv state) {events : List Event}
    (hmeets : Meets step condition state events) : Inv (run step state events) := by
  induction events generalizing state with
  | nil => exact h
  | cons event events ih => exact ih (hstep state event h hmeets.1) hmeets.2

/-- A condition on events alone is met wherever they happen. -/
theorem meets_of_forall {condition : Event → Prop} {events : List Event}
    (h : ∀ event ∈ events, condition event) (state : State) :
    Meets step (fun _ => condition) state events := by
  induction events generalizing state with
  | nil => trivial
  | cons event events ih =>
      constructor
      · exact h event List.mem_cons_self
      · exact ih (fun later hlater => h later (List.mem_cons_of_mem _ hlater)) _

/-- A run meets two conditions exactly if it meets each of them. -/
theorem meets_and {first second : State → Event → Prop} {state : State} {events : List Event} :
    Meets step (fun state event => first state event ∧ second state event) state events ↔
      Meets step first state events ∧ Meets step second state events := by
  induction events generalizing state with
  | nil => exact ⟨fun _ => ⟨trivial, trivial⟩, fun _ => trivial⟩
  | cons event events ih =>
      rw [Meets, Meets, Meets, ih]
      exact and_and_and_comm

theorem meets_append (condition : State → Event → Prop) (state : State)
    (events later : List Event) :
    Meets step condition state (events ++ later) ↔
      Meets step condition state events ∧ Meets step condition (run step state events) later := by
  induction events generalizing state with
  | nil => simp [Meets]
  | cons event events ih =>
      rw [List.cons_append, Meets, ih, Meets, run_cons, and_assoc]

/-- Every step meets the condition if it holds where each event of the run happens. -/
theorem meets_iff_forall (condition : State → Event → Prop) (state : State)
    (events : List Event) :
    Meets step condition state events ↔
      ∀ earlier event later, events = earlier ++ event :: later →
        condition (run step state earlier) event := by
  constructor
  · rintro hmeets earlier event later rfl
    exact ((meets_append step condition state earlier (event :: later)).mp hmeets).2.1
  · intro hall
    induction events generalizing state with
    | nil => trivial
    | cons event events ih =>
        constructor
        · exact hall [] event events rfl
        · apply ih
          rintro earlier later_event later rfl
          exact hall (event :: earlier) later_event later rfl

/-- The rule of relations between the ends of a run: what is reflexive and
transitive, and holds over every step, holds over the run. -/
theorem run_related_of_meets {condition : State → Event → Prop} {Inv : State → Prop}
    {related : State → State → Prop} (hrefl : ∀ state, related state state)
    (htrans : ∀ first second third, related first second → related second third →
      related first third)
    (hkeep : ∀ state event, Inv state → condition state event → Inv (step state event))
    (hstep : ∀ state event, Inv state → condition state event → related state (step state event))
    {state : State} (h : Inv state) {events : List Event}
    (hmeets : Meets step condition state events) : related state (run step state events) := by
  induction events generalizing state with
  | nil => exact hrefl state
  | cons event events ih =>
      have hfirst : related state (step state event) := hstep state event h hmeets.1
      exact htrans _ _ _ hfirst (ih (hkeep state event h hmeets.1) hmeets.2)

/-- Some event of the run from a state fires, in the state that it finds. -/
def Fires (fires : State → Event → Prop) (state : State) (events : List Event) : Prop :=
  ∃ earlier event later, events = earlier ++ event :: later ∧
    fires (run step state earlier) event

theorem fires_cons (fires : State → Event → Prop) (state : State) (event : Event)
    (events : List Event) :
    Fires step fires state (event :: events) ↔
      fires state event ∨ Fires step fires (step state event) events := by
  constructor
  · rintro ⟨earlier, fired, later, hsplit, hfires⟩
    cases earlier with
    | nil =>
        cases hsplit
        exact .inl hfires
    | cons first earlier =>
        cases hsplit
        exact .inr ⟨earlier, fired, later, rfl, hfires⟩
  · rintro (hfires | ⟨earlier, fired, later, rfl, hfires⟩)
    · exact ⟨[], event, events, rfl, hfires⟩
    · exact ⟨event :: earlier, fired, later, rfl, hfires⟩

/-- The induction rule of properties that last: once an event has fired, the
property holds, and otherwise it holds only if it did before. -/
theorem run_iff_fires {Inv P : State → Prop} {fires : State → Event → Prop}
    (hkeep : ∀ state event, Inv state → Inv (step state event))
    (hstep : ∀ state event, Inv state → (P (step state event) ↔ P state ∨ fires state event))
    {state : State} (h : Inv state) (events : List Event) :
    P (run step state events) ↔ P state ∨ Fires step fires state events := by
  induction events generalizing state with
  | nil =>
      constructor
      · exact .inl
      · rintro (hp | ⟨earlier, event, later, hsplit, _⟩)
        · exact hp
        · simp at hsplit
  | cons event events ih =>
      rw [run_cons, ih (hkeep state event h), hstep state event h, fires_cons, or_assoc]

/-- The rule of properties that only an event that fires begins. -/
theorem fires_of_run {Inv P : State → Prop} {fires : State → Event → Prop}
    (hkeep : ∀ state event, Inv state → Inv (step state event))
    (hstep : ∀ state event, Inv state → P (step state event) → P state ∨ fires state event)
    {state : State} (h : Inv state) (hbefore : ¬ P state) {events : List Event}
    (hp : P (run step state events)) : Fires step fires state events := by
  induction events generalizing state with
  | nil => exact absurd hp hbefore
  | cons event events ih =>
      rw [fires_cons]
      by_cases hnext : P (step state event)
      · exact .inl ((hstep state event h hnext).resolve_left hbefore)
      · exact .inr (ih (hkeep state event h) hnext hp)

/-- The rule of properties that exactly the events that fire begin: such a property holds at
some time of a run exactly if an event of the run fires. -/
theorem reaches_iff_fires {Inv P : State → Prop} {fires : State → Event → Prop}
    (hkeep : ∀ state event, Inv state → Inv (step state event))
    (hstep : ∀ state event, Inv state → P (step state event) → P state ∨ fires state event)
    (hfires : ∀ state event, Inv state → fires state event → P (step state event))
    {state : State} (h : Inv state) (hbefore : ¬ P state) (events : List Event) :
    (∃ earlier later, events = earlier ++ later ∧ P (run step state earlier)) ↔
      Fires step fires state events := by
  constructor
  · rintro ⟨earlier, later, rfl, hp⟩
    obtain ⟨before, event, after, rfl, hevent⟩ := fires_of_run step hkeep hstep h hbefore hp
    refine ⟨before, event, after ++ later, ?_, hevent⟩
    rw [List.append_assoc, List.cons_append]
  · rintro ⟨earlier, event, later, rfl, hevent⟩
    refine ⟨earlier ++ [event], later, ?_, ?_⟩
    · rw [List.append_assoc, List.singleton_append]
    · rw [run_append]
      exact hfires _ _ (run_invariant step hkeep h earlier) hevent

/-- The rule of properties that only an event that fires ends. -/
theorem run_or_fires_of_meets {condition : State → Event → Prop} {Inv P : State → Prop}
    {fires : State → Event → Prop}
    (hkeep : ∀ state event, Inv state → condition state event → Inv (step state event))
    (hstep : ∀ state event, Inv state → condition state event → P state →
      P (step state event) ∨ fires state event)
    {state : State} (h : Inv state) (hp : P state) {events : List Event}
    (hmeets : Meets step condition state events) :
    P (run step state events) ∨ Fires step fires state events := by
  induction events generalizing state with
  | nil => exact .inl hp
  | cons event events ih =>
      rw [fires_cons]
      rcases hstep state event h hmeets.1 hp with hnext | hfires
      · rcases ih (hkeep state event h hmeets.1) hnext hmeets.2 with hend | hlater
        · exact .inl hend
        · exact .inr (.inr hlater)
      · exact .inr (.inl hfires)

/-- Each event of a list lowers the rank, the last one to zero. -/
def Descends (lowers : Nat → Event → Prop) : List Event → Prop
  | [] => True
  | event :: events => lowers events.length event ∧ Descends lowers events

/-- The rule of ranks: a run that no step of which raises the rank, and that has the events
that lower it in their order, ends with rank zero. -/
theorem run_rank_eq_zero {condition : State → Event → Prop} {Inv : State → Prop}
    {rank : State → Nat} {lowers : Nat → Event → Prop}
    (hkeep : ∀ state event, Inv state → condition state event → Inv (step state event))
    (hle : ∀ state event, Inv state → condition state event → rank (step state event) ≤ rank state)
    (hlowers : ∀ state event n, Inv state → condition state event → lowers n event →
      rank state ≤ n + 1 → rank (step state event) ≤ n)
    {state : State} (h : Inv state) {awaited events : List Event}
    (hsublist : awaited.Sublist events) (hdescends : Descends lowers awaited)
    (hmeets : Meets step condition state events) (hrank : rank state ≤ awaited.length) :
    rank (run step state events) = 0 := by
  induction hsublist generalizing state with
  | slnil => exact Nat.le_zero.mp hrank
  | cons event _ ih =>
      have hnext : rank (step state event) ≤ rank state := hle state event h hmeets.1
      exact ih (hkeep state event h hmeets.1) hdescends hmeets.2 (Nat.le_trans hnext hrank)
  | cons_cons event _ ih =>
      have hnext := hlowers state event _ h hmeets.1 hdescends.1 hrank
      exact ih (hkeep state event h hmeets.1) hdescends.2 hmeets.2 hnext

end EventRun
