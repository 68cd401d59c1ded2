import HLiquity.Library.EventRun

/-!
# Runs whose steps can fail

A step that can fail ends the run. A run whose steps all meet a condition
simulates a run of an abstract system whose steps never fail, if each of its
steps does: it has no failure, and its end is related to the abstract end.
-/

namespace FallibleRun

variable {State Event Failure : Type*} (step : State → Event → Except Failure State)

/-- The state after a list of events, or the first failure. -/
def run : State → List Event → Except Failure State
  | state, [] => .ok state
  | state, event :: events =>
      match step state event with
      | .error failure => .error failure
      | .ok next => run next events

/-- Every step of the run from a state meets the condition, up to a failure. -/
def Meets (condition : State → Event → Prop) : State → List Event → Prop
  | _, [] => True
  | state, event :: events =>
      condition state event ∧
        ∀ next, step state event = .ok next → Meets condition next events

theorem run_cons_of_ok {state next : State} {event : Event}
    (h : step state event = .ok next) (events : List Event) :
    run step state (event :: events) = run step next events := by
  rw [run, h]

/-- A condition on events alone is met wherever they happen. -/
theorem meets_of_forall {condition : Event → Prop} {events : List Event}
    (h : ∀ event ∈ events, condition event) (state : State) :
    Meets step (fun _ => condition) state events := by
  induction events generalizing state with
  | nil => trivial
  | cons event events ih =>
      constructor
      · exact h event List.mem_cons_self
      · exact fun next _ => ih (fun later hlater => h later (List.mem_cons_of_mem _ hlater)) next

/-- The induction rule of the ends of runs. -/
theorem run_invariant {condition : Event → Prop} {Inv : State → Prop}
    (hstep : ∀ state event next, Inv state → condition event → step state event = .ok next →
      Inv next)
    {state last : State} (h : Inv state) {events : List Event}
    (hevents : ∀ event ∈ events, condition event) (hrun : run step state events = .ok last) :
    Inv last := by
  induction events generalizing state with
  | nil =>
      cases hrun
      exact h
  | cons event events ih =>
      rw [run] at hrun
      split at hrun
      · cases hrun
      · next next hnext =>
          have hinv := hstep state event next h (hevents event List.mem_cons_self) hnext
          exact ih hinv (fun later hlater => hevents later (List.mem_cons_of_mem _ hlater)) hrun

/-- The simulation rule. -/
theorem run_simulates {Abstract Report : Type*} {condition : State → Event → Prop}
    {abstraction : State → Abstract} {report : Event → Report}
    {abstractStep : Abstract → Report → Abstract}
    (hstep : ∀ state event, condition state event → ∃ next, step state event = .ok next ∧
      abstraction next = abstractStep (abstraction state) (report event))
    {state : State} {events : List Event} (hmeets : Meets step condition state events) :
    ∃ last, run step state events = .ok last ∧
      abstraction last = EventRun.run abstractStep (abstraction state) (events.map report) := by
  induction events generalizing state with
  | nil => exact ⟨state, rfl, rfl⟩
  | cons event events ih =>
      obtain ⟨next, hnext, habstract⟩ := hstep state event hmeets.1
      obtain ⟨last, hlast, hend⟩ := ih (hmeets.2 next hnext)
      refine ⟨last, ?_, ?_⟩
      · rw [run_cons_of_ok step hnext, hlast]
      · rw [hend, habstract, List.map_cons, EventRun.run_cons]

end FallibleRun
