import Mathlib.Data.List.Basic
import Mathlib.Data.Option.Basic

/-!
# Polling with a kept value

A loop polls until what it holds satisfies a test. An attempt that reads nothing leaves
the value of the last one that did, and before the first one an initial value, so the
test can pass on a value that was never read.
-/

namespace Polling

variable {A V : Type*} (read : A → Option V) (done : V → Bool)

/-- Poll the attempts in order from a held value. The result is the value on which the
test passes with the attempts that are not needed any more; there is none while the loop
still waits. -/
def poll : V → List A → Option (V × List A)
  | _, [] => none
  | current, attempt :: later =>
      let next := (read attempt).getD current
      if done next then some (next, later) else poll next later

/-- The value that the last successful attempt has read. -/
def latestRead (used : List A) : Option V := (used.filterMap read).getLast?

@[simp] theorem latestRead_nil : latestRead read [] = none := rfl

theorem latestRead_cons (attempt : A) (later : List A) :
    latestRead read (attempt :: later) = (latestRead read later).or (read attempt) := by
  rw [latestRead, latestRead]
  cases hread : read attempt with
  | none => simp [hread]
  | some value =>
      rw [List.filterMap_cons_some hread]
      cases hlater : later.filterMap read with
      | nil => rfl
      | cons next rest => rw [List.getLast?_cons_cons, List.getLast?_cons]; rfl

variable {read done}

/-- A poll ends with the test passed on the value it returns. -/
theorem done_of_poll {current value : V} {attempts unused : List A}
    (h : poll read done current attempts = some (value, unused)) : done value = true := by
  induction attempts generalizing current with
  | nil => cases h
  | cons attempt later ih =>
      rw [poll] at h
      split at h
      · cases h
        assumption
      · exact ih h

/-- From a value on which the test fails, the returned value is the latest one read. -/
theorem latestRead_of_poll {current value : V} {attempts unused : List A}
    (hcurrent : done current = false)
    (h : poll read done current attempts = some (value, unused)) :
    ∃ used, attempts = used ++ unused ∧ latestRead read used = some value := by
  induction attempts generalizing current with
  | nil => cases h
  | cons attempt later ih =>
      rw [poll] at h
      split at h
      case isTrue hdone =>
          cases h
          refine ⟨[attempt], rfl, ?_⟩
          rw [latestRead_cons, latestRead_nil, Option.none_or]
          cases hread : read attempt with
          | none =>
              rw [hread, Option.getD_none, hcurrent] at hdone
              cases hdone
          | some next => rfl
      case isFalse hnext =>
          obtain ⟨used, hused, hlatest⟩ := ih (Bool.eq_false_iff.mpr hnext) h
          refine ⟨attempt :: used, by rw [hused, List.cons_append], ?_⟩
          rw [latestRead_cons, hlatest, Option.some_or]

/-- Whatever a poll returns has been read, for all numbers of attempts, exactly if the test
fails on the initial value or the first attempt reads something. -/
theorem poll_read_iff (initial : V) (attempts : List A) :
    (∀ value unused, poll read done initial attempts = some (value, unused) →
      ∃ used, attempts = used ++ unused ∧ latestRead read used = some value) ↔
      done initial = false ∨ ∀ attempt ∈ attempts.head?, (read attempt).isSome := by
  constructor
  · intro h
    by_contra hnot
    rw [not_or, Bool.not_eq_false] at hnot
    obtain ⟨hdone, hfirst⟩ := hnot
    cases attempts with
    | nil => simp at hfirst
    | cons attempt later =>
        have hread : read attempt = none := by simpa using hfirst
        have hpoll : poll read done initial (attempt :: later) = some (initial, later) := by
          rw [poll, hread, Option.getD_none, if_pos hdone]
        obtain ⟨used, hused, hlatest⟩ := h initial later hpoll
        have hone : [attempt] = used := (List.append_left_inj later).mp hused
        rw [← hone, latestRead_cons, latestRead_nil, hread] at hlatest
        cases hlatest
  · rintro (hinitial | hfirst) value unused hpoll
    · exact latestRead_of_poll hinitial hpoll
    · cases attempts with
      | nil => cases hpoll
      | cons attempt later =>
          obtain ⟨first, hread⟩ := Option.isSome_iff_exists.mp (hfirst attempt rfl)
          rw [poll, hread, Option.getD_some] at hpoll
          split at hpoll
          case isTrue hdone =>
              cases hpoll
              refine ⟨[attempt], rfl, ?_⟩
              rw [latestRead_cons, latestRead_nil, hread]
              rfl
          case isFalse hnext =>
              obtain ⟨used, hused, hlatest⟩ :=
                latestRead_of_poll (Bool.eq_false_iff.mpr hnext) hpoll
              refine ⟨attempt :: used, by rw [hused, List.cons_append], ?_⟩
              rw [latestRead_cons, hlatest, Option.some_or]

end Polling
