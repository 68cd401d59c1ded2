import Mathlib.Data.List.Nodup

/-!
# Dispatch over a copy of a live collection

A dispatch copies a collection and calls its members in order. Calling one changes the
collection, so before each call it is asked whether the member is still there. A call that
fails ends the dispatch.
-/

namespace LiveDispatch

variable {σ α ε : Type*}

/-- What a dispatch leaves: the state, the members that it has called, and the failure
that has ended it. -/
structure Dispatched (σ α ε : Type*) where
  state : σ
  called : List α
  failure : Option ε

section Dispatch

variable (has : σ → α → Bool) (call : σ → α → Option ε × σ)

/-- Call the members of the copy that are still there at their turn. -/
def dispatch : σ → List α → Dispatched σ α ε
  | state, [] => ⟨state, [], none⟩
  | state, member :: copy =>
      if has state member then
        match call state member with
        | (some failure, next) => ⟨next, [member], some failure⟩
        | (none, next) =>
            let rest := dispatch next copy
            { rest with called := member :: rest.called }
      else dispatch state copy

variable {has call}

/-- Only members of the copy are called, in their order and each as often as it is there. -/
theorem called_sublist (state : σ) (copy : List α) :
    (dispatch has call state copy).called.Sublist copy := by
  induction copy generalizing state with
  | nil => exact List.Sublist.slnil
  | cons member copy ih =>
      rw [dispatch]
      split
      · split
        · exact (List.nil_sublist copy).cons_cons member
        · exact (ih _).cons_cons member
      · exact (ih state).cons member

/-- The turn of what stands behind a part of the copy comes when that part has been
dispatched without a failure. -/
theorem dispatch_append (state : σ) (before after : List α) :
    dispatch has call state (before ++ after) =
      let turn := dispatch has call state before
      match turn.failure with
      | some _ => turn
      | none =>
          let rest := dispatch has call turn.state after
          { rest with called := turn.called ++ rest.called } := by
  induction before generalizing state with
  | nil => rfl
  | cons member before ih =>
      rw [List.cons_append, dispatch, dispatch]
      split
      · split
        · rfl
        · rw [ih]
          simp only []
          split
          · rfl
          · rfl
      · exact ih state

/-- A dispatch that ends without a failure has had none in its first part. -/
theorem failure_of_append {state : σ} {before after : List α}
    (h : (dispatch has call state (before ++ after)).failure = none) :
    (dispatch has call state before).failure = none := by
  rw [dispatch_append] at h
  cases hfailure : (dispatch has call state before).failure with
  | none => rfl
  | some failure =>
      simp only [hfailure] at h
      cases h

/-- A member that occurs once in the copy is called exactly if its turn comes and it is
still there then. -/
theorem mem_called_iff {state : σ} {before after : List α} {member : α}
    (hnodup : (before ++ member :: after).Nodup) :
    member ∈ (dispatch has call state (before ++ member :: after)).called ↔
      (dispatch has call state before).failure = none ∧
        has (dispatch has call state before).state member = true := by
  have hsplit := List.nodup_append.mp hnodup
  have hbefore : member ∉ (dispatch has call state before).called := by
    intro hcalled
    exact hsplit.2.2 member ((called_sublist state before).subset hcalled) member
      List.mem_cons_self rfl
  have hafter (next : σ) : member ∉ (dispatch has call next after).called := by
    intro hcalled
    exact (List.nodup_cons.mp hsplit.2.1).1 ((called_sublist next after).subset hcalled)
  rw [dispatch_append]
  generalize dispatch has call state before = turn at hbefore ⊢
  obtain ⟨turnState, called, failure⟩ := turn
  cases failure with
  | some failure => exact iff_of_false hbefore fun h => by cases h.1
  | none =>
      simp only [List.mem_append, or_iff_right hbefore, true_and]
      rw [dispatch]
      split
      case isTrue hhas =>
          refine iff_of_true ?_ hhas
          split <;> exact List.mem_cons_self
      case isFalse hhas => exact iff_of_false (hafter turnState) hhas

/-- What every call preserves holds after the dispatch. -/
theorem invariant {P : σ → Prop} (hcall : ∀ state member, P state → P (call state member).2)
    {state : σ} (h : P state) (copy : List α) : P (dispatch has call state copy).state := by
  induction copy generalizing state with
  | nil => exact h
  | cons member copy ih =>
      rw [dispatch]
      split
      · have hnext := hcall state member h
        split
        · rename_i heq
          rw [heq] at hnext
          exact hnext
        · rename_i heq
          rw [heq] at hnext
          exact ih hnext
      · exact ih h

end Dispatch

end LiveDispatch
