import Mathlib.Data.List.Flatten
import Mathlib.Data.List.Sort
import Mathlib.Order.Defs.LinearOrder

/-!
# The newest of several results

Things have times, and of a list the first thing of the latest time is wanted. A stable sort
by descending time puts it in front. Of a list that is put together from parts it is found
part by part, in each of which only the newest matters, and a search that goes back in time
may stop as soon as it finds something.
-/

namespace NewestFirst

variable {α β τ : Type*} [LinearOrder τ]

section Newest

variable (time : α → τ)

/-- The newer of two results, the first one if they are equally new. -/
def newer : Option α → Option α → Option α
  | none, second => second
  | some first, none => some first
  | some first, some second => if time second ≤ time first then some first else some second

/-- The first of those things of a list that have the latest time. -/
def newest : List α → Option α
  | [] => none
  | a :: rest => newer time (some a) (newest rest)

@[simp] theorem newest_nil : newest time ([] : List α) = none := rfl

theorem newest_cons (a : α) (rest : List α) :
    newest time (a :: rest) = newer time (some a) (newest time rest) := rfl

@[simp] theorem newer_none (first : Option α) : newer time first none = first := by
  cases first <;> rfl

theorem newer_assoc (first second third : Option α) :
    newer time (newer time first second) third =
      newer time first (newer time second third) := by
  cases first with
  | none => rfl
  | some a =>
      cases second with
      | none => rfl
      | some b =>
          cases third with
          | none => rw [newer_none, newer_none]
          | some c =>
              by_cases hba : time b ≤ time a
              · by_cases hcb : time c ≤ time b
                · simp [newer, hba, hcb, hcb.trans hba]
                · simp [newer, hba, hcb]
              · have hab : time a < time b := not_le.mp hba
                by_cases hcb : time c ≤ time b
                · simp [newer, hba, hcb]
                · have hca : ¬ time c ≤ time a :=
                    not_le.mpr (hab.trans (not_le.mp hcb))
                  simp [newer, hba, hcb, hca]

/-- Of two lists the newest is the newer of both. -/
theorem newest_append (l m : List α) :
    newest time (l ++ m) = newer time (newest time l) (newest time m) := by
  induction l with
  | nil => rfl
  | cons a l ih => rw [List.cons_append, newest_cons, newest_cons, ih, newer_assoc]

theorem newest_eq_none_iff {l : List α} : newest time l = none ↔ l = [] := by
  cases l with
  | nil => simp
  | cons a l =>
      rw [newest_cons]
      cases newest time l with
      | none => simp
      | some b =>
          simp only [newer]
          split <;> simp

/-- The newest is in the list, and nothing there is newer. -/
theorem newest_spec {l : List α} {a : α} (h : newest time l = some a) :
    a ∈ l ∧ ∀ b ∈ l, time b ≤ time a := by
  induction l generalizing a with
  | nil => cases h
  | cons first l ih =>
      rw [newest_cons] at h
      cases hrest : newest time l with
      | none =>
          rw [hrest, newer_none] at h
          cases h
          rw [newest_eq_none_iff] at hrest
          simp [hrest]
      | some b =>
          obtain ⟨hmem, hle⟩ := ih hrest
          simp only [hrest, newer] at h
          split at h
          · rename_i hfirst
            cases h
            refine ⟨List.mem_cons_self, ?_⟩
            rw [List.forall_mem_cons]
            exact ⟨le_rfl, fun c hc => (hle c hc).trans hfirst⟩
          · rename_i hfirst
            cases h
            refine ⟨List.mem_cons_of_mem _ hmem, ?_⟩
            rw [List.forall_mem_cons]
            exact ⟨(not_le.mp hfirst).le, hle⟩

/-- What is newer than all before it and at least as new as all behind it is the newest. -/
theorem newest_of_split {before after : List α} {a : α}
    (hbefore : ∀ b ∈ before, time b < time a) (hafter : ∀ b ∈ after, time b ≤ time a) :
    newest time (before ++ a :: after) = some a := by
  have hrest : newest time (a :: after) = some a := by
    rw [newest_cons]
    cases hnewest : newest time after with
    | none => rfl
    | some b => exact if_pos (hafter b (newest_spec time hnewest).1)
  rw [newest_append, hrest]
  cases hnewest : newest time before with
  | none => rfl
  | some b => exact if_neg (not_le.mpr (hbefore b (newest_spec time hnewest).1))

/-- In a list with the newest first, the newest is in front. -/
theorem newest_of_pairwise {l : List α} (h : l.Pairwise fun a b => time b ≤ time a) :
    newest time l = l.head? := by
  cases l with
  | nil => rfl
  | cons a l =>
      have hbefore : ∀ b ∈ ([] : List α), time b < time a := fun _ hb => absurd hb List.not_mem_nil
      exact newest_of_split time hbefore fun b hb => List.rel_of_pairwise_cons h hb

/-- A part in front of a list with the newest first has the same newest. -/
theorem newest_take {l : List α} (h : l.Pairwise fun a b => time b ≤ time a) (n : Nat) :
    newest time (l.take (n + 1)) = newest time l := by
  rw [newest_of_pairwise time h, newest_of_pairwise time (h.sublist (List.take_sublist _ _)),
    List.head?_take, if_neg (Nat.succ_ne_zero n)]

/-- The newest is found through any map that keeps the times. -/
theorem newest_map (g : β → α) (l : List β) :
    newest time (l.map g) = (newest (fun b => time (g b)) l).map g := by
  induction l with
  | nil => rfl
  | cons b l ih =>
      rw [List.map_cons, newest_cons, newest_cons, ih]
      cases newest (fun b => time (g b)) l with
      | none => rfl
      | some c =>
          simp only [Option.map_some, newer]
          split <;> rfl

/-- A stable sort by descending time puts the newest in front. -/
theorem head?_mergeSort (l : List α) :
    (l.mergeSort fun a b => decide (time b ≤ time a)).head? = newest time l := by
  have htrans (a b c : α) (hab : decide (time b ≤ time a) = true)
      (hbc : decide (time c ≤ time b) = true) : decide (time c ≤ time a) = true := by
    rw [decide_eq_true_iff] at hab hbc ⊢
    exact hbc.trans hab
  have htotal (a b : α) : (decide (time b ≤ time a) || decide (time a ≤ time b)) = true := by
    rw [Bool.or_eq_true, decide_eq_true_iff, decide_eq_true_iff]
    exact le_total _ _
  induction l with
  | nil => simp
  | cons a l ih =>
      obtain ⟨before, after, hsorted, hrest, hbefore⟩ := List.mergeSort_cons htrans htotal a l
      rw [newest_cons, ← ih, hsorted, hrest]
      cases before with
      | nil =>
          have hpairwise := List.pairwise_mergeSort htrans htotal (a :: l)
          rw [hsorted] at hpairwise
          cases after with
          | nil => rfl
          | cons b after =>
              have hle := List.rel_of_pairwise_cons hpairwise (List.mem_cons_self (a := b))
              exact (if_pos (of_decide_eq_true hle)).symm
      | cons b before =>
          have hlt := hbefore b List.mem_cons_self
          rw [Bool.not_eq_true', decide_eq_false_iff_not] at hlt
          exact (if_neg hlt).symm

/-- Of each part only the newest matters. -/
theorem newest_flatMap_congr {parts : List β} {f g : β → List α}
    (h : ∀ part ∈ parts, newest time (f part) = newest time (g part)) :
    newest time (parts.flatMap f) = newest time (parts.flatMap g) := by
  induction parts with
  | nil => rfl
  | cons part parts ih =>
      rw [List.forall_mem_cons] at h
      rw [List.flatMap_cons, List.flatMap_cons, newest_append, newest_append, h.1, ih h.2]

/-- If the first parts have a thing that is as new as the newest, the newest is in them. -/
theorem mem_left_of_newest {l m : List α} {a b : α} (h : newest time (l ++ m) = some a)
    (hb : b ∈ l) (hle : time a ≤ time b) : a ∈ l := by
  rw [newest_append] at h
  cases hleft : newest time l with
  | none =>
      rw [newest_eq_none_iff] at hleft
      rw [hleft] at hb
      cases hb
  | some c =>
      obtain ⟨hmem, hnewest⟩ := newest_spec time hleft
      cases hright : newest time m with
      | none =>
          rw [hleft, hright, newer_none] at h
          cases h
          exact hmem
      | some d =>
          rw [hleft, hright] at h
          simp only [newer] at h
          split at h
          · cases h
            exact hmem
          · rename_i hnewer
            cases h
            exact absurd (hle.trans (hnewest b hb)) hnewer

/-- A search among later things decides, and only if there is none the search among earlier
ones. -/
theorem newest_filter_or {p late early : α → Bool} {l : List α}
    (hp : ∀ a ∈ l, p a = (late a || early a))
    (hlt : ∀ a ∈ l, ∀ b ∈ l, late a = true → early b = true → time b < time a) :
    newest time (l.filter p) =
      (newest time (l.filter late)).or (newest time (l.filter early)) := by
  induction l with
  | nil => rfl
  | cons a l ih =>
      rw [List.forall_mem_cons] at hp
      have hrest := ih hp.2 fun b hb c hc =>
        hlt b (List.mem_cons_of_mem a hb) c (List.mem_cons_of_mem a hc)
      cases hlate : late a with
      | true =>
          have hearly : early a = false := by
            rw [Bool.eq_false_iff]
            intro hearly
            exact lt_irrefl _ (hlt a List.mem_cons_self a List.mem_cons_self hlate hearly)
          have hpa : p a = true := by rw [hp.1, hlate, Bool.true_or]
          rw [List.filter_cons_of_pos hpa, List.filter_cons_of_pos hlate,
            List.filter_cons_of_neg (Bool.eq_false_iff.mp hearly), newest_cons, newest_cons, hrest]
          cases newest time (l.filter late) with
          | none =>
              cases hfound : newest time (l.filter early) with
              | none => rfl
              | some c =>
                  obtain ⟨hc, hcearly⟩ := List.mem_filter.mp (newest_spec time hfound).1
                  exact if_pos
                    (hlt a List.mem_cons_self c (List.mem_cons_of_mem a hc) hlate hcearly).le
          | some b =>
              simp only [Option.some_or, newer]
              split <;> rfl
      | false =>
          rw [List.filter_cons_of_neg (Bool.eq_false_iff.mp hlate)]
          cases hearly : early a with
          | true =>
              have hpa : p a = true := by rw [hp.1, hearly, Bool.or_true]
              rw [List.filter_cons_of_pos hpa, List.filter_cons_of_pos hearly, newest_cons,
                newest_cons, hrest]
              cases hfound : newest time (l.filter late) with
              | none => rw [Option.none_or, Option.none_or]
              | some b =>
                  obtain ⟨hb, hblate⟩ := List.mem_filter.mp (newest_spec time hfound).1
                  exact if_neg (not_le.mpr
                    (hlt b (List.mem_cons_of_mem a hb) a List.mem_cons_self hblate hearly))
          | false =>
              have hpa : ¬ p a = true := by rw [hp.1, hlate, hearly]; simp
              rw [List.filter_cons_of_neg hpa,
                List.filter_cons_of_neg (Bool.eq_false_iff.mp hearly), hrest]

end Newest

end NewestFirst
