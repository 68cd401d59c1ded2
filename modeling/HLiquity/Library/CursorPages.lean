import Mathlib.Data.List.Nodup
import Mathlib.Order.Lattice

/-!
# Pages behind an inclusive cursor

Items in strictly falling order are read in pages. A page lists the first items at or before
its bound, and the page after it takes the last item of the page as its bound. The bound is
inclusive, so that item is listed again.
-/

namespace CursorPages

variable {α S Key : Type*} [LinearOrder Key] (key : α → Key) (items : List α)

/-- The items at or before a bound. -/
def upTo (bound : Key) : List α := items.filter fun a => decide (key a ≤ bound)

@[simp] theorem mem_upTo {bound : Key} {a : α} :
    a ∈ upTo key items bound ↔ a ∈ items ∧ key a ≤ bound := by
  simp [upTo]

theorem filter_upTo {lower upper : Key} (h : lower ≤ upper) :
    (upTo key items upper).filter (fun a => decide (key a ≤ lower)) = upTo key items lower := by
  rw [upTo, List.filter_filter]
  refine List.filter_congr fun a _ => ?_
  by_cases hlower : key a ≤ lower
  · simp [hlower, hlower.trans h]
  · simp [hlower]

variable (page : S → List α) (next : S → Option S)

/-- The pages from a place on, up to a page without a next one. -/
inductive Walk : S → List (List α) → Prop
  | last {place : S} (h : next place = none) : Walk place [page place]
  | more {place later : S} {pages : List (List α)} (h : next place = some later)
      (tail : Walk later pages) : Walk place (page place :: pages)

/-- The pages at the valid places list the items up to a bound, and a next page starts at
the last item of the page before it. -/
structure Inclusive (Valid : S → Prop) (bound : S → Key) : Prop where
  isPrefix : ∀ place, Valid place → page place <+: upTo key items (bound place)
  whole : ∀ place, Valid place → next place = none →
    page place = upTo key items (bound place)
  linked : ∀ place later, Valid place → next place = some later →
    Valid later ∧ ∃ item, (page place).getLast? = some item ∧ bound later = key item

variable {key items page next} {Valid : S → Prop} {bound : S → Key}

namespace Inclusive

/-- The item that a next page starts at is an item up to both bounds. -/
theorem boundary_mem (h : Inclusive key items page next Valid bound) {place later : S}
    (hplace : Valid place) (hnext : next place = some later) :
    ∃ item ∈ page place, bound later = key item ∧ item ∈ items ∧ key item ≤ bound place := by
  obtain ⟨-, item, hlast, hbound⟩ := h.linked place later hplace hnext
  have hmem : item ∈ page place := List.mem_of_getLast? hlast
  have hitem := (mem_upTo key items).mp ((h.isPrefix place hplace).subset hmem)
  exact ⟨item, hmem, hbound, hitem.1, hitem.2⟩

theorem bound_le (h : Inclusive key items page next Valid bound) {place later : S}
    (hplace : Valid place) (hnext : next place = some later) : bound later ≤ bound place := by
  obtain ⟨item, -, hbound, -, hle⟩ := h.boundary_mem hplace hnext
  exact hbound ▸ hle

/-- What a page leaves out is up to the bound of the next page. -/
theorem mem_or_mem_upTo (hsorted : items.Pairwise fun newer older => key older < key newer)
    (h : Inclusive key items page next Valid bound) {place later : S} (hplace : Valid place)
    (hnext : next place = some later) {a : α} (ha : a ∈ upTo key items (bound place)) :
    a ∈ page place ∨ a ∈ upTo key items (bound later) := by
  obtain ⟨-, item, hlast, hbound⟩ := h.linked place later hplace hnext
  obtain ⟨rest, hrest⟩ := h.isPrefix place hplace
  have hfalling : (upTo key items (bound place)).Pairwise
      fun newer older => key older < key newer := hsorted.filter _
  rw [← hrest] at ha hfalling
  rcases List.mem_append.mp ha with hpage | hlater
  · exact .inl hpage
  · have hlt : key a < key item :=
      (List.pairwise_append.mp hfalling).2.2 item (List.mem_of_getLast? hlast) a hlater
    have hitems : a ∈ items :=
      ((mem_upTo key items).mp (hrest ▸ List.mem_append_right _ hlater)).1
    exact .inr ((mem_upTo key items).mpr ⟨hitems, hbound ▸ hlt.le⟩)

/-- No item up to the bound is missing from the pages. -/
theorem walk_covers (hsorted : items.Pairwise fun newer older => key older < key newer)
    (h : Inclusive key items page next Valid bound) {place : S} {pages : List (List α)}
    (hwalk : Walk page next place pages) (hplace : Valid place) :
    ∀ a ∈ upTo key items (bound place), a ∈ pages.flatten := by
  induction hwalk with
  | @last place hnext =>
      intro a ha
      simpa [h.whole place hplace hnext] using ha
  | @more place later pages hnext tail ih =>
      intro a ha
      rw [List.flatten_cons, List.mem_append]
      exact (h.mem_or_mem_upTo hsorted hplace hnext ha).imp_right
        (ih (h.linked place later hplace hnext).1 a)

/-- The pages list only items up to the bound. -/
theorem walk_only (h : Inclusive key items page next Valid bound) {place : S}
    {pages : List (List α)} (hwalk : Walk page next place pages) (hplace : Valid place) :
    ∀ a ∈ pages.flatten, a ∈ upTo key items (bound place) := by
  induction hwalk with
  | @last place hnext =>
      intro a ha
      rwa [List.flatten_singleton, h.whole place hplace hnext] at ha
  | @more place later pages hnext tail ih =>
      intro a ha
      rw [List.flatten_cons, List.mem_append] at ha
      rcases ha with hpage | hlater
      · exact (h.isPrefix place hplace).subset hpage
      · have hmem := (mem_upTo key items).mp
          (ih (h.linked place later hplace hnext).1 a hlater)
        exact (mem_upTo key items).mpr ⟨hmem.1, hmem.2.trans (h.bound_le hplace hnext)⟩

/-- If a page with a next one lists two items, fewer items are up to the next bound. -/
theorem length_upTo_lt (hsorted : items.Pairwise fun newer older => key older < key newer)
    (h : Inclusive key items page next Valid bound) {place later : S} (hplace : Valid place)
    (hnext : next place = some later) (htwo : 2 ≤ (page place).length) :
    (upTo key items (bound later)).length < (upTo key items (bound place)).length := by
  obtain ⟨-, item, hlast, hbound⟩ := h.linked place later hplace hnext
  rw [← filter_upTo key items (h.bound_le hplace hnext), List.length_filter_lt_length_iff_exists]
  have hfalling : (page place).Pairwise fun newer older => key older < key newer :=
    (hsorted.filter _).sublist (h.isPrefix place hplace).sublist
  match hpage : page place, htwo with
  | first :: second :: more, _ =>
      rw [hpage] at hlast hfalling
      have hfirst : first ∈ upTo key items (bound place) :=
        (h.isPrefix place hplace).subset (hpage ▸ List.mem_cons_self)
      have hitem : item ∈ second :: more := by
        rw [List.getLast?_cons_cons] at hlast
        exact List.mem_of_getLast? hlast
      have hlt : key item < key first := (List.pairwise_cons.mp hfalling).1 item hitem
      exact ⟨first, hfirst, by simpa [hbound] using hlt⟩

/-- The pages end if every page before another one lists two items or more. -/
theorem exists_walk (hsorted : items.Pairwise fun newer older => key older < key newer)
    (h : Inclusive key items page next Valid bound)
    (htwo : ∀ place later, Valid place → next place = some later → 2 ≤ (page place).length)
    (place : S) (hplace : Valid place) : ∃ pages, Walk page next place pages := by
  -- on the number of items up to the bound: the first of two items on a page is not up to
  -- the bound of the next page
  induction hn : (upTo key items (bound place)).length using Nat.strongRecOn
    generalizing place with
  | _ n ih =>
      cases hnext : next place with
      | none => exact ⟨_, .last hnext⟩
      | some later =>
          have hlater := (h.linked place later hplace hnext).1
          have hshorter : (upTo key items (bound later)).length < n :=
            hn ▸ h.length_upTo_lt hsorted hplace hnext (htwo place later hplace hnext)
          obtain ⟨pages, hwalk⟩ := ih _ hshorter later hlater rfl
          exact ⟨_, .more hnext hwalk⟩

/-- A page lists something if an item is up to its bound. -/
theorem page_ne_nil (h : Inclusive key items page next Valid bound) {place : S}
    (hplace : Valid place) {a : α} (ha : a ∈ upTo key items (bound place)) :
    page place ≠ [] := by
  intro hnil
  cases hnext : next place with
  | none =>
      rw [← h.whole place hplace hnext, hnil] at ha
      exact List.not_mem_nil ha
  | some later =>
      obtain ⟨-, item, hlast, -⟩ := h.linked place later hplace hnext
      rw [hnil] at hlast
      cases hlast

/-- The item that a page ends with is listed again by the next page. -/
theorem boundary_again (hsorted : items.Pairwise fun newer older => key older < key newer)
    (h : Inclusive key items page next Valid bound) {place later : S} (hplace : Valid place)
    (hnext : next place = some later) : ∃ item ∈ page place, item ∈ page later := by
  obtain ⟨item, hpage, hbound, hitem, -⟩ := h.boundary_mem hplace hnext
  have hlater := (h.linked place later hplace hnext).1
  have hup : item ∈ upTo key items (bound later) :=
    (mem_upTo key items).mpr ⟨hitem, hbound.ge⟩
  refine ⟨item, hpage, ?_⟩
  obtain ⟨rest, hrest⟩ := h.isPrefix later hlater
  obtain ⟨first, more, hfirst⟩ := List.exists_cons_of_ne_nil (h.page_ne_nil hlater hup)
  -- the newest item up to the next bound is the one at it
  have hfalling : (first :: (more ++ rest)).Pairwise
      fun newer older => key older < key newer := by
    rw [← List.cons_append, ← hfirst, hrest]
    exact hsorted.filter _
  have hfirstUp : key first ≤ key item := by
    have hmem : first ∈ upTo key items (bound later) := by
      rw [← hrest, hfirst]
      exact List.mem_cons_self
    exact hbound ▸ ((mem_upTo key items).mp hmem).2
  rw [← hrest, hfirst, List.cons_append] at hup
  rcases List.mem_cons.mp hup with heq | hmore
  · exact hfirst ▸ heq ▸ List.mem_cons_self
  · exact absurd ((List.pairwise_cons.mp hfalling).1 item hmore) hfirstUp.not_gt

variable [DecidableEq α]

/-- A walk over two pages or more lists an item twice. -/
theorem exists_two_le_count (hsorted : items.Pairwise fun newer older => key older < key newer)
    (h : Inclusive key items page next Valid bound) {place later : S}
    {pages : List (List α)} (hplace : Valid place) (hnext : next place = some later)
    (hwalk : Walk page next place pages) :
    ∃ item ∈ upTo key items (bound place), 2 ≤ pages.flatten.count item := by
  obtain ⟨item, hpage, hlater⟩ := h.boundary_again hsorted hplace hnext
  refine ⟨item, (h.isPrefix place hplace).subset hpage, ?_⟩
  cases hwalk with
  | last hnone => rw [hnext] at hnone; cases hnone
  | more hsome tail =>
      obtain rfl : later = _ := Option.some.inj (hnext.symm.trans hsome)
      have hfirst : 1 ≤ (page place).count item := List.count_pos_iff.mpr hpage
      rw [List.flatten_cons, List.count_append]
      cases tail with
      | last _ =>
          have := List.count_pos_iff.mpr hlater
          rw [List.flatten_singleton]
          omega
      | more _ _ =>
          have := List.count_pos_iff.mpr hlater
          rw [List.flatten_cons, List.count_append]
          omega

/-- The pages from a place end, and list each item up to its bound exactly once, only if the
place has no next page. -/
theorem once_iff (hsorted : items.Pairwise fun newer older => key older < key newer)
    (h : Inclusive key items page next Valid bound) {place : S} (hplace : Valid place) :
    ((∃ pages, Walk page next place pages) ∧ ∀ pages, Walk page next place pages →
      ∀ a ∈ upTo key items (bound place), pages.flatten.count a = 1) ↔ next place = none := by
  constructor
  · rintro ⟨⟨pages, hwalk⟩, honce⟩
    cases hnext : next place with
    | none => rfl
    | some later =>
        obtain ⟨item, hitem, htwice⟩ := h.exists_two_le_count hsorted hplace hnext hwalk
        rw [honce pages hwalk item hitem] at htwice
        omega
  · intro hnext
    refine ⟨⟨_, .last hnext⟩, ?_⟩
    intro pages hwalk a ha
    cases hwalk with
    | more hsome _ => rw [hnext] at hsome; cases hsome
    | last _ =>
        have hnodup : (upTo key items (bound place)).Nodup :=
          (hsorted.filter _).imp fun hlt heq => hlt.ne (congrArg key heq.symm)
        rw [List.flatten_singleton, h.whole place hplace hnext]
        exact List.count_eq_one_of_mem hnodup ha

end Inclusive

end CursorPages
