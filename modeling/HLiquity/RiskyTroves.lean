import HLiquity.Chain
import HLiquity.Library.EffectSlot
import HLiquity.Library.EventRun
import HLiquity.StoreState
import Mathlib.Data.PNat.Defs

/-!
# The pages of risky troves

One component shows one page of the troves with the lowest collateral ratios. Every render
computes the page that is there, an effect requests it when it changes, and the answer to a
request that a later render has cleaned up is not shown. Another effect requests the page again
when the number of troves changes.
-/

namespace HLiquity

/-- The values of a render. Clients and reloads are told apart by numbers. -/
structure RiskyTrovesRender where
  liquity : Nat
  pageSize : ℕ+
  numberOfTroves : Nat
  page : Nat
  reload : Nat
  deriving DecidableEq

namespace RiskyTrovesRender

/-- `Math.ceil(numberOfTroves / pageSize) || 1` -/
def numberOfPages (rendered : RiskyTrovesRender) : Nat :=
  let pages := (rendered.numberOfTroves + rendered.pageSize - 1) / rendered.pageSize
  if pages = 0 then 1 else pages

def clampedPage (rendered : RiskyTrovesRender) : Nat :=
  min rendered.page (rendered.numberOfPages - 1)

end RiskyTrovesRender

/-- What a request depends on. -/
structure RiskyTrovesListing where
  liquity : Nat
  clampedPage : Nat
  pageSize : ℕ+
  reload : Nat
  deriving DecidableEq

def RiskyTrovesRender.listing (rendered : RiskyTrovesRender) : RiskyTrovesListing :=
  ⟨rendered.liquity, rendered.clampedPage, rendered.pageSize, rendered.reload⟩

/-- The parameters of a request. -/
def RiskyTrovesListing.params (listing : RiskyTrovesListing) : TroveListingParams :=
  ⟨listing.pageSize, .ascendingCollateralRatio, some (listing.clampedPage * listing.pageSize)⟩

/-- What has become of a request. -/
inductive TrovesAnswer (α : Type) where
  | pending
  | troves (troves : List α)
  | rejected
  deriving DecidableEq

structure TrovesRequest (α : Type) where
  listing : RiskyTrovesListing
  mounted : Bool
  answer : TrovesAnswer α
  deriving DecidableEq

/-- A request whose answer will be shown. -/
def TrovesRequest.live {α : Type} (request : TrovesRequest α) : Bool :=
  request.mounted && match request.answer with
    | .pending => true
    | _ => false

/-- The state of the component, the values of its last render, and its requests. -/
structure RiskyTroves (α : Type) where
  page : Nat
  reload : Nat
  loading : Bool
  troves : Option (List α)
  rendered : Option RiskyTrovesRender
  requests : EffectSlot.Slot (TrovesRequest α)
  deriving DecidableEq

/-- A render with some client, page size and number of troves, a press of one of the buttons, or
the end of a request. -/
inductive RiskyTrovesEvent (α : Type) where
  | render (liquity : Nat) (pageSize : ℕ+) (numberOfTroves : Nat)
  | nextPage
  | previousPage
  | forceReload
  | answer (number : Nat) (troves : List α)
  | reject (number : Nat)
  deriving DecidableEq

namespace RiskyTroves

open EffectSlot

variable {α : Type}

def initial : RiskyTroves α := ⟨0, 0, true, none, none, .empty⟩

/-- The handler of the last render. -/
def nextPage (this : RiskyTroves α) : RiskyTroves α :=
  match this.rendered with
  | none => this
  | some rendered =>
      if rendered.clampedPage < rendered.numberOfPages - 1 then
        { this with page := rendered.clampedPage + 1 }
      else this

/-- The handler of the last render. -/
def previousPage (this : RiskyTroves α) : RiskyTroves α :=
  match this.rendered with
  | none => this
  | some rendered =>
      if 0 < rendered.clampedPage then { this with page := rendered.clampedPage - 1 } else this

def forceReload (this : RiskyTroves α) : RiskyTroves α := { this with reload := this.reload + 1 }

/-- The clean-up of the request. -/
def cleanUpRequest (this : RiskyTroves α) : RiskyTroves α :=
  match this.requests.current with
  | none => this
  | some number =>
      match this.requests.instances[number]? with
      | none => this
      | some request =>
          { this with
            requests := this.requests.cleanUp number { request with mounted := false } }

def startRequest (this : RiskyTroves α) (listing : RiskyTrovesListing) : RiskyTroves α :=
  { this with
    loading := true
    requests := this.requests.start ⟨listing, true, .pending⟩ }

/-- The effect that keeps the page within the pages. -/
def clampPage (this : RiskyTroves α) (next : RiskyTrovesRender) : RiskyTroves α :=
  if next.page = next.clampedPage then this else { this with page := next.clampedPage }

/-- The values of the next render. -/
def nextRender (this : RiskyTroves α) (liquity : Nat) (pageSize : ℕ+) (numberOfTroves : Nat) :
    RiskyTrovesRender :=
  ⟨liquity, pageSize, numberOfTroves, this.page, this.reload⟩

/-- A render changes what the request depends on. -/
def listingChanged (this : RiskyTroves α) (next : RiskyTrovesRender) : Bool :=
  this.rendered.map RiskyTrovesRender.listing != some next.listing

/-- A render changes the number of troves. -/
def numberChanged (this : RiskyTroves α) (next : RiskyTrovesRender) : Bool :=
  this.rendered.map RiskyTrovesRender.numberOfTroves != some next.numberOfTroves

/-- A render and its effects. The effect that clamps the page does nothing where its
dependencies have not changed, so that it may always run. -/
def render (this : RiskyTroves α) (liquity : Nat) (pageSize : ℕ+) (numberOfTroves : Nat) :
    RiskyTroves α :=
  let next := this.nextRender liquity pageSize numberOfTroves
  let cleaned := if this.listingChanged next then this.cleanUpRequest else this
  let clamped := cleaned.clampPage next
  let requested := if this.listingChanged next then clamped.startRequest next.listing else clamped
  let reloaded := if this.numberChanged next then requested.forceReload else requested
  { reloaded with rendered := some next }

/-- The answer to a request. -/
def answer (this : RiskyTroves α) (number : Nat) (troves : List α) : RiskyTroves α :=
  match this.requests.instances[number]? with
  | some ⟨listing, mounted, .pending⟩ =>
      let answered :=
        { this with requests := this.requests.put number ⟨listing, mounted, .troves troves⟩ }
      if mounted then { answered with troves := some troves, loading := false } else answered
  | _ => this

/-- A request that fails is not reported. -/
def reject (this : RiskyTroves α) (number : Nat) : RiskyTroves α :=
  match this.requests.instances[number]? with
  | some ⟨listing, mounted, .pending⟩ =>
      { this with requests := this.requests.put number ⟨listing, mounted, .rejected⟩ }
  | _ => this

def step (this : RiskyTroves α) : RiskyTrovesEvent α → RiskyTroves α
  | .render liquity pageSize numberOfTroves => this.render liquity pageSize numberOfTroves
  | .nextPage => this.nextPage
  | .previousPage => this.previousPage
  | .forceReload => this.forceReload
  | .answer number troves => this.answer number troves
  | .reject number => this.reject number

theorem cleanUpRequest_eq (this : RiskyTroves α) :
    this.cleanUpRequest = { this with requests := this.cleanUpRequest.requests } := by
  unfold cleanUpRequest
  split
  · rfl
  · split
    · rfl
    · rfl

/-- The effect leaves the page that the render has computed. -/
theorem clampPage_eq (this : RiskyTroves α) {next : RiskyTrovesRender}
    (h : this.page = next.page) : this.clampPage next = { this with page := next.clampedPage } := by
  unfold clampPage
  split
  · next heq => rw [← heq, ← h]
  · rfl

section Renders

variable (this : RiskyTroves α) (liquity : Nat) (pageSize : ℕ+) (numberOfTroves : Nat)

/-- The whole effect of a render. -/
theorem render_eq :
    let next := this.nextRender liquity pageSize numberOfTroves
    this.render liquity pageSize numberOfTroves =
      { page := next.clampedPage
        reload := if this.numberChanged next then this.reload + 1 else this.reload
        loading := this.listingChanged next || this.loading
        troves := this.troves
        rendered := some next
        requests :=
          if this.listingChanged next then
            this.cleanUpRequest.requests.start ⟨next.listing, true, .pending⟩
          else this.requests } := by
  intro next
  have hclamped : (if this.listingChanged next then this.cleanUpRequest else this).clampPage next =
      { (if this.listingChanged next then this.cleanUpRequest else this) with
        page := next.clampedPage } := by
    apply clampPage_eq
    split
    · rw [cleanUpRequest_eq]
      rfl
    · rfl
  unfold render
  dsimp only
  rw [show this.nextRender liquity pageSize numberOfTroves = next from rfl, hclamped]
  cases this.listingChanged next with
  | true =>
      rw [cleanUpRequest_eq]
      cases this.numberChanged next with
      | true => rfl
      | false => rfl
  | false =>
      cases this.numberChanged next with
      | true => rfl
      | false => rfl

/-- A render whose values are those of the last one does nothing. -/
theorem render_again
    (h : this.rendered = some (this.nextRender liquity pageSize numberOfTroves))
    (hpage : this.page ≤ (this.nextRender liquity pageSize numberOfTroves).numberOfPages - 1) :
    this.render liquity pageSize numberOfTroves = this := by
  have hlisting : this.listingChanged (this.nextRender liquity pageSize numberOfTroves) =
      false := by
    rw [listingChanged, h]
    exact bne_self_eq_false _
  have hnumber : this.numberChanged (this.nextRender liquity pageSize numberOfTroves) = false := by
    rw [numberChanged, h]
    exact bne_self_eq_false _
  have hclamped : (this.nextRender liquity pageSize numberOfTroves).clampedPage = this.page :=
    min_eq_left hpage
  rw [render_eq, hlisting, hnumber, hclamped, ← h]
  rfl

/-- The effects of renders come to an end: with the same client, page size and number of troves
a third render finds nothing to do. -/
theorem render_settles :
    let settled := (this.render liquity pageSize numberOfTroves).render liquity pageSize
      numberOfTroves
    settled.render liquity pageSize numberOfTroves = settled := by
  set first := this.render liquity pageSize numberOfTroves with hfirst
  intro settled
  have hrendered : first.rendered = some (this.nextRender liquity pageSize numberOfTroves) := by
    rw [hfirst, render_eq]
  have hpage : first.page = (this.nextRender liquity pageSize numberOfTroves).clampedPage := by
    rw [hfirst, render_eq]
  have hinside : first.page ≤
      (first.nextRender liquity pageSize numberOfTroves).numberOfPages - 1 := by
    rw [hpage]
    exact min_le_right _ _
  -- the second render requests at most the page anew
  have hsettled : settled.rendered = some (first.nextRender liquity pageSize numberOfTroves) ∧
      settled.page = first.page ∧ settled.reload = first.reload := by
    have hnumber : first.numberChanged (first.nextRender liquity pageSize numberOfTroves) =
        false := by
      rw [numberChanged, hrendered]
      exact bne_self_eq_false _
    have hclamped : (first.nextRender liquity pageSize numberOfTroves).clampedPage = first.page :=
      min_eq_left hinside
    rw [show settled = first.render liquity pageSize numberOfTroves from rfl, render_eq, hnumber,
      hclamped]
    exact ⟨rfl, rfl, rfl⟩
  obtain ⟨hnext, hsame, hreload⟩ := hsettled
  apply render_again
  · rw [hnext, nextRender, nextRender, hsame, hreload]
  · rw [hsame]
    exact hinside

end Renders

/-- The request of the last render is the current one, and what is shown is its answer unless
it is loading. -/
structure Attends (this : RiskyTroves α) : Prop where
  requests : this.requests.Good TrovesRequest.live
  requested : this.requests.running.map TrovesRequest.listing =
    this.rendered.map RiskyTrovesRender.listing
  mounted : ∀ request ∈ this.requests.running, request.mounted = true
  shown : ∀ request ∈ this.requests.running, ∀ troves, request.answer = .troves troves →
    this.loading = false ∧ this.troves = some troves
  answered : this.loading = false →
    ∃ request ∈ this.requests.running, ∃ troves, request.answer = .troves troves

theorem attends_initial : (initial : RiskyTroves α).Attends where
  requests := Slot.good_empty
  requested := rfl
  mounted request h := by cases h
  shown request h := by cases h
  answered h := by cases h

section Attends

variable {this : RiskyTroves α}

theorem Attends.cleanUpRequest (h : this.Attends) :
    this.cleanUpRequest.requests.Good TrovesRequest.live ∧
      this.cleanUpRequest.requests.current = none := by
  unfold RiskyTroves.cleanUpRequest
  cases hcurrent : this.requests.current with
  | none => exact ⟨h.requests, hcurrent⟩
  | some number =>
      obtain ⟨request, hget, hrunning⟩ := h.requests.exists_running hcurrent
      simp only [hget]
      exact ⟨h.requests.cleanUp hcurrent rfl, rfl⟩

theorem Attends.render (h : this.Attends) (liquity : Nat) (pageSize : ℕ+) (numberOfTroves : Nat) :
    (this.render liquity pageSize numberOfTroves).Attends := by
  rw [render_eq]
  cases hchanged : this.listingChanged (this.nextRender liquity pageSize numberOfTroves) with
  | true =>
      obtain ⟨hgood, hcurrent⟩ := h.cleanUpRequest
      constructor
      case requests => exact hgood.start hcurrent _
      case requested => simp
      case mounted =>
        intro request hrequest
        rw [if_pos rfl, Slot.running_start, Option.mem_some_iff] at hrequest
        rw [← hrequest]
      case shown =>
        intro request hrequest troves htroves
        rw [if_pos rfl, Slot.running_start, Option.mem_some_iff] at hrequest
        rw [← hrequest] at htroves
        cases htroves
      case answered => nofun
  | false =>
      have hsame : this.rendered.map RiskyTrovesRender.listing =
          some (this.nextRender liquity pageSize numberOfTroves).listing := by
        simpa [listingChanged] using hchanged
      exact {
        requests := h.requests
        requested := h.requested.trans hsame
        mounted := h.mounted
        shown := h.shown
        answered := h.answered }

/-- The end of a request that is not mounted changes nothing that is shown. -/
theorem Attends.put_unmounted (h : this.Attends) {number : Nat} {request ended : TrovesRequest α}
    (hget : this.requests.instances[number]? = some request) (hmounted : request.mounted = false)
    (hended : ended.live = false) :
    Attends { this with requests := this.requests.put number ended } := by
  have hne : this.requests.current ≠ some number := by
    intro hcurrent
    have hrunning : this.requests.running = some request := by
      rw [Slot.running, hcurrent, Option.bind_some, hget]
    have hsome := h.mounted request hrunning
    rw [hmounted] at hsome
    cases hsome
  have hput := Slot.running_put_of_ne hne ended
  constructor
  case requests =>
    refine h.requests.put hget fun hlive => ?_
    rw [hended] at hlive
    cases hlive
  case requested => exact (congrArg (Option.map _) hput).trans h.requested
  case mounted => exact fun request hrequest => h.mounted request (hput ▸ hrequest)
  case shown => exact fun request hrequest => h.shown request (hput ▸ hrequest)
  case answered =>
    intro hloading
    obtain ⟨request, hrequest, hanswered⟩ := h.answered hloading
    exact ⟨request, hput.trans hrequest, hanswered⟩

/-- A request that goes on is not the one that is shown. -/
theorem Attends.loading_of_pending (h : this.Attends) {listing : RiskyTrovesListing}
    {mounted : Bool} (hrunning : this.requests.running = some ⟨listing, mounted, .pending⟩) :
    this.loading = true := by
  by_contra hloading
  obtain ⟨request, hrequest, troves, htroves⟩ := h.answered (Bool.eq_false_iff.mpr hloading)
  rw [hrunning, Option.mem_some_iff] at hrequest
  rw [← hrequest] at htroves
  cases htroves

theorem Attends.answer (h : this.Attends) (number : Nat) (troves : List α) :
    (this.answer number troves).Attends := by
  unfold RiskyTroves.answer
  split
  · next listing mounted hget =>
      cases mounted with
      | true =>
          have hcurrent := h.requests.only number _ hget rfl
          have hrunning := h.requests.running_eq hget rfl
          have hput := Slot.running_put_of_current h.requests hcurrent
            ⟨listing, true, .troves troves⟩
          have hrequested := h.requested
          rw [hrunning] at hrequested
          constructor
          case requests => exact h.requests.put hget nofun
          case requested => exact (congrArg (Option.map _) hput).trans hrequested
          case mounted =>
            intro request hrequest
            rw [if_pos rfl, hput, Option.mem_some_iff] at hrequest
            rw [← hrequest]
          case shown =>
            intro request hrequest other hother
            rw [if_pos rfl, hput, Option.mem_some_iff] at hrequest
            rw [← hrequest] at hother
            cases hother
            exact ⟨rfl, rfl⟩
          case answered => exact fun _ => ⟨_, hput, troves, rfl⟩
      | false =>
          exact h.put_unmounted hget rfl rfl
  · exact h

theorem Attends.reject (h : this.Attends) (number : Nat) : (this.reject number).Attends := by
  unfold RiskyTroves.reject
  split
  · next listing mounted hget =>
      cases mounted with
      | true =>
          have hcurrent := h.requests.only number _ hget rfl
          have hrunning := h.requests.running_eq hget rfl
          have hloading := h.loading_of_pending hrunning
          have hput := Slot.running_put_of_current h.requests hcurrent
            ⟨listing, true, .rejected⟩
          have hrequested := h.requested
          rw [hrunning] at hrequested
          constructor
          case requests => exact h.requests.put hget nofun
          case requested => exact (congrArg (Option.map _) hput).trans hrequested
          case mounted =>
            intro request hrequest
            rw [hput, Option.mem_some_iff] at hrequest
            rw [← hrequest]
          case shown =>
            intro request hrequest other hother
            rw [hput, Option.mem_some_iff] at hrequest
            rw [← hrequest] at hother
            cases hother
          case answered =>
            intro hloaded
            rw [hloading] at hloaded
            cases hloaded
      | false =>
          exact h.put_unmounted hget rfl rfl
  · exact h

theorem Attends.step (h : this.Attends) (event : RiskyTrovesEvent α) :
    (this.step event).Attends := by
  cases event with
  | render liquity pageSize numberOfTroves => exact h.render liquity pageSize numberOfTroves
  | nextPage =>
      change this.nextPage.Attends
      unfold RiskyTroves.nextPage
      split
      · exact h
      · split
        · exact { h with }
        · exact h
  | previousPage =>
      change this.previousPage.Attends
      unfold RiskyTroves.previousPage
      split
      · exact h
      · split
        · exact { h with }
        · exact h
  | forceReload => exact { h with }
  | answer number troves => exact h.answer number troves
  | reject number => exact h.reject number

end Attends

theorem attends_run (events : List (RiskyTrovesEvent α)) :
    (EventRun.run step initial events).Attends :=
  EventRun.run_invariant step (fun _ event h => h.step event) attends_initial events

/-- The component has stopped loading exactly if its request has been answered, and it then
shows the answer. -/
theorem Attends.loading_eq_false_iff {this : RiskyTroves α} (h : this.Attends) :
    this.loading = false ↔ ∃ request ∈ this.requests.running, ∃ troves,
      request.answer = .troves troves ∧ this.troves = some troves ∧
        this.rendered.map RiskyTrovesRender.listing = some request.listing := by
  constructor
  · intro hloading
    obtain ⟨request, hrequest, troves, htroves⟩ := h.answered hloading
    have hrequested := h.requested
    rw [hrequest, Option.map_some] at hrequested
    exact ⟨request, hrequest, troves, htroves, (h.shown request hrequest troves htroves).2,
      hrequested.symm⟩
  · rintro ⟨request, hrequest, troves, htroves, _, _⟩
    exact (h.shown request hrequest troves htroves).1

/-- The end of a request that is not the current one leaves what is shown. -/
theorem Attends.answer_of_ne {this : RiskyTroves α} (h : this.Attends) {number : Nat}
    (hne : this.requests.current ≠ some number) (troves : List α) :
    (this.answer number troves).troves = this.troves ∧
      (this.answer number troves).loading = this.loading := by
  unfold RiskyTroves.answer
  split
  · next listing mounted hget =>
      cases mounted with
      | true => exact absurd (h.requests.only number _ hget rfl) hne
      | false => exact ⟨rfl, rfl⟩
  · exact ⟨rfl, rfl⟩

/-- A failure leaves what is shown. -/
theorem reject_shown (this : RiskyTroves α) (number : Nat) :
    (this.reject number).troves = this.troves ∧ (this.reject number).loading = this.loading := by
  unfold reject
  split
  · exact ⟨rfl, rfl⟩
  · exact ⟨rfl, rfl⟩

/-- In every order of renders, presses and ends of requests, the component has stopped loading
exactly if the request of the last render has been answered, and it then shows the answer. The
answer to an earlier request changes neither, and no failure does. -/
theorem shown_run (events : List (RiskyTrovesEvent α)) :
    let this := EventRun.run step initial events
    (this.loading = false ↔ ∃ request ∈ this.requests.running, ∃ troves,
      request.answer = .troves troves ∧ this.troves = some troves ∧
        this.rendered.map RiskyTrovesRender.listing = some request.listing) ∧
      (∀ number troves, this.requests.current ≠ some number →
        (this.step (.answer number troves)).troves = this.troves ∧
          (this.step (.answer number troves)).loading = this.loading) ∧
      ∀ number, (this.step (.reject number)).troves = this.troves ∧
        (this.step (.reject number)).loading = this.loading := by
  intro this
  have h : this.Attends := attends_run events
  exact ⟨h.loading_eq_false_iff, fun _ troves hne => h.answer_of_ne hne troves,
    this.reject_shown⟩

end RiskyTroves

namespace RiskyTrovesRender

variable (rendered : RiskyTrovesRender)

theorem numberOfTroves_le :
    rendered.numberOfTroves ≤ rendered.numberOfPages * rendered.pageSize := by
  have hpos := rendered.pageSize.pos
  have hdiv := Nat.div_add_mod (rendered.numberOfTroves + rendered.pageSize - 1) rendered.pageSize
  have hmod := Nat.mod_lt (rendered.numberOfTroves + rendered.pageSize - 1) hpos
  unfold numberOfPages
  dsimp only
  split
  · next hzero =>
      rw [hzero, Nat.mul_zero] at hdiv
      omega
  · rw [Nat.mul_comm]
    omega

/-- Every page but the first of no troves has a trove. -/
theorem start_lt {page : Nat} (hpage : page < rendered.numberOfPages)
    (htroves : 0 < rendered.numberOfTroves) :
    page * rendered.pageSize < rendered.numberOfTroves := by
  have hpos := rendered.pageSize.pos
  unfold numberOfPages at hpage
  dsimp only at hpage
  split at hpage
  · obtain rfl : page = 0 := by omega
    omega
  · have hle := (Nat.le_div_iff_mul_le hpos).mp (Nat.succ_le_of_lt hpage)
    rw [Nat.succ_mul] at hle
    omega

end RiskyTrovesRender

/-- Parts of one length, taken one after the other, are the list. -/
theorem flatten_parts {β : Type} (list : List β) (size count : Nat) :
    ((List.range count).map fun part => (list.drop (part * size)).take size).flatten =
      list.take (count * size) := by
  induction count with
  | zero => simp
  | succ count ih =>
      rw [List.range_succ, List.map_append, List.flatten_append, ih, List.map_singleton,
        List.flatten_singleton, Nat.succ_mul, List.take_add]

theorem mapM_ok_of_forall {β γ : Type} {f : β → Result γ} {g : β → γ} {list : List β}
    (h : ∀ a ∈ list, f a = .ok (g a)) : list.mapM f = .ok (list.map g) := by
  induction list with
  | nil => rfl
  | cons a list ih =>
      rw [List.mapM_cons, h a List.mem_cons_self,
        ih fun other hother => h other (List.mem_cons_of_mem _ hother)]
      rfl

section Pages

variable {constants : Constants} (chain : ChainState)

/-- `getTroves` of a request of the component. -/
def ChainState.riskyTroves (listing : RiskyTrovesListing) : Result (List (UserTrove constants)) :=
  (chain.getTrovesBeforeRedistribution constants listing.params).mapM fun trove =>
    trove.applyRedistribution (chain.getTotalRedistributed constants)

namespace ChainState

theorem exists_redistribute : ∃ redistribute : CombinedTroveData → UserTrove constants,
    ∀ trove, (troveFrom constants trove).applyRedistribution
      (chain.getTotalRedistributed constants) = .ok (redistribute trove) :=
  ⟨fun _ => _, fun _ => TroveWithPendingRedistribution.applyRedistribution_eq _ _⟩

variable {chain} in
/-- A request has the troves of its page, with their redistribution applied. -/
theorem riskyTroves_eq (hlists : chain.ListsTroves)
    {redistribute : CombinedTroveData → UserTrove constants}
    (happly : ∀ trove, (troveFrom constants trove).applyRedistribution
      (chain.getTotalRedistributed constants) = .ok (redistribute trove))
    (listing : RiskyTrovesListing) :
    chain.riskyTroves listing = .ok (((chain.sortedTroves.drop
      (listing.clampedPage * listing.pageSize)).take listing.pageSize).map redistribute) := by
  rw [riskyTroves, RiskyTrovesListing.params, hlists.troves_ascending, Option.getD_some,
    List.mapM_map]
  exact mapM_ok_of_forall fun trove _ => happly trove

/-- The pages of a chain are its open troves, each once and in ascending order of their collateral
ratios, and no page but that of no troves is empty. -/
theorem riskyTroves_partition (hsorted : chain.Sorted constants) (liquity reload : Nat)
    (pageSize : ℕ+) :
    let rendered (page : Nat) : RiskyTrovesRender :=
      ⟨liquity, pageSize, chain.getNumberOfTroves, page, reload⟩
    ∃ (troves : List (UserTrove constants)) (pages : List (List (UserTrove constants))),
      (chain.sortedTroves.mapM fun trove => (troveFrom constants trove).applyRedistribution
        (chain.getTotalRedistributed constants)) = .ok troves ∧
      ((List.range (rendered 0).numberOfPages).mapM fun page =>
        chain.riskyTroves (rendered page).listing) = .ok pages ∧
      pages.flatten = troves ∧
      (troves.Pairwise fun a b =>
        a.toTrove.collateralRatio chain.getPrice ≤ b.toTrove.collateralRatio chain.getPrice) ∧
      ∀ page ∈ pages, page = [] → troves = [] := by
  intro rendered
  have howners : chain.sortedTroves.length ≤ (rendered 0).numberOfTroves := hsorted.owners.ge
  obtain ⟨redistribute, happly⟩ := @exists_redistribute constants chain
  have hpage (page : Nat) (hmem : page ∈ List.range (rendered 0).numberOfPages) :
      chain.riskyTroves (rendered page).listing =
        .ok (((chain.sortedTroves.drop (page * pageSize)).take pageSize).map redistribute) := by
    have hclamped : (rendered page).clampedPage = page :=
      min_eq_left (Nat.le_sub_one_of_lt (List.mem_range.mp hmem))
    rw [riskyTroves_eq hsorted.toListsTroves happly, RiskyTrovesRender.listing, hclamped]
  refine ⟨_, _, mapM_ok_of_forall fun trove _ => happly trove, mapM_ok_of_forall hpage, ?_, ?_, ?_⟩
  · have hwhole := flatten_parts chain.sortedTroves pageSize (rendered 0).numberOfPages
    rw [List.take_of_length_le (howners.trans (rendered 0).numberOfTroves_le)] at hwhole
    calc
      _ = (((List.range (rendered 0).numberOfPages).map fun page =>
          (chain.sortedTroves.drop (page * pageSize)).take pageSize).map
            (List.map redistribute)).flatten := by rw [List.map_map]; rfl
      _ = chain.sortedTroves.map redistribute := by rw [← List.map_flatten, hwhole]
  · exact List.pairwise_map.mpr
      (hsorted.ratios.imp fun hratio => hratio _ _ (happly _) (happly _))
  · intro troves hmem hempty
    obtain ⟨page, hrange, rfl⟩ := List.mem_map.mp hmem
    rw [List.map_eq_nil_iff, List.take_eq_nil_iff, List.drop_eq_nil_iff] at hempty
    rw [List.map_eq_nil_iff, ← List.length_eq_zero_iff]
    by_contra hnonempty
    rw [← hsorted.owners] at hnonempty hempty
    have hlt := (rendered 0).start_lt (List.mem_range.mp hrange) (Nat.pos_of_ne_zero hnonempty)
    exact hempty.elim pageSize.ne_zero fun hle => absurd hle (Nat.not_le_of_lt hlt)

/-- Three troves with a redistribution fill two pages of two. -/
theorem riskyTroves_partition_redistributed :
    ∃ pages : List (List (UserTrove defaults)),
      ((List.range 2).mapM fun page => redistributedChain.riskyTroves
        (⟨0, 2, redistributedChain.getNumberOfTroves, page, 0⟩ : RiskyTrovesRender).listing) =
          .ok pages ∧
      pages.map List.length = [2, 1] ∧
      pages.flatten.Pairwise fun a b =>
        a.toTrove.collateralRatio redistributedChain.getPrice ≤
          b.toTrove.collateralRatio redistributedChain.getPrice := by
  obtain ⟨troves, pages, _, hpages, hflatten, hascending, _⟩ :=
    riskyTroves_partition redistributedChain redistributedChain_sorted 0 0 2
  refine ⟨pages, hpages, ?_, hflatten ▸ hascending⟩
  cases hpages
  rfl

end ChainState

end Pages

end HLiquity
