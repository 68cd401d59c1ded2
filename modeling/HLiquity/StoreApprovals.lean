import HLiquity.StoreEvents

/-!
# Approvals

A client that approves an allowance sends a transaction, refreshes its store
and then, whether or not the refresh succeeded, updates the allowance with the
amount that it has approved. Nothing orders this update or the fetches of the
store against each other but the await of the approval's own refresh.
-/

namespace HLiquity

variable {constants : Constants}

/-- An approval that was sent, with the number of the refresh that follows it. -/
structure Approval where
  key : AllowanceKey
  amount : Decimal
  refresh : Nat
  deriving DecidableEq, Repr

/-- Events of a client: those of its store, an approval whose transaction went
through and whose refresh starts, and the optimistic update of an approval. -/
inductive ClientEvent where
  | store (event : StoreEvent)
  | approve (key : AllowanceKey) (amount : Decimal) (observed : Nat)
  | optimistic (approval : Nat)
  deriving DecidableEq, Repr

def approveHchfToSpendHchf (amount : Decimal) (observed : Nat) : ClientEvent :=
  .approve .hchfTokenAllowanceOfHchfContract amount observed

def approveHlqtToSpendHlqt (amount : Decimal) (observed : Nat) : ClientEvent :=
  .approve .hlqtTokenAllowanceOfHlqtContract amount observed

def approveSaucerSwapToSpendLpToken (amount : Decimal) (observed : Nat) : ClientEvent :=
  .approve .uniTokenAllowance amount observed

/-- The update of one allowance. -/
def AllowanceKey.toUpdate (allowance : AllowanceKey) (amount : Obj Decimal) :
    PartialBaseState constants
  | .hchfTokenAllowanceOfHchfContract =>
      if allowance = .hchfTokenAllowanceOfHchfContract then some amount else none
  | .hlqtTokenAllowanceOfHlqtContract =>
      if allowance = .hlqtTokenAllowanceOfHlqtContract then some amount else none
  | .uniTokenAllowance => if allowance = .uniTokenAllowance then some amount else none
  | _ => none

/-- The update of one allowance supplies that allowance alone. -/
theorem AllowanceKey.toUpdate_allowance (key other : AllowanceKey) (amount : Obj Decimal) :
    (key.toUpdate amount : PartialBaseState constants).allowance other =
      if key = other then some amount else none := by
  cases other <;> rfl

/-- An allowance that is not updated is kept. -/
theorem AllowanceKey.reduce_allowance_of_ne {key other : AllowanceKey} (h : key ≠ other)
    (before : LiquityStoreBaseState constants) (amount : Obj Decimal) :
    (reduce before (key.toUpdate amount)).allowance other = before.allowance other := by
  rw [reduce_allowance, key.toUpdate_allowance, if_neg h]
  rfl

/-- The updated allowance is kept or is the amount. -/
theorem AllowanceKey.reduce_allowance_self (key : AllowanceKey)
    (before : LiquityStoreBaseState constants) (amount : Obj Decimal) :
    (reduce before (key.toUpdate amount)).allowance key =
      KeepIfEqual.keep key.equals (before.allowance key) (some amount) := by
  rw [reduce_allowance, key.toUpdate_allowance, if_pos rfl]

/-- Every allowance is kept or is the amount. -/
theorem AllowanceKey.reduce_allowance_or (key : AllowanceKey)
    (before : LiquityStoreBaseState constants) (other : AllowanceKey) (amount : Obj Decimal) :
    (reduce before (key.toUpdate amount)).allowance other = before.allowance other ∨
      (reduce before (key.toUpdate amount)).allowance other = amount := by
  by_cases h : key = other
  · subst h
    rw [key.reduce_allowance_self]
    exact KeepIfEqual.keep_eq_or key.equals _ amount
  · exact .inl (reduce_allowance_of_ne h before amount)

/-- A store with the approvals of its client, the positions of those whose
optimistic update has run, and the numbers of the fetches that have written to
the store: by their own values, or as the refresh of an approval by the
optimistic update. -/
structure StoreClient (implementation : StoreImplementation constants) where
  system : StoreSystem implementation
  approvals : List Approval
  optimistic : List Nat
  writes : List Nat

namespace StoreClient

variable {implementation : StoreImplementation constants}

/-- A client with a new store. -/
def initial : StoreClient implementation := ⟨.initial, [], [], []⟩

/-- The number of the fetch whose values an event writes to the store. -/
def applied (history : Nat → ChainState) (this : StoreClient implementation) :
    ClientEvent → Option Nat
  | .store event =>
      match this.system.delivered history event with
      | none => none
      | some (number, fetch, _) =>
          if this.system.store.loaded ∧ fetch.origin = .start ∧
              implementation.updatesOnStart = false then none
          else some number
  | _ => none

/-- An approval whose refresh has settled and whose optimistic update has not run. -/
def ready (this : StoreClient implementation) (position : Nat) : Option Approval :=
  if position ∈ this.optimistic then none
  else this.approvals[position]?.filter (·.refresh ∈ this.system.settled)

/-- The optimistic update of an approval, whose amount is an object of its own. -/
def update (this : StoreClient implementation) (position : Nat) (approval : Approval) :
    StoreClient implementation :=
  let amount : Obj Decimal := ⟨.supplied position 25, approval.amount⟩
  let result := this.system.store.update (some (approval.key.toUpdate amount)) none
  { this with
    system := this.system.called .update result.1 result.2
    optimistic := this.optimistic ++ [position]
    writes := if this.system.store.loaded then this.writes ++ [approval.refresh]
      else this.writes }

/-- One event. -/
def step (history : Nat → ChainState) (this : StoreClient implementation) :
    ClientEvent → StoreClient implementation
  | .store event =>
      { this with
        system := this.system.step history event
        writes := this.writes ++ (this.applied history (.store event)).toList }
  | .approve key amount observed =>
      { this with
        system := this.system.step history (.refresh observed)
        approvals := this.approvals ++ [⟨key, amount, this.system.fetches.length⟩] }
  | .optimistic position =>
      match this.ready position with
      | none => this
      | some approval => this.update position approval

/-- The fetches that an event issues. -/
def issued (this : StoreClient implementation) : ClientEvent → List Fetch
  | .store event => this.system.issued event
  | .approve _ _ observed => this.system.issued (.refresh observed)
  | .optimistic _ => []

/-- An event adds the fetches that it issues, and nothing else. -/
@[simp] theorem step_fetches (history : Nat → ChainState) (this : StoreClient implementation)
    (event : ClientEvent) :
    (step history this event).system.fetches = this.system.fetches ++ this.issued event := by
  cases event with
  | store event => exact StoreSystem.step_fetches history this.system event
  | approve key amount observed =>
      exact StoreSystem.step_fetches history this.system (.refresh observed)
  | optimistic position =>
      rw [step, issued, List.append_nil]
      cases this.ready position <;> rfl

/-- An event leaves the store, or it writes the values of a fetch to it, or it
runs the optimistic update of an approval. -/
theorem step_cases {history : Nat → ChainState} {this : StoreClient implementation}
    (h : this.system.Complete) (event : ClientEvent) :
    ((step history this event).system.store = this.system.store ∧
      (step history this event).writes = this.writes ∧
      (step history this event).optimistic = this.optimistic) ∨
    (∃ number latest fetch fetched, this.applied history event = some number ∧
      this.system.pending number = some fetch ∧
      implementation.fetch (history fetch.observed) (history latest) fetch.blockTag number =
        .ok fetched ∧
      StoreSystem.Delivery (this.system.settling number) fetched
        (step history this event).system ∧
      (step history this event).writes = this.writes ++ [number] ∧
      (step history this event).optimistic = this.optimistic) ∨
    ∃ position approval, event = .optimistic position ∧
      this.ready position = some approval ∧
      step history this event = this.update position approval := by
  cases event with
  | store event =>
      rcases StoreSystem.step_cases history this.system event with
        ⟨hnone, hstore, _⟩ |
        ⟨number, latest, fetch, fetched, hdelivered, _, hpending, hfetched, hstep⟩
      · have happlied : this.applied history (.store event) = none := by
          rw [applied, hnone]
        refine .inl ⟨hstore, ?_, rfl⟩
        rw [step, happlied]
        exact List.append_nil _
      · have hcomplete : (this.system.settling number).Complete := h
        rcases StoreSystem.deliver_cases hcomplete fetch.origin fetched with
          ⟨hskip, hloaded, hstart, hupdates⟩ | ⟨hstart, hdelivery⟩
        · have happlied : this.applied history (.store event) = none := by
            rw [applied, hdelivered]
            exact if_pos ⟨hloaded, hstart, hupdates⟩
          refine .inl ⟨?_, ?_, rfl⟩
          · rw [step, hstep, hskip]
            rfl
          · rw [step, happlied]
            exact List.append_nil _
        · have happlied : this.applied history (.store event) = some number := by
            rw [applied, hdelivered]
            exact if_neg fun hskip => hstart hskip.1 hskip.2.2 hskip.2.1
          refine .inr (.inl
            ⟨number, latest, fetch, fetched, happlied, hpending, hfetched, ?_, ?_, rfl⟩)
          · rw [step, hstep]
            exact hdelivery
          · rw [step, happlied]
            rfl
  | approve key amount observed => exact .inl ⟨rfl, rfl, rfl⟩
  | optimistic position =>
      cases hready : this.ready position with
      | none =>
          have hsame : step history this (.optimistic position) = this := by
            rw [step, hready]
          rw [hsame]
          exact .inl ⟨rfl, rfl, rfl⟩
      | some approval =>
          refine .inr (.inr ⟨position, approval, rfl, hready, ?_⟩)
          rw [step, hready]

/-- What an optimistic update does to a store: nothing, if it is not there to be
updated, and otherwise it reduces its base state whether it returns or throws. -/
theorem store_update_cases (store : HLiquityStore constants implementation.extra)
    (baseStateUpdate : PartialBaseState constants) :
    let next := (store.update (some baseStateUpdate) none).2
    next.loaded = store.loaded ∧ next.extraState = store.extraState ∧
    (((store.baseState = none ∨ store.derivedState = none) ∧
        next.baseState = store.baseState) ∨
      ∃ before, store.baseState = some before ∧
        next.baseState = some (reduce before baseStateUpdate) ∧
        next.derivedState.isSome = true) := by
  intro next
  cases hbase : store.baseState with
  | none =>
      have hsame : next = store := by
        simp only [next, HLiquityStore.update, hbase]
      rw [hsame]
      exact ⟨rfl, rfl, .inl ⟨.inl rfl, hbase⟩⟩
  | some before =>
      cases hderived : store.derivedState with
      | none =>
          have hsame : next = store := congrArg Prod.snd
            (HLiquityStore.update_of_derivedState_none hderived (some baseStateUpdate) none)
          rw [hsame]
          exact ⟨rfl, rfl, .inl ⟨.inr rfl, hbase⟩⟩
      | some derivedState =>
          rcases HLiquityStore.update_cases hbase hderived (some baseStateUpdate) none with
            ⟨failure, _, hupdate⟩ | ⟨_, failure, _, hfail, _⟩ | ⟨derived, extra, _, hextra, hupdate⟩
          · refine ⟨?_, ?_, .inr ⟨before, rfl, ?_, ?_⟩⟩
            · simp only [next, hupdate]
              rfl
            · simp only [next, hupdate]
              rfl
            · simp only [next, hupdate]
              rfl
            · simp only [next, hupdate]
              exact congrArg Option.isSome hderived
          · cases hfail
          · cases hextra
            refine ⟨?_, ?_, .inr ⟨before, rfl, ?_, ?_⟩⟩
            · simp only [next, hupdate]
              rfl
            · simp only [next, hupdate]
              rfl
            · simp only [next, hupdate]
              rfl
            · simp only [next, hupdate]
              rfl

end StoreClient

end HLiquity
