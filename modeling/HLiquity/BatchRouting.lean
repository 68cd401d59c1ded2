import HLiquity.BatchedProvider

/-!
# Routing batched calls

Every caller is in one place at a time: suspended, in the batch, in one call of
the base provider, or settled. Calls and callbacks of a batch stay in step and
under one effective tag, so the answer that settles a caller holds the result of
its own call.
-/

namespace HLiquity

/-- The callers among some callbacks. -/
def callersOf (callbacks : List Promise) : List Nat :=
  callbacks.filterMap fun
    | .caller number => some number
    | .aggregate _ => none

@[simp] theorem callersOf_map (numbers : List Nat) :
    callersOf (numbers.map .caller) = numbers := by
  induction numbers with
  | nil => rfl
  | cons number numbers ih => exact congrArg (number :: ·) ih

/-- The callers that a call of the base provider settles. -/
def SentCall.callers (this : SentCall) : List Nat :=
  match this.reaction with
  | .promise (.caller number) => [number]
  | .promise (.aggregate callbacks) | .callbacks callbacks => callersOf callbacks

/-- A suspended call as the call that it sends when it is not batched. -/
def SuspendedCall.direct (this : SuspendedCall) : SentCall :=
  ⟨this.request, this.blockTag, .promise this.promise⟩

section Settling

variable {multicall : Multicall}

@[simp] theorem settle_caller (number : Nat) (settlement : Settlement) :
    (Promise.caller number).settle multicall settlement = [(number, settlement)] := by
  simp only [Promise.settle]

@[simp] theorem settle_aggregate (callbacks : List Promise) (settlement : Settlement) :
    (Promise.aggregate callbacks).settle multicall settlement =
      settleEach multicall callbacks (multicall.results settlement) := by
  simp only [Promise.settle]

/-- Callbacks that reject all reject with the reason. -/
theorem settleEach_error (numbers : List Nat) (reason : String) :
    settleEach multicall (numbers.map .caller) (.error reason) =
      numbers.map fun number => (number, .error reason) := by
  induction numbers with
  | nil => simp only [List.map_nil, settleEach]
  | cons number numbers ih =>
      simp only [List.map_cons, settleEach, settle_caller, ih, List.singleton_append]

/-- Callbacks that resolve take the results at their places. -/
theorem settleEach_ok {numbers : List Nat} {results : List Text}
    (hlength : numbers.length = results.length) :
    settleEach multicall (numbers.map .caller) (.ok results) =
      List.zipWith (fun number result => (number, .ok (some result))) numbers results := by
  induction numbers generalizing results with
  | nil => simp only [List.map_nil, settleEach, List.zipWith_nil_left]
  | cons number numbers ih =>
      cases results with
      | nil => cases hlength
      | cons result results =>
          simp only [List.map_cons, settleEach, settle_caller, List.head?_cons, List.tail_cons,
            List.singleton_append, List.zipWith_cons_cons]
          rw [ih (Nat.succ.inj hlength)]

/-- Every callback is settled, whatever the results are. -/
theorem settleEach_fst (numbers : List Nat) (results : Except String (List Text)) :
    (settleEach multicall (numbers.map .caller) results).map Prod.fst = numbers := by
  cases results with
  | error reason => simp [settleEach_error, Function.comp_def]
  | ok results =>
      induction numbers generalizing results with
      | nil => simp only [List.map_nil, settleEach]
      | cons number numbers ih =>
          simp only [List.map_cons, settleEach, settle_caller, List.singleton_append, ih]

end Settling

/-- A batch holds the call of a caller under its effective tag. -/
def Batches (callers : List Arrival) (blockTag : Option CallBlockTag) (number : Nat)
    (call : CallRequest) : Prop :=
  ∃ arrival, callers[number]? = some arrival ∧ call = arrival.callRequest ∧
    effectiveTag arrival.blockTag = effectiveTag blockTag

/-- A batch holds the calls and the callbacks of some callers in step. -/
structure BatchedCalls.Holds (callers : List Arrival) (this : BatchedCalls)
    (numbers : List Nat) : Prop where
  callbacks : this.callbacks = numbers.map .caller
  calls : List.Forall₂ (Batches callers this.blockTag) numbers this.calls

/-- A call of the base provider carries the calls of some callers: one caller directly,
or all callers of a dispatched batch. -/
inductive Carries (multicall : Multicall) (callers : List Arrival)
    (dispatched : List BatchedCalls) : SentCall → List Nat → Prop
  | direct {number : Nat} {arrival : Arrival} (harrival : callers[number]? = some arrival) :
      Carries multicall callers dispatched
        ⟨arrival.request, arrival.blockTag, .promise (.caller number)⟩ [number]
  | single {batch : BatchedCalls} {numbers : List Nat} {call : CallRequest}
      (hbatch : batch ∈ dispatched) (hholds : batch.Holds callers numbers)
      (hcalls : batch.calls = [call]) :
      Carries multicall callers dispatched
        ⟨call.request, batch.blockTag, .callbacks batch.callbacks⟩ numbers
  | aggregate {batch : BatchedCalls} {numbers : List Nat} (hbatch : batch ∈ dispatched)
      (hholds : batch.Holds callers numbers) :
      Carries multicall callers dispatched
        ⟨multicall.aggregate batch.calls, batch.blockTag,
          .promise (.aggregate batch.callbacks)⟩ numbers

section Carrying

variable {multicall : Multicall} {callers : List Arrival} {dispatched : List BatchedCalls}
  {batch : BatchedCalls} {sent : SentCall} {numbers : List Nat}

theorem Batches.mono {blockTag : Option CallBlockTag} {number : Nat} {call : CallRequest}
    (h : Batches callers blockTag number call) (later : List Arrival) :
    Batches (callers ++ later) blockTag number call := by
  obtain ⟨arrival, harrival, hcall, htag⟩ := h
  refine ⟨arrival, ?_, hcall, htag⟩
  exact List.getElem?_append_left (List.getElem?_eq_some_iff.mp harrival).1 ▸ harrival

theorem BatchedCalls.Holds.mono (h : batch.Holds callers numbers) (later : List Arrival) :
    batch.Holds (callers ++ later) numbers where
  callbacks := h.callbacks
  calls := h.calls.imp fun _ _ hcall => hcall.mono later

theorem Carries.mono (h : Carries multicall callers dispatched sent numbers)
    (later : List Arrival) (more : List BatchedCalls) :
    Carries multicall (callers ++ later) (dispatched ++ more) sent numbers := by
  cases h with
  | direct harrival =>
      apply Carries.direct
      rw [List.getElem?_append_left (List.getElem?_eq_some_iff.mp harrival).1]
      exact harrival
  | single hbatch hholds hcalls =>
      exact .single (List.mem_append_left _ hbatch) (hholds.mono later) hcalls
  | aggregate hbatch hholds =>
      exact .aggregate (List.mem_append_left _ hbatch) (hholds.mono later)

theorem Carries.arrive (h : Carries multicall callers dispatched sent numbers)
    (arrival : Arrival) : Carries multicall (callers ++ [arrival]) dispatched sent numbers := by
  have hmono := h.mono [arrival] []
  rwa [List.append_nil] at hmono

theorem Carries.dispatch (h : Carries multicall callers dispatched sent numbers)
    (batch : BatchedCalls) : Carries multicall callers (dispatched ++ [batch]) sent numbers := by
  have hmono := h.mono [] [batch]
  rwa [List.append_nil] at hmono

/-- What it carries is what its answer settles. -/
theorem Carries.callers_eq (h : Carries multicall callers dispatched sent numbers) :
    sent.callers = numbers := by
  cases h with
  | direct => rfl
  | single _ hholds _ =>
      change callersOf _ = _
      rw [hholds.callbacks, callersOf_map]
  | aggregate _ hholds =>
      change callersOf _ = _
      rw [hholds.callbacks, callersOf_map]

/-- An answer settles every caller that the call carries, once. -/
theorem Carries.settle_fst (h : Carries multicall callers dispatched sent numbers)
    (network : Network) : (sent.settle multicall network).map Prod.fst = numbers := by
  cases h with
  | direct => simp [SentCall.settle]
  | single _ hholds _ =>
      simp only [SentCall.settle, hholds.callbacks]
      exact settleEach_fst _ _
  | aggregate _ hholds =>
      simp only [SentCall.settle, hholds.callbacks, settle_aggregate]
      exact settleEach_fst _ _

/-- A suspended call is that of a caller, or that of `aggregate`. -/
theorem Carries.suspended_cases {call : SuspendedCall}
    (h : Carries multicall callers dispatched call.direct numbers) :
    (∃ number arrival, callers[number]? = some arrival ∧
      call = ⟨arrival.request, arrival.blockTag, .caller number⟩) ∨
    ∃ calls, call.request = multicall.aggregate calls := by
  obtain ⟨request, blockTag, promise⟩ := call
  generalize hsent : SuspendedCall.direct ⟨request, blockTag, promise⟩ = sent at h
  cases h with
  | direct harrival =>
      cases hsent
      exact .inl ⟨_, _, harrival, rfl⟩
  | single _ _ _ => cases hsent
  | aggregate _ _ =>
      cases hsent
      exact .inr ⟨_, rfl⟩

end Carrying

/-- An answer of `aggregate` holds one result for each call, in order. -/
def AnswersInOrder (multicall : Multicall) (network : Network) : Prop :=
  ∀ calls blockTag data, network (multicall.aggregate calls) blockTag = .ok data →
    ∃ results, multicall.returnData data = .ok results ∧
      List.Forall₂ (fun call result => network call.request blockTag = .ok result) calls results

/-- A result of the own call of a caller, with all it asks for or with its target and
data only, at its own effective tag. -/
def OwnResult (network : Network) (arrival : Arrival) (result : Text) : Prop :=
  ∃ request ∈ [arrival.request, arrival.callRequest.request],
    network request (effectiveTag arrival.blockTag) = .ok result

section Answers

variable {multicall : Multicall} {callers : List Arrival} {dispatched : List BatchedCalls}
  {sent : SentCall} {numbers : List Nat} {network : Network}

/-- The results of a batch are the results of its callers. -/
theorem ownResults_of_batches {blockTag : Option CallBlockTag} {calls : List CallRequest}
    {results : List Text} (hcalls : List.Forall₂ (Batches callers blockTag) numbers calls)
    (hresults : List.Forall₂ (fun call result =>
      network call.request (effectiveTag blockTag) = .ok result) calls results) :
    List.Forall₂ (fun number result => ∃ arrival, callers[number]? = some arrival ∧
      network arrival.callRequest.request (effectiveTag arrival.blockTag) = .ok result)
      numbers results := by
  induction hcalls generalizing results with
  | nil =>
      cases hresults
      exact .nil
  | cons hcall _ ih =>
      obtain ⟨arrival, harrival, rfl, htag⟩ := hcall
      cases hresults with
      | cons hresult hresults =>
          refine .cons ⟨arrival, harrival, ?_⟩ (ih hresults)
          rw [htag]
          exact hresult

/-- Results that are related to their callers settle them. -/
theorem exists_of_mem_zipWith {R : Nat → Text → Prop} {results : List Text} {number : Nat}
    {settlement : Settlement} (hrelated : List.Forall₂ R numbers results)
    (h : (number, settlement) ∈
      List.zipWith (fun number result => (number, .ok (some result))) numbers results) :
    ∃ result, settlement = .ok (some result) ∧ R number result := by
  induction hrelated with
  | nil => cases h
  | cons hfirst _ ih =>
      rw [List.zipWith_cons_cons, List.mem_cons] at h
      rcases h with h | h
      · cases h
        exact ⟨_, rfl, hfirst⟩
      · exact ih h

/-- A call that is sent directly settles its caller as the network answers it. -/
theorem settle_direct (number : Nat) (arrival : Arrival) :
    SentCall.settle multicall ⟨arrival.request, arrival.blockTag, .promise (.caller number)⟩
      network =
      [(number, (network arrival.request (effectiveTag arrival.blockTag)).map some)] := by
  simp only [SentCall.settle, settle_caller]

/-- The only call of a batch settles its caller as the network answers its target and data. -/
theorem settle_single (multicall : Multicall) (network : Network) {batch : BatchedCalls}
    {call : CallRequest} (hholds : batch.Holds callers numbers) (hcalls : batch.calls = [call]) :
    ∃ number arrival, numbers = [number] ∧ callers[number]? = some arrival ∧
      SentCall.settle multicall ⟨call.request, batch.blockTag, .callbacks batch.callbacks⟩
        network =
        [(number, (network arrival.callRequest.request
          (effectiveTag arrival.blockTag)).map some)] := by
  have hbatches := hholds.calls
  rw [hcalls] at hbatches
  cases hbatches with
  | cons hcall hrest =>
      cases hrest
      obtain ⟨arrival, harrival, rfl, htag⟩ := hcall
      refine ⟨_, arrival, rfl, harrival, ?_⟩
      simp only [SentCall.settle, hholds.callbacks, ← htag]
      cases network arrival.callRequest.request (effectiveTag arrival.blockTag) with
      | error reason => exact settleEach_error _ reason
      | ok result => exact settleEach_ok rfl

/-- The callers of an aggregated batch all reject, or each resolves with the result of its
own call. -/
theorem settle_aggregate_batch {batch : BatchedCalls} (hholds : batch.Holds callers numbers)
    (hnetwork : AnswersInOrder multicall network) :
    let answer := network (multicall.aggregate batch.calls) (effectiveTag batch.blockTag)
    let settled := SentCall.settle multicall ⟨multicall.aggregate batch.calls, batch.blockTag,
      .promise (.aggregate batch.callbacks)⟩ network
    (∃ reason, answer = .error reason ∧
      settled = numbers.map fun number => (number, .error reason)) ∨
    ∃ data results, answer = .ok data ∧
      settled = List.zipWith (fun number result => (number, .ok (some result))) numbers results ∧
      List.Forall₂ (fun number result => ∃ arrival, callers[number]? = some arrival ∧
        network arrival.callRequest.request (effectiveTag arrival.blockTag) = .ok result)
        numbers results := by
  intro answer settled
  have hsettled : settled =
      settleEach multicall (numbers.map .caller) (multicall.results (answer.map some)) := by
    simp only [settled, SentCall.settle, settle_aggregate, hholds.callbacks, answer]
  cases hanswer : answer with
  | error reason =>
      refine .inl ⟨reason, rfl, ?_⟩
      rw [hsettled, hanswer]
      exact settleEach_error numbers reason
  | ok data =>
      obtain ⟨results, hdata, hresults⟩ := hnetwork _ _ _ hanswer
      have hown := ownResults_of_batches hholds.calls hresults
      refine .inr ⟨data, results, rfl, ?_, hown⟩
      have hdecoded : multicall.results ((Except.ok data : Except String Text).map some) =
          .ok results := hdata
      rw [hsettled, hanswer, hdecoded]
      exact settleEach_ok hown.length_eq

/-- A caller that resolves has the result of its own call. -/
theorem Carries.ownResult (h : Carries multicall callers dispatched sent numbers)
    (hnetwork : AnswersInOrder multicall network) {number : Nat} {value : Option Text}
    (hmem : (number, .ok value) ∈ sent.settle multicall network) :
    ∃ arrival result, callers[number]? = some arrival ∧ value = some result ∧
      OwnResult network arrival result := by
  cases h with
  | @direct sender arrival harrival =>
      rw [settle_direct, List.mem_singleton] at hmem
      cases hanswer : network arrival.request (effectiveTag arrival.blockTag) with
      | error reason =>
          rw [hanswer] at hmem
          cases hmem
      | ok result =>
          rw [hanswer] at hmem
          cases hmem
          exact ⟨arrival, result, harrival, rfl, _, List.mem_cons_self, hanswer⟩
  | single _ hholds hcalls =>
      obtain ⟨_, arrival, rfl, harrival, hsettled⟩ :=
        settle_single multicall network hholds hcalls
      rw [hsettled, List.mem_singleton] at hmem
      cases hanswer : network arrival.callRequest.request (effectiveTag arrival.blockTag) with
      | error reason =>
          rw [hanswer] at hmem
          cases hmem
      | ok result =>
          rw [hanswer] at hmem
          cases hmem
          exact ⟨arrival, result, harrival, rfl, _,
            List.mem_cons_of_mem _ List.mem_cons_self, hanswer⟩
  | aggregate _ hholds =>
      rcases settle_aggregate_batch hholds hnetwork with
        ⟨reason, _, hsettled⟩ | ⟨data, results, _, hsettled, hown⟩
      · rw [hsettled, List.mem_map] at hmem
        obtain ⟨_, _, hpair⟩ := hmem
        cases hpair
      · rw [hsettled] at hmem
        obtain ⟨result, hvalue, arrival, harrival, hanswer⟩ := exists_of_mem_zipWith hown hmem
        cases hvalue
        exact ⟨arrival, result, harrival, rfl, _,
          List.mem_cons_of_mem _ List.mem_cons_self, hanswer⟩

end Answers

namespace BatchedProvider

variable {multicall : Multicall} {this : BatchedProvider}

/-- Where the callers are: suspended, in the batch, in calls of the base provider, or
settled. -/
def places (this : BatchedProvider) : List Nat :=
  this.suspended.flatMap (·.direct.callers) ++ callersOf this.batched.callbacks ++
    this.inFlight.flatMap SentCall.callers ++ this.settled.map Prod.fst

/-- Calls are routed: every caller is in one place, a timer runs exactly for a batch that
is not empty, batches hold calls and callbacks in step and under one effective tag, every
call of the base provider carries one caller or one dispatched batch, and its answer alone
settles what it carries. -/
structure Routed (multicall : Multicall) (this : BatchedProvider) : Prop where
  once : this.places.Perm (List.range this.callers.length)
  timer : (this.batched.calls = [] ∧ this.timers = []) ∨
    (this.batched.calls ≠ [] ∧ ∃ timeoutId, this.timeoutId = some timeoutId ∧
      this.timers = [timeoutId])
  batched : ∃ numbers, this.batched.Holds this.callers numbers
  dispatched : ∀ batch ∈ this.dispatched,
    batch.calls ≠ [] ∧ ∃ numbers, batch.Holds this.callers numbers
  suspended : ∀ call ∈ this.suspended,
    Carries multicall this.callers this.dispatched call.direct call.direct.callers
  inFlight : ∀ sent ∈ this.inFlight,
    Carries multicall this.callers this.dispatched sent sent.callers
  answered : ∀ answer ∈ this.answered,
    Carries multicall this.callers this.dispatched answer.1 answer.1.callers
  settled : this.settled = this.answered.flatMap fun answer => answer.1.settle multicall answer.2

theorem routed_initial : initial.Routed multicall where
  once := .nil
  timer := .inl ⟨rfl, rfl⟩
  batched := ⟨[], rfl, .nil⟩
  dispatched := by simp [initial]
  suspended := by simp [initial]
  inFlight := by simp [initial]
  answered := by simp [initial]
  settled := rfl

/-- The counters do not matter. -/
theorem Routed.checkRatio (h : this.Routed multicall) (now : Int) :
    (this.checkRatio now).Routed multicall := by
  unfold BatchedProvider.checkRatio
  split
  · exact ⟨h.once, h.timer, h.batched, h.dispatched, h.suspended, h.inFlight, h.answered,
      h.settled⟩
  · split
    · exact ⟨h.once, h.timer, h.batched, h.dispatched, h.suspended, h.inFlight, h.answered,
        h.settled⟩
    · exact h

/-- Suspending a call is adding it before the counters are checked. -/
theorem call_eq (now : Int) (request : ResolvedTransactionRequest) (blockTag : Option CallBlockTag)
    (promise : Promise) :
    this.call now request blockTag promise =
      BatchedProvider.checkRatio
        { this with suspended := this.suspended ++ [⟨request, blockTag, promise⟩] } now := by
  cases hlast : this.timeOfLastRatioCheck with
  | none => simp only [call, BatchedProvider.checkRatio, hlast]
  | some last =>
      by_cases hreset : now - last ≥ 10000 ∧ this.numberOfActualCalls ≠ 0
      · simp only [call, BatchedProvider.checkRatio, hlast, if_pos hreset]
      · simp only [call, BatchedProvider.checkRatio, hlast, if_neg hreset]

/-- Taking an element out leaves the others. -/
theorem flatMap_eraseIdx_perm {α β : Type} {list : List α} {index : Nat} {element : α}
    (h : list[index]? = some element) (f : α → List β) :
    (f element ++ (list.eraseIdx index).flatMap f).Perm (list.flatMap f) := by
  obtain ⟨hindex, rfl⟩ := List.getElem?_eq_some_iff.mp h
  exact (List.getElem_cons_eraseIdx_perm hindex).flatMap_right f

/-- A caller that arrives is suspended. -/
theorem Routed.called (h : this.Routed multicall) (now : Int)
    (request : ResolvedTransactionRequest) (blockTag : Option CallBlockTag) :
    (this.step multicall (.called now request blockTag)).Routed multicall := by
  rw [step, call_eq]
  apply Routed.checkRatio
  have hnew : (this.callers ++ [⟨request, blockTag⟩])[this.callers.length]? =
      some ⟨request, blockTag⟩ := List.getElem?_concat_length
  constructor
  case once =>
    rw [List.perm_iff_count]
    intro number
    have hcount := h.once.count_eq number
    simp only [places, List.count_append, List.flatMap_append, List.flatMap_singleton,
      List.length_append, List.length_singleton, List.range_succ] at hcount ⊢
    have hcallers : SentCall.callers (SuspendedCall.direct
        ⟨request, blockTag, .caller this.callers.length⟩) = [this.callers.length] := rfl
    rw [hcallers]
    omega
  case timer => exact h.timer
  case batched =>
    obtain ⟨numbers, hholds⟩ := h.batched
    exact ⟨numbers, hholds.mono _⟩
  case dispatched =>
    intro batch hbatch
    obtain ⟨hne, numbers, hholds⟩ := h.dispatched batch hbatch
    exact ⟨hne, numbers, hholds.mono _⟩
  case suspended =>
    intro call hcall
    rcases List.mem_append.mp hcall with hold | hlast
    · exact (h.suspended call hold).arrive _
    · cases List.mem_singleton.mp hlast
      exact .direct hnew
  case inFlight => exact fun sent hsent => (h.inFlight sent hsent).arrive _
  case answered => exact fun answer hanswer => (h.answered answer hanswer).arrive _
  case settled => exact h.settled

/-- A call that is enqueued joins the batch, with the only timer. -/
theorem Routed.enqueued {call : SuspendedCall} {index number : Nat} {arrival : Arrival}
    (h : this.Routed multicall) (hcall : this.suspended[index]? = some call)
    (harrival : this.callers[number]? = some arrival)
    (hcaller : call = ⟨arrival.request, arrival.blockTag, .caller number⟩)
    (hconflict : this.alreadyBatchedCallsConflictWith call.blockTag = false) :
    (enqueueCall { this with
        suspended := this.suspended.eraseIdx index
        numberOfBatchedCalls := this.numberOfBatchedCalls + 1
        batched := { this.batched with
          blockTag := if this.batched.calls.length = 0 then call.blockTag
            else this.batched.blockTag } }
      ⟨call.request.to, call.request.data⟩ call.promise).Routed multicall := by
  subst hcaller
  obtain ⟨numbers, hholds⟩ := h.batched
  -- the tag of the batch is that of its first call, and later calls agree with it
  have htag : effectiveTag arrival.blockTag = effectiveTag (if this.batched.calls.length = 0 then
      arrival.blockTag else this.batched.blockTag) := by
    split
    · rfl
    · rename_i hne
      simpa [alreadyBatchedCallsConflictWith, hne] using hconflict
  have hkept : List.Forall₂ (Batches this.callers (if this.batched.calls.length = 0 then
      arrival.blockTag else this.batched.blockTag)) numbers this.batched.calls := by
    split
    · rename_i hempty
      have hcalls := hholds.calls
      rw [List.length_eq_zero_iff.mp hempty] at hcalls ⊢
      cases hcalls
      exact .nil
    · exact hholds.calls
  constructor
  case once =>
    rw [List.perm_iff_count]
    intro other
    have hcount := h.once.count_eq other
    have htaken := (flatMap_eraseIdx_perm hcall (·.direct.callers)).count_eq other
    have hcaller : SentCall.callers (SuspendedCall.direct
        ⟨arrival.request, arrival.blockTag, .caller number⟩) = [number] := rfl
    have hbatched : callersOf (this.batched.callbacks ++ [.caller number]) =
        callersOf this.batched.callbacks ++ [number] := List.filterMap_append
    simp only [places, enqueueCall, List.count_append, hcaller, hbatched] at hcount htaken ⊢
    omega
  case timer =>
    refine .inr ⟨List.concat_ne_nil _ _, this.nextTimer, rfl, ?_⟩
    -- the timer that was armed is the only one, and it is cleared
    unfold enqueueCall
    rcases h.timer with ⟨_, htimers⟩ | ⟨_, timeoutId, htimeoutId, htimers⟩
    · rw [htimers]
      cases this.timeoutId <;> rfl
    · simp [htimeoutId, htimers]
  case batched =>
    refine ⟨numbers ++ [number], ?_, ?_⟩
    · simp only [enqueueCall, hholds.callbacks, List.map_append, List.map_singleton]
    · exact List.rel_append hkept (.cons ⟨arrival, harrival, rfl, htag⟩ .nil)
  case dispatched => exact h.dispatched
  case suspended => exact fun other hother => h.suspended other (List.mem_of_mem_eraseIdx hother)
  case inFlight => exact h.inFlight
  case answered => exact h.answered
  case settled => exact h.settled

/-- A call that is not batched is sent to the base provider. -/
theorem Routed.sent {call : SuspendedCall} {index : Nat} (h : this.Routed multicall)
    (hcall : this.suspended[index]? = some call) :
    ({ this with
        suspended := this.suspended.eraseIdx index
        numberOfActualCalls := this.numberOfActualCalls + 1
        inFlight := this.inFlight ++ [call.direct] } : BatchedProvider).Routed multicall := by
  constructor
  case once =>
    rw [List.perm_iff_count]
    intro number
    have hcount := h.once.count_eq number
    have htaken := (flatMap_eraseIdx_perm hcall (·.direct.callers)).count_eq number
    simp only [places, List.count_append, List.flatMap_append,
      List.flatMap_singleton] at hcount htaken ⊢
    omega
  case timer => exact h.timer
  case batched => exact h.batched
  case dispatched => exact h.dispatched
  case suspended => exact fun other hother => h.suspended other (List.mem_of_mem_eraseIdx hother)
  case inFlight =>
    intro sent hsent
    rcases List.mem_append.mp hsent with hold | hlast
    · exact h.inFlight sent hold
    · cases List.mem_singleton.mp hlast
      exact h.suspended call (List.mem_of_getElem? hcall)
  case answered => exact h.answered
  case settled => exact h.settled

/-- A call whose arguments are resolved is sent, or joins the batch. -/
theorem Routed.resumed (h : this.Routed multicall) (index : Nat) :
    (this.step multicall (.resolved index)).Routed multicall := by
  rw [step]
  cases hcall : this.suspended[index]? with
  | none => exact h
  | some call =>
      have hcarries := h.suspended call (List.mem_of_getElem? hcall)
      by_cases hsend : (batchedCall call.request multicall.address || !batchableCall call.request ||
          this.alreadyBatchedCallsConflictWith call.blockTag) = true
      · have hresume : resume multicall { this with suspended := this.suspended.eraseIdx index }
            call = { this with
              suspended := this.suspended.eraseIdx index
              numberOfActualCalls := this.numberOfActualCalls + 1
              inFlight := this.inFlight ++ [call.direct] } := if_pos hsend
        simp only [hresume]
        exact h.sent hcall
      · have hresume :
            resume multicall { this with suspended := this.suspended.eraseIdx index } call =
            enqueueCall { this with
                suspended := this.suspended.eraseIdx index
                numberOfBatchedCalls := this.numberOfBatchedCalls + 1
                batched := { this.batched with
                  blockTag := if this.batched.calls.length = 0 then call.blockTag
                    else this.batched.blockTag } }
              ⟨call.request.to, call.request.data⟩ call.promise := if_neg hsend
        simp only [hresume]
        rw [Bool.not_eq_true, Bool.or_eq_false_iff, Bool.or_eq_false_iff] at hsend
        obtain ⟨⟨hbatched, _⟩, hconflict⟩ := hsend
        rcases hcarries.suspended_cases with
          ⟨number, arrival, harrival, hcaller⟩ | ⟨calls, hcalls⟩
        · exact h.enqueued hcall harrival hcaller hconflict
        · rw [hcalls, batchedCall_aggregate] at hbatched
          cases hbatched

/-- A batch of one call is sent to the base provider. -/
theorem dispatchCalls_single (this : BatchedProvider) {call : CallRequest}
    (hcalls : this.batched.calls = [call])
    (now : Int) :
    dispatchCalls multicall this now =
      { this with
        batched := emptyBatch
        dispatched := this.dispatched ++ [this.batched]
        inFlight := this.inFlight ++
          [⟨call.request, this.batched.blockTag, .callbacks this.batched.callbacks⟩] } := by
  simp only [dispatchCalls, hcalls]

/-- A batch of several calls suspends a call of `aggregate`. -/
theorem dispatchCalls_aggregate (this : BatchedProvider) {first second : CallRequest}
    {rest : List CallRequest} (hcalls : this.batched.calls = first :: second :: rest) (now : Int) :
    dispatchCalls multicall this now =
      call { this with batched := emptyBatch, dispatched := this.dispatched ++ [this.batched] } now
        (multicall.aggregate this.batched.calls) this.batched.blockTag
        (.aggregate this.batched.callbacks) := by
  simp only [dispatchCalls, hcalls]

/-- A timer that fires is the only one, and the batch is not empty. -/
theorem Routed.timer_fires (h : this.Routed multicall) {timeoutId : Nat}
    (htimer : timeoutId ∈ this.timers) :
    this.batched.calls ≠ [] ∧ this.timers.erase timeoutId = [] := by
  rcases h.timer with ⟨_, htimers⟩ | ⟨hne, only, _, htimers⟩
  · rw [htimers] at htimer
    cases htimer
  · rw [htimers, List.mem_singleton] at htimer
    subst htimer
    exact ⟨hne, by simp [htimers]⟩

theorem Routed.dispatched_batch (h : this.Routed multicall) (hne : this.batched.calls ≠ []) :
    ∀ batch ∈ this.dispatched ++ [this.batched],
      batch.calls ≠ [] ∧ ∃ numbers, batch.Holds this.callers numbers := by
  intro batch hbatch
  rcases List.mem_append.mp hbatch with hold | hlast
  · exact h.dispatched batch hold
  · cases List.mem_singleton.mp hlast
    exact ⟨hne, h.batched⟩

theorem mem_dispatch (this : BatchedProvider) : this.batched ∈ this.dispatched ++ [this.batched] :=
  List.mem_append_right _ List.mem_cons_self

/-- A batch of one call that is dispatched moves its caller to a call of the base provider. -/
theorem Routed.dispatched_single (h : this.Routed multicall) {call : CallRequest}
    (hcalls : this.batched.calls = [call]) {timers : List Nat} (htimers : timers = [])
    (now : Int) :
    (dispatchCalls multicall { this with timers := timers } now).Routed multicall := by
  rw [dispatchCalls_single { this with timers := timers } hcalls]
  obtain ⟨numbers, hholds⟩ := h.batched
  constructor
  case once =>
    rw [List.perm_iff_count]
    intro number
    have hcount := h.once.count_eq number
    have hsent : SentCall.callers ⟨call.request, this.batched.blockTag,
        .callbacks this.batched.callbacks⟩ = callersOf this.batched.callbacks := rfl
    have hempty : callersOf emptyBatch.callbacks = [] := rfl
    simp only [places, List.count_append, List.flatMap_append, List.flatMap_singleton,
      hsent, hempty, List.count_nil] at hcount ⊢
    omega
  case timer => exact .inl ⟨rfl, htimers⟩
  case batched => exact ⟨[], rfl, .nil⟩
  case dispatched => exact h.dispatched_batch (by simp [hcalls])
  case suspended => exact fun call hcall => (h.suspended call hcall).dispatch _
  case inFlight =>
    intro sent hsent
    rcases List.mem_append.mp hsent with hold | hlast
    · exact (h.inFlight sent hold).dispatch _
    · cases List.mem_singleton.mp hlast
      have hcarries : Carries multicall _ _ _ _ := .single this.mem_dispatch hholds hcalls
      rwa [← hcarries.callers_eq] at hcarries
  case answered => exact fun answer hanswer => (h.answered answer hanswer).dispatch _
  case settled => exact h.settled

/-- A batch of several calls that is dispatched moves its callers to a call of `aggregate`. -/
theorem Routed.dispatched_aggregate (h : this.Routed multicall) {first second : CallRequest}
    {rest : List CallRequest} (hcalls : this.batched.calls = first :: second :: rest)
    {timers : List Nat} (htimers : timers = []) (now : Int) :
    (dispatchCalls multicall { this with timers := timers } now).Routed multicall := by
  rw [dispatchCalls_aggregate { this with timers := timers } hcalls, call_eq]
  obtain ⟨numbers, hholds⟩ := h.batched
  apply Routed.checkRatio
  constructor
  case once =>
    rw [List.perm_iff_count]
    intro number
    have hcount := h.once.count_eq number
    have hsuspended : SentCall.callers (SuspendedCall.direct
        ⟨multicall.aggregate this.batched.calls, this.batched.blockTag,
          .aggregate this.batched.callbacks⟩) = callersOf this.batched.callbacks := rfl
    have hempty : callersOf emptyBatch.callbacks = [] := rfl
    simp only [places, List.count_append, List.flatMap_append, List.flatMap_singleton,
      hsuspended, hempty, List.count_nil] at hcount ⊢
    omega
  case timer => exact .inl ⟨rfl, htimers⟩
  case batched => exact ⟨[], rfl, .nil⟩
  case dispatched => exact h.dispatched_batch (by simp [hcalls])
  case suspended =>
    intro call hcall
    rcases List.mem_append.mp hcall with hold | hlast
    · exact (h.suspended call hold).dispatch _
    · cases List.mem_singleton.mp hlast
      have hcarries : Carries multicall _ _ _ _ := .aggregate this.mem_dispatch hholds
      rwa [← hcarries.callers_eq] at hcarries
  case inFlight => exact fun sent hsent => (h.inFlight sent hsent).dispatch _
  case answered => exact fun answer hanswer => (h.answered answer hanswer).dispatch _
  case settled => exact h.settled

/-- A timer that fires dispatches the batch, which is not empty. -/
theorem Routed.fired (h : this.Routed multicall) (timeoutId : Nat) (now : Int) :
    (this.step multicall (.timeout timeoutId now)).Routed multicall := by
  rw [step]
  by_cases htimer : timeoutId ∈ this.timers
  · rw [if_pos htimer]
    obtain ⟨hne, hunarmed⟩ := h.timer_fires htimer
    match hcalls : this.batched.calls with
    | [] => exact absurd hcalls hne
    | [_] => exact h.dispatched_single hcalls hunarmed now
    | _ :: _ :: _ => exact h.dispatched_aggregate hcalls hunarmed now
  · rw [if_neg htimer]
    exact h

/-- An answer settles what the answered call carries. -/
theorem Routed.received (h : this.Routed multicall) (index : Nat) (network : Network) :
    (this.step multicall (.answered index network)).Routed multicall := by
  rw [step]
  cases hsent : this.inFlight[index]? with
  | none => exact h
  | some sent =>
      have hcarries := h.inFlight sent (List.mem_of_getElem? hsent)
      constructor
      case once =>
        rw [List.perm_iff_count]
        intro number
        have hcount := h.once.count_eq number
        have htaken := (flatMap_eraseIdx_perm hsent SentCall.callers).count_eq number
        simp only [places, List.count_append, List.map_append,
          hcarries.settle_fst network] at hcount htaken ⊢
        omega
      case timer => exact h.timer
      case batched => exact h.batched
      case dispatched => exact h.dispatched
      case suspended => exact h.suspended
      case inFlight => exact fun other hother => h.inFlight other (List.mem_of_mem_eraseIdx hother)
      case answered =>
        intro answer hanswer
        rcases List.mem_append.mp hanswer with hold | hlast
        · exact h.answered answer hold
        · cases List.mem_singleton.mp hlast
          exact hcarries
      case settled =>
        change this.settled ++ sent.settle multicall network = _
        rw [List.flatMap_append, ← h.settled, List.flatMap_singleton]

theorem Routed.step (h : this.Routed multicall) (event : Event) :
    (BatchedProvider.step multicall this event).Routed multicall := by
  cases event with
  | called now request blockTag => exact h.called now request blockTag
  | resolved index => exact h.resumed index
  | timeout timeoutId now => exact h.fired timeoutId now
  | answered index network => exact h.received index network

/-- Calls are routed in every reachable state. -/
theorem routed_run (multicall : Multicall) (events : List Event) :
    (EventRun.run (BatchedProvider.step multicall) initial events).Routed multicall := by
  apply EventRun.run_invariant
  · intro this event h
    exact h.step event
  · exact routed_initial

/-- The network at an answer of the base provider has a property. -/
def Event.Answers (P : Network → Prop) : Event → Prop
  | .answered _ network => P network
  | _ => True

@[simp] theorem checkRatio_answered (this : BatchedProvider) (now : Int) :
    (this.checkRatio now).answered = this.answered := by
  unfold BatchedProvider.checkRatio
  split
  · rfl
  · split <;> rfl

@[simp] theorem dispatchCalls_answered (this : BatchedProvider) (now : Int) :
    (dispatchCalls multicall this now).answered = this.answered := by
  simp only [dispatchCalls]
  split
  · rfl
  · rfl
  · rw [call_eq, checkRatio_answered]

/-- Only an answer adds to the answers. -/
theorem mem_answered_step {event : Event} {answer : SentCall × Network}
    (h : answer ∈ (BatchedProvider.step multicall this event).answered) :
    answer ∈ this.answered ∨ ∃ index, event = .answered index answer.2 := by
  cases event with
  | called now request blockTag =>
      rw [BatchedProvider.step, call_eq, checkRatio_answered] at h
      exact .inl h
  | resolved index =>
      rw [BatchedProvider.step] at h
      split at h
      · exact .inl h
      · unfold resume at h
        split at h <;> exact .inl h
  | timeout timeoutId now =>
      rw [BatchedProvider.step] at h
      split at h
      · rw [dispatchCalls_answered] at h
        exact .inl h
      · exact .inl h
  | answered index network =>
      rw [BatchedProvider.step] at h
      split at h
      · exact .inl h
      · rcases List.mem_append.mp h with hold | hlast
        · exact .inl hold
        · cases List.mem_singleton.mp hlast
          exact .inr ⟨index, rfl⟩

/-- Every answer that was received came from a network with the property. -/
theorem answered_run {P : Network → Prop} {events : List Event}
    (hnetworks : ∀ event ∈ events, event.Answers P) :
    ∀ answer ∈ (EventRun.run (BatchedProvider.step multicall) initial events).answered,
      P answer.2 := by
  have hstep (this : BatchedProvider) (event : Event) (h : ∀ answer ∈ this.answered, P answer.2)
      (hevent : event.Answers P) :
      ∀ answer ∈ (BatchedProvider.step multicall this event).answered, P answer.2 := by
    intro answer hanswer
    rcases mem_answered_step hanswer with hold | ⟨index, rfl⟩
    · exact h answer hold
    · exact hevent
  exact EventRun.run_invariant_of_meets _ hstep (by simp [initial])
    (EventRun.meets_of_forall _ hnetworks initial)

/-- In every run, each caller is settled at most once, by the answer to the one call of the
base provider that carries it, and resolves with the result of its own call; and once
nothing is outstanding, every caller is settled. -/
theorem calls_routed (multicall : Multicall) (events : List Event)
    (hnetworks : ∀ event ∈ events, event.Answers (AnswersInOrder multicall)) :
    let final := EventRun.run (BatchedProvider.step multicall) initial events
    final.Routed multicall ∧ (final.settled.map Prod.fst).Nodup ∧
    (∀ answer ∈ final.answered,
      (answer.1.settle multicall answer.2).map Prod.fst = answer.1.callers ∧
      ∀ number value, (number, .ok value) ∈ answer.1.settle multicall answer.2 →
        ∃ arrival result, final.callers[number]? = some arrival ∧ value = some result ∧
          OwnResult answer.2 arrival result) ∧
    (final.suspended = [] → final.timers = [] → final.inFlight = [] →
      (final.settled.map Prod.fst).Perm (List.range final.callers.length)) := by
  intro final
  have hrouted : final.Routed multicall := routed_run multicall events
  refine ⟨hrouted, ?_, ?_, ?_⟩
  · have hplaces : final.places.Nodup := hrouted.once.nodup_iff.mpr List.nodup_range
    exact hplaces.sublist (List.sublist_append_right _ _)
  · intro answer hanswer
    have hcarries := hrouted.answered answer hanswer
    constructor
    · exact hcarries.settle_fst answer.2
    · intro number value hmem
      exact hcarries.ownResult (answered_run hnetworks answer hanswer) hmem
  · intro hsuspended htimers hinFlight
    have hbatched : callersOf final.batched.callbacks = [] := by
      rcases hrouted.timer with ⟨hcalls, _⟩ | ⟨_, _, _, harmed⟩
      · obtain ⟨numbers, hholds⟩ := hrouted.batched
        have hnumbers := hholds.calls
        rw [hcalls] at hnumbers
        cases hnumbers
        rw [hholds.callbacks]
        rfl
      · rw [htimers] at harmed
        cases harmed
    have honce := hrouted.once
    rw [places, hsuspended, hbatched, hinFlight] at honce
    exact honce

end BatchedProvider

/-- The hexadecimal text of some data. -/
def hexText (data : Option BytesLike) : Text :=
  match data with
  | some (.hexString text) => text
  | _ => []

/-- A text with a mark before each character and another one behind the last. -/
def mark : Text → Text
  | [] => ['0']
  | c :: text => '1' :: c :: mark text

/-- The texts that are marked in a text. -/
def unmark : Text → Text → List Text
  | '1' :: c :: rest, text => unmark rest (text ++ [c])
  | '0' :: rest, text => text :: unmark rest []
  | _, _ => []

theorem unmark_mark_append (text rest before : Text) :
    unmark (mark text ++ rest) before = (before ++ text) :: unmark rest [] := by
  induction text generalizing before with
  | nil => simp [mark, unmark]
  | cons c text ih => simp [mark, unmark, ih]

theorem unmark_flatMap (texts : List Text) : unmark (texts.flatMap mark) [] = texts := by
  induction texts with
  | nil => rfl
  | cons text texts ih =>
      rw [List.flatMap_cons, unmark_mark_append, ih]
      rfl

/-- The data of a call, or an `r` where it cannot be encoded. -/
def CallRequest.text (this : CallRequest) : Text :=
  if this.encodable then hexText this.callData else ['r']

/-- An encoding that keeps the data of each call. -/
def markedMulticall : Multicall where
  address := "0xeefBa1e63905eF1D7ACbA5a8513c70307C1cE441"
  encode calls := aggregateSelector ++ (calls.map CallRequest.text).flatMap mark
  returnData data := .ok (unmark (data.drop aggregateSelector.length) [])
  selector _ := List.isPrefixOf_iff_prefix.mpr (List.prefix_append _ _)

/-- A network of contracts that return their data, unless it has an `r`, with which they
revert. -/
def identityNetwork : Network := fun request _ =>
  if 'r' ∈ hexText request.data then .error "call revert exception"
  else .ok (hexText request.data)

theorem mem_mark {c : Char} (hzero : c ≠ '0') (hone : c ≠ '1') (text : Text) :
    c ∈ mark text ↔ c ∈ text := by
  induction text with
  | nil => simp [mark, hzero]
  | cons d text ih => simp [mark, hone, ih]

/-- A call without an `r` can be encoded and returns its data. -/
theorem CallRequest.identityNetwork_of_text {call : CallRequest} (h : 'r' ∉ call.text)
    (blockTag : CallBlockTag) : identityNetwork call.request blockTag = .ok call.text := by
  rw [CallRequest.text] at h ⊢
  split at h
  · next hencodable =>
      rw [if_pos hencodable]
      exact if_neg h
  · exact absurd (List.mem_singleton.mpr rfl) h

/-- An aggregated call has an `r` if one of its calls has one. -/
theorem mem_aggregate_iff (calls : List CallRequest) :
    'r' ∈ hexText (markedMulticall.aggregate calls).data ↔ ∃ call ∈ calls, 'r' ∈ call.text := by
  have hselector : 'r' ∉ aggregateSelector := by decide
  change 'r' ∈ aggregateSelector ++ (calls.map CallRequest.text).flatMap mark ↔ _
  simp only [List.mem_append, hselector, false_or, List.mem_flatMap, List.mem_map,
    exists_exists_and_eq_and]
  constructor
  · rintro ⟨call, hcall, hmem⟩
    exact ⟨call, hcall, (mem_mark (by decide) (by decide) _).mp hmem⟩
  · rintro ⟨call, hcall, hmem⟩
    exact ⟨call, hcall, (mem_mark (by decide) (by decide) _).mpr hmem⟩

theorem answersInOrder_identityNetwork : AnswersInOrder markedMulticall identityNetwork := by
  intro calls blockTag data hdata
  unfold identityNetwork at hdata
  split at hdata
  · cases hdata
  · rename_i hsucceeds
    cases hdata
    have hresults : markedMulticall.returnData (hexText (markedMulticall.aggregate calls).data) =
        .ok (calls.map CallRequest.text) := by
      change Except.ok (unmark (List.drop aggregateSelector.length (aggregateSelector ++ _)) []) = _
      rw [List.drop_left, unmark_flatMap]
    refine ⟨_, hresults, ?_⟩
    rw [List.forall₂_map_right_iff, List.forall₂_same]
    intro call hcall
    exact CallRequest.identityNetwork_of_text
      (fun hmem => hsucceeds ((mem_aggregate_iff calls).mpr ⟨call, hcall, hmem⟩)) blockTag

namespace BatchedProvider

/-- A request for the identity contract. -/
def identityRequest (c : Char) : ResolvedTransactionRequest :=
  .of (some "0x0000000000000000000000000000000000000004") (some (.hexString [c]))

/-- Two calls at the latest block share a batch and a third one, at block 5, goes past it. -/
def sharedBatch : List Event :=
  [.called 0 (identityRequest 'a') none, .called 1 (identityRequest 'b') (some (.name "latest")),
    .called 2 (identityRequest 'c') (some (.number 5)), .resolved 0, .resolved 0, .resolved 0,
    .timeout 1 12, .resolved 0, .answered 0 identityNetwork, .answered 0 identityNetwork]

/-- All three are settled. -/
theorem calls_routed_sharedBatch :
    let final := EventRun.run (BatchedProvider.step markedMulticall) initial sharedBatch
    (final.settled.map Prod.fst).Perm [0, 1, 2] :=
  (calls_routed markedMulticall sharedBatch
    (by simp [sharedBatch, Event.Answers, answersInOrder_identityNetwork])).2.2.2 rfl rfl rfl

end BatchedProvider

end HLiquity
