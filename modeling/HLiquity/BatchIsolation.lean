import HLiquity.BatchRouting

/-!
# Callers that share a batch

The multicall contract reverts as a whole when one of its calls does. The
provider rejects every caller of the batch then and does not send their calls
again, so the callers of a batch succeed together or fail together.
-/

namespace HLiquity

/-- The first version of the multicall contract: `aggregate` answers one result for each
call, in order, when all of its calls succeed, and reverts otherwise. Calls that cannot be
encoded fail before they are sent. -/
structure AggregatesAll (multicall : Multicall) (network : Network) : Prop where
  answers : AnswersInOrder multicall network
  succeeds : ∀ calls blockTag, (∀ call ∈ calls, call.encodable = true) →
    (∀ call ∈ calls, ∃ result, network call.request blockTag = .ok result) →
    ∃ data, network (multicall.aggregate calls) blockTag = .ok data
  refuses : ∀ calls blockTag, (∃ call ∈ calls, call.encodable = false) →
    ∃ reason, network (multicall.aggregate calls) blockTag = .error reason

/-- What the base provider answers to a caller. -/
def Arrival.unbatched (this : Arrival) (network : Network) : Except String Text :=
  network this.request (effectiveTag this.blockTag)

/-- The answer to a caller does not depend on what a batch leaves out of its request, such as
the sender. -/
def Arrival.KeepsAnswer (this : Arrival) (network : Network) : Prop :=
  this.unbatched network = network this.callRequest.request (effectiveTag this.blockTag)

/-- A caller whose request has nothing but a target and data keeps its answer. -/
theorem Arrival.keepsAnswer_of_request {this : Arrival}
    (h : this.request = this.callRequest.request) (network : Network) :
    this.KeepsAnswer network :=
  congrArg (network · (effectiveTag this.blockTag)) h

/-- Every caller of a batch is rejected. -/
def Rejected (numbers : List Nat) (settled : List (Nat × Settlement)) : Prop :=
  ∀ number ∈ numbers, ∃ reason, (number, .error reason) ∈ settled

/-- Every caller of a batch resolves, those that keep their answers with what the base provider
answers them. -/
def Resolved (callers : List Arrival) (network : Network) (numbers : List Nat)
    (settled : List (Nat × Settlement)) : Prop :=
  ∀ number ∈ numbers, ∃ arrival result, callers[number]? = some arrival ∧
    (arrival.KeepsAnswer network → arrival.unbatched network = .ok result) ∧
    (number, .ok (some result)) ∈ settled

/-- The callers of a batch are rejected or resolve together. They resolve if all of them would
succeed on the base provider with what a batch keeps of them, and are rejected if one of them cannot
be encoded. -/
structure SharesFate (callers : List Arrival) (network : Network) (numbers : List Nat)
    (settled : List (Nat × Settlement)) : Prop where
  together : Rejected numbers settled ∨ Resolved callers network numbers settled
  resolved : (∀ number ∈ numbers, ∃ arrival result, callers[number]? = some arrival ∧
    arrival.callRequest.encodable = true ∧ arrival.KeepsAnswer network ∧
      arrival.unbatched network = .ok result) → Resolved callers network numbers settled
  refused : (∃ number ∈ numbers, ∃ arrival, callers[number]? = some arrival ∧
    arrival.callRequest.encodable = false) → Rejected numbers settled

section Fate

variable {multicall : Multicall} {callers : List Arrival} {dispatched : List BatchedCalls}
  {sent : SentCall} {numbers : List Nat} {network : Network}
  {settled : List (Nat × Settlement)}

/-- A caller that keeps its answer and fails on the base provider fails the whole batch. -/
theorem SharesFate.rejected (h : SharesFate callers network numbers settled) {failing : Nat}
    (hfailing : failing ∈ numbers) {arrival : Arrival} (harrival : callers[failing]? = some arrival)
    (hkeeps : arrival.KeepsAnswer network) {reason : String}
    (hfails : arrival.unbatched network = .error reason) : Rejected numbers settled := by
  refine h.together.resolve_right fun hresolved => ?_
  obtain ⟨same, result, hsame, hsucceeds, _⟩ := hresolved failing hfailing
  rw [harrival] at hsame
  cases hsame
  rw [hsucceeds hkeeps] at hfails
  cases hfails

/-- Related lists relate each element of the second to one of the first. -/
theorem exists_mem_of_forall₂ {α β : Type} {R : α → β → Prop} {first : List α} {second : List β}
    (h : List.Forall₂ R first second) {b : β} (hb : b ∈ second) : ∃ a ∈ first, R a b := by
  induction h with
  | nil => cases hb
  | cons hfirst _ ih =>
      rcases List.mem_cons.mp hb with rfl | hrest
      · exact ⟨_, List.mem_cons_self, hfirst⟩
      · obtain ⟨a, ha, hrelated⟩ := ih hrest
        exact ⟨a, List.mem_cons_of_mem _ ha, hrelated⟩

/-- A caller with a related result settles with it. -/
theorem exists_settled_of_forall₂ {R : Nat → Text → Prop} {results : List Text}
    (h : List.Forall₂ R numbers results) {number : Nat} (hnumber : number ∈ numbers) :
    ∃ result, R number result ∧ (number, (.ok (some result) : Settlement)) ∈
      List.zipWith (fun number result => (number, .ok (some result))) numbers results := by
  induction h with
  | nil => cases hnumber
  | cons hfirst _ ih =>
      rw [List.zipWith_cons_cons]
      rcases List.mem_cons.mp hnumber with rfl | hrest
      · exact ⟨_, hfirst, List.mem_cons_self⟩
      · obtain ⟨result, hrelated, hmem⟩ := ih hrest
        exact ⟨result, hrelated, List.mem_cons_of_mem _ hmem⟩

/-- Results of the callers' own targets and data resolve them. -/
theorem resolved_of_forall₂ {results : List Text}
    (hown : List.Forall₂ (fun number result => ∃ arrival, callers[number]? = some arrival ∧
      network arrival.callRequest.request (effectiveTag arrival.blockTag) = .ok result)
      numbers results) :
    Resolved callers network numbers
      (List.zipWith (fun number result => (number, .ok (some result))) numbers results) := by
  intro number hnumber
  obtain ⟨result, ⟨arrival, harrival, hresult⟩, hmem⟩ := exists_settled_of_forall₂ hown hnumber
  exact ⟨arrival, result, harrival, fun hkeeps => hkeeps.trans hresult, hmem⟩

/-- The callers of an aggregated batch share their fate. -/
theorem sharesFate_aggregate {batch : BatchedCalls} (hholds : batch.Holds callers numbers)
    (hnetwork : AggregatesAll multicall network) :
    SharesFate callers network numbers (SentCall.settle multicall
      ⟨multicall.aggregate batch.calls, batch.blockTag,
        .promise (.aggregate batch.callbacks)⟩ network) := by
  rcases settle_aggregate_batch hholds hnetwork.answers with
    ⟨reason, hanswer, hsettled⟩ | ⟨data, results, hanswer, hsettled, hown⟩
  · rw [hsettled]
    have hrejected : Rejected numbers (numbers.map fun number => (number, .error reason)) :=
      fun number hnumber => ⟨reason, List.mem_map_of_mem hnumber⟩
    constructor
    case together => exact .inl hrejected
    case resolved =>
      intro hall
      have hcall (call : CallRequest) (hmem : call ∈ batch.calls) : call.encodable = true ∧
          ∃ result, network call.request (effectiveTag batch.blockTag) = .ok result := by
        obtain ⟨number, hnumber, arrival, harrival, rfl, htag⟩ :=
          exists_mem_of_forall₂ hholds.calls hmem
        obtain ⟨same, result, hsame, hencodable, hkeeps, hsucceeds⟩ := hall number hnumber
        rw [harrival] at hsame
        cases hsame
        exact ⟨hencodable, result, htag ▸ hkeeps.symm.trans hsucceeds⟩
      obtain ⟨data, hdata⟩ := hnetwork.succeeds _ (effectiveTag batch.blockTag)
        (fun call hmem => (hcall call hmem).1) fun call hmem => (hcall call hmem).2
      rw [hdata] at hanswer
      cases hanswer
    case refused => exact fun _ => hrejected
  · rw [hsettled]
    constructor
    case together => exact .inr (resolved_of_forall₂ hown)
    case resolved => exact fun _ => resolved_of_forall₂ hown
    case refused =>
      rintro ⟨number, hnumber, arrival, harrival, hencodable⟩
      obtain ⟨call, hcall, same, hsame, rfl, _⟩ := exists_mem_of_forall₂ hholds.calls.flip hnumber
      rw [harrival] at hsame
      cases hsame
      obtain ⟨reason, hreason⟩ := hnetwork.refuses _ (effectiveTag batch.blockTag)
        ⟨_, hcall, hencodable⟩
      rw [hreason] at hanswer
      cases hanswer

/-- What is sent for one caller settles it as on the base provider, if it is sent whole or keeps its
answer, and what is aggregated shares its fate. -/
theorem Carries.fate (h : Carries multicall callers dispatched sent numbers)
    (hnetwork : AggregatesAll multicall network) :
    (∃ number arrival, numbers = [number] ∧ callers[number]? = some arrival ∧
      (sent.request = arrival.request ∨ arrival.KeepsAnswer network →
        sent.settle multicall network = [(number, (arrival.unbatched network).map some)])) ∨
    SharesFate callers network numbers (sent.settle multicall network) := by
  cases h with
  | direct harrival => exact .inl ⟨_, _, rfl, harrival, fun _ => settle_direct _ _⟩
  | @single batch numbers call _ hholds hcalls =>
      obtain ⟨number, arrival, rfl, harrival, hsettled⟩ :=
        settle_single multicall network hholds hcalls
      have hcall : call = arrival.callRequest := by
        have hbatches := hholds.calls
        rw [hcalls] at hbatches
        obtain ⟨same, hsame, hcall, _⟩ := (List.forall₂_cons.mp hbatches).1
        rw [harrival] at hsame
        cases hsame
        exact hcall
      refine .inl ⟨number, arrival, rfl, harrival, fun hsame => ?_⟩
      have hkeeps : arrival.KeepsAnswer network := hsame.elim
        (fun hrequest => Arrival.keepsAnswer_of_request (hcall ▸ hrequest.symm) network) id
      rw [hsettled, hkeeps]
  | aggregate _ hholds => exact .inr (sharesFate_aggregate hholds hnetwork)

end Fate

namespace BatchedProvider

/-- A call that is sent directly or alone settles as it does on the base provider, and the callers
of a batch share their fate. -/
theorem callers_share_fate (multicall : Multicall) (events : List Event)
    (hnetworks : ∀ event ∈ events, event.Answers (AggregatesAll multicall)) :
    let final := EventRun.run (step multicall) initial events
    ∀ answer ∈ final.answered,
      (∃ number arrival, answer.1.callers = [number] ∧ final.callers[number]? = some arrival ∧
        (answer.1.request = arrival.request ∨ arrival.KeepsAnswer answer.2 →
          answer.1.settle multicall answer.2 =
            [(number, (arrival.unbatched answer.2).map some)])) ∨
      SharesFate final.callers answer.2 answer.1.callers (answer.1.settle multicall answer.2) := by
  intro final answer hanswer
  have hcarries := (routed_run multicall events).answered answer hanswer
  exact hcarries.fate (answered_run hnetworks answer hanswer)

end BatchedProvider

theorem aggregatesAll_identityNetwork : AggregatesAll markedMulticall identityNetwork where
  answers := answersInOrder_identityNetwork
  succeeds calls blockTag hencodable hcalls := by
    refine ⟨_, if_neg fun hmem => ?_⟩
    obtain ⟨call, hcall, hfails⟩ := (mem_aggregate_iff calls).mp hmem
    obtain ⟨result, hresult⟩ := hcalls call hcall
    rw [CallRequest.text, if_pos (hencodable call hcall)] at hfails
    have hreverts : 'r' ∈ hexText call.request.data := hfails
    rw [identityNetwork, if_pos hreverts] at hresult
    cases hresult
  refuses calls blockTag := by
    rintro ⟨call, hcall, hencodable⟩
    refine ⟨_, if_pos ((mem_aggregate_iff calls).mpr ⟨call, hcall, ?_⟩)⟩
    rw [CallRequest.text, hencodable]
    exact List.mem_singleton.mpr rfl

/-- The network of the identity contract, but for calls with a sender, which return it. -/
def senderNetwork : Network := fun request blockTag =>
  match request.from with
  | some sender => .ok sender.toList
  | none => identityNetwork request blockTag

theorem aggregatesAll_senderNetwork : AggregatesAll markedMulticall senderNetwork where
  answers := aggregatesAll_identityNetwork.answers
  succeeds := aggregatesAll_identityNetwork.succeeds
  refuses := aggregatesAll_identityNetwork.refuses

namespace BatchedProvider

/-- A call that succeeds and one that reverts share a batch. -/
def revertingBatch : List Event :=
  [.called 0 (identityRequest 'a') none, .called 1 (identityRequest 'r') none, .resolved 0,
    .resolved 0, .timeout 1 11, .resolved 0, .answered 0 identityNetwork]

/-- The call of the base provider that carries both. -/
def revertingAggregate : SentCall :=
  ⟨markedMulticall.aggregate [⟨(identityRequest 'a').to, (identityRequest 'a').data⟩,
    ⟨(identityRequest 'r').to, (identityRequest 'r').data⟩], none,
    .promise (.aggregate [.caller 0, .caller 1])⟩

/-- One caller would fail, so both are rejected. -/
theorem callers_share_fate_reverting :
    let final := EventRun.run (step markedMulticall) initial revertingBatch
    Rejected [0, 1] final.settled := by
  have hanswer : (revertingAggregate, identityNetwork) ∈
      (EventRun.run (step markedMulticall) initial revertingBatch).answered :=
    List.mem_singleton.mpr rfl
  rcases callers_share_fate markedMulticall revertingBatch
      (by simp [revertingBatch, Event.Answers, aggregatesAll_identityNetwork]) _ hanswer with
    ⟨_, _, hsingle, _⟩ | hfate
  · cases hsingle
  · have hkeeps : (Arrival.mk (identityRequest 'r') none).KeepsAnswer identityNetwork :=
      Arrival.keepsAnswer_of_request rfl _
    exact hfate.rejected (List.mem_cons_of_mem 0 (List.mem_singleton.mpr rfl)) rfl hkeeps rfl

/-- A call whose result is its sender is alone in its batch. -/
def sentAlone : List Event :=
  [.called 0 { identityRequest 'a' with «from» := some "0xb" } none, .resolved 0, .timeout 0 10,
    .answered 0 senderNetwork]

/-- The first call of the batch is rejected, although it succeeds on the base provider; and a call
with a sender resolves with another result than there. -/
theorem rejected_with_batch :
    let shared := EventRun.run (step markedMulticall) initial revertingBatch
    let alone := EventRun.run (step markedMulticall) initial sentAlone
    (AggregatesAll markedMulticall identityNetwork ∧
      shared.callers[0]? = some ⟨identityRequest 'a', none⟩ ∧
      (Arrival.mk (identityRequest 'a') none).unbatched identityNetwork = .ok ['a'] ∧
      shared.settled =
        [(0, .error "call revert exception"), (1, .error "call revert exception")]) ∧
    AggregatesAll markedMulticall senderNetwork ∧
      ∃ arrival, alone.callers[0]? = some arrival ∧
        arrival.unbatched senderNetwork = .ok ['0', 'x', 'b'] ∧
        alone.settled = [(0, .ok (some ['a']))] :=
  ⟨⟨aggregatesAll_identityNetwork, rfl, rfl, rfl⟩, aggregatesAll_senderNetwork, _, rfl, rfl, rfl⟩

end BatchedProvider

end HLiquity
