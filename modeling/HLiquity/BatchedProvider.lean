import HLiquity.DecimalText
import HLiquity.Library.EventRun

/-!
# The batched provider

Calls that arrive within a short delay are sent as one call of a contract that
aggregates them. A call suspends once, until its arguments are resolved, and the
call that it sends suspends until the network answers it, so a step of the
system runs from one of these points to the next. The aggregating call is made
on the provider itself and is recognized by its selector.
-/

namespace HLiquity

/-- The `BlockTag` of a call, where a number may count back from the latest block. -/
inductive CallBlockTag where
  | number (number : Int)
  | name (name : String)
  deriving DecidableEq, Repr

/-- `blockTag ?? "latest"` -/
def effectiveTag (blockTag : Option CallBlockTag) : CallBlockTag := blockTag.getD (.name "latest")

/-- `BytesLike` -/
inductive BytesLike where
  | hexString (text : Text)
  | bytes (bytes : List Nat)
  deriving DecidableEq, Repr

structure ResolvedTransactionRequest where
  «to» : Option String
  «from» : Option String
  nonce : Option Int
  gasLimit : Option Int
  gasPrice : Option Int
  data : Option BytesLike
  value : Option Int
  chainId : Option Int
  deriving DecidableEq, Repr

/-- A request with a target and data only. -/
def ResolvedTransactionRequest.of («to» : Option String) (data : Option BytesLike) :
    ResolvedTransactionRequest :=
  ⟨«to», none, none, none, none, data, none, none⟩

structure CallRequest where
  target : Option String
  callData : Option BytesLike
  deriving DecidableEq, Repr

/-- A call request sent on its own. -/
def CallRequest.request (this : CallRequest) : ResolvedTransactionRequest :=
  .of this.target this.callData

/-- The call has an address and bytes, as the arguments of `aggregate` need. -/
def CallRequest.encodable (this : CallRequest) : Bool := this.target.isSome && this.callData.isSome

/-- The signature of `aggregate((address,bytes)[])`. -/
def aggregateSelector : Text := ['0', 'x', '2', '5', '2', 'd', 'b', 'a', '4', '2']

/-- The multicall contract: its address, how a call of `aggregate` is encoded, and how
the `returnData` of its answer is decoded. -/
structure Multicall where
  address : String
  encode : List CallRequest → Text
  returnData : Text → Except String (List Text)
  selector : ∀ calls, aggregateSelector.isPrefixOf (encode calls) = true

/-- The request of a call of `aggregate`. -/
def Multicall.aggregate (this : Multicall) (calls : List CallRequest) :
    ResolvedTransactionRequest :=
  .of (some this.address) (some (.hexString (this.encode calls)))

def batchableCall (request : ResolvedTransactionRequest) : Bool :=
  request.gasLimit.isNone && request.gasPrice.isNone && request.value.isNone

def batchedCall (request : ResolvedTransactionRequest) (multicallAddress : String) : Bool :=
  request.to == some multicallAddress &&
    match request.data with
    | some (.hexString data) => aggregateSelector.isPrefixOf data
    | _ => false

@[simp] theorem batchedCall_aggregate (multicall : Multicall) (calls : List CallRequest) :
    batchedCall (multicall.aggregate calls) multicall.address = true := by
  simp [batchedCall, Multicall.aggregate, ResolvedTransactionRequest.of, multicall.selector]

/-- The promise of a call: that of a caller, numbered by arrival, or that of the provider
itself, which settles the callbacks of a batch. -/
inductive Promise where
  | caller (number : Nat)
  | aggregate (callbacks : List Promise)

/-- How a promise settles: with a value, which may be undefined, or with a reason. -/
abbrev Settlement := Except String (Option Text)

/-- The `returnData` of an aggregating call. -/
def Multicall.results (this : Multicall) (settlement : Settlement) : Except String (List Text) :=
  match settlement with
  | .ok (some data) => this.returnData data
  | .ok none => .error "call revert exception"
  | .error reason => .error reason

mutual

/-- The callers that settle with a promise. -/
def Promise.settle (multicall : Multicall) : Promise → Settlement → List (Nat × Settlement)
  | .caller number, settlement => [(number, settlement)]
  | .aggregate callbacks, settlement =>
      settleEach multicall callbacks (multicall.results settlement)

/-- Each callback resolves with the result at its place, or all reject. -/
def settleEach (multicall : Multicall) :
    List Promise → Except String (List Text) → List (Nat × Settlement)
  | [], _ => []
  | callback :: callbacks, .ok results =>
      callback.settle multicall (.ok results.head?) ++
        settleEach multicall callbacks (.ok results.tail)
  | callback :: callbacks, .error reason =>
      callback.settle multicall (.error reason) ++ settleEach multicall callbacks (.error reason)

end

structure BatchedCalls where
  calls : List CallRequest
  callbacks : List Promise
  blockTag : Option CallBlockTag

def emptyBatch : BatchedCalls := ⟨[], [], none⟩

/-- A call that waits for its arguments. -/
structure SuspendedCall where
  request : ResolvedTransactionRequest
  blockTag : Option CallBlockTag
  promise : Promise

/-- What the answer of the base provider settles. -/
inductive Reaction where
  | promise (promise : Promise)
  | callbacks (callbacks : List Promise)

/-- A call of the base provider. -/
structure SentCall where
  request : ResolvedTransactionRequest
  blockTag : Option CallBlockTag
  reaction : Reaction

/-- What the network answers to requests at the time of an answer. -/
abbrev Network := ResolvedTransactionRequest → CallBlockTag → Except String Text

/-- The callers that an answer settles. -/
def SentCall.settle (multicall : Multicall) (this : SentCall) (network : Network) :
    List (Nat × Settlement) :=
  let answer := network this.request (effectiveTag this.blockTag)
  match this.reaction with
  | .promise promise => promise.settle multicall (answer.map some)
  | .callbacks callbacks => settleEach multicall callbacks (answer.map fun result => [result])

/-- The arguments of a caller. -/
structure Arrival where
  request : ResolvedTransactionRequest
  blockTag : Option CallBlockTag
  deriving DecidableEq, Repr

/-- What a batch holds of a call. -/
def Arrival.callRequest (this : Arrival) : CallRequest := ⟨this.request.to, this.request.data⟩

/-- The provider with the timers, the suspended calls and the calls of the base provider
that it waits for, and the history of its callers, batches and answers. -/
structure BatchedProvider where
  timeoutId : Option Nat
  batched : BatchedCalls
  numberOfBatchedCalls : Nat
  numberOfActualCalls : Nat
  timeOfLastRatioCheck : Option Int
  timers : List Nat
  nextTimer : Nat
  suspended : List SuspendedCall
  inFlight : List SentCall
  callers : List Arrival
  dispatched : List BatchedCalls
  answered : List (SentCall × Network)
  settled : List (Nat × Settlement)

namespace BatchedProvider

def initial : BatchedProvider := ⟨none, emptyBatch, 0, 0, none, [], 0, [], [], [], [], [], []⟩

/-- The reset of the counters at the beginning of `call`. -/
def checkRatio (this : BatchedProvider) (now : Int) : BatchedProvider :=
  match this.timeOfLastRatioCheck with
  | none => { this with timeOfLastRatioCheck := some now }
  | some timeOfLastRatioCheck =>
      if now - timeOfLastRatioCheck ≥ 10000 ∧ this.numberOfActualCalls ≠ 0 then
        { this with
          numberOfBatchedCalls := 0
          numberOfActualCalls := 0
          timeOfLastRatioCheck := some now }
      else this

/-- `call` until its arguments are awaited. -/
def call (this : BatchedProvider) (now : Int) (request : ResolvedTransactionRequest)
    (blockTag : Option CallBlockTag) (promise : Promise) : BatchedProvider :=
  let this := this.checkRatio now
  { this with suspended := this.suspended ++ [⟨request, blockTag, promise⟩] }

/-- `_alreadyBatchedCallsConflictWith` -/
def alreadyBatchedCallsConflictWith (this : BatchedProvider) (blockTag : Option CallBlockTag) :
    Bool :=
  this.batched.calls.length != 0 && effectiveTag blockTag != effectiveTag this.batched.blockTag

/-- `_enqueueCall` -/
def enqueueCall (this : BatchedProvider) (call : CallRequest) (promise : Promise) :
    BatchedProvider :=
  let timers :=
    match this.timeoutId with
    | some timeoutId => this.timers.erase timeoutId
    | none => this.timers
  { this with
    batched := ⟨this.batched.calls ++ [call], this.batched.callbacks ++ [promise],
      this.batched.blockTag⟩
    timeoutId := some this.nextTimer
    timers := timers ++ [this.nextTimer]
    nextTimer := this.nextTimer + 1 }

/-- `call` once its arguments are resolved. -/
def resume (multicall : Multicall) (this : BatchedProvider) (resolved : SuspendedCall) :
    BatchedProvider :=
  if batchedCall resolved.request multicall.address || !batchableCall resolved.request ||
      this.alreadyBatchedCallsConflictWith resolved.blockTag then
    { this with
      numberOfActualCalls := this.numberOfActualCalls + 1
      inFlight := this.inFlight ++
        [⟨resolved.request, resolved.blockTag, .promise resolved.promise⟩] }
  else
    let blockTag :=
      if this.batched.calls.length = 0 then resolved.blockTag else this.batched.blockTag
    enqueueCall { this with
        numberOfBatchedCalls := this.numberOfBatchedCalls + 1
        batched := { this.batched with blockTag } }
      ⟨resolved.request.to, resolved.request.data⟩ resolved.promise

/-- `_dispatchCalls`. An empty batch would have no first call to send. -/
def dispatchCalls (multicall : Multicall) (this : BatchedProvider) (now : Int) :
    BatchedProvider :=
  let batch := this.batched
  let this := { this with batched := emptyBatch, dispatched := this.dispatched ++ [batch] }
  match batch.calls with
  | [] =>
      let reason := "Cannot read properties of undefined (reading 'target')"
      { this with settled := this.settled ++ settleEach multicall batch.callbacks (.error reason) }
  | [call] =>
      { this with
        inFlight := this.inFlight ++
          [⟨call.request, batch.blockTag, .callbacks batch.callbacks⟩] }
  | calls =>
      this.call now (multicall.aggregate calls) batch.blockTag (.aggregate batch.callbacks)

/-- An event: a caller arrives, the arguments of a suspended call are resolved, a timer
fires, or the base provider answers one of its calls. -/
inductive Event where
  | called (now : Int) (request : ResolvedTransactionRequest) (blockTag : Option CallBlockTag)
  | resolved (index : Nat)
  | timeout (timeoutId : Nat) (now : Int)
  | answered (index : Nat) (network : Network)

def step (multicall : Multicall) (this : BatchedProvider) : Event → BatchedProvider
  | .called now request blockTag =>
      call { this with callers := this.callers ++ [⟨request, blockTag⟩] } now request blockTag
        (.caller this.callers.length)
  | .resolved index =>
      match this.suspended[index]? with
      | none => this
      | some resolved =>
          resume multicall { this with suspended := this.suspended.eraseIdx index } resolved
  | .timeout timeoutId now =>
      if timeoutId ∈ this.timers then
        dispatchCalls multicall { this with timers := this.timers.erase timeoutId } now
      else this
  | .answered index network =>
      match this.inFlight[index]? with
      | none => this
      | some sent =>
          { this with
            inFlight := this.inFlight.eraseIdx index
            answered := this.answered ++ [(sent, network)]
            settled := this.settled ++ sent.settle multicall network }

end BatchedProvider

end HLiquity
