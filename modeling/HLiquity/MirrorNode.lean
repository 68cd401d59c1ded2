import HLiquity.Chain
import Mathlib.Data.Rat.Init

/-!
# The mirror node

The mirror node answers queries for the logs of a contract and for accounts. Timestamps are
exact. A request may be rejected, and its response may come without data.
-/

namespace HLiquity

/-- Where, when and about what a contract logged. -/
structure LogPosition where
  address : String
  topics : Option (List String)
  timestamp : Option ℚ
  deriving DecidableEq

/-- A log of a contract. -/
structure MirrorLog extends LogPosition where
  data : Option String
  deriving DecidableEq

/-- One of the conditions on timestamps that a query makes. -/
inductive TimestampFilter where
  | eq (timestamp : ℚ)
  | gt (timestamp : ℚ)
  | lt (timestamp : ℚ)
  deriving DecidableEq

inductive LogOrder where
  | asc
  | desc
  deriving DecidableEq, Repr

/-- `GET /api/v1/contracts/\x7bcontractIdOrAddress\x7d/results/logs` -/
structure LogQuery where
  contractIdOrAddress : String
  timestamp : List TimestampFilter
  topic0 : Option String
  topic1 : Option String
  limit : Option Nat
  order : Option LogOrder

/-- The client. A request is rejected (`none`) or has a response, with data or without. -/
structure MirrorNodeClient where
  logs : LogQuery → Option (Option (List MirrorLog))
  account : String → Option (Option String)

/-- A state of a trove. -/
structure TroveState where
  debt : Decimal
  collateral : Decimal
  deriving DecidableEq, Repr

structure ParsedTroveLog where
  borrower : String
  debt : Decimal
  collateral : Decimal
  operation : Nat
  deriving DecidableEq, Repr

def ParsedTroveLog.state (parsed : ParsedTroveLog) : TroveState := ⟨parsed.debt, parsed.collateral⟩

/-- A log that the interface of the trove manager parses. -/
inductive LogDescription where
  | troveUpdated (borrower : String) (debt coll operation : Nat)
  | other (name : String)
  deriving DecidableEq, Repr

/-- What `troveManagerInterface.parseLog` makes of topics and data, unless it throws. -/
abbrev ParseLog : Type := List String → String → Option LogDescription

def parseTroveLog (parseLog : ParseLog) (log : MirrorLog) : Option ParsedTroveLog :=
  match parseLog (log.topics.getD []) (log.data.getD "0x") with
  | none | some (.other _) => none
  | some (.troveUpdated borrower debt coll operation) =>
      some
        { borrower := borrower
          debt := .fromBigNumberStringWithPrecision debt 8
          collateral := .fromBigNumberStringWithPrecision coll 8
          operation := operation }

/-- The time of a log, zero if it has no timestamp. -/
def LogPosition.time (position : LogPosition) : ℚ := position.timestamp.getD 0

def LogPosition.topic (position : LogPosition) (index : Nat) : Option String :=
  (position.topics.getD [])[index]?

def TimestampFilter.holds (time : ℚ) : TimestampFilter → Bool
  | .eq timestamp => decide (time = timestamp)
  | .gt timestamp => decide (timestamp < time)
  | .lt timestamp => decide (time < timestamp)

def LogQuery.selects (query : LogQuery) (position : LogPosition) : Bool :=
  position.address == query.contractIdOrAddress &&
    query.timestamp.all (TimestampFilter.holds position.time) &&
    query.topic0.all (fun topic => position.topic 0 == some topic) &&
    query.topic1.all (fun topic => position.topic 1 == some topic)

/-- A node that holds a chain of logs answers with those that a query selects, the newest first
unless it is asked otherwise, up to the limit. -/
def mirrorNode (account : String → Option (Option String)) (chain : List MirrorLog) :
    MirrorNodeClient where
  logs := fun query =>
    let selected := chain.filter fun log => query.selects log.toLogPosition
    let ordered := if query.order = some .asc then selected else selected.reverse
    some (some (ordered.take (query.limit.getD 25)))
  account := account

end HLiquity
