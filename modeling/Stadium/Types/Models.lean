import Mathlib

/-!
# Shared domain types

The records of `types/models.ts`. Enumerations are inductive types; numbers
are exact (`ℚ` for measured quantities, `ℤ` for scores, which the forecaster
always rounds, and for instants in milliseconds). Times that the source keeps
as ISO 8601 text stay text.

A `SignalEvent` has no separate `source` field: the schema ties the source to
the shape of the payload, so the source is read off the payload. Its `gateId`
is never the empty string (the schema's `min(1)`), and the record carries
that fact.
-/

namespace Stadium

abbrev GateId := String
abbrev RouteId := String
abbrev FanId := String

structure Gate where
  gateId : GateId
  name : String
  capacityThreshold : ℚ
  assignedRouteIds : List RouteId
  deriving DecidableEq

structure ShuttleRoute where
  routeId : RouteId
  deriving DecidableEq

inductive SignalSource where
  | gateCounter
  | ticketScanner
  | transitFeed
  deriving DecidableEq, Repr

def SignalSource.text : SignalSource → String
  | .gateCounter => "GATE_COUNTER"
  | .ticketScanner => "TICKET_SCANNER"
  | .transitFeed => "TRANSIT_FEED"

/-- The three payload shapes, one for each source. -/
inductive SignalEventPayloadBody where
  | gateCounter (count intervalSeconds : ℚ)
  | ticketScan (fanId : FanId)
  | transitArrival (estimatedPassengerCount : ℚ) (destinationGateId : Option GateId)
      (destinationRouteId : Option RouteId) (fanIds : Option (List FanId))
  deriving DecidableEq

structure SignalEvent where
  signalId : String
  gateId : Option GateId
  routeId : Option RouteId
  /-- Event-reported time, ISO 8601. -/
  timestamp : String
  /-- Ingestion receipt time, ISO 8601. -/
  receivedAt : String
  payload : SignalEventPayloadBody
  isStale : Bool
  lateArrivalFlag : Bool
  gateId_nonempty : gateId ≠ some "" := by decide
  deriving DecidableEq

/-- The source that reports events of this shape. -/
def SignalEvent.source (event : SignalEvent) : SignalSource :=
  match event.payload with
  | .gateCounter .. => .gateCounter
  | .ticketScan .. => .ticketScanner
  | .transitArrival .. => .transitFeed

/-- The gate a transit arrival is heading for. -/
def SignalEvent.destinationGateId (event : SignalEvent) : Option GateId :=
  match event.payload with
  | .transitArrival _ destinationGateId _ _ => destinationGateId
  | _ => none

inductive RiskLevel where
  | low
  | moderate
  | high
  | critical
  deriving DecidableEq, Repr

structure CongestionScorePoint where
  gateId : GateId
  forecastTime : String
  offsetMinutes : ℕ
  score : ℤ
  riskLevel : RiskLevel
  lowConfidence : Bool
  outdated : Bool
  deriving DecidableEq

inductive ActionType where
  | openGateLane
  | redirectShuttleRoute
  | holdTransitArrival
  | fanNudgeCampaign
  deriving DecidableEq, Repr

structure RecommendedAction where
  actionId : String
  gateId : GateId
  actionType : ActionType
  actionRank : ℕ
  explanation : String
  generatedAt : String
  executedAt : Option String := none
  executedByUserId : Option String := none
  deriving DecidableEq

inductive RedirectionStatus where
  | pending
  | accepted
  | rejected
  deriving DecidableEq

structure ShuttleRedirectionRecommendation where
  recommendationId : String
  routeId : RouteId
  originGateId : GateId
  alternativeGateId : GateId
  explanation : String
  generatedAt : String
  status : RedirectionStatus
  acceptedAt : Option String := none
  acceptedByDispatcherId : Option String := none
  rejectedAt : Option String := none
  rejectedByDispatcherId : Option String := none
  deriving DecidableEq

inductive NudgeStatus where
  | queued
  | simulatedDelivered
  | cancelled
  deriving DecidableEq

structure FanNudge where
  nudgeId : String
  fanId : FanId
  originGateId : GateId
  alternativeGateId : Option GateId
  alternativeArrivalTime : Option String
  message : String
  generatedAt : String
  status : NudgeStatus
  simulatedDeliveryTimestamp : Option String := none
  deriving DecidableEq

inductive AlertType where
  | riskLevel
  | dataQuality
  deriving DecidableEq

/-- An alert. Its id is drawn from `randomUUID`; the model numbers the ids in
the order they are drawn, since only their distinctness matters. -/
structure Alert where
  alertId : ℕ
  gateId : GateId
  alertType : AlertType
  raisedAt : String
  riskLevel : Option RiskLevel
  affectedSources : Option (List SignalSource) := none
  deriving DecidableEq

/-- What a forecast returns: the score series and its confidence flag. -/
structure ForecastResult where
  scores : List CongestionScorePoint
  lowConfidence : Bool
  deriving DecidableEq

/-- The truthiness test on an optional id: absent and empty are both falsy. -/
def truthy (id : Option String) : Option String :=
  id.filter (· ≠ "")

/-- The gate id of an event, when it has one, passes the truthiness test. -/
@[simp] theorem SignalEvent.truthy_gateId (event : SignalEvent) :
    truthy event.gateId = event.gateId := by
  unfold truthy
  cases known : event.gateId with
  | none => rfl
  | some id =>
      have nonempty : id ≠ "" := fun empty => event.gateId_nonempty (by rw [known, empty])
      simp [Option.filter, nonempty]

end Stadium
