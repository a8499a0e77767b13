import Stadium.CongestionForecaster.Fallback
import Stadium.FanNotificationSystem.Nudges
import Stadium.Infra.RedisClient
import Stadium.OpsDashboard.Alerts
import Stadium.RecommendationEngine.Recommendations
import Stadium.ShuttleRedirectionAdvisor.Redirections
import Stadium.SignalIngestion.Timing

/-!
# The pipeline's shared state

What `wirePipeline` closes over, grouped by the subsystem that writes it, and
the code that runs on it without suspension. The lists `delivered`,
`computed`, `published`, `stored`, `enqueued` and `executed` are history: no
code reads them.
-/

namespace Stadium

structure PipelineDependencies where
  gates : List Gate
  routes : List ShuttleRoute
  /-- `String.prototype.localeCompare` of the running process. -/
  localeCompare : String → String → Ordering
  /-- The thresholds of the ingestion service in front of the bus. -/
  timingConfig : TimingConfig := defaultTimingConfig

/-- `new Map(gates.map((g) => [g.gateId, g]))`. -/
def PipelineDependencies.gatesById (deps : PipelineDependencies) : OrderedMap GateId Gate :=
  .ofList (deps.gates.map fun gate => (gate.gateId, gate))

theorem PipelineDependencies.gateId_of_get? {deps : PipelineDependencies} {gateId : GateId}
    {gate : Gate} (h : deps.gatesById.get? gateId = some gate) : gate.gateId = gateId := by
  obtain ⟨listed, -, same⟩ := List.mem_map.mp (OrderedMap.mem_of_get?_ofList h)
  cases same
  rfl

/-- The gate an event is routed to. -/
theorem PipelineDependencies.gate_of_routed {deps : PipelineDependencies} {event : SignalEvent}
    {gateId : GateId} (own : event.gateId = some gateId)
    (routed : deps.gatesById.get? gateId ≠ none) :
    ∃ gate, deps.gatesById.get? gateId = some gate ∧ gate.gateId = gateId ∧ gateId ≠ "" := by
  obtain ⟨gate, configured⟩ := Option.ne_none_iff_exists'.mp routed
  refine ⟨gate, configured, PipelineDependencies.gateId_of_get? configured, ?_⟩
  intro empty
  exact event.gateId_nonempty (by rw [own, empty])

/-! ## Signal intake -/

structure IntakeState where
  clock : ℤ
  signalWindowByGate : OrderedMap GateId (List SignalEvent) := ∅
  fansByGate : OrderedMap GateId (OrderedMap FanId FanContext) := ∅
  /-- Every event delivered on `signal-events`, in order. -/
  delivered : List SignalEvent := []

def signalWindowRetentionMs : ℤ := 10 * 60 * 1000

namespace IntakeState

/-- `signalWindowByGate.get(gateId) ?? []`. -/
def getWindowForGate (s : IntakeState) (gateId : GateId) : List SignalEvent :=
  (s.signalWindowByGate.get? gateId).getD []

/-- The event is young enough to stay in the window. -/
def retained (now : ℤ) (event : SignalEvent) : Bool :=
  event.time.any fun time => decide (now - signalWindowRetentionMs ≤ time)

def appendToWindow (s : IntakeState) (gateId : GateId) (event : SignalEvent) (now : ℤ) :
    IntakeState :=
  let pruned := (s.getWindowForGate gateId).filter (retained now)
  { s with signalWindowByGate := s.signalWindowByGate.set gateId (pruned ++ [event]) }

/-- Record a fan as heading for a gate. -/
def addFan (fansByGate : OrderedMap GateId (OrderedMap FanId FanContext)) (gateId : GateId)
    (fanIds : List FanId) : OrderedMap GateId (OrderedMap FanId FanContext) :=
  fansByGate.set gateId
    (fanIds.foldl (fun fanMap fanId => fanMap.set fanId { fanId })
      ((fansByGate.get? gateId).getD ∅))

def trackFansForEvent (s : IntakeState) (event : SignalEvent) : IntakeState :=
  match event.payload with
  | .gateCounter .. => s
  | .ticketScan fanId =>
      match truthy event.gateId with
      | some gateId => { s with fansByGate := addFan s.fansByGate gateId [fanId] }
      | none => s
  | .transitArrival _ destinationGateId _ fanIds =>
      match truthy destinationGateId, fanIds with
      | some gateId, some fanIds => { s with fansByGate := addFan s.fansByGate gateId fanIds }
      | _, _ => s

/-- What the `signal-events` subscriber does before its first suspension,
short of triggering the recompute. -/
def onSignalEvent (s : IntakeState) (event : SignalEvent) : IntakeState :=
  let now := s.clock
  let s := { s.trackFansForEvent event with delivered := s.delivered ++ [event] }
  match truthy event.gateId with
  | none => s
  | some gateId => s.appendToWindow gateId event now

end IntakeState

/-! ## Forecasts, alerts, actions, redirections, nudges -/

/-- One run of `computeForecast` by the scheduler. -/
structure Computation where
  gate : Gate
  window : List SignalEvent
  now : ℤ
  result : ForecastResult

/-- A message on `congestion-scores`. -/
structure CongestionScoreMessage where
  gate : Gate
  result : ForecastResult

structure ForecastState where
  forecastStore : OrderedMap GateId (List CongestionScorePoint) := ∅
  gateScoreSource : OrderedMap GateId CongestionScorePoint := ∅
  forecastsByGate : OrderedMap GateId ForecastResult := ∅
  /-- Every computation of the scheduler, in the order they were made. -/
  computed : List Computation := []
  /-- Every message published on `congestion-scores`, in order. -/
  published : List CongestionScoreMessage := []

structure AlertState where
  previousRiskLevelByGate : OrderedMap GateId RiskLevel := ∅
  alertStore : OrderedMap ℕ Alert := ∅
  /-- The next id `randomUUID` returns. -/
  nextAlertId : ℕ := 0

structure ActionState where
  activeActionsStore : OrderedMap GateId (List RecommendedAction) := ∅
  activeActionsSource : OrderedMap GateId (List RecommendedAction) := ∅
  /-- Every record an `executeAction` call returned. -/
  executed : List RecommendedAction := []

structure RedirectionState where
  redirectionStore : OrderedMap RouteId (List ShuttleRedirectionRecommendation) := ∅
  recentRejections : List RejectionRecord := []
  /-- Every recommendation passed to `updateRecommendation`, in order. -/
  stored : List ShuttleRedirectionRecommendation := []

/-- The rejections the server hands to the pipeline at `clock`. -/
def RedirectionState.getRecentRejections (s : RedirectionState) (clock : ℤ) :
    List RejectionRecord :=
  let cutoff := clock - rejectionSuppressionMs
  s.recentRejections.filter fun rejection =>
    (IsoDate.parse rejection.rejectedAt).any fun rejectedAtMs => decide (cutoff ≤ rejectedAtMs)

structure NudgeState where
  queuedNudgeStore : OrderedMap String FanNudge := ∅
  /-- The outcomes the audit sink has recorded, in order. -/
  nudgeAuditQuery : List FanNudge := []
  /-- Every nudge passed to `enqueue`, in order. -/
  enqueued : List FanNudge := []

/-- One audited score. The flags are an object keyed by signal id. -/
structure ScoreAuditRecord where
  gateId : GateId
  timestamp : String
  score : ℤ
  riskLevel : RiskLevel
  contributingSignalIds : List String
  contributingSignalLateArrivalFlags : OrderedMap String Bool

structure AuditState where
  signalEvents : List SignalEvent := []
  scores : List ScoreAuditRecord := []
  actions : OrderedMap String RecommendedAction := ∅
  shuttleRecommendations : List ShuttleRedirectionRecommendation := []
  nudges : OrderedMap String FanNudge := ∅

structure DataQualityState where
  /-- The gates last found with all sources degraded. -/
  degradedSources : List GateId := []

structure PipelineState where
  intake : IntakeState
  redis : RedisState := {}
  forecasts : ForecastState := {}
  alerts : AlertState := {}
  actions : ActionState := {}
  redirections : RedirectionState := {}
  nudges : NudgeState := {}
  audit : AuditState := {}
  dataQuality : DataQualityState := {}

/-- The pipeline just wired, with the clock at `startedAt`. -/
def PipelineState.wired (startedAt : ℤ) : PipelineState where
  intake := { clock := startedAt }

/-- `previousRiskLevelByGate.get(gateId) ?? "LOW"`. -/
def AlertState.previousRiskLevel (s : AlertState) (gateId : GateId) : RiskLevel :=
  (s.previousRiskLevelByGate.get? gateId).getD .low

/-- `raiseRiskLevelAlertIfTransitioned` up to its suspension: the alert, if
one is due, has been added. -/
def AlertState.raiseRiskLevelAlertIfTransitioned (s : AlertState) (gateId : GateId)
    (previousRiskLevel newRiskLevel : RiskLevel) (now : ℤ) : AlertState :=
  match checkRiskLevelTransition s.nextAlertId gateId previousRiskLevel newRiskLevel now with
  | none => s
  | some alert =>
      { s with
        alertStore := s.alertStore.set alert.alertId alert
        nextAlertId := s.nextAlertId + 1 }

/-- `getActiveActions`. -/
def ActionState.getActiveActions (s : ActionState) (gateId : GateId) : List RecommendedAction :=
  (s.activeActionsStore.get? gateId).getD []

def ActionState.setActiveActions (s : ActionState) (gateId : GateId)
    (actions : List RecommendedAction) : ActionState :=
  { s with activeActionsStore := s.activeActionsStore.set gateId actions }

theorem ActionState.getActiveActions_set (s : ActionState) (target gateId : GateId)
    (actions : List RecommendedAction) :
    (s.setActiveActions target actions).getActiveActions gateId =
      if gateId = target then actions else s.getActiveActions gateId := by
  unfold getActiveActions setActiveActions
  rw [OrderedMap.get?_set]
  split <;> rfl

/-- `getActiveRecommendations` on the store. -/
def RedirectionState.getActiveRecommendations (s : RedirectionState) (routeId : RouteId) :
    List ShuttleRedirectionRecommendation :=
  (s.redirectionStore.get? routeId).getD []

/-- `updateRecommendation` on the store. -/
def RedirectionState.updateRecommendation (s : RedirectionState)
    (recommendation : ShuttleRedirectionRecommendation) : RedirectionState :=
  let existing := (s.redirectionStore.get? recommendation.routeId).getD []
  { s with
    redirectionStore := s.redirectionStore.set recommendation.routeId
      (Stadium.updateRecommendation recommendation existing)
    stored := s.stored ++ [recommendation] }

/-- `enqueue` on the queued nudge store. -/
def NudgeState.enqueue (s : NudgeState) (nudge : FanNudge) : NudgeState :=
  { s with
    queuedNudgeStore := s.queuedNudgeStore.set nudge.nudgeId nudge
    enqueued := s.enqueued ++ [nudge] }

/-- The record the audit subscriber of `congestion-scores` writes. `Object.fromEntries`
keeps the last of several flags under one id. -/
def scoreAuditOf (gate : Gate) (currentPoint : CongestionScorePoint)
    (window : List SignalEvent) : ScoreAuditRecord where
  gateId := gate.gateId
  timestamp := currentPoint.forecastTime
  score := currentPoint.score
  riskLevel := currentPoint.riskLevel
  contributingSignalIds := window.map (·.signalId)
  contributingSignalLateArrivalFlags :=
    .ofList (window.map fun e => (e.signalId, e.lateArrivalFlag))

end Stadium
