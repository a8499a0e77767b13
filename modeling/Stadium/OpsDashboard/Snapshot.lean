import Stadium.Pipeline.State

/-!
# The dashboard snapshot

`snapshot.ts` over the server's in-memory sources: all three are read when the
snapshot of a gate is asked for.
-/

namespace Stadium

structure GateSnapshot where
  gateId : GateId
  score : ℤ
  riskLevel : RiskLevel
  lowConfidence : Bool
  outdated : Bool
  dataQualityIndicator : Bool
  activeActions : List RecommendedAction

/-- `MockDataQualitySource.hasDegradedSource`. -/
def DataQualityState.hasDegradedSource (s : DataQualityState) (gateId : GateId) : Bool :=
  gateId ∈ s.degradedSources

/-- The snapshot of one gate. -/
def PipelineState.gateSnapshot (s : PipelineState) (gateId : GateId) : GateSnapshot :=
  let scorePoint := s.forecasts.gateScoreSource.get? gateId
  { gateId
    score := (scorePoint.map (·.score)).getD 0
    riskLevel := (scorePoint.map (·.riskLevel)).getD .low
    lowConfidence := (scorePoint.map (·.lowConfidence)).getD false
    outdated := (scorePoint.map (·.outdated)).getD false
    dataQualityIndicator := s.dataQuality.hasDegradedSource gateId
    activeActions := (s.actions.activeActionsSource.get? gateId).getD [] }

/-- `DashboardSnapshotService.getSnapshot`. -/
def PipelineState.getSnapshot (s : PipelineState) (gateIds : List GateId) : List GateSnapshot :=
  gateIds.map s.gateSnapshot

end Stadium
