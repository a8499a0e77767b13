import Stadium.Lib.Composition
import Stadium.Pipeline.State
import Stadium.SignalIngestion.DegradedSource

/-!
# The data-quality check

`status.ts`, `data-quality-alerts.ts` and the interval of `pipeline.ts` that
runs them: for every gate the check reads the timers of its three sources
twice, once for the statuses it reports and once for the flag it sets, and
raises an alert if the statuses are all degraded. Redis answers the reads of
one gate in the order in which they were sent. A `DataQualityTask` is the check
of one gate at one of its suspensions.
-/

namespace Stadium

open Interleaving

def allSourceTypes : List SignalSource := [.gateCounter, .ticketScanner, .transitFeed]

structure SourceStatus where
  sourceType : SignalSource
  degraded : Bool
  deriving DecidableEq

def allDegraded (statuses : List SourceStatus) : Bool := statuses.all (·.degraded)

def buildDataQualityAlert (alertId : ℕ) (gateId : GateId) (affectedSources : List SignalSource)
    (now : ℤ) : Alert where
  alertId
  gateId
  alertType := .dataQuality
  raisedAt := IsoDate.toISOString now
  riskLevel := none
  affectedSources := some affectedSources

/-- `raiseDataQualityAlertIfAllDegraded` up to its suspension. -/
def AlertState.raiseDataQualityAlertIfAllDegraded (s : AlertState) (gateId : GateId)
    (sourceStatuses : List SourceStatus) (now : ℤ) : AlertState :=
  if !sourceStatuses.isEmpty && allDegraded sourceStatuses then
    { s with
      alertStore := s.alertStore.set s.nextAlertId
        (buildDataQualityAlert s.nextAlertId gateId (sourceStatuses.map (·.sourceType)) now)
      nextAlertId := s.nextAlertId + 1 }
  else s

def DataQualityState.setDegraded (s : DataQualityState) (gateId : GateId) (degraded : Bool) :
    DataQualityState :=
  if degraded then { s with degradedSources := s.degradedSources.insert gateId }
  else { s with degradedSources := s.degradedSources.filter (· ≠ gateId) }

inductive DataQualityTask where
  -- `getStatus` called, with the sources whose `isSourceDegraded` is still out
  | readingStatus (gateId : GateId) (left : List SignalSource) (statuses : List SourceStatus)
  -- `allSourcesDegraded` called
  | readingAgain (gateId : GateId) (left : List SignalSource)
      (statuses again : List SourceStatus)

inductive DataQualityStimulus where
  /-- The interval of the check elapses. -/
  | check
  /-- Ingestion marks a source active. -/
  | markActive (sourceType : SignalSource) (gateOrRouteId : String)

namespace DataQualityCheck

variable (gates : List Gate)

/-- The status of a source, as Redis answers it. -/
def read (s : PipelineState) (gateId : GateId) (sourceType : SignalSource) : SourceStatus where
  sourceType
  degraded := s.redis.isSourceDegraded sourceType gateId s.intake.clock

def resume (task : DataQualityTask) (s : PipelineState) : Stretch PipelineState DataQualityTask :=
  match task with
  | .readingStatus gateId (sourceType :: left) statuses =>
      ⟨s, some (.readingStatus gateId left (statuses ++ [read s gateId sourceType])), []⟩
  | .readingStatus gateId [] statuses =>
      ⟨s, some (.readingAgain gateId allSourceTypes statuses []), []⟩
  | .readingAgain gateId (sourceType :: left) statuses again =>
      ⟨s, some (.readingAgain gateId left statuses (again ++ [read s gateId sourceType])), []⟩
  | .readingAgain gateId [] statuses again =>
      ⟨{ s with
          dataQuality := s.dataQuality.setDegraded gateId (allDegraded again)
          alerts := s.alerts.raiseDataQualityAlertIfAllDegraded gateId statuses s.intake.clock },
        none, []⟩

def stimulate (stimulus : DataQualityStimulus) (s : PipelineState) :
    PipelineState × List DataQualityTask :=
  match stimulus with
  | .check => (s, gates.map fun gate => .readingStatus gate.gateId allSourceTypes [])
  | .markActive sourceType gateOrRouteId =>
      ({ s with
          redis := s.redis.touchSource sourceType gateOrRouteId (sourceTimeoutMs sourceType)
            s.intake.clock }, [])

/-- The checks of all gates. -/
def system : TaskSystem PipelineState DataQualityTask DataQualityStimulus where
  stimulate := stimulate gates
  resume := resume

end DataQualityCheck

end Stadium
