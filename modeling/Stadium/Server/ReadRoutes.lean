import Stadium.AuditLogService.Queries
import Stadium.Lib.Parts
import Stadium.OpsDashboard.DataQuality
import Stadium.OpsDashboard.Snapshot

/-!
# The reading routes

The handlers of the GET routes of `server.ts` under `requireRole`. A handler calls a
store and waits for its answer. Most answers are the caller's own from then on; the
redirections of a known route and the unfiltered nudges are arrays the store goes on
writing to, and are written out as they are when the handler continues. The status of
the sources is read source by source. No reader changes anything.
-/

namespace Stadium

open Interleaving TaskSystem

structure GateForecastResponse where
  gateId : GateId
  scores : List CongestionScorePoint
  riskLevel : RiskLevel
  lowConfidence : Bool
  outdated : Bool

/-- `ForecastApi.getForecast` over the forecast store. -/
def ForecastState.getForecast (s : ForecastState) (gateId : GateId) :
    Option GateForecastResponse :=
  match s.forecastStore.get? gateId with
  | none => none
  | some [] => none
  | some (current :: rest) =>
      let scores := current :: rest
      some {
        gateId
        scores
        riskLevel := current.riskLevel
        lowConfidence := scores.any (·.lowConfidence)
        outdated := scores.any (·.outdated) }

/-- `MockNudgeAuditQuery.queryNudges`. -/
def NudgeState.queryNudges (s : NudgeState) (gateId : Option GateId) (fanId : Option FanId) :
    List FanNudge :=
  s.nudgeAuditQuery.filter fun nudge =>
    matchesId gateId nudge.originGateId && matchesId fanId nudge.fanId

/-- What a reading route asks for, with the parameters of its request. -/
inductive Query where
  | getStatus (gateOrRouteId : String)
  | getForecast (gateId : GateId)
  | getActions (gateId : GateId)
  | getRedirections (routeId : RouteId)
  | getNudges (gateId : Option GateId) (fanId : Option FanId)
  | getSnapshot
  | getScores (range : AuditQueryRange)
  | getAuditedActions (range : AuditQueryRange)
  | getAuditedNudges (range : AuditQueryRange)

/-- What a reading route answers. -/
inductive Reading where
  | statuses (statuses : List SourceStatus)
  /-- Without a forecast the answer is 404. -/
  | forecast (response : Option GateForecastResponse)
  | actions (actions : List RecommendedAction)
  | redirections (redirections : List ShuttleRedirectionRecommendation)
  | nudges (nudges : List FanNudge)
  | gates (gates : List GateSnapshot)
  | scores (scores : List ScoreAuditRecord)

/-- A handler of a reading route at one of its suspensions. -/
inductive ReadTask where
  -- `getStatus` called, with the sources whose `isSourceDegraded` is still out
  | readingStatus (gateOrRouteId : String) (left : List SignalSource)
      (statuses : List SourceStatus)
  -- a store called
  | reading (query : Query)
  -- the store has handed out an array that it goes on writing to
  | listing (query : Query)
  -- nothing changes the answer any more
  | responding (reading : Reading)

namespace ReadRoutes

variable (gates : List Gate)

/-- What a query reads in one go. The statuses are read one by one. -/
def answer (query : Query) (s : PipelineState) : Reading :=
  match query with
  | .getStatus gateOrRouteId =>
      .statuses (allSourceTypes.map (DataQualityCheck.read s gateOrRouteId))
  | .getForecast gateId => .forecast (s.forecasts.getForecast gateId)
  | .getActions gateId => .actions (s.actions.getActiveActions gateId)
  | .getRedirections routeId => .redirections (s.redirections.getActiveRecommendations routeId)
  | .getNudges gateId fanId => .nudges (s.nudges.queryNudges gateId fanId)
  | .getSnapshot => .gates (s.getSnapshot (gates.map (·.gateId)))
  | .getScores range => .scores (s.audit.queryScores range)
  | .getAuditedActions range => .actions (s.audit.queryActions range)
  | .getAuditedNudges range => .nudges (s.audit.queryNudges range)

/-- The store answers with its own array. -/
def sharesArray (query : Query) (s : PipelineState) : Bool :=
  match query with
  | .getRedirections routeId => (s.redirections.redirectionStore.get? routeId).isSome
  | .getNudges gateId fanId => (truthy gateId).isNone && (truthy fanId).isNone
  | _ => false

/-- A handler up to its first suspension. -/
def start : Query → ReadTask
  | .getStatus gateOrRouteId => .readingStatus gateOrRouteId allSourceTypes []
  | query => .reading query

/-- A handler from one suspension to the next. -/
def next (task : ReadTask) (s : PipelineState) : Option ReadTask :=
  match task with
  | .readingStatus gateOrRouteId (sourceType :: left) statuses =>
      some (.readingStatus gateOrRouteId left
        (statuses ++ [DataQualityCheck.read s gateOrRouteId sourceType]))
  | .readingStatus _ [] statuses => some (.responding (.statuses statuses))
  | .reading query =>
      if sharesArray query s then some (.listing query)
      else some (.responding (answer gates query s))
  | .listing query => some (.responding (answer gates query s))
  | .responding _ => none

/-- The readers of a memory that shows them the pipeline's. -/
def system {ω : Type*} (view : ω → PipelineState) : TaskSystem ω ReadTask Query where
  stimulate query w := (w, [start query])
  resume task w := ⟨w, next gates task (view w), []⟩

/-- The readers keep whatever holds of the memory. -/
theorem guarantee {ω : Type*} (view : ω → PipelineState) {Inv : ω → Prop}
    {moves : ω → ω → Prop} (refl : ∀ w, moves w w) :
    (system gates view).Guarantee (fun _ => True) Inv moves (fun _ _ => True) where
  stimulate _ w _ inv := ⟨inv, refl w, fun _ _ => trivial⟩
  resume _ w inv _ := ⟨inv, refl w, fun _ _ => trivial⟩
  lasts _ _ _ _ _ := trivial

end ReadRoutes

end Stadium
