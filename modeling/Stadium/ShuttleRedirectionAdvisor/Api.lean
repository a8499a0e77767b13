import Stadium.Lib.Composition
import Stadium.Pipeline.State

/-!
# Deciding on a redirection

`acceptRedirection` and `rejectRedirection` of `api.ts`, with what the
server's reject route does once the call has returned. Either call reads the
recommendation, builds the decided record from what it has read and stores
that record; a rejection is put into Redis, and into the list the generation
of redirections consults, afterwards. A `DecisionTask` is such a call at one
of its suspensions.
-/

namespace Stadium

open Interleaving

inductive RedirectionDecision where
  | accept
  | reject
  deriving DecidableEq

/-- The record a decision makes of the recommendation it has found. -/
def RedirectionDecision.update (decision : RedirectionDecision)
    (recommendation : ShuttleRedirectionRecommendation) (dispatcherId : String) (now : ℤ) :
    ShuttleRedirectionRecommendation :=
  match decision with
  | .accept =>
      { recommendation with
        status := .accepted
        acceptedAt := some (IsoDate.toISOString now)
        acceptedByDispatcherId := some dispatcherId }
  | .reject =>
      { recommendation with
        status := .rejected
        rejectedAt := some (IsoDate.toISOString now)
        rejectedByDispatcherId := some dispatcherId }

inductive DecisionTask where
  -- `findRecommendation`, with `getActiveRecommendations` called
  | finding (decision : RedirectionDecision) (routeId : RouteId)
      (recommendationId dispatcherId : String) (now : ℤ)
  | found (decision : RedirectionDecision) (recommendation : ShuttleRedirectionRecommendation)
      (dispatcherId : String) (now : ℤ)
  -- `updateRecommendation` called
  | storing (decision : RedirectionDecision) (updated : ShuttleRedirectionRecommendation)
  -- `recordRejection` called
  | recordingRejection (updated : ShuttleRedirectionRecommendation)
  | returning (decision : RedirectionDecision) (updated : ShuttleRedirectionRecommendation)

inductive DecisionStimulus where
  /-- Time passes. -/
  | advance (ms : ℕ)
  /-- A dispatcher decides on a recommendation. -/
  | decide (decision : RedirectionDecision) (routeId : RouteId)
      (recommendationId dispatcherId : String)

/-- The entry the reject route adds to the recent rejections. -/
def rejectionRecordOf (updated : ShuttleRedirectionRecommendation) (now : ℤ) : RejectionRecord where
  routeId := updated.routeId
  alternativeGateId := updated.alternativeGateId
  rejectedAt := updated.rejectedAt.getD (IsoDate.toISOString now)

/-- `findRecommendation`, once the store has answered. -/
def RedirectionState.findRecommendation (s : RedirectionState) (routeId : RouteId)
    (recommendationId : String) : Option ShuttleRedirectionRecommendation :=
  (s.getActiveRecommendations routeId).find? (·.recommendationId = recommendationId)

namespace ShuttleRedirectionApi

def resume (task : DecisionTask) (s : PipelineState) : Stretch PipelineState DecisionTask :=
  match task with
  | .finding decision routeId recommendationId dispatcherId now =>
      match s.redirections.findRecommendation routeId recommendationId with
      -- the call returns null
      | none => ⟨s, none, []⟩
      | some recommendation => ⟨s, some (.found decision recommendation dispatcherId now), []⟩
  | .found decision recommendation dispatcherId now =>
      ⟨s, some (.storing decision (decision.update recommendation dispatcherId now)), []⟩
  | .storing decision updated =>
      let s := { s with redirections := s.redirections.updateRecommendation updated }
      match decision with
      | .accept => ⟨s, some (.returning .accept updated), []⟩
      | .reject => ⟨s, some (.recordingRejection updated), []⟩
  | .recordingRejection updated =>
      ⟨{ s with
          redis := s.redis.recordRejection updated.routeId updated.alternativeGateId
            rejectionSuppressionMs s.intake.clock },
        some (.returning .reject updated), []⟩
  | .returning .accept _ => ⟨s, none, []⟩
  | .returning .reject updated =>
      ⟨{ s with
          redirections := { s.redirections with
            recentRejections := s.redirections.recentRejections ++
              [rejectionRecordOf updated s.intake.clock] } },
        none, []⟩

def stimulate (stimulus : DecisionStimulus) (s : PipelineState) :
    PipelineState × List DecisionTask :=
  match stimulus with
  | .advance ms => ({ s with intake := { s.intake with clock := s.intake.clock + ms } }, [])
  | .decide decision routeId recommendationId dispatcherId =>
      (s, [.finding decision routeId recommendationId dispatcherId s.intake.clock])

/-- The calls of the dispatchers. -/
def system : TaskSystem PipelineState DecisionTask DecisionStimulus where
  stimulate := stimulate
  resume := resume

end ShuttleRedirectionApi

end Stadium
