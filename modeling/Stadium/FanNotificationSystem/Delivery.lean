import Stadium.Lib.Composition
import Stadium.Pipeline.State

/-!
# Delivering the queued nudges

`simulateDelivery` of `delivery.ts` and `FanNudgeDeliveryWorker` of
`delivery-worker.ts`. A run of `processQueue` reads the whole queue once and
then works from that snapshot; the forecasts it consults are the live ones.
The interval timer starts a run without waiting for the previous one, so runs
overlap. A `DeliveryTask` is such a run at one of its suspensions.
-/

namespace Stadium

open Interleaving

structure DeliveryRecord where
  fanId : FanId
  message : String
  targetGate : GateId
  simulatedDeliveryTimestamp : String
  deriving DecidableEq

/-- The settled nudge, with the record of a delivery; without one the nudge
was cancelled. -/
def simulateDelivery (nudge : FanNudge) (forecastsByGate : OrderedMap GateId ForecastResult)
    (now : ℤ) : FanNudge × Option DeliveryRecord :=
  let currentRiskLevel :=
    (((forecastsByGate.get? nudge.originGateId).bind (·.scores.head?)).map (·.riskLevel)).getD .low
  match currentRiskLevel with
  | .low | .moderate => ({ nudge with status := .cancelled }, none)
  | .high | .critical =>
      let simulatedDeliveryTimestamp := IsoDate.toISOString now
      ({ nudge with
          status := .simulatedDelivered
          simulatedDeliveryTimestamp := some simulatedDeliveryTimestamp },
        some {
          fanId := nudge.fanId
          message := nudge.message
          targetGate := nudge.originGateId
          simulatedDeliveryTimestamp })

/-- `updateNudge` on the queued nudge store. -/
def NudgeState.updateNudge (s : NudgeState) (nudge : FanNudge) : NudgeState :=
  { s with queuedNudgeStore := s.queuedNudgeStore.set nudge.nudgeId nudge }

inductive DeliveryTask where
  -- `getQueuedNudges` called
  | readingQueue (now : ℤ)
  -- the head of the loop over the snapshot
  | delivering (now : ℤ) (queued : List FanNudge)
  -- `updateNudge` called on the settlement of a nudge of the snapshot
  | updatingNudge (now : ℤ) (nudge updated : FanNudge) (deliveryRecord : Option DeliveryRecord)
      (rest : List FanNudge)
  | recordingOutcome (now : ℤ) (updated : FanNudge) (deliveryRecord : Option DeliveryRecord)
      (rest : List FanNudge)

/-- The interval of the delivery worker elapses. -/
inductive DeliveryStimulus where
  | interval

namespace FanNudgeDeliveryWorker

/-- The loop over the snapshot up to the next call. -/
def nextNudge (forecastsByGate : OrderedMap GateId ForecastResult) (now : ℤ) :
    List FanNudge → Option DeliveryTask
  | [] => none
  | nudge :: rest =>
      if nudge.status ≠ .queued then nextNudge forecastsByGate now rest
      else
        let (updated, deliveryRecord) := simulateDelivery nudge forecastsByGate now
        some (.updatingNudge now nudge updated deliveryRecord rest)

/-- Both calls of the audit sink: either adds the outcome to the operators'
query store and to the audit log. -/
def recordOutcome (s : PipelineState) (updated : FanNudge) : PipelineState :=
  { s with
    nudges := { s.nudges with nudgeAuditQuery := s.nudges.nudgeAuditQuery ++ [updated] }
    audit := { s.audit with nudges := s.audit.nudges.set updated.nudgeId updated } }

def resume (task : DeliveryTask) (s : PipelineState) : Stretch PipelineState DeliveryTask :=
  match task with
  | .readingQueue now => ⟨s, some (.delivering now s.nudges.queuedNudgeStore.values), []⟩
  | .delivering now queued => ⟨s, nextNudge s.forecasts.forecastsByGate now queued, []⟩
  | .updatingNudge now _ updated deliveryRecord rest =>
      ⟨{ s with nudges := s.nudges.updateNudge updated },
        some (.recordingOutcome now updated deliveryRecord rest), []⟩
  | .recordingOutcome now updated _ rest =>
      ⟨recordOutcome s updated, some (.delivering now rest), []⟩

def stimulate (stimulus : DeliveryStimulus) (s : PipelineState) :
    PipelineState × List DeliveryTask :=
  match stimulus with
  | .interval => (s, [.readingQueue s.intake.clock])

/-- The runs of the delivery worker. -/
def system : TaskSystem PipelineState DeliveryTask DeliveryStimulus where
  stimulate := stimulate
  resume := resume

/-- A run at the head of its loop is done, or about to store the settlement of
a nudge of its snapshot that the snapshot shows as QUEUED. -/
theorem nextNudge_cases (forecastsByGate : OrderedMap GateId ForecastResult) (now : ℤ)
    (queued : List FanNudge) :
    nextNudge forecastsByGate now queued = none ∨
      ∃ nudge ∈ queued, ∃ rest, nudge.status = .queued ∧
        nextNudge forecastsByGate now queued =
          some (.updatingNudge now nudge (simulateDelivery nudge forecastsByGate now).1
            (simulateDelivery nudge forecastsByGate now).2 rest) := by
  induction queued with
  | nil => exact .inl rfl
  | cons nudge rest ih =>
      by_cases waiting : nudge.status = .queued
      · exact .inr ⟨nudge, List.mem_cons_self, rest, waiting, by simp [nextNudge, waiting]⟩
      · have skipped : nextNudge forecastsByGate now (nudge :: rest) =
            nextNudge forecastsByGate now rest := by
          simp [nextNudge, waiting]
        rw [skipped]
        rcases ih with done | ⟨other, member, later, waiting, next⟩
        · exact .inl done
        · exact .inr ⟨other, List.mem_cons_of_mem nudge member, later, waiting, next⟩

end FanNudgeDeliveryWorker

end Stadium
