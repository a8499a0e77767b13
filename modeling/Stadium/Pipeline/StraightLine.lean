import Stadium.Lib.Serial
import Stadium.Pipeline.Draining
import Stadium.Pipeline.PriorScore

/-!
# The program without its suspensions

The pipeline, the delivery worker and the dispatchers' calls in direct style:
every `await` is a plain call. This is what the code reads like, and what it
does as long as one request is through before the next one arrives: the state
after a serial run is the fold of `handle` over the stimuli (`serial_run_eq`).
-/

namespace Stadium

open Interleaving TaskSystem

namespace StraightLine

variable (deps : PipelineDependencies)

/-! ## A score update -/

/-- `setLastNudgeAt` and `enqueue` of a nudge. -/
def sendNudge (update : ScoreUpdate) (fan : FanContext) (nudge : FanNudge) (s : PipelineState) :
    PipelineState :=
  { s with
    redis := s.redis.setLastNudgeAt fan.fanId update.gate.gateId update.now cooldownPeriodMs
      s.intake.clock
    nudges := s.nudges.enqueue nudge }

/-- One fan of the loop in `FanNotificationService.onScoreUpdate`, with the answer
of `getLastNudgeAt`. -/
def nudgeFan (update : ScoreUpdate) (fan : FanContext) (lastNudgeAt : Option ℤ)
    (s : PipelineState) (generated : List FanNudge) : PipelineState × List FanNudge :=
  match generateFanNudge deps.localeCompare fan update.gate s.forecasts.forecastsByGate
      lastNudgeAt update.now with
  | none => (s, generated)
  | some nudge => (sendNudge update fan nudge s, generated ++ [nudge])

def notifyFan (update : ScoreUpdate) (state : PipelineState × List FanNudge) (fan : FanContext) :
    PipelineState × List FanNudge :=
  nudgeFan deps update fan
    (state.1.redis.getLastNudgeAt fan.fanId update.gate.gateId state.1.intake.clock)
    state.1 state.2

/-- The audit subscriber of `fan-nudges`. -/
def publishNudges (s : PipelineState) (nudges : List FanNudge) : PipelineState :=
  { s with
    audit := { s.audit with
      nudges := nudges.foldl (fun log nudge => log.set nudge.nudgeId nudge) s.audit.nudges } }

def notifyFans (update : ScoreUpdate) (fans : List FanContext)
    (state : PipelineState × List FanNudge) : PipelineState :=
  let (s, nudges) := fans.foldl (notifyFan deps update) state
  publishNudges s nudges

/-- The nudges of an update, for the fans known when it comes to them. -/
def notify (update : ScoreUpdate) (s : PipelineState) : PipelineState :=
  notifyFans deps update (fansOf s.intake.fansByGate update.gate.gateId) (s, [])

def publishRedirection (redirection : ShuttleRedirectionRecommendation) (s : PipelineState) :
    PipelineState :=
  { s with
    audit := { s.audit with
      shuttleRecommendations := s.audit.shuttleRecommendations ++ [redirection] } }

def storeRedirection (s : PipelineState) (redirection : ShuttleRedirectionRecommendation) :
    PipelineState :=
  publishRedirection redirection
    { s with redirections := s.redirections.updateRecommendation redirection }

/-- The redirections of an update. -/
def redirectionsFor (update : ScoreUpdate) (s : PipelineState) :
    List ShuttleRedirectionRecommendation :=
  generateRedirections deps.localeCompare update.gate s.forecasts.forecastsByGate deps.routes
    (s.redirections.getRecentRejections s.intake.clock) update.now

/-- Redirections, then nudges. -/
def advise (update : ScoreUpdate) (s : PipelineState) : PipelineState :=
  notify deps update ((redirectionsFor deps update s).foldl storeRedirection s)

/-- `publishActions` and the audit subscriber of `recommended-actions`. -/
def publishActions (update : ScoreUpdate) (actions : List RecommendedAction)
    (s : PipelineState) : PipelineState :=
  { s with
    actions := { s.actions with
      activeActionsSource := s.actions.activeActionsSource.set update.gate.gateId actions }
    audit := { s.audit with
      actions := actions.foldl (fun log action => log.set action.actionId action)
        s.audit.actions } }

/-- `RecommendationEngineService.onScoreUpdate` from the recommendations on. -/
def storeActions (update : ScoreUpdate) (actions : List RecommendedAction) (s : PipelineState) :
    PipelineState :=
  publishActions update actions
    { s with actions := s.actions.setActiveActions update.gate.gateId actions }

def recommend (update : ScoreUpdate) (window : List SignalEvent) (s : PipelineState) :
    PipelineState :=
  storeActions update (generateRecommendations update.gate update.result window) s

/-- `previousRiskLevelByGate.set(gate.gateId, newRiskLevel)`. -/
def rememberRiskLevel (update : ScoreUpdate) (s : PipelineState) : PipelineState :=
  { s with
    alerts := { s.alerts with
      previousRiskLevelByGate := s.alerts.previousRiskLevelByGate.set update.gate.gateId
        update.result.currentRiskLevel } }

/-- The `congestion-scores` subscriber once the alert is raised. -/
def afterAlert (update : ScoreUpdate) (s : PipelineState) : PipelineState :=
  advise deps update
    (recommend update (s.intake.getWindowForGate update.gate.gateId) (rememberRiskLevel update s))

/-- Both `congestion-scores` subscribers. -/
def onCongestionScore (s : PipelineState) (message : CongestionScoreMessage) : PipelineState :=
  afterAlert deps
    { gate := message.gate, result := message.result, now := s.intake.clock }
    (Pipeline.onCongestionScore s message).1

/-! ## A recompute -/

def publishForecast (computation : Computation) (s : PipelineState) : PipelineState :=
  onCongestionScore deps
    { s with forecasts := Pipeline.storeForecast s.forecasts computation.gate computation.result }
    ⟨computation.gate, computation.result⟩

def saveScore (computation : Computation) (point : CongestionScorePoint) (s : PipelineState) :
    PipelineState :=
  { s with redis := s.redis.setLastKnownScore computation.gate.gateId point }

/-- `recompute`, from its window on. -/
def compute (gate : Gate) (window : List SignalEvent) (s : PipelineState) : PipelineState :=
  let computation : Computation :=
    ⟨gate, window, s.intake.clock, forecastOf gate window s.intake.clock⟩
  publishForecast deps computation
    (saveScore computation (currentPointOf gate window s.intake.clock)
      { s with
        forecasts := { s.forecasts with computed := s.forecasts.computed ++ [computation] } })

def recompute (gate : Gate) (s : PipelineState) : PipelineState :=
  compute deps gate (s.intake.getWindowForGate gate.gateId) s

/-! ## Executing an action -/

/-- `setActiveActions` of the marked list, and the return of the call. -/
def writeActions (gateId : GateId) (actions : List RecommendedAction) (index : ℕ)
    (updated : RecommendedAction) (s : PipelineState) : PipelineState :=
  { s with
    actions := { s.actions.setActiveActions gateId (actions.set index updated) with
      executed := s.actions.executed ++ [updated] } }

def executeAction (gateId : GateId) (actionId userId : String) (now : ℤ)
    (actions : List RecommendedAction) (s : PipelineState) : PipelineState :=
  match actions.find? (·.actionId = actionId) with
  | none => s
  | some found =>
      let updated := { found with
        executedAt := some (IsoDate.toISOString now)
        executedByUserId := some userId }
      writeActions gateId actions (actions.findIdx (·.actionId = actionId)) updated s

/-! ## The pipeline -/

/-- The rest of a suspended task. -/
def complete : PipelineTask → PipelineState → PipelineState
  | .computing gate window, s => compute deps gate window s
  | .savingScore computation point, s => publishForecast deps computation
      (saveScore computation point s)
  | .publishingForecast computation, s => publishForecast deps computation s
  | .raisingAlert update, s => afterAlert deps update s
  | .recommending update window, s => advise deps update (recommend update window s)
  | .storingActions update actions, s => advise deps update (storeActions update actions s)
  | .publishingActions update actions, s => advise deps update (publishActions update actions s)
  | .advising update, s => advise deps update s
  | .storingRedirection update redirection rest, s =>
      notify deps update ((redirection :: rest).foldl storeRedirection s)
  | .publishingRedirection update redirection rest, s =>
      notify deps update (rest.foldl storeRedirection (publishRedirection redirection s))
  | .readingCooldown update fan rest generated, s =>
      notifyFans deps update (fan :: rest) (s, generated)
  | .decidingNudge update fan lastNudgeAt rest generated, s =>
      notifyFans deps update rest (nudgeFan deps update fan lastNudgeAt s generated)
  | .settingCooldown update fan nudge rest generated, s =>
      notifyFans deps update rest (sendNudge update fan nudge s, generated ++ [nudge])
  | .enqueueingNudge update nudge rest generated, s =>
      notifyFans deps update rest
        ({ s with nudges := s.nudges.enqueue nudge }, generated ++ [nudge])
  | .nudgeEnqueued update rest generated, s => notifyFans deps update rest (s, generated)
  | .publishingNudges nudges, s => publishNudges s nudges
  | .readingActions gateId actionId userId now, s =>
      executeAction gateId actionId userId now (s.actions.getActiveActions gateId) s
  | .locatingAction gateId actionId userId now actions, s =>
      executeAction gateId actionId userId now actions s
  | .writingActions gateId actions index updated, s => writeActions gateId actions index updated s
  | .returningAction updated, s =>
      { s with actions := { s.actions with executed := s.actions.executed ++ [updated] } }

/-- Both `signal-events` subscribers. -/
def onSignalEvent (s : PipelineState) (event : SignalEvent) : PipelineState :=
  let s := { s with
    intake := s.intake.onSignalEvent event
    audit := { s.audit with signalEvents := s.audit.signalEvents ++ [event] } }
  match (truthy event.gateId).bind deps.gatesById.get? with
  | none => s
  | some gate => recompute deps gate s

/-- The interval timer of a gate fires. -/
def onTick (s : PipelineState) (gateId : GateId) : PipelineState :=
  match deps.gatesById.get? gateId with
  | none => s
  | some gate => recompute deps gate s

/-- A stimulus with all that follows from it. -/
def react (s : PipelineState) : PipelineStimulus → PipelineState
  | .advance ms => { s with intake := { s.intake with clock := s.intake.clock + ms } }
  | .handleSignal signal => onSignalEvent deps s (signal.accept deps.timingConfig s.intake.clock)
  | .signalEvent event => onSignalEvent deps s event
  | .tick gateId => onTick deps s gateId
  | .congestionScore message => onCongestionScore deps s message
  | .executeAction gateId actionId userId =>
      executeAction gateId actionId userId s.intake.clock (s.actions.getActiveActions gateId) s

theorem complete_nextFan (update : ScoreUpdate) (fans : List FanContext)
    (generated : List FanNudge) (s : PipelineState) :
    complete deps (Pipeline.nextFan update fans generated) s =
      notifyFans deps update fans (s, generated) := by
  cases fans <;> rfl

theorem complete_nextRedirection (update : ScoreUpdate)
    (redirections : List ShuttleRedirectionRecommendation) (s : PipelineState) :
    complete deps (Pipeline.nextRedirection s update redirections) s =
      notify deps update (redirections.foldl storeRedirection s) := by
  cases redirections with
  | nil => exact complete_nextFan deps update _ [] s
  | cons redirection rest => rfl

/-- The pipeline in direct style. -/
def pipeline : DirectStyle (Pipeline.system deps) where
  complete := complete deps
  starts_one := Pipeline.stimulate_length deps
  stays_one task s := by
    have few := Pipeline.resume_length deps task s
    show ((Pipeline.resume deps task s).successors).length ≤ 1
    unfold Stretch.successors
    rwa [List.length_append]
  resumes task s := by
    cases task with
    | computing gate window =>
        show _ = List.foldl _ _ (Pipeline.resume deps (.computing gate window) s).successors
        rw [show (Pipeline.system deps).resume (.computing gate window) s = _ from
          Pipeline.resume_computing deps gate window s, Pipeline.resume_computing]
        rfl
    | advising update => exact (complete_nextRedirection deps update _ s).symm
    | publishingRedirection update redirection rest =>
        exact (complete_nextRedirection deps update rest _).symm
    | decidingNudge update fan lastNudgeAt rest generated =>
        show notifyFans deps update rest (nudgeFan deps update fan lastNudgeAt s generated) =
          List.foldl _ (Pipeline.decideNudge deps update fan lastNudgeAt rest generated s).shared
            (Pipeline.decideNudge deps update fan lastNudgeAt rest generated s).successors
        unfold nudgeFan Pipeline.decideNudge
        cases generateFanNudge deps.localeCompare fan update.gate s.forecasts.forecastsByGate
          lastNudgeAt update.now with
        | none => exact (complete_nextFan deps update rest generated s).symm
        | some nudge => rfl
    | nudgeEnqueued update rest generated =>
        exact (complete_nextFan deps update rest generated s).symm
    | locatingAction gateId actionId userId now actions =>
        show executeAction gateId actionId userId now actions s =
          List.foldl _ (Pipeline.locateAction gateId actionId userId now actions s).shared
            (Pipeline.locateAction gateId actionId userId now actions s).successors
        unfold executeAction Pipeline.locateAction
        cases actions.find? (·.actionId = actionId) <;> rfl
    | _ => rfl

/-! ## The delivery worker -/

/-- One nudge of the snapshot. -/
def deliver (now : ℤ) (s : PipelineState) (nudge : FanNudge) : PipelineState :=
  if nudge.status ≠ .queued then s
  else
    let (updated, _) := simulateDelivery nudge s.forecasts.forecastsByGate now
    FanNudgeDeliveryWorker.recordOutcome { s with nudges := s.nudges.updateNudge updated } updated

def processQueue (now : ℤ) (s : PipelineState) : PipelineState :=
  s.nudges.queuedNudgeStore.values.foldl (deliver now) s

/-- The rest of a run. -/
def completeDelivery : DeliveryTask → PipelineState → PipelineState
  | .readingQueue now, s => processQueue now s
  | .delivering now queued, s => queued.foldl (deliver now) s
  | .updatingNudge now _ updated _ rest, s =>
      rest.foldl (deliver now)
        (FanNudgeDeliveryWorker.recordOutcome
          { s with nudges := s.nudges.updateNudge updated } updated)
  | .recordingOutcome now updated _ rest, s =>
      rest.foldl (deliver now) (FanNudgeDeliveryWorker.recordOutcome s updated)

/-- The loop skips what is no longer QUEUED. -/
theorem complete_nextNudge (now : ℤ) (queued : List FanNudge) (s : PipelineState) :
    (FanNudgeDeliveryWorker.nextNudge s.forecasts.forecastsByGate now queued).toList.foldl
        (fun t next => completeDelivery next t) s =
      queued.foldl (deliver now) s := by
  induction queued with
  | nil => rfl
  | cons nudge rest ih =>
      unfold FanNudgeDeliveryWorker.nextNudge
      rw [List.foldl_cons]
      by_cases waiting : nudge.status = .queued
      · rw [if_neg (not_not.mpr waiting)]
        have settled : deliver now s nudge = FanNudgeDeliveryWorker.recordOutcome
            { s with
              nudges := s.nudges.updateNudge
                (simulateDelivery nudge s.forecasts.forecastsByGate now).1 }
            (simulateDelivery nudge s.forecasts.forecastsByGate now).1 :=
          if_neg (not_not.mpr waiting)
        rw [settled]
        rfl
      · rw [if_pos waiting, ih, show deliver now s nudge = s from if_pos waiting]

def worker : DirectStyle FanNudgeDeliveryWorker.system where
  complete := completeDelivery
  starts_one | .interval, _ => le_rfl
  stays_one task s := by
    cases task with
    | delivering now queued =>
        show ((FanNudgeDeliveryWorker.nextNudge s.forecasts.forecastsByGate now queued).toList ++
          []).length ≤ 1
        rw [List.append_nil]
        exact Option.length_toList_le
    | _ => exact le_rfl
  resumes task s := by
    cases task with
    | delivering now queued =>
        show queued.foldl (deliver now) s =
          ((FanNudgeDeliveryWorker.nextNudge s.forecasts.forecastsByGate now queued).toList ++
            []).foldl (fun t next => completeDelivery next t) s
        rw [List.append_nil]
        exact (complete_nextNudge now queued s).symm
    | _ => rfl

/-! ## The dispatchers -/

/-- The reject route once the call has returned. -/
def rememberRejection (updated : ShuttleRedirectionRecommendation) (s : PipelineState) :
    PipelineState :=
  { s with
    redirections := { s.redirections with
      recentRejections := s.redirections.recentRejections ++
        [rejectionRecordOf updated s.intake.clock] } }

def recordRejection (updated : ShuttleRedirectionRecommendation) (s : PipelineState) :
    PipelineState :=
  rememberRejection updated
    { s with
      redis := s.redis.recordRejection updated.routeId updated.alternativeGateId
        rejectionSuppressionMs s.intake.clock }

/-- `updateRecommendation`, and what a rejection brings with it. -/
def storeDecision (decision : RedirectionDecision) (updated : ShuttleRedirectionRecommendation)
    (s : PipelineState) : PipelineState :=
  let s := { s with redirections := s.redirections.updateRecommendation updated }
  match decision with
  | .accept => s
  | .reject => recordRejection updated s

/-- `acceptRedirection` and `rejectRedirection`. -/
def decideOn (decision : RedirectionDecision) (routeId : RouteId)
    (recommendationId dispatcherId : String) (now : ℤ) (s : PipelineState) : PipelineState :=
  match s.redirections.findRecommendation routeId recommendationId with
  | none => s
  | some recommendation =>
      storeDecision decision (decision.update recommendation dispatcherId now) s

def completeDecision : DecisionTask → PipelineState → PipelineState
  | .finding decision routeId recommendationId dispatcherId now, s =>
      decideOn decision routeId recommendationId dispatcherId now s
  | .found decision recommendation dispatcherId now, s =>
      storeDecision decision (decision.update recommendation dispatcherId now) s
  | .storing decision updated, s => storeDecision decision updated s
  | .recordingRejection updated, s => recordRejection updated s
  | .returning .accept _, s => s
  | .returning .reject updated, s => rememberRejection updated s

def dispatchers : DirectStyle ShuttleRedirectionApi.system where
  complete := completeDecision
  starts_one
    | .advance _, _ => Nat.zero_le 1
    | .decide .., _ => le_rfl
  stays_one task s := by
    cases task with
    | finding decision routeId recommendationId dispatcherId now =>
        cases found : s.redirections.findRecommendation routeId recommendationId <;>
          simp [ShuttleRedirectionApi.system, ShuttleRedirectionApi.resume, Stretch.successors,
            found]
    | storing decision updated => cases decision <;> exact le_rfl
    | returning decision updated => cases decision <;> exact Nat.zero_le 1
    | _ => exact le_rfl
  resumes task s := by
    cases task with
    | finding decision routeId recommendationId dispatcherId now =>
        show decideOn decision routeId recommendationId dispatcherId now s = _
        cases found : s.redirections.findRecommendation routeId recommendationId <;>
          simp [ShuttleRedirectionApi.system, ShuttleRedirectionApi.resume, Stretch.successors,
            found, decideOn, completeDecision]
    | storing decision updated => cases decision <;> rfl
    | returning decision updated => cases decision <;> rfl
    | _ => rfl

/-! ## All three -/

/-- The pipeline, the delivery worker and the calls of the dispatchers. -/
def serving : TaskSystem PipelineState (PipelineTask ⊕ (DeliveryTask ⊕ DecisionTask))
    (PipelineStimulus ⊕ (DeliveryStimulus ⊕ DecisionStimulus)) :=
  (Pipeline.system deps).sum (FanNudgeDeliveryWorker.system.sum ShuttleRedirectionApi.system)

/-- A request, or a timer, with all that follows from it. -/
def serve (s : PipelineState) :
    PipelineStimulus ⊕ (DeliveryStimulus ⊕ DecisionStimulus) → PipelineState
  | .inl stimulus => react deps s stimulus
  | .inr (.inl .interval) => processQueue s.intake.clock s
  | .inr (.inr (.advance ms)) => { s with intake := { s.intake with clock := s.intake.clock + ms } }
  | .inr (.inr (.decide decision routeId recommendationId dispatcherId)) =>
      decideOn decision routeId recommendationId dispatcherId s.intake.clock s

def directStyle : DirectStyle (serving deps) := (pipeline deps).sum (worker.sum dispatchers)

/-- What a stimulus of the pipeline starts, run to its end. -/
theorem handle_pipeline (s : PipelineState) (stimulus : PipelineStimulus) :
    (pipeline deps).handle s stimulus = react deps s stimulus := by
  have delivered (event : SignalEvent) :
      (pipeline deps).settle ⟨(Pipeline.onSignalEvent deps s event).1,
        (Pipeline.onSignalEvent deps s event).2⟩ = onSignalEvent deps s event := by
    unfold Pipeline.onSignalEvent onSignalEvent
    cases (truthy event.gateId).bind deps.gatesById.get? <;> rfl
  cases stimulus with
  | handleSignal signal => exact delivered _
  | signalEvent event => exact delivered event
  | tick gateId =>
      show (pipeline deps).settle ⟨(Pipeline.onTick deps s gateId).1,
        (Pipeline.onTick deps s gateId).2⟩ = onTick deps s gateId
      unfold Pipeline.onTick onTick
      cases deps.gatesById.get? gateId <;> rfl
  | _ => rfl

theorem handle_eq (s : PipelineState)
    (stimulus : PipelineStimulus ⊕ (DeliveryStimulus ⊕ DecisionStimulus)) :
    (directStyle deps).handle s stimulus = serve deps s stimulus := by
  rcases stimulus with stimulus | stimulus | stimulus
  · refine Eq.trans ?_ (handle_pipeline deps s stimulus)
    show ((Pipeline.stimulate deps stimulus s).2.map Sum.inl).foldl _ _ = _
    rw [List.foldl_map]
    rfl
  · cases stimulus
    rfl
  · cases stimulus <;> rfl

/-- The ranks of the three, in stages. -/
def staged : Staged (serving deps) (·.intake.fansByGate) :=
  (Pipeline.cost deps).staged.sum
    ((FanNudgeDeliveryWorker.staged _ Pipeline.resume_fansByGate_delivery).sum
      (ShuttleRedirectionApi.cost _ Pipeline.resume_fansByGate_decision).staged)

theorem serial_run {s : PipelineState}
    {schedule : List (Choice (PipelineStimulus ⊕ (DeliveryStimulus ⊕ DecisionStimulus)))}
    (serial : (serving deps).Guarded Serial ⟨s, []⟩ schedule)
    (quiet : ((serving deps).run ⟨s, []⟩ schedule).suspended = []) :
    ((serving deps).run ⟨s, []⟩ schedule).shared = (stimuli schedule).foldl (serve deps) s := by
  have same : (directStyle deps).handle = serve deps :=
    funext fun s => funext fun stimulus => handle_eq deps s stimulus
  rw [← same]
  exact (directStyle deps).run_serial serial quiet

/-- **Requests one by one.** If no request arrives before the one before it is
through, every `await` may be read as a plain call: the state is the fold of
`serve` over the requests, whatever the schedule. Any requests can arrive so. The
passing of time is a stimulus like the requests, so the clock stands still while
one of them is under way. -/
theorem serial_run_eq (s : PipelineState) :
    (∀ schedule, (serving deps).Guarded Serial ⟨s, []⟩ schedule →
      ((serving deps).run ⟨s, []⟩ schedule).suspended = [] →
      ((serving deps).run ⟨s, []⟩ schedule).shared = (stimuli schedule).foldl (serve deps) s) ∧
    ∀ requests, ∃ schedule, (serving deps).Guarded Serial ⟨s, []⟩ schedule ∧
      stimuli schedule = requests ∧ ((serving deps).run ⟨s, []⟩ schedule).suspended = [] := by
  constructor
  · exact fun schedule serial quiet => serial_run deps serial quiet
  · exact fun requests => exists_serial (staged deps).rank requests s

end StraightLine

end Stadium
