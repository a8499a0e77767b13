import Stadium.Lib.Isolation
import Stadium.Pipeline.DataQualityIndicator
import Stadium.Pipeline.Intake

/-!
# Gates are isolated

All gates share the pipeline's maps, its bus and Redis. A recompute of a gate,
the stretches of its score up to the publication of its actions, and the
executions of its actions touch what is kept about this gate only; redirections
and nudges look at other gates, and touch nothing of that kind. So the signals
and ticks of the other gates can be left out of any run of the server without
a trace in the view of a gate (`gates_isolated`).
-/

namespace Stadium

open Interleaving TaskSystem

/-- What is kept about one gate, and the clock. The ids of the alerts are left
out: all gates draw them from one generator. -/
structure GateView where
  clock : ℤ
  window : List SignalEvent
  published : List CongestionScoreMessage
  forecast : Option (List CongestionScorePoint)
  currentScore : Option CongestionScorePoint
  latestResult : Option ForecastResult
  lastKnownScore : Option CongestionScorePoint
  previousRiskLevel : RiskLevel
  riskLevelAlerts : List Alert
  activeActions : List RecommendedAction
  activeActionsShown : Option (List RecommendedAction)

attribute [ext] GateView

/-- The alert without its id. -/
def Alert.anonymous (alert : Alert) : Alert := { alert with alertId := 0 }

def PipelineState.gateView (s : PipelineState) (gateId : GateId) : GateView where
  clock := s.intake.clock
  window := s.intake.getWindowForGate gateId
  published := s.forecasts.published.filter (·.gate.gateId = gateId)
  forecast := s.forecasts.forecastStore.get? gateId
  currentScore := s.forecasts.gateScoreSource.get? gateId
  latestResult := s.forecasts.forecastsByGate.get? gateId
  lastKnownScore := s.redis.getLastKnownScore gateId
  previousRiskLevel := s.alerts.previousRiskLevel gateId
  riskLevelAlerts := (s.alerts.riskLevelAlerts gateId).map Alert.anonymous
  activeActions := s.actions.getActiveActions gateId
  activeActionsShown := s.actions.activeActionsSource.get? gateId

/-- The gate whose view a task may touch. -/
def PipelineTask.gateId? : PipelineTask → Option GateId
  | .computing gate _ => some gate.gateId
  | .savingScore computation _ | .publishingForecast computation => some computation.gate.gateId
  | .raisingAlert update | .recommending update _ | .storingActions update _
  | .publishingActions update _ => some update.gate.gateId
  | .readingActions gateId .. | .locatingAction gateId .. | .writingActions gateId .. =>
      some gateId
  | _ => none

/-- The task is one of the gate. -/
def PipelineTask.IsOf (gateId : GateId) (task : PipelineTask) : Prop :=
  task.gateId? = some gateId

/-- A signal or a tick of a gate other than `gateId`. -/
def PipelineStimulus.ofOthers (gateId : GateId) : PipelineStimulus → Bool
  | .handleSignal signal => signal.gateId.any (· ≠ gateId)
  | .signalEvent event => event.gateId.any (· ≠ gateId)
  | .tick other => other ≠ gateId
  | _ => false

/-! ## What a step does to the view of its gate -/

namespace GateView

/-- A message of the gate is handled, and stored before if it is the
scheduler's. -/
def score (view : GateView) (message : CongestionScoreMessage) : GateView :=
  { view with
    published := view.published ++ [message]
    latestResult := some message.result
    riskLevelAlerts := view.riskLevelAlerts ++
      if riskTransition view.previousRiskLevel message.result.currentRiskLevel then
        [⟨0, message.gate.gateId, .riskLevel, IsoDate.toISOString view.clock,
          some message.result.currentRiskLevel, none⟩]
      else [] }

/-- `publishForecast` before it publishes. -/
def store (view : GateView) (result : ForecastResult) : GateView :=
  { view with
    forecast := some result.scores
    currentScore := result.scores.head?.or view.currentScore }

/-- A signal of the gate arrives. -/
def receive (view : GateView) (event : SignalEvent) : GateView :=
  { view with
    window := view.window.filter (IntakeState.retained view.clock) ++ [event] }

/-- A task of the gate is resumed. -/
def resumed (view : GateView) : PipelineTask → GateView
  | .savingScore _ point => { view with lastKnownScore := some point }
  | .publishingForecast computation =>
      (view.store computation.result).score ⟨computation.gate, computation.result⟩
  | .raisingAlert update =>
      { view with previousRiskLevel := update.result.currentRiskLevel }
  | .storingActions _ actions => { view with activeActions := actions }
  | .publishingActions _ actions => { view with activeActionsShown := some actions }
  | .writingActions _ actions index updated =>
      { view with activeActions := actions.set index updated }
  | _ => view

end GateView

namespace Pipeline

variable (deps : PipelineDependencies) {gateId : GateId}

theorem riskLevelAlerts_raise_anonymous {s : AlertState} (fresh : s.IdsFresh)
    (gateId target : GateId) (previous new : RiskLevel) (now : ℤ) :
    ((s.raiseRiskLevelAlertIfTransitioned target previous new now).riskLevelAlerts gateId).map
        Alert.anonymous =
      (s.riskLevelAlerts gateId).map Alert.anonymous ++
        if target = gateId ∧ riskTransition previous new then
          [⟨0, target, .riskLevel, IsoDate.toISOString now, some new, none⟩] else [] := by
  unfold AlertState.raiseRiskLevelAlertIfTransitioned
  rw [checkRiskLevelTransition_eq]
  cases riskTransition previous new with
  | false => simp
  | true =>
      simp only [if_true, AlertState.riskLevelAlerts,
        OrderedMap.values_set_of_fresh (fresh s.nextAlertId le_rfl), List.filter_append,
        List.map_append, List.filter_singleton]
      by_cases own : target = gateId <;> simp [own, Alert.anonymous]

/-- A message of the gate is handled in its view; one of another gate is not
seen. -/
theorem gateView_onCongestionScore (s : PipelineState) (fresh : s.alerts.IdsFresh)
    (message : CongestionScoreMessage) :
    (onCongestionScore s message).1.gateView gateId =
      if message.gate.gateId = gateId then (s.gateView gateId).score message
      else s.gateView gateId := by
  have levels : (onCongestionScore s message).1.alerts.previousRiskLevel gateId =
      s.alerts.previousRiskLevel gateId := by
    unfold AlertState.previousRiskLevel
    exact congrArg (fun store => (OrderedMap.get? store gateId).getD _)
      (AlertState.raise_previous _ _ _ _)
  have alerts := riskLevelAlerts_raise_anonymous fresh gateId message.gate.gateId
    (s.alerts.previousRiskLevel message.gate.gateId) message.result.currentRiskLevel
    s.intake.clock
  have seen : (onCongestionScore s message).1.gateView gateId =
      { s.gateView gateId with
        published := (s.forecasts.published ++ [message]).filter (·.gate.gateId = gateId)
        latestResult := (s.forecasts.forecastsByGate.set message.gate.gateId
          message.result).get? gateId
        riskLevelAlerts := (s.alerts.riskLevelAlerts gateId).map Alert.anonymous ++
          if message.gate.gateId = gateId ∧ riskTransition
              (s.alerts.previousRiskLevel message.gate.gateId) message.result.currentRiskLevel then
            [⟨0, message.gate.gateId, .riskLevel, IsoDate.toISOString s.intake.clock,
              some message.result.currentRiskLevel, none⟩]
          else [] } := by
    rw [← alerts]
    exact congrArg (fun level : RiskLevel =>
      { (onCongestionScore s message).1.gateView gateId with previousRiskLevel := level }) levels
  rw [seen, OrderedMap.get?_set, List.filter_append, List.filter_singleton]
  by_cases own : message.gate.gateId = gateId
  · subst own
    simp only [if_true, decide_true, true_and]
    rfl
  · simp only [own, Ne.symm own, if_false, decide_false, cond_false, false_and, List.append_nil]
    rfl

theorem gateScoreSource_storeForecast (s : ForecastState) (gate : Gate) (result : ForecastResult) :
    (storeForecast s gate result).gateScoreSource.get? gateId =
      if gateId = gate.gateId then result.scores.head?.or (s.gateScoreSource.get? gateId)
      else s.gateScoreSource.get? gateId := by
  unfold storeForecast
  cases result.scores.head? with
  | none => simp
  | some point => exact OrderedMap.get?_set _ _ _ _

/-- Storing a forecast is seen in the view of its gate only. -/
theorem gateView_storeForecast (s : PipelineState) (gate : Gate) (result : ForecastResult) :
    ({ s with forecasts := storeForecast s.forecasts gate result } : PipelineState).gateView
        gateId =
      if gate.gateId = gateId then (s.gateView gateId).store result else s.gateView gateId := by
  show { s.gateView gateId with
    forecast := (s.forecasts.forecastStore.set gate.gateId result.scores).get? gateId
    currentScore := (storeForecast s.forecasts gate result).gateScoreSource.get? gateId } = _
  rw [OrderedMap.get?_set, gateScoreSource_storeForecast]
  by_cases own : gate.gateId = gateId
  · subst own
    simp only [if_true]
    rfl
  · rw [if_neg own, if_neg (Ne.symm own), if_neg (Ne.symm own)]
    rfl

/-- A field written for `target` is written in the view of `target`, and kept in
any other. -/
theorem update_or_keep {α : Type} (write : α → GateView) (target : GateId) (new old : α) :
    write (if gateId = target then new else old) =
      if some target = some gateId then write new else write old := by
  simp only [Option.some_inj, eq_comm (a := target)]
  split <;> rfl

/-- **Stretch lemma.** A task is seen in the view of its own gate only, and what
it does there depends on nothing else. -/
theorem gateView_resume {s : PipelineState} (fresh : s.alerts.IdsFresh) (task : PipelineTask) :
    (resume deps task s).shared.gateView gateId =
      if task.gateId? = some gateId then (s.gateView gateId).resumed task
      else s.gateView gateId := by
  cases task with
  | computing gate window =>
      rw [resume_computing]
      split <;> rfl
  | savingScore computation point =>
      show { s.gateView gateId with
        lastKnownScore := (s.redis.setLastKnownScore computation.gate.gateId
          point).getLastKnownScore gateId } = _
      rw [RedisState.getLastKnownScore_set]
      exact update_or_keep (fun score => { s.gateView gateId with lastKnownScore := score }) _ _ _
  | publishingForecast computation =>
      refine (gateView_onCongestionScore
        { s with forecasts := storeForecast s.forecasts computation.gate computation.result }
        fresh ⟨computation.gate, computation.result⟩).trans ?_
      rw [gateView_storeForecast]
      simp only [PipelineTask.gateId?, Option.some_inj]
      by_cases own : computation.gate.gateId = gateId
      · rw [if_pos own, if_pos own, if_pos own]
        rfl
      · rw [if_neg own, if_neg own, if_neg own]
  | raisingAlert update =>
      show { s.gateView gateId with
        previousRiskLevel := ((s.alerts.previousRiskLevelByGate.set update.gate.gateId
          update.result.currentRiskLevel).get? gateId).getD .low } = _
      rw [OrderedMap.get?_set]
      exact update_or_keep
        (fun level : Option RiskLevel =>
          { s.gateView gateId with previousRiskLevel := level.getD .low }) _ _ _
  | storingActions update actions =>
      show { s.gateView gateId with
        activeActions := (s.actions.setActiveActions update.gate.gateId
          actions).getActiveActions gateId } = _
      rw [ActionState.getActiveActions_set]
      exact update_or_keep (fun listed => { s.gateView gateId with activeActions := listed }) _ _ _
  | publishingActions update actions =>
      show { s.gateView gateId with
        activeActionsShown := (s.actions.activeActionsSource.set update.gate.gateId
          actions).get? gateId } = _
      rw [OrderedMap.get?_set]
      exact update_or_keep (fun shown => { s.gateView gateId with activeActionsShown := shown })
        _ _ _
  | writingActions target actions index updated =>
      show { s.gateView gateId with
        activeActions := (s.actions.setActiveActions target
          (actions.set index updated)).getActiveActions gateId } = _
      rw [ActionState.getActiveActions_set]
      exact update_or_keep (fun listed => { s.gateView gateId with activeActions := listed }) _ _ _
  | decidingNudge update fan lastNudgeAt rest generated =>
      show (decideNudge deps update fan lastNudgeAt rest generated s).shared.gateView gateId = _
      rw [decideNudge_shared]
      rfl
  | locatingAction target actionId userId now actions =>
      show (locateAction target actionId userId now actions s).shared.gateView gateId = _
      rw [locateAction_shared]
      split <;> rfl
  | recommending | readingActions => split <;> rfl
  | _ => rfl

/-- What follows a task is of its gate, or of none. -/
theorem gateId?_of_follows {task next : PipelineTask} (follows : Follows task next)
    (own : next.IsOf gateId) : task.IsOf gateId := by
  cases follows <;> first | exact own | cases own

/-- The task of a gate leaves and starts the same in two states that give the
gate the same view. -/
theorem alike_resume {s s' : PipelineState} (same : s.gateView gateId = s'.gateView gateId)
    {task : PipelineTask} (own : task.IsOf gateId) :
    Alike (PipelineTask.IsOf gateId) (resume deps task s).successors
      (resume deps task s').successors := by
  have clock : s.intake.clock = s'.intake.clock := congrArg (·.clock) same
  have tail : ∀ next : PipelineTask, next.gateId? = none →
      ∀ t ∈ [next], ¬ t.IsOf gateId := by
    intro next none t member own
    rw [List.mem_singleton.mp member] at own
    exact Option.some_ne_none gateId (own.symm.trans none)
  cases task with
  | computing gate window =>
      rw [resume_computing, resume_computing, clock]
      exact .same _ own
  | savingScore computation point => exact .same _ own
  | publishingForecast computation =>
      show Alike (PipelineTask.IsOf gateId) [.raisingAlert ⟨_, _, s.intake.clock⟩]
        [.raisingAlert ⟨_, _, s'.intake.clock⟩]
      rw [clock]
      exact .same _ own
  | raisingAlert update =>
      have window : s.intake.getWindowForGate gateId = s'.intake.getWindowForGate gateId :=
        congrArg (·.window) same
      show Alike (PipelineTask.IsOf gateId)
        [.recommending update (s.intake.getWindowForGate update.gate.gateId)]
        [.recommending update (s'.intake.getWindowForGate update.gate.gateId)]
      rw [Option.some.inj own, window]
      exact .same _ own
  | recommending update window => exact .same _ own
  | storingActions update actions => exact .same _ own
  | publishingActions update actions =>
      exact .unseen (tail (.advising update) rfl) (tail (.advising update) rfl)
  | readingActions target actionId userId now =>
      have listed : s.actions.getActiveActions gateId = s'.actions.getActiveActions gateId :=
        congrArg (·.activeActions) same
      show Alike (PipelineTask.IsOf gateId)
        [.locatingAction target actionId userId now (s.actions.getActiveActions target)]
        [.locatingAction target actionId userId now (s'.actions.getActiveActions target)]
      rw [Option.some.inj own, listed]
      exact .same _ rfl
  | locatingAction target actionId userId now actions =>
      show Alike _ (locateAction target actionId userId now actions s).successors
        (locateAction target actionId userId now actions s').successors
      unfold locateAction
      cases actions.find? (·.actionId = actionId) with
      | none => exact Alike.nil _
      | some found => exact .same _ own
  | writingActions target actions index updated =>
      exact .unseen (tail (.returningAction updated) rfl) (tail (.returningAction updated) rfl)
  | _ => cases own

/-- A resumption of another gate's task is not seen. -/
theorem unseen_resume {s : PipelineState} (fresh : s.alerts.IdsFresh) {task : PipelineTask}
    (other : ¬ task.IsOf gateId) :
    (resume deps task s).shared.gateView gateId = s.gateView gateId ∧
      ∀ next ∈ (resume deps task s).successors, ¬ next.IsOf gateId := by
  refine ⟨(gateView_resume deps fresh task).trans (if_neg other), fun next member own => ?_⟩
  exact other (gateId?_of_follows (resume_follows deps task s next member) own)

/-! ## Stimuli -/

/-- A signal is received in the view of its gate, and is not seen in any other. -/
theorem gateView_onSignalEvent (s : PipelineState) (event : SignalEvent) :
    (onSignalEvent deps s event).1.gateView gateId =
      if event.gateId = some gateId then (s.gateView gateId).receive event
      else s.gateView gateId := by
  rw [onSignalEvent_shared]
  show { s.gateView gateId with
    clock := (s.intake.onSignalEvent event).clock
    window := (s.intake.onSignalEvent event).getWindowForGate gateId } = _
  rw [IntakeState.onSignalEvent_clock, IntakeState.onSignalEvent_window]
  split <;> rfl

/-- A signal starts the recompute of its gate, if that is configured, from the
window it has entered. -/
theorem onSignalEvent_tasks (s : PipelineState) (event : SignalEvent) :
    (onSignalEvent deps s event).2 =
      ((event.gateId.bind deps.gatesById.get?).map fun gate =>
        .computing gate ((onSignalEvent deps s event).1.intake.getWindowForGate
          gate.gateId)).toList := by
  rw [onSignalEvent_shared]
  unfold onSignalEvent
  rw [event.truthy_gateId]
  cases event.gateId.bind deps.gatesById.get? <;> rfl

theorem gateId_of_signal {s : PipelineState} {event : SignalEvent} {task : PipelineTask}
    (started : task ∈ (onSignalEvent deps s event).2) : task.gateId? = event.gateId := by
  rw [onSignalEvent_tasks] at started
  obtain ⟨gate, configured, rfl⟩ := Option.map_eq_some_iff.mp (Option.mem_toList.mp started)
  obtain ⟨own, named, found⟩ := Option.bind_eq_some_iff.mp configured
  rw [named, ← PipelineDependencies.gateId_of_get? found]
  rfl

theorem gateId_of_tick {s : PipelineState} {target : GateId} {task : PipelineTask}
    (started : task ∈ (onTick deps s target).2) : task.gateId? = some target := by
  unfold onTick at started
  split at started
  · cases started
  · rename_i gate found
    rw [List.mem_singleton.mp started, ← PipelineDependencies.gateId_of_get? found]
    rfl

/-- A signal or a tick of another gate is not seen. -/
theorem unseen_stimulate (s : PipelineState) {stimulus : PipelineStimulus}
    (others : stimulus.ofOthers gateId = true) :
    (stimulate deps stimulus s).1.gateView gateId = s.gateView gateId ∧
      ∀ task ∈ (stimulate deps stimulus s).2, ¬ task.IsOf gateId := by
  have signal : ∀ event : SignalEvent, event.gateId.any (· ≠ gateId) = true →
      (onSignalEvent deps s event).1.gateView gateId = s.gateView gateId ∧
        ∀ task ∈ (onSignalEvent deps s event).2, ¬ task.IsOf gateId := by
    intro event elsewhere
    have other : event.gateId ≠ some gateId := by
      intro own
      rw [own] at elsewhere
      simp at elsewhere
    refine ⟨(gateView_onSignalEvent deps s event).trans (if_neg other), fun task started own => ?_⟩
    exact other ((gateId_of_signal deps started).symm.trans own)
  cases stimulus with
  | handleSignal accepted => exact signal (accepted.accept deps.timingConfig s.intake.clock) others
  | signalEvent event => exact signal event others
  | tick target =>
      refine ⟨?_, fun task started own => ?_⟩
      · show (onTick deps s target).1.gateView gateId = _
        rw [onTick_shared]
      · have target' := (gateId_of_tick deps started).symm.trans own
        rw [Option.some_inj] at target'
        exact of_decide_eq_true others target'
  | _ => cases others

/-- A message of the gate starts its subscriber at the clock of the view. -/
theorem same_onCongestionScore {s s' : PipelineState} (fresh : s.alerts.IdsFresh)
    (fresh' : s'.alerts.IdsFresh) (same : s.gateView gateId = s'.gateView gateId)
    (message : CongestionScoreMessage) :
    (onCongestionScore s message).1.gateView gateId =
        (onCongestionScore s' message).1.gateView gateId ∧
      Alike (PipelineTask.IsOf gateId) (onCongestionScore s message).2
        (onCongestionScore s' message).2 := by
  have clock : s.intake.clock = s'.intake.clock := congrArg (·.clock) same
  refine ⟨?_, ?_⟩
  · rw [gateView_onCongestionScore s fresh, gateView_onCongestionScore s' fresh', same]
  · show Alike (PipelineTask.IsOf gateId)
      [.raisingAlert ⟨message.gate, message.result, s.intake.clock⟩]
      [.raisingAlert ⟨message.gate, message.result, s'.intake.clock⟩]
    rw [clock]
    exact .refl_singleton _ _

/-- A kept signal does the same to both views. -/
theorem same_onSignalEvent {s s' : PipelineState}
    (same : s.gateView gateId = s'.gateView gateId) {event : SignalEvent}
    (kept : event.gateId.any (· ≠ gateId) = false) :
    (onSignalEvent deps s event).1.gateView gateId =
        (onSignalEvent deps s' event).1.gateView gateId ∧
      Alike (PipelineTask.IsOf gateId) (onSignalEvent deps s event).2
        (onSignalEvent deps s' event).2 := by
  have views : (onSignalEvent deps s event).1.gateView gateId =
      (onSignalEvent deps s' event).1.gateView gateId := by
    rw [gateView_onSignalEvent, gateView_onSignalEvent, same]
  refine ⟨views, ?_⟩
  rw [onSignalEvent_tasks, onSignalEvent_tasks]
  cases routed : event.gateId.bind deps.gatesById.get? with
  | none => exact Alike.nil _
  | some gate =>
      obtain ⟨own, named, found⟩ := Option.bind_eq_some_iff.mp routed
      have target : gate.gateId = gateId := by
        rw [named] at kept
        rw [PipelineDependencies.gateId_of_get? found]
        simpa using kept
      have window : (onSignalEvent deps s event).1.intake.getWindowForGate gateId =
          (onSignalEvent deps s' event).1.intake.getWindowForGate gateId :=
        congrArg (·.window) views
      show Alike (PipelineTask.IsOf gateId)
        [.computing gate ((onSignalEvent deps s event).1.intake.getWindowForGate gate.gateId)]
        [.computing gate ((onSignalEvent deps s' event).1.intake.getWindowForGate gate.gateId)]
      rw [target, window]
      exact .same _ (congrArg some target)

theorem same_stimulate {s s' : PipelineState} (fresh : s.alerts.IdsFresh)
    (fresh' : s'.alerts.IdsFresh) (same : s.gateView gateId = s'.gateView gateId)
    {stimulus : PipelineStimulus} (kept : stimulus.ofOthers gateId = false) :
    (stimulate deps stimulus s).1.gateView gateId =
        (stimulate deps stimulus s').1.gateView gateId ∧
      Alike (PipelineTask.IsOf gateId) (stimulate deps stimulus s).2
        (stimulate deps stimulus s').2 := by
  have clock : s.intake.clock = s'.intake.clock := congrArg (·.clock) same
  cases stimulus with
  | advance ms =>
      refine ⟨?_, Alike.nil _⟩
      show { s.gateView gateId with clock := s.intake.clock + ms } =
        { s'.gateView gateId with clock := s'.intake.clock + ms }
      rw [same, clock]
  | handleSignal signal =>
      show (onSignalEvent deps s (signal.accept deps.timingConfig s.intake.clock)).1.gateView
          gateId = (onSignalEvent deps s' (signal.accept deps.timingConfig
            s'.intake.clock)).1.gateView gateId ∧
        Alike (PipelineTask.IsOf gateId)
          (onSignalEvent deps s (signal.accept deps.timingConfig s.intake.clock)).2
          (onSignalEvent deps s' (signal.accept deps.timingConfig s'.intake.clock)).2
      rw [clock]
      exact same_onSignalEvent deps same kept
  | signalEvent event => exact same_onSignalEvent deps same kept
  | tick target =>
      have own : target = gateId := by simpa [PipelineStimulus.ofOthers] using kept
      have window : s.intake.getWindowForGate gateId = s'.intake.getWindowForGate gateId :=
        congrArg (·.window) same
      refine ⟨?_, ?_⟩
      · show (onTick deps s target).1.gateView gateId = (onTick deps s' target).1.gateView gateId
        rw [onTick_shared, onTick_shared, same]
      · show Alike (PipelineTask.IsOf gateId) (onTick deps s target).2 (onTick deps s' target).2
        unfold onTick startRecompute
        cases found : deps.gatesById.get? target with
        | none => exact Alike.nil _
        | some gate =>
            have named : gate.gateId = gateId :=
              (PipelineDependencies.gateId_of_get? found).trans own
            show Alike (PipelineTask.IsOf gateId)
              [.computing gate (s.intake.getWindowForGate gate.gateId)]
              [.computing gate (s'.intake.getWindowForGate gate.gateId)]
            rw [named, window]
            exact .same _ (congrArg some named)
  | congestionScore message => exact same_onCongestionScore fresh fresh' same message
  | executeAction target actionId userId =>
      refine ⟨same, ?_⟩
      show Alike (PipelineTask.IsOf gateId)
        [.readingActions target actionId userId s.intake.clock]
        [.readingActions target actionId userId s'.intake.clock]
      rw [clock]
      exact .refl_singleton _ _

/-! ## The server -/

theorem isolated_system (gateId : GateId) :
    (system deps).Isolated (PipelineState.gateView · gateId) (fun s => s.alerts.IdsFresh)
      (PipelineTask.IsOf gateId) (PipelineStimulus.ofOthers gateId) where
  inv_stimulate stimulus s fresh := ((sameReports_stimulate deps stimulus s).alerts fresh).1
  inv_resume task s fresh := ((sameReports_resume deps task s).alerts fresh).1
  unseen_stimulus _ s others _ := unseen_stimulate deps s others
  same_stimulus _ _ _ kept fresh fresh' same := same_stimulate deps fresh fresh' same kept
  unseen_resume _ _ other fresh := unseen_resume deps fresh other
  same_resume task s s' own fresh fresh' same := by
    refine ⟨?_, alike_resume deps same own⟩
    show (resume deps task s).shared.gateView gateId = (resume deps task s').shared.gateView gateId
    rw [gateView_resume deps fresh, gateView_resume deps fresh', same]

theorem unseen_deliveryWorker (gateId : GateId) :
    FanNudgeDeliveryWorker.system.Unseen (PipelineState.gateView · gateId)
      (fun s => s.alerts.IdsFresh) where
  stimulus stimulus _ fresh := by
    cases stimulus
    exact ⟨fresh, rfl⟩
  resume task _ fresh := by
    cases task <;> exact ⟨fresh, rfl⟩

/-- A data-quality alert is not one of the gate's RISK_LEVEL alerts. -/
theorem riskLevelAlerts_raiseDataQuality {s : AlertState} (fresh : s.IdsFresh)
    (gateId target : GateId) (statuses : List SourceStatus) (now : ℤ) :
    (s.raiseDataQualityAlertIfAllDegraded target statuses now).riskLevelAlerts gateId =
      s.riskLevelAlerts gateId := by
  unfold AlertState.raiseDataQualityAlertIfAllDegraded
  split
  · simp only [AlertState.riskLevelAlerts,
      OrderedMap.values_set_of_fresh (fresh s.nextAlertId le_rfl), List.filter_append,
      List.filter_singleton]
    simp [buildDataQualityAlert]
  · rfl

theorem unseen_dataQualityCheck (gates : List Gate) (gateId : GateId) :
    (DataQualityCheck.system gates).Unseen (PipelineState.gateView · gateId)
      (fun s => s.alerts.IdsFresh) where
  stimulus stimulus _ fresh := by
    cases stimulus <;> exact ⟨fresh, rfl⟩
  resume task s fresh := by
    rcases task with ⟨target, _ | ⟨sourceType, left⟩, statuses⟩ |
      ⟨target, _ | ⟨sourceType, left⟩, statuses, again⟩
    · exact ⟨fresh, rfl⟩
    · exact ⟨fresh, rfl⟩
    · refine ⟨fresh.raiseDataQuality target statuses s.intake.clock, ?_⟩
      have alerts := riskLevelAlerts_raiseDataQuality fresh gateId target statuses
        s.intake.clock
      have levels : (s.alerts.raiseDataQualityAlertIfAllDegraded target statuses
          s.intake.clock).previousRiskLevel gateId = s.alerts.previousRiskLevel gateId := by
        unfold AlertState.raiseDataQualityAlertIfAllDegraded
        split <;> rfl
      show { s.gateView gateId with
        previousRiskLevel := (s.alerts.raiseDataQualityAlertIfAllDegraded target statuses
          s.intake.clock).previousRiskLevel gateId
        riskLevelAlerts := ((s.alerts.raiseDataQualityAlertIfAllDegraded target statuses
          s.intake.clock).riskLevelAlerts gateId).map Alert.anonymous } = s.gateView gateId
      rw [alerts, levels]
      rfl
    · exact ⟨fresh, rfl⟩

/-- A signal or a tick of a gate other than `gateId`, among what reaches the
server. -/
def ofOtherGates (gateId : GateId) : ServerStimulus → Bool :=
  Sum.elim (PipelineStimulus.ofOthers gateId) fun _ => false

theorem isolated_server (gateId : GateId) :
    (server deps).Isolated (PipelineState.gateView · gateId) (fun s => s.alerts.IdsFresh)
      (Sum.elim (PipelineTask.IsOf gateId) fun _ => False) (ofOtherGates gateId) :=
  (isolated_system deps gateId).sum
    ((unseen_deliveryWorker gateId).sum (unseen_dataQualityCheck deps.gates gateId))

/-- The steps of a schedule of the server, each task named by the stimulus it
goes back to, without the signals and ticks of the gates other than
`gateId`. -/
def withoutOthers (startedAt : ℤ) (gateId : GateId) (schedule : List (Choice ServerStimulus)) :
    List (FamilyStep ServerStimulus) :=
  ((server deps).familySteps ⟨.wired startedAt, []⟩ 0 schedule).map
    (·.omitting (ofOtherGates gateId))

/-- The server after the steps. -/
def afterSteps (startedAt : ℤ) (steps : List (FamilyStep ServerStimulus)) :
    FamilyConfig PipelineState ServerTask :=
  (server deps).familyRun ⟨.wired startedAt, 0, fun _ => []⟩ steps

theorem sorted_wired (startedAt : ℤ) :
    Sorted (⟨PipelineState.wired startedAt, []⟩ : Config PipelineState (ℕ × ServerTask))
      ⟨PipelineState.wired startedAt, 0, fun _ => []⟩ where
  shared := rfl
  families _ := rfl
  founded _ impossible := absurd impossible List.not_mem_nil

/-- **Gates are isolated.** Leaving the signals and ticks of the other gates out
of a schedule gives a run of the server with the other stimuli, and leaves the
view of the gate unchanged, step for step. -/
theorem gates_isolated (startedAt : ℤ) (schedule : List (Choice ServerStimulus))
    (gateId : GateId) (n : ℕ) :
    (afterSteps deps startedAt
        ((withoutOthers deps startedAt gateId schedule).take n)).shared.gateView gateId =
      (serverAfter deps startedAt (schedule.take n)).shared.gateView gateId ∧
      ∃ pruned : List (Choice ServerStimulus),
        stimuli pruned = (stimuli (schedule.take n)).filter (!ofOtherGates gateId ·) ∧
        (serverAfter deps startedAt pruned).shared =
          (afterSteps deps startedAt
            ((withoutOthers deps startedAt gateId schedule).take n)).shared := by
  have sorted := sorted_wired startedAt
  have prefixed : (withoutOthers deps startedAt gateId schedule).take n =
      withoutOthers deps startedAt gateId (schedule.take n) := by
    unfold withoutOthers
    rw [← List.map_take, familySteps_take]
  have start : SameView (PipelineState.gateView · gateId) (fun s => s.alerts.IdsFresh)
      (Sum.elim (PipelineTask.IsOf gateId) fun _ : DeliveryTask ⊕ DataQualityTask => False)
      ⟨.wired startedAt, 0, fun _ => []⟩ ⟨.wired startedAt, 0, fun _ => []⟩ :=
    ⟨rfl, fun _ _ => rfl, fun _ _ => rfl, rfl, fun _ => Alike.nil _⟩
  rw [prefixed]
  refine ⟨?_, ?_⟩
  · have named : (afterSteps deps startedAt
        ((server deps).familySteps ⟨.wired startedAt, []⟩ 0 (schedule.take n))).shared =
          (serverAfter deps startedAt (schedule.take n)).shared :=
      familyRun_familySteps sorted (schedule.take n)
    rw [← named]
    exact ((isolated_server deps gateId).view_familyRun start _).symm
  · obtain ⟨pruned, kept, reached⟩ := exists_schedule (S := server deps) sorted
      (withoutOthers deps startedAt gateId (schedule.take n))
    refine ⟨pruned, ?_, reached⟩
    rw [kept]
    unfold withoutOthers
    rw [keptStimuli_omitting, keptStimuli_familySteps]

end Pipeline

end Stadium
