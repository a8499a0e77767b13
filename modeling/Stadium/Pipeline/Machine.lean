import Stadium.Pipeline.State
import Stadium.Lib.Interleaving

/-!
# The pipeline as a system of cooperative tasks

Every `async` function of the pipeline suspends at its `await`s; a
`PipelineTask` is such a suspended function with the local variables it still
needs. `resume` runs it to the next `await`, and `stimulate` runs a
subscriber or an entry point from its call to its first `await`. Publishing
on the in-memory bus is synchronous, so the subscribers' first stretches run
inside the publisher's.

A call on Redis or on a store takes effect some time between the call and its
answer: the task that made the call performs the effect when it is resumed
and waits for the answer in a further suspension.
-/

namespace Stadium

open Interleaving

/-- The local variables of one run of the `congestion-scores` subscriber. -/
structure ScoreUpdate where
  gate : Gate
  result : ForecastResult
  now : ℤ

inductive PipelineTask where
  -- `ForecastScheduler.recompute`, with the window already read
  | computing (gate : Gate) (window : List SignalEvent)
  -- `setLastKnownScore` called
  | savingScore (computation : Computation) (point : CongestionScorePoint)
  | publishingForecast (computation : Computation)
  -- the `congestion-scores` subscriber, with the alert already raised
  | raisingAlert (update : ScoreUpdate)
  | recommending (update : ScoreUpdate) (window : List SignalEvent)
  -- `setActiveActions` called
  | storingActions (update : ScoreUpdate) (actions : List RecommendedAction)
  | publishingActions (update : ScoreUpdate) (actions : List RecommendedAction)
  | advising (update : ScoreUpdate)
  -- `updateRecommendation` called
  | storingRedirection (update : ScoreUpdate) (redirection : ShuttleRedirectionRecommendation)
      (rest : List ShuttleRedirectionRecommendation)
  | publishingRedirection (update : ScoreUpdate) (redirection : ShuttleRedirectionRecommendation)
      (rest : List ShuttleRedirectionRecommendation)
  -- `getLastNudgeAt` called
  | readingCooldown (update : ScoreUpdate) (fan : FanContext) (rest : List FanContext)
      (generated : List FanNudge)
  | decidingNudge (update : ScoreUpdate) (fan : FanContext) (lastNudgeAt : Option ℤ)
      (rest : List FanContext) (generated : List FanNudge)
  -- `setLastNudgeAt` called
  | settingCooldown (update : ScoreUpdate) (fan : FanContext) (nudge : FanNudge)
      (rest : List FanContext) (generated : List FanNudge)
  -- `enqueue` called
  | enqueueingNudge (update : ScoreUpdate) (nudge : FanNudge) (rest : List FanContext)
      (generated : List FanNudge)
  | nudgeEnqueued (update : ScoreUpdate) (rest : List FanContext) (generated : List FanNudge)
  | publishingNudges (nudges : List FanNudge)
  -- `RecommendationEngineApi.executeAction`, with `getActiveActions` called
  | readingActions (gateId : GateId) (actionId userId : String) (now : ℤ)
  | locatingAction (gateId : GateId) (actionId userId : String) (now : ℤ)
      (actions : List RecommendedAction)
  -- `setActiveActions` called
  | writingActions (gateId : GateId) (actions : List RecommendedAction) (index : ℕ)
      (updated : RecommendedAction)
  | returningAction (updated : RecommendedAction)

/-- The message a recompute is about to publish. -/
def PipelineTask.publishes? : PipelineTask → Option CongestionScoreMessage
  | .publishingForecast computation => some ⟨computation.gate, computation.result⟩
  | _ => none

/-- What reaches the pipeline from outside. -/
inductive PipelineStimulus where
  /-- Time passes. -/
  | advance (ms : ℕ)
  /-- `POST /v1/signals` with a payload the schema accepts. -/
  | handleSignal (signal : ParsedSignal)
  /-- A message on `signal-events`. -/
  | signalEvent (event : SignalEvent)
  /-- A scheduled tick of a gate. -/
  | tick (gateId : GateId)
  /-- A message on `congestion-scores` that no recompute of this process
  published. -/
  | congestionScore (message : CongestionScoreMessage)
  /-- A staff member executes an action. -/
  | executeAction (gateId : GateId) (actionId userId : String)

namespace Pipeline

variable (deps : PipelineDependencies)

/-- `recompute` up to its first suspension. -/
def startRecompute (s : PipelineState) (gate : Gate) : PipelineTask :=
  .computing gate (s.intake.getWindowForGate gate.gateId)

/-- Both `signal-events` subscribers up to their first suspension. -/
def onSignalEvent (s : PipelineState) (event : SignalEvent) :
    PipelineState × List PipelineTask :=
  let s := { s with
    intake := s.intake.onSignalEvent event
    audit := { s.audit with signalEvents := s.audit.signalEvents ++ [event] } }
  match (truthy event.gateId).bind deps.gatesById.get? with
  | none => (s, [])
  | some gate => (s, [startRecompute s gate])

/-- `forecastsByGate.set(gate.gateId, result)`, and the message recorded. -/
def recordScore (s : ForecastState) (message : CongestionScoreMessage) : ForecastState :=
  { s with
    forecastsByGate := s.forecastsByGate.set message.gate.gateId message.result
    published := s.published ++ [message] }

/-- Write the score to the audit log, if the message has a current point. -/
def auditScore (s : AuditState) (message : CongestionScoreMessage)
    (window : List SignalEvent) : AuditState :=
  match message.result.scores.head? with
  | none => s
  | some currentPoint =>
      { s with scores := s.scores ++ [scoreAuditOf message.gate currentPoint window] }

/-- Both `congestion-scores` subscribers up to their first suspension. -/
def onCongestionScore (s : PipelineState) (message : CongestionScoreMessage) :
    PipelineState × List PipelineTask :=
  let now := s.intake.clock
  let gateId := message.gate.gateId
  let previousRiskLevel := s.alerts.previousRiskLevel gateId
  ({ s with
      forecasts := recordScore s.forecasts message
      alerts := s.alerts.raiseRiskLevelAlertIfTransitioned gateId previousRiskLevel
        message.result.currentRiskLevel now
      audit := auditScore s.audit message (s.intake.getWindowForGate gateId) },
    [.raisingAlert { gate := message.gate, result := message.result, now }])

/-- `publishForecast` before it publishes on the bus. -/
def storeForecast (s : ForecastState) (gate : Gate) (result : ForecastResult) : ForecastState :=
  { s with
    forecastStore := s.forecastStore.set gate.gateId result.scores
    gateScoreSource :=
      match result.scores.head? with
      | none => s.gateScoreSource
      | some currentPoint => s.gateScoreSource.set gate.gateId currentPoint }

def publishForecast (s : PipelineState) (gate : Gate) (result : ForecastResult) :
    PipelineState × List PipelineTask :=
  onCongestionScore { s with forecasts := storeForecast s.forecasts gate result }
    { gate, result }

/-- The head of the loop over the fans in `onScoreUpdate`. -/
def nextFan (update : ScoreUpdate) (fans : List FanContext) (generated : List FanNudge) :
    PipelineTask :=
  match fans with
  | [] => .publishingNudges generated
  | fan :: rest => .readingCooldown update fan rest generated

/-- The head of the loop over the redirections, and what follows it. -/
def nextRedirection (s : PipelineState) (update : ScoreUpdate)
    (redirections : List ShuttleRedirectionRecommendation) : PipelineTask :=
  match redirections with
  | redirection :: rest => .storingRedirection update redirection rest
  | [] =>
      let fans := ((s.intake.fansByGate.get? update.gate.gateId).map (·.values)).getD []
      nextFan update fans []

/-- A stretch that leaves the shared state alone. -/
def continueWith (s : PipelineState) (task : PipelineTask) : Stretch PipelineState PipelineTask :=
  ⟨s, some task, []⟩

/-- A stretch that ends the task. -/
def finish (s : PipelineState) : Stretch PipelineState PipelineTask := ⟨s, none, []⟩

/-- `recompute` from the arrival of its window to the call on Redis. -/
def compute (gate : Gate) (window : List SignalEvent) (s : PipelineState) :
    Stretch PipelineState PipelineTask :=
  let now := s.intake.clock
  match computeForecastWithFallback gate window now false
      (s.redis.getLastKnownScore gate.gateId) with
  -- an exception rejects the recompute
  | .error _ => finish s
  | .ok (result, toStore) =>
      let computation := { gate, window, now, result }
      let s := { s with
        forecasts := { s.forecasts with computed := s.forecasts.computed ++ [computation] } }
      match toStore with
      | some point => continueWith s (.savingScore computation point)
      | none => continueWith s (.publishingForecast computation)

/-- One fan of the loop in `onScoreUpdate`, from the answer of
`getLastNudgeAt`. -/
def decideNudge (update : ScoreUpdate) (fan : FanContext) (lastNudgeAt : Option ℤ)
    (rest : List FanContext) (generated : List FanNudge) (s : PipelineState) :
    Stretch PipelineState PipelineTask :=
  match generateFanNudge deps.localeCompare fan update.gate s.forecasts.forecastsByGate
      lastNudgeAt update.now with
  | none => continueWith s (nextFan update rest generated)
  | some nudge => continueWith s (.settingCooldown update fan nudge rest generated)

/-- `executeAction` from the answer of `getActiveActions`. -/
def locateAction (gateId : GateId) (actionId userId : String) (now : ℤ)
    (actions : List RecommendedAction) (s : PipelineState) : Stretch PipelineState PipelineTask :=
  match actions.find? (·.actionId = actionId) with
  -- `findIndex` returned -1: the call returns null
  | none => finish s
  | some found =>
      let updated := { found with
        executedAt := some (IsoDate.toISOString now)
        executedByUserId := some userId }
      continueWith s (.writingActions gateId actions
        (actions.findIdx (·.actionId = actionId)) updated)

def resume (task : PipelineTask) (s : PipelineState) : Stretch PipelineState PipelineTask :=
  match task with
  | .computing gate window => compute gate window s
  | .savingScore computation point =>
      continueWith
        { s with redis := s.redis.setLastKnownScore computation.gate.gateId point }
        (.publishingForecast computation)
  | .publishingForecast computation =>
      let published := publishForecast s computation.gate computation.result
      ⟨published.1, none, published.2⟩
  | .raisingAlert update =>
      let s := { s with
        alerts := { s.alerts with
          previousRiskLevelByGate := s.alerts.previousRiskLevelByGate.set update.gate.gateId
            update.result.currentRiskLevel } }
      continueWith s (.recommending update (s.intake.getWindowForGate update.gate.gateId))
  | .recommending update window =>
      continueWith s
        (.storingActions update (generateRecommendations update.gate update.result window))
  | .storingActions update actions =>
      continueWith { s with actions := s.actions.setActiveActions update.gate.gateId actions }
        (.publishingActions update actions)
  | .publishingActions update actions =>
      continueWith
        { s with
          actions := { s.actions with
            activeActionsSource := s.actions.activeActionsSource.set update.gate.gateId actions }
          audit := { s.audit with
            actions := actions.foldl (fun log action => log.set action.actionId action)
              s.audit.actions } }
        (.advising update)
  | .advising update =>
      continueWith s (nextRedirection s update
        (generateRedirections deps.localeCompare update.gate s.forecasts.forecastsByGate
          deps.routes (s.redirections.getRecentRejections s.intake.clock) update.now))
  | .storingRedirection update redirection rest =>
      continueWith { s with redirections := s.redirections.updateRecommendation redirection }
        (.publishingRedirection update redirection rest)
  | .publishingRedirection update redirection rest =>
      continueWith
        { s with
          audit := { s.audit with
            shuttleRecommendations := s.audit.shuttleRecommendations ++ [redirection] } }
        (nextRedirection s update rest)
  | .readingCooldown update fan rest generated =>
      continueWith s (.decidingNudge update fan
        (s.redis.getLastNudgeAt fan.fanId update.gate.gateId s.intake.clock) rest generated)
  | .decidingNudge update fan lastNudgeAt rest generated =>
      decideNudge deps update fan lastNudgeAt rest generated s
  | .settingCooldown update fan nudge rest generated =>
      continueWith
        { s with
          redis := s.redis.setLastNudgeAt fan.fanId update.gate.gateId update.now
            cooldownPeriodMs s.intake.clock }
        (.enqueueingNudge update nudge rest generated)
  | .enqueueingNudge update nudge rest generated =>
      continueWith { s with nudges := s.nudges.enqueue nudge }
        (.nudgeEnqueued update rest (generated ++ [nudge]))
  | .nudgeEnqueued update rest generated => continueWith s (nextFan update rest generated)
  | .publishingNudges nudges =>
      finish { s with
        audit := { s.audit with
          nudges := nudges.foldl (fun log nudge => log.set nudge.nudgeId nudge)
            s.audit.nudges } }
  | .readingActions gateId actionId userId now =>
      continueWith s
        (.locatingAction gateId actionId userId now (s.actions.getActiveActions gateId))
  | .locatingAction gateId actionId userId now actions =>
      locateAction gateId actionId userId now actions s
  | .writingActions gateId actions index updated =>
      continueWith
        { s with actions := s.actions.setActiveActions gateId (actions.set index updated) }
        (.returningAction updated)
  | .returningAction updated =>
      finish { s with actions := { s.actions with executed := s.actions.executed ++ [updated] } }

/-- The interval timer of a gate fires. -/
def onTick (s : PipelineState) (gateId : GateId) : PipelineState × List PipelineTask :=
  match deps.gatesById.get? gateId with
  | none => (s, [])
  | some gate => (s, [startRecompute s gate])

def stimulate (stimulus : PipelineStimulus) (s : PipelineState) :
    PipelineState × List PipelineTask :=
  match stimulus with
  | .advance ms => ({ s with intake := { s.intake with clock := s.intake.clock + ms } }, [])
  | .handleSignal signal =>
      onSignalEvent deps s (signal.accept deps.timingConfig s.intake.clock)
  | .signalEvent event => onSignalEvent deps s event
  | .tick gateId => onTick deps s gateId
  | .congestionScore message => onCongestionScore s message
  | .executeAction gateId actionId userId =>
      (s, [.readingActions gateId actionId userId s.intake.clock])

/-- The pipeline. -/
def system : TaskSystem PipelineState PipelineTask PipelineStimulus where
  stimulate := stimulate deps
  resume := resume deps

/-- A schedule: stimuli and resumptions in the order in which they happen. -/
abbrev Schedule := List (Choice PipelineStimulus)

/-- The task suspended at a position is resumed some times in a row. -/
def resumes (position times : ℕ) : Schedule := List.replicate times (.resume position)

/-- The configuration a schedule leads to from a pipeline wired at
`startedAt`. -/
def after (startedAt : ℤ) (schedule : Schedule) : Config PipelineState PipelineTask :=
  (system deps).run ⟨.wired startedAt, []⟩ schedule

/-! ## The branching stretches -/

theorem nextFan_cases (update : ScoreUpdate) (fans : List FanContext)
    (generated : List FanNudge) :
    nextFan update fans generated = .publishingNudges generated ∨
      ∃ fan rest, nextFan update fans generated = .readingCooldown update fan rest generated := by
  cases fans with
  | nil => exact .inl rfl
  | cons fan rest => exact .inr ⟨fan, rest, rfl⟩

theorem nextRedirection_cases (s : PipelineState) (update : ScoreUpdate)
    (redirections : List ShuttleRedirectionRecommendation) :
    (∃ redirection rest, nextRedirection s update redirections =
      .storingRedirection update redirection rest) ∨
      nextRedirection s update redirections = .publishingNudges [] ∨
      ∃ fan rest, nextRedirection s update redirections =
        .readingCooldown update fan rest [] := by
  cases redirections with
  | nil => exact .inr (nextFan_cases update _ [])
  | cons redirection rest => exact .inl ⟨redirection, rest, rfl⟩

/-- The recompute never fails: it records its computation and calls Redis. -/
theorem compute_eq (gate : Gate) (window : List SignalEvent) (s : PipelineState) :
    compute gate window s =
      continueWith
        { s with
          forecasts := { s.forecasts with
            computed := s.forecasts.computed ++
              [⟨gate, window, s.intake.clock, forecastOf gate window s.intake.clock⟩] } }
        (.savingScore ⟨gate, window, s.intake.clock, forecastOf gate window s.intake.clock⟩
          (currentPointOf gate window s.intake.clock)) := by
  unfold compute
  simp only [computeForecastWithFallback_computed]

theorem resume_computing (gate : Gate) (window : List SignalEvent) (s : PipelineState) :
    resume deps (.computing gate window) s =
      continueWith
        { s with
          forecasts := { s.forecasts with
            computed := s.forecasts.computed ++
              [⟨gate, window, s.intake.clock, forecastOf gate window s.intake.clock⟩] } }
        (.savingScore ⟨gate, window, s.intake.clock, forecastOf gate window s.intake.clock⟩
          (currentPointOf gate window s.intake.clock)) :=
  compute_eq gate window s

@[simp] theorem decideNudge_shared (update : ScoreUpdate) (fan : FanContext)
    (lastNudgeAt : Option ℤ) (rest : List FanContext) (generated : List FanNudge)
    (s : PipelineState) :
    (decideNudge deps update fan lastNudgeAt rest generated s).shared = s := by
  unfold decideNudge
  split <;> rfl

@[simp] theorem locateAction_shared (gateId : GateId) (actionId userId : String) (now : ℤ)
    (actions : List RecommendedAction) (s : PipelineState) :
    (locateAction gateId actionId userId now actions s).shared = s := by
  unfold locateAction
  split <;> rfl

@[simp] theorem onSignalEvent_shared (s : PipelineState) (event : SignalEvent) :
    (onSignalEvent deps s event).1 =
      { s with
        intake := s.intake.onSignalEvent event
        audit := { s.audit with signalEvents := s.audit.signalEvents ++ [event] } } := by
  unfold onSignalEvent
  simp only
  split <;> rfl

@[simp] theorem onTick_shared (s : PipelineState) (gateId : GateId) :
    (onTick deps s gateId).1 = s := by
  unfold onTick
  split <;> rfl

section auditScore

variable (s : AuditState) (message : CongestionScoreMessage) (window : List SignalEvent)

@[simp] theorem auditScore_actions : (auditScore s message window).actions = s.actions := by
  unfold auditScore
  split <;> rfl

@[simp] theorem auditScore_shuttleRecommendations :
    (auditScore s message window).shuttleRecommendations = s.shuttleRecommendations := by
  unfold auditScore
  split <;> rfl

@[simp] theorem auditScore_nudges : (auditScore s message window).nudges = s.nudges := by
  unfold auditScore
  split <;> rfl

end auditScore

/-! ## The flow of control -/

/-- The task may be one the stimulus starts. -/
inductive Starts : PipelineStimulus → PipelineTask → Prop where
  | accepted (signal gate window) : Starts (.handleSignal signal) (.computing gate window)
  | delivered (event gate window) : Starts (.signalEvent event) (.computing gate window)
  | ticked (gateId gate window) : Starts (.tick gateId) (.computing gate window)
  | scored (message update) : Starts (.congestionScore message) (.raisingAlert update)
  | requested (gateId actionId userId now) :
      Starts (.executeAction gateId actionId userId) (.readingActions gateId actionId userId now)

theorem startsRecompute_of_onSignalEvent {s : PipelineState} {event : SignalEvent}
    {task : PipelineTask} (started : task ∈ (onSignalEvent deps s event).2) :
    ∃ gate window, task = .computing gate window := by
  unfold onSignalEvent at started
  simp only at started
  split at started
  · exact absurd started List.not_mem_nil
  · exact ⟨_, _, List.mem_singleton.mp started⟩

theorem stimulate_starts (stimulus : PipelineStimulus) (s : PipelineState) :
    ∀ task ∈ (stimulate deps stimulus s).2, Starts stimulus task := by
  intro task started
  cases stimulus with
  | advance ms => exact absurd started List.not_mem_nil
  | handleSignal signal =>
      obtain ⟨gate, window, rfl⟩ := startsRecompute_of_onSignalEvent deps started
      exact .accepted signal gate window
  | signalEvent event =>
      obtain ⟨gate, window, rfl⟩ := startsRecompute_of_onSignalEvent deps started
      exact .delivered event gate window
  | tick gateId =>
      have started : task ∈ (onTick deps s gateId).2 := started
      unfold onTick at started
      split at started
      · exact absurd started List.not_mem_nil
      · rw [List.mem_singleton.mp started]
        exact .ticked gateId _ _
  | congestionScore message =>
      rw [List.mem_singleton.mp started]
      exact .scored message _
  | executeAction gateId actionId userId =>
      rw [List.mem_singleton.mp started]
      exact .requested gateId actionId userId _

/-- The task `next` may be what a resumption of `task` leaves or starts. -/
inductive Follows : PipelineTask → PipelineTask → Prop where
  | computed (computation point) :
      Follows (.computing computation.gate computation.window) (.savingScore computation point)
  | saved (computation point) :
      Follows (.savingScore computation point) (.publishingForecast computation)
  | published (computation now) :
      Follows (.publishingForecast computation)
        (.raisingAlert ⟨computation.gate, computation.result, now⟩)
  | alerted (update window) : Follows (.raisingAlert update) (.recommending update window)
  | recommended (update window actions) :
      Follows (.recommending update window) (.storingActions update actions)
  | stored (update actions) :
      Follows (.storingActions update actions) (.publishingActions update actions)
  | listed (update actions) : Follows (.publishingActions update actions) (.advising update)
  | advised (update redirection rest) :
      Follows (.advising update) (.storingRedirection update redirection rest)
  | redirected (update redirection rest) :
      Follows (.storingRedirection update redirection rest)
        (.publishingRedirection update redirection rest)
  | nextRedirection (update redirection rest next) :
      Follows (.publishingRedirection update redirection (next :: rest))
        (.storingRedirection update next rest)
  | notified (update fan rest) : Follows (.advising update) (.readingCooldown update fan rest [])
  | silent (update) : Follows (.advising update) (.publishingNudges [])
  | notifiedLate (update redirection fan rest) :
      Follows (.publishingRedirection update redirection [])
        (.readingCooldown update fan rest [])
  | silentLate (update redirection) :
      Follows (.publishingRedirection update redirection []) (.publishingNudges [])
  | asked (update fan lastNudgeAt rest generated) :
      Follows (.readingCooldown update fan rest generated)
        (.decidingNudge update fan lastNudgeAt rest generated)
  | due (update fan lastNudgeAt nudge rest generated) :
      Follows (.decidingNudge update fan lastNudgeAt rest generated)
        (.settingCooldown update fan nudge rest generated)
  | spared (update fan lastNudgeAt next rest generated) :
      Follows (.decidingNudge update fan lastNudgeAt (next :: rest) generated)
        (.readingCooldown update next rest generated)
  | sparedLast (update fan lastNudgeAt generated) :
      Follows (.decidingNudge update fan lastNudgeAt [] generated) (.publishingNudges generated)
  | clocked (update fan nudge rest generated) :
      Follows (.settingCooldown update fan nudge rest generated)
        (.enqueueingNudge update nudge rest generated)
  | enqueued (update nudge rest generated) :
      Follows (.enqueueingNudge update nudge rest generated)
        (.nudgeEnqueued update rest (generated ++ [nudge]))
  | nextFan (update next rest generated) :
      Follows (.nudgeEnqueued update (next :: rest) generated)
        (.readingCooldown update next rest generated)
  | lastFan (update generated) :
      Follows (.nudgeEnqueued update [] generated) (.publishingNudges generated)
  | read (gateId actionId userId now actions) :
      Follows (.readingActions gateId actionId userId now)
        (.locatingAction gateId actionId userId now actions)
  | located (gateId actionId userId now actions index updated) :
      Follows (.locatingAction gateId actionId userId now actions)
        (.writingActions gateId actions index updated)
  | written (gateId actions index updated) :
      Follows (.writingActions gateId actions index updated) (.returningAction updated)

theorem follows_of_advising (s : PipelineState) (update : ScoreUpdate)
    (redirections : List ShuttleRedirectionRecommendation) :
    Follows (.advising update) (nextRedirection s update redirections) := by
  rcases nextRedirection_cases s update redirections with
    ⟨redirection, rest, more⟩ | done | ⟨fan, rest, more⟩
  · rw [more]
    exact .advised update redirection rest
  · rw [done]
    exact .silent update
  · rw [more]
    exact .notified update fan rest

/-- Every task a resumption leaves or starts follows the resumed one. -/
theorem resume_follows (task : PipelineTask) (s : PipelineState) :
    ∀ next ∈ (resume deps task s).continued.toList ++ (resume deps task s).started,
      Follows task next := by
  intro next member
  cases task with
  | computing gate window =>
      rw [resume_computing] at member
      rw [List.mem_singleton.mp member]
      exact .computed ⟨gate, window, _, _⟩ _
  | savingScore computation point =>
      rw [List.mem_singleton.mp member]
      exact .saved computation point
  | publishingForecast computation =>
      rw [List.mem_singleton.mp member]
      exact .published computation _
  | raisingAlert update =>
      rw [List.mem_singleton.mp member]
      exact .alerted update _
  | recommending update window =>
      rw [List.mem_singleton.mp member]
      exact .recommended update window _
  | storingActions update actions =>
      rw [List.mem_singleton.mp member]
      exact .stored update actions
  | publishingActions update actions =>
      rw [List.mem_singleton.mp member]
      exact .listed update actions
  | advising update =>
      rw [List.mem_singleton.mp member]
      exact follows_of_advising s update _
  | storingRedirection update redirection rest =>
      rw [List.mem_singleton.mp member]
      exact .redirected update redirection rest
  | publishingRedirection update redirection rest =>
      rw [List.mem_singleton.mp member]
      cases rest with
      | cons first more => exact .nextRedirection update redirection more first
      | nil =>
          show Follows _ (Pipeline.nextFan update _ [])
          rcases nextFan_cases update _ [] with done | ⟨fan, more, found⟩
          · rw [done]
            exact .silentLate update redirection
          · rw [found]
            exact .notifiedLate update redirection fan more
  | readingCooldown update fan rest generated =>
      rw [List.mem_singleton.mp member]
      exact .asked update fan _ rest generated
  | decidingNudge update fan lastNudgeAt rest generated =>
      rw [show resume deps (.decidingNudge update fan lastNudgeAt rest generated) s =
        decideNudge deps update fan lastNudgeAt rest generated s from rfl] at member
      unfold decideNudge at member
      split at member
      · rw [List.mem_singleton.mp member]
        cases rest with
        | nil => exact .sparedLast update fan lastNudgeAt generated
        | cons first more => exact .spared update fan lastNudgeAt first more generated
      · rw [List.mem_singleton.mp member]
        exact .due update fan lastNudgeAt _ rest generated
  | settingCooldown update fan nudge rest generated =>
      rw [List.mem_singleton.mp member]
      exact .clocked update fan nudge rest generated
  | enqueueingNudge update nudge rest generated =>
      rw [List.mem_singleton.mp member]
      exact .enqueued update nudge rest generated
  | nudgeEnqueued update rest generated =>
      rw [List.mem_singleton.mp member]
      cases rest with
      | nil => exact .lastFan update generated
      | cons first more => exact .nextFan update first more generated
  | publishingNudges nudges => exact absurd member List.not_mem_nil
  | readingActions gateId actionId userId now =>
      rw [List.mem_singleton.mp member]
      exact .read gateId actionId userId now _
  | locatingAction gateId actionId userId now actions =>
      rw [show resume deps (.locatingAction gateId actionId userId now actions) s =
        locateAction gateId actionId userId now actions s from rfl] at member
      unfold locateAction at member
      split at member
      · exact absurd member List.not_mem_nil
      · rw [List.mem_singleton.mp member]
        exact .located gateId actionId userId now actions _ _
  | writingActions gateId actions index updated =>
      rw [List.mem_singleton.mp member]
      exact .written gateId actions index updated
  | returningAction updated => exact absurd member List.not_mem_nil

end Pipeline

end Stadium
