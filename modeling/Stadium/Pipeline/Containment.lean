import Stadium.FanNotificationSystem.Delivery
import Stadium.Infra.Topology
import Stadium.Lib.Rejection
import Stadium.OpsDashboard.DataQuality
import Stadium.Pipeline.Machine

/-!
# Where rejections go

Redis, the stores, the sinks and the audit repository may reject a call. A
subscriber that returns its promise to the event bus has its rejections caught
by the bus's wrapper, and a route catches its own. The interval timers discard
their promises, and so do two audit subscribers, for the scores and for the
actions; a rejection there is unhandled, and the server shuts down.
-/

namespace Stadium

open Interleaving TaskSystem

/-- The calls the pipeline makes on what it is given. -/
inductive DependencyCall where
  -- Redis
  | setLastKnownScore (gateId : GateId) (point : CongestionScorePoint)
  | getLastNudgeAt (fanId : FanId) (gateId : GateId)
  | setLastNudgeAt (fanId : FanId) (gateId : GateId) (generatedAt : ℤ)
  | isSourceDegraded (sourceType : SignalSource) (gateId : GateId)
  -- the stores
  | getActiveActions (gateId : GateId)
  | setActiveActions (gateId : GateId) (actions : List RecommendedAction)
  | updateRecommendation (recommendation : ShuttleRedirectionRecommendation)
  | enqueue (nudge : FanNudge)
  | getQueuedNudges
  | updateNudge (nudge : FanNudge)
  -- the sink of the delivery worker
  | recordDelivery (nudge : FanNudge) (deliveryRecord : DeliveryRecord)
  | recordCancellation (nudge : FanNudge)
  -- the audit repository
  | writeSignalEvent (event : SignalEvent)
  | writeScoreAudit (record : ScoreAuditRecord)
  | writeActionAudit (record : RecommendedAction)
  | writeShuttleRecommendation (record : ShuttleRedirectionRecommendation)
  | writeNudgeAudit (record : FanNudge)

/-- What becomes of a promise at the end of its chain. -/
inductive PromiseOwner where
  /-- Returned to the bus, whose wrapper catches. -/
  | busSubscriber
  /-- Awaited by a route, which catches. -/
  | route
  /-- Thrown away with `void`. -/
  | discarded
  deriving DecidableEq

def PromiseOwner.catches : PromiseOwner → Bool
  | .busSubscriber => true
  | .route => true
  | .discarded => false

/-- A write of the audit repository. -/
def AuditState.write (s : AuditState) : DependencyCall → AuditState
  | .writeSignalEvent event => { s with signalEvents := s.signalEvents ++ [event] }
  | .writeScoreAudit record => { s with scores := s.scores ++ [record] }
  | .writeActionAudit record => { s with actions := s.actions.set record.actionId record }
  | .writeShuttleRecommendation record =>
      { s with shuttleRecommendations := s.shuttleRecommendations ++ [record] }
  | .writeNudgeAudit record => { s with nudges := s.nudges.set record.nudgeId record }
  | _ => s

namespace Pipeline

variable (deps : PipelineDependencies)

/-! ## The calls -/

/-- The write of the audit subscriber of `congestion-scores`. -/
def scoreWrite (message : CongestionScoreMessage) (window : List SignalEvent) :
    List DependencyCall :=
  (message.result.scores.head?.map fun point =>
    .writeScoreAudit (scoreAuditOf message.gate point window)).toList

/-- The audit writes of a stimulus, and who hears of their rejection. -/
def stimulusWrites (stimulus : PipelineStimulus) (s : PipelineState) :
    List (DependencyCall × PromiseOwner) :=
  match stimulus with
  | .handleSignal signal =>
      [(.writeSignalEvent (signal.accept deps.timingConfig s.intake.clock), .busSubscriber)]
  | .signalEvent event => [(.writeSignalEvent event, .busSubscriber)]
  | .congestionScore message =>
      (scoreWrite message (s.intake.getWindowForGate message.gate.gateId)).map
        fun call => (call, .discarded)
  | _ => []

/-- The audit writes of a stretch. -/
def stretchWrites (task : PipelineTask) (s : PipelineState) :
    List (DependencyCall × PromiseOwner) :=
  match task with
  | .publishingForecast computation =>
      (scoreWrite ⟨computation.gate, computation.result⟩
        (s.intake.getWindowForGate computation.gate.gateId)).map fun call => (call, .discarded)
  | .publishingActions _ actions =>
      actions.map fun action => (.writeActionAudit action, .discarded)
  | .publishingRedirection _ redirection _ =>
      [(.writeShuttleRecommendation redirection, .busSubscriber)]
  | .publishingNudges nudges => nudges.map fun nudge => (.writeNudgeAudit nudge, .busSubscriber)
  | _ => []

/-- The call whose answer resumes a task of the pipeline. -/
def awaitedCall : PipelineTask → Option DependencyCall
  | .savingScore computation point => some (.setLastKnownScore computation.gate.gateId point)
  | .storingActions update actions => some (.setActiveActions update.gate.gateId actions)
  | .storingRedirection _ redirection _ => some (.updateRecommendation redirection)
  | .readingCooldown update fan _ _ => some (.getLastNudgeAt fan.fanId update.gate.gateId)
  | .settingCooldown update fan _ _ _ =>
      some (.setLastNudgeAt fan.fanId update.gate.gateId update.now)
  | .enqueueingNudge _ nudge _ _ => some (.enqueue nudge)
  | .readingActions gateId _ _ _ => some (.getActiveActions gateId)
  | .writingActions gateId actions index updated =>
      some (.setActiveActions gateId (actions.set index updated))
  | _ => none

/-- The call whose answer resumes a run of the delivery worker. -/
def awaitedByDelivery : DeliveryTask → Option DependencyCall
  | .readingQueue _ => some .getQueuedNudges
  | .delivering _ _ => none
  | .updatingNudge _ _ updated _ _ => some (.updateNudge updated)
  | .recordingOutcome _ updated (some deliveryRecord) _ =>
      some (.recordDelivery updated deliveryRecord)
  | .recordingOutcome _ updated none _ => some (.recordCancellation updated)

/-- The call whose answer resumes a data-quality check. -/
def awaitedByCheck : DataQualityTask → Option DependencyCall
  | .readingStatus gateId left _ => left.head?.map (.isSourceDegraded · gateId)
  | .readingAgain gateId left _ _ => left.head?.map (.isSourceDegraded · gateId)

theorem auditScore_write (s : AuditState) (message : CongestionScoreMessage)
    (window : List SignalEvent) :
    auditScore s message window = (scoreWrite message window).foldl AuditState.write s := by
  unfold auditScore scoreWrite
  cases message.result.scores.head? <;> rfl

theorem foldl_writeActionAudit (s : AuditState) (actions : List RecommendedAction) :
    (actions.map DependencyCall.writeActionAudit).foldl AuditState.write s =
      { s with
        actions := actions.foldl (fun log action => log.set action.actionId action)
          s.actions } := by
  induction actions generalizing s with
  | nil => rfl
  | cons action rest ih => exact ih _

theorem foldl_writeNudgeAudit (s : AuditState) (nudges : List FanNudge) :
    (nudges.map DependencyCall.writeNudgeAudit).foldl AuditState.write s =
      { s with
        nudges := nudges.foldl (fun log nudge => log.set nudge.nudgeId nudge) s.nudges } := by
  induction nudges generalizing s with
  | nil => rfl
  | cons nudge rest ih => exact ih _

/-- The audit after a stimulus is the audit before with its writes. -/
theorem stimulate_audit (stimulus : PipelineStimulus) (s : PipelineState) :
    (stimulate deps stimulus s).1.audit =
      ((stimulusWrites deps stimulus s).map Prod.fst).foldl AuditState.write s.audit := by
  cases stimulus with
  | handleSignal signal => exact congrArg _ (onSignalEvent_shared deps s _)
  | signalEvent event => exact congrArg _ (onSignalEvent_shared deps s event)
  | tick gateId => exact congrArg _ (onTick_shared deps s gateId)
  | congestionScore message =>
      show auditScore _ _ _ = _
      rw [auditScore_write, stimulusWrites, List.map_map]
      exact congrArg _ (List.map_id _).symm
  | _ => rfl

/-- The audit after a stretch is the audit before with its writes. -/
theorem resume_audit (task : PipelineTask) (s : PipelineState) :
    (resume deps task s).shared.audit =
      ((stretchWrites task s).map Prod.fst).foldl AuditState.write s.audit := by
  cases task with
  | computing gate window =>
      rw [resume_computing]
      rfl
  | publishingForecast computation =>
      show auditScore _ _ _ = _
      rw [auditScore_write, stretchWrites, List.map_map]
      exact congrArg _ (List.map_id _).symm
  | publishingActions update actions =>
      rw [stretchWrites, List.map_map]
      exact (foldl_writeActionAudit s.audit actions).symm
  | decidingNudge update fan lastNudgeAt rest generated =>
      simp [resume, stretchWrites]
  | publishingNudges nudges =>
      rw [stretchWrites, List.map_map]
      exact (foldl_writeNudgeAudit s.audit nudges).symm
  | locatingAction gateId actionId userId now actions =>
      simp [resume, stretchWrites]
  | _ => rfl

/-! ## The process -/

/-- What runs in the server's process: the pipeline, the delivery worker and the
data-quality check. -/
abbrev ServerTask := PipelineTask ⊕ (DeliveryTask ⊕ DataQualityTask)

abbrev ServerStimulus := PipelineStimulus ⊕ (DeliveryStimulus ⊕ DataQualityStimulus)

def server : TaskSystem PipelineState ServerTask ServerStimulus :=
  (system deps).sum (FanNudgeDeliveryWorker.system.sum (DataQualityCheck.system deps.gates))

/-- Whose a task is that a stimulus starts. -/
def ownerOf : ServerStimulus → PromiseOwner
  -- `void this.recompute(gate)`
  | .inl (.tick _) => .discarded
  | .inl (.executeAction ..) => .route
  | .inl _ => .busSubscriber
  -- `void fanNudgeDeliveryWorker.processQueue(..)`, `void Promise.all(..)`
  | .inr _ => .discarded

def callSites : CallSites (server deps) DependencyCall PromiseOwner where
  awaits
    | .inl task => awaitedCall task
    | .inr (.inl task) => awaitedByDelivery task
    | .inr (.inr task) => awaitedByCheck task
  besideStimulus
    | .inl stimulus, s => stimulusWrites deps stimulus s
    | .inr _, _ => []
  besideResume
    | .inl task, s => stretchWrites task s
    | .inr _, _ => []
  stimulateWith
    | .inl stimulus, s, writes =>
        { (stimulate deps stimulus s).1 with audit := writes.foldl AuditState.write s.audit }
    | .inr stimulus, s, _ => ((server deps).stimulate (.inr stimulus) s).1
  resumeWith
    | .inl task, s, writes =>
        { (resume deps task s).shared with audit := writes.foldl AuditState.write s.audit }
    | .inr task, s, _ => ((server deps).resume (.inr task) s).shared
  ofStimulus := ownerOf
  -- the only tasks a task starts are subscribers
  ofStarted _ := .busSubscriber
  catches := PromiseOwner.catches
  stimulateWith_all := by
    rintro (stimulus | stimulus) s
    · simp only
      rw [← stimulate_audit deps stimulus s]
      rfl
    · rfl
  resumeWith_all := by
    rintro (task | task) s
    · simp only
      rw [← resume_audit deps task s]
      rfl
    · rfl

/-- The server with calls that may reject. -/
def failingServer : TaskSystem (Process PipelineState DependencyCall)
    (PromiseOwner × ServerTask) (ProcessStimulus ServerStimulus DependencyCall) :=
  (server deps).failing (callSites deps)

abbrev ServerSchedule := List (Choice (ProcessStimulus ServerStimulus DependencyCall))

/-- The server just started, with nothing rejecting. -/
def started (startedAt : ℤ) :
    Config (Process PipelineState DependencyCall) (PromiseOwner × ServerTask) :=
  ⟨⟨.wired startedAt, fun _ => false, []⟩, []⟩

def afterOutages (startedAt : ℤ) (schedule : ServerSchedule) :
    Config (Process PipelineState DependencyCall) (PromiseOwner × ServerTask) :=
  (failingServer deps).run (started startedAt) schedule

/-- Without outages the server runs as it would if no call could reject. -/
theorem afterOutages_calm (startedAt : ℤ) (schedule : List (Choice ServerStimulus)) :
    forget (afterOutages deps startedAt (schedule.map (Choice.map .event))) =
      (server deps).run ⟨.wired startedAt, []⟩ schedule :=
  ((server deps).run_calm (callSites deps) (c := started startedAt) ⟨rfl, fun _ => rfl⟩
    schedule).1

/-- No rejection has reached the process, and whatever arrives next starts what
it starts. -/
def KeepsServing (c : Config (Process PipelineState DependencyCall)
    (PromiseOwner × ServerTask)) : Prop :=
  c.shared.unhandled = [] ∧ ∀ stimulus,
    ((failingServer deps).step c (.stimulus (.event stimulus))).suspended =
      c.suspended ++ ((server deps).stimulate stimulus c.shared.shared).2.map
        (Prod.mk (ownerOf stimulus))

/-- A step of the task makes no call that rejects and that nobody catches: the
score a tick has computed is saved, the writes of scores and actions to the
audit go through, and so does every call of the worker and of the data-quality
check. -/
def served (p : Process PipelineState DependencyCall) : PromiseOwner × ServerTask → Bool
  | (owner, .inl (.savingScore computation point)) =>
      owner.catches || !p.rejecting (.setLastKnownScore computation.gate.gateId point)
  | (_, .inl (.publishingForecast computation)) =>
      (scoreWrite ⟨computation.gate, computation.result⟩
        (p.shared.intake.getWindowForGate computation.gate.gateId)).all (!p.rejecting ·)
  | (_, .inl (.publishingActions _ actions)) =>
      actions.all fun action => !p.rejecting (.writeActionAudit action)
  | (_, .inl _) => true
  | (_, .inr (.inl task)) => !p.rejects (awaitedByDelivery task)
  | (_, .inr (.inr task)) => !p.rejects (awaitedByCheck task)

/-- No step makes such a call, and no message from outside has its score
rejected by the audit. -/
def AllServed (c : Config (Process PipelineState DependencyCall) (PromiseOwner × ServerTask)) :
    Choice (ProcessStimulus ServerStimulus DependencyCall) → Bool
  | .stimulus (.event (.inl (.congestionScore message))) =>
      (scoreWrite message (c.shared.shared.intake.getWindowForGate message.gate.gateId)).all
        (!c.shared.rejecting ·)
  | .stimulus _ => true
  | .resume position => c.suspended[position]?.all (served c.shared)

/-- The stretches of a recompute. -/
def recomputes : PipelineTask → Bool
  | .computing .. | .savingScore .. | .publishingForecast .. => true
  | _ => false

/-- Of the pipeline only recomputes have their promise discarded; the worker and
the check always have. -/
def OwnedAsStarted : PromiseOwner × ServerTask → Prop
  | (owner, .inl task) => owner.catches = false → recomputes task = true
  | (owner, .inr _) => owner.catches = false

theorem uncaught_discarded (p : Process PipelineState DependencyCall)
    (calls : List DependencyCall) :
    p.uncaught PromiseOwner.catches (calls.map fun call => (call, .discarded)) = [] ↔
      calls.all (!p.rejecting ·) = true := by
  simp [Process.uncaught, PromiseOwner.catches, List.filter_eq_nil_iff]

theorem owned_stimulate (stimulus : ProcessStimulus ServerStimulus DependencyCall)
    (p : Process PipelineState DependencyCall) :
    ∀ owned ∈ ((failingServer deps).stimulate stimulus p).2, OwnedAsStarted owned := by
  intro owned member
  simp only [failingServer, failing] at member
  split at member
  · exact absurd member List.not_mem_nil
  · cases stimulus with
    | outage rejecting => exact absurd member List.not_mem_nil
    | event stimulus =>
        obtain ⟨task, started, rfl⟩ := List.mem_map.mp member
        cases stimulus with
        | inl stimulus =>
            obtain ⟨task, starts, rfl⟩ := List.mem_map.mp started
            intro discarded
            cases stimulate_starts deps stimulus p.shared task starts with
            | ticked gateId gate window => rfl
            | _ => cases discarded
        | inr stimulus =>
            obtain ⟨task, started, rfl⟩ := List.mem_map.mp started
            rfl

theorem owned_resume {owned : PromiseOwner × ServerTask} (kept : OwnedAsStarted owned)
    (p : Process PipelineState DependencyCall) :
    ∀ next ∈ ((failingServer deps).resume owned p).continued.toList ++
      ((failingServer deps).resume owned p).started, OwnedAsStarted next := by
  obtain ⟨owner, task⟩ := owned
  intro next member
  simp only [failingServer, failing] at member
  split at member
  · rw [List.mem_singleton.mp member]
    exact kept
  · split at member
    · exact absurd member List.not_mem_nil
    · rcases List.mem_append.mp member with continued | started
      · obtain ⟨task', continues, rfl⟩ := Option.map_eq_some_iff.mp (Option.mem_toList.mp continued)
        cases task with
        | inl task =>
            obtain ⟨following, follows, rfl⟩ := Option.map_eq_some_iff.mp continues
            intro discarded
            have recomputing := kept discarded
            cases task with
            | computing gate window =>
                rw [show (system deps).resume (.computing gate window) p.shared =
                  resume deps (.computing gate window) p.shared from rfl,
                  resume_computing] at follows
                cases follows
                rfl
            | savingScore computation point =>
                cases follows
                rfl
            | publishingForecast computation => cases follows
            | _ => cases recomputing
        | inr task =>
            obtain ⟨following, -, rfl⟩ := Option.map_eq_some_iff.mp continues
            exact kept
      · obtain ⟨task', starts, rfl⟩ := List.mem_map.mp started
        cases task with
        | inl task =>
            obtain ⟨following, -, rfl⟩ := List.mem_map.mp starts
            intro discarded
            cases discarded
        | inr task =>
            cases task with
            | inl task => cases task <;> exact absurd starts List.not_mem_nil
            | inr task =>
                exfalso
                rcases task with ⟨gateId, _ | ⟨sourceType, left⟩, statuses⟩ |
                    ⟨gateId, _ | ⟨sourceType, left⟩, statuses, again⟩ <;>
                  exact absurd starts List.not_mem_nil

/-- Who owns what holds after every step. -/
theorem owned_step {c : Config (Process PipelineState DependencyCall) (PromiseOwner × ServerTask)}
    (kept : ∀ owned ∈ c.suspended, OwnedAsStarted owned)
    (choice : Choice (ProcessStimulus ServerStimulus DependencyCall)) :
    ∀ owned ∈ ((failingServer deps).step c choice).suspended, OwnedAsStarted owned :=
  (failingServer deps).run_tasks (fun p _ stimulus _ => owned_stimulate deps stimulus p)
    (fun _ p kept => owned_resume deps kept p) kept
    ((failingServer deps).guarded_trivial c [choice])

/-- A stretch of the pipeline leaves no rejection unhandled exactly if it is
served. -/
theorem contained_iff_served_of_pipeline (p : Process PipelineState DependencyCall)
    {owner : PromiseOwner} {task : PipelineTask} (owns : OwnedAsStarted (owner, .inl task)) :
    ((p.rejects (awaitedCall task) = true → owner.catches = true) ∧
        (p.rejects (awaitedCall task) = false →
          p.uncaught PromiseOwner.catches (stretchWrites task p.shared) = [])) ↔
      served p (owner, .inl task) = true := by
  cases task with
  | savingScore computation point =>
      cases caught : owner.catches <;>
        simp [served, awaitedCall, stretchWrites, Process.rejects, Process.uncaught, caught]
  | publishingForecast computation =>
      rw [stretchWrites, uncaught_discarded]
      simp [served, awaitedCall, Process.rejects]
  | publishingActions update actions =>
      have writes := uncaught_discarded p (actions.map DependencyCall.writeActionAudit)
      rw [List.map_map] at writes
      rw [stretchWrites]
      refine Iff.trans ⟨fun both => both.2 rfl, fun none => ⟨?_, fun _ => none⟩⟩ (writes.trans ?_)
      · simp [awaitedCall, Process.rejects]
      · simp [served]
  | computing gate window =>
      simp [served, awaitedCall, stretchWrites, Process.rejects, Process.uncaught]
  | _ =>
      refine iff_of_true ⟨fun _ => ?_, fun _ => ?_⟩ rfl
      · cases caught : owner.catches with
        | true => rfl
        | false => cases owns caught
      · simp [stretchWrites, Process.uncaught, PromiseOwner.catches]

/-- A step is contained exactly if it makes no call that rejects and that nobody
catches. -/
theorem contained_iff_allServed
    (c : Config (Process PipelineState DependencyCall) (PromiseOwner × ServerTask))
    (choice : Choice (ProcessStimulus ServerStimulus DependencyCall))
    (kept : ∀ owned ∈ c.suspended, OwnedAsStarted owned) :
    (server deps).Contained (callSites deps) c choice ↔ AllServed c choice = true := by
  cases choice with
  | stimulus stimulus =>
      cases stimulus with
      | outage rejecting => simp [Contained, AllServed]
      | event stimulus =>
          cases stimulus with
          | inr stimulus => simp [Contained, AllServed, callSites, Process.uncaught]
          | inl stimulus =>
              show c.shared.uncaught PromiseOwner.catches
                (stimulusWrites deps stimulus c.shared.shared) = [] ↔ _
              cases stimulus with
              | congestionScore message => exact uncaught_discarded c.shared _
              | _ => simp [AllServed, stimulusWrites, Process.uncaught, PromiseOwner.catches]
  | resume position =>
      simp only [Contained, AllServed]
      cases found : c.suspended[position]? with
      | none => simp
      | some owned =>
          obtain ⟨owner, task⟩ := owned
          have owns := kept (owner, task) (List.mem_of_getElem? found)
          simp only [Option.mem_some_iff, forall_eq', Option.all_some]
          cases task with
          | inl task =>
              exact contained_iff_served_of_pipeline c.shared owns
          | inr task =>
              have discarded : owner.catches = false := owns
              rcases task with task | task <;>
                simp [served, callSites, Process.uncaught, discarded]

/-- **Rejections are contained** along a schedule exactly if every step of it is
served: otherwise one reaches the process, and nothing is served any more. -/
theorem keeps_serving_iff (startedAt : ℤ) (schedule : ServerSchedule) :
    KeepsServing deps (afterOutages deps startedAt schedule) ↔
      (failingServer deps).Guarded (fun c choice => AllServed c choice) (started startedAt)
        schedule := by
  have quiet : (afterOutages deps startedAt schedule).shared.unhandled = [] ↔ _ :=
    (server deps).unhandled_eq_nil_iff (callSites deps) rfl schedule
  have agree := (failingServer deps).guarded_iff (fun _ choice kept => owned_step deps kept choice)
    (fun c choice kept => contained_iff_allServed deps c choice kept) (c := started startedAt)
    (by simp [started]) schedule
  refine Iff.trans ⟨fun serving => serving.1, fun up => ⟨up, fun stimulus => ?_⟩⟩
    (quiet.trans agree)
  simp [step, failingServer, failing, up, callSites]

/-- Redis takes no scores. -/
def redisDown : DependencyCall → Bool
  | .setLastKnownScore .. => true
  | _ => false

/-- Gate A's recompute is started while Redis is down and gets as far as saving
its score. -/
def duringOutage (stimulus : PipelineStimulus) : ServerSchedule :=
  [.stimulus (.outage redisDown), .stimulus (.event (.inl stimulus)), .resume 0, .resume 0]

/-- A rejection in a recompute that a signal has started is caught. -/
example : (afterOutages demoDependencies 0 (duringOutage (.signalEvent
    (demoReading "reading" 50 "1970-01-01T00:00:00.000Z")))).shared.unhandled.length = 0 := by
  decide +kernel

/-- In a recompute that a tick has started it reaches the process, and the next
tick starts nothing. -/
theorem tick_rejection_reaches_process :
    ¬ KeepsServing demoDependencies (afterOutages demoDependencies 0
      (duringOutage (.tick "gate-a"))) ∧
    (afterOutages demoDependencies 0 (duringOutage (.tick "gate-a") ++
      [.stimulus (.event (.inl (.tick "gate-b")))])).suspended.length = 0 := by
  refine ⟨fun serving => ?_, by decide +kernel⟩
  have quiet := congrArg List.length serving.1
  exact absurd quiet (by decide +kernel)

end Pipeline

end Stadium
