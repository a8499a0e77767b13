import Stadium.Lib.Composition
import Stadium.Pipeline.Intake
import Stadium.SignalIngestion.SourceTimers

/-!
# Every payload is recorded once

The ingestion service in front of the pipeline, with raw payloads and no call
failing. A request is its `Handling`: it makes its first call when it comes in
and one more each time it is resumed. Publishing reaches all subscribers at
once, so the audit repository and the pipeline get an event in the same
stretch, and a validation error reaches the repository alone.

`Recorded` relates what the repository holds to the payloads handed in. All a
suspended request has left to do is to start a timer, so no resumption
records anything.
-/

namespace Stadium

open Interleaving

/-- `ValidationErrorRecord`: the error, with the fields the publisher adds. -/
structure ValidationErrorRecord where
  error : ValidationError
  /-- The id `randomUUID` returns. -/
  errorId : ℕ
  recordedAt : String

structure IngestionState where
  pipeline : PipelineState
  /-- The validation errors of the audit repository. -/
  validationErrors : List ValidationErrorRecord := []
  /-- The next id `randomUUID` returns. -/
  nextErrorId : ℕ := 0
  /-- Every payload handed to `handleSignal`, in order; no code reads it. -/
  submissions : List Submission := []

/-- The stimulus is no message on `signal-events`. -/
def PipelineStimulus.quiet : PipelineStimulus → Bool
  | .handleSignal _ | .signalEvent _ => false
  | _ => true

inductive IngestionStimulus where
  /-- `handleSignal`, and the id `randomUUID` would return. -/
  | handleSignal (uuid : String) (rawPayload : Option Json)
  /-- Anything else that reaches the pipeline; the service alone publishes
  signals. -/
  | other (stimulus : PipelineStimulus) (quiet : stimulus.quiet = true)

/-- The events a request publishes, and the errors. -/
def Handling.refused (handling : Handling) : List ValidationError :=
  handling.effects.filterMap fun
    | .publishValidationError error => some error
    | _ => none

namespace Ingestion

variable (deps : PipelineDependencies)

/-- One call of a request, with what its subscribers do at once. -/
def perform (effect : IngestionEffect) (s : IngestionState) :
    IngestionState × List PipelineTask :=
  match effect with
  | .publishSignalEvent event =>
      let delivered := Pipeline.onSignalEvent deps s.pipeline event
      ({ s with pipeline := delivered.1 }, delivered.2)
  | .publishValidationError error =>
      let record := {
        error
        errorId := s.nextErrorId
        recordedAt := IsoDate.toISOString s.pipeline.intake.clock }
      ({ s with
          validationErrors := s.validationErrors ++ [record]
          nextErrorId := s.nextErrorId + 1 }, [])
  | .markActive sourceType gateOrRouteId =>
      ({ s with
          pipeline := { s.pipeline with
            redis := s.pipeline.redis.markActive sourceType gateOrRouteId
              s.pipeline.intake.clock } }, [])

/-- A request up to its next `await`: one call, or the answer. -/
def callNext (request : Handling) (s : IngestionState) :
    Stretch IngestionState (PipelineTask ⊕ Handling) :=
  match request.effects with
  | [] => ⟨s, none, []⟩
  | effect :: rest =>
      let performed := perform deps effect s
      ⟨performed.1, some (.inr ⟨rest, request.answer⟩), performed.2.map .inl⟩

def stimulate (stimulus : IngestionStimulus) (s : IngestionState) :
    IngestionState × List (PipelineTask ⊕ Handling) :=
  match stimulus with
  | .handleSignal uuid rawPayload =>
      let submission := ⟨uuid, rawPayload, s.pipeline.intake.clock⟩
      let called := callNext deps (submission.handle deps.timingConfig)
        { s with submissions := s.submissions ++ [submission] }
      (called.shared, called.continued.toList ++ called.started)
  | .other stimulus _ =>
      let reacted := Pipeline.stimulate deps stimulus s.pipeline
      ({ s with pipeline := reacted.1 }, reacted.2.map .inl)

def resume (task : PipelineTask ⊕ Handling) (s : IngestionState) :
    Stretch IngestionState (PipelineTask ⊕ Handling) :=
  match task with
  | .inl task =>
      let resumed := Pipeline.resume deps task s.pipeline
      ⟨{ s with pipeline := resumed.shared }, resumed.continued.map .inl, resumed.started.map .inl⟩
  | .inr request => callNext deps request s

/-- The pipeline with the ingestion service in front of it. -/
def system : TaskSystem IngestionState (PipelineTask ⊕ Handling) IngestionStimulus where
  stimulate := stimulate deps
  resume := resume deps

def after (startedAt : ℤ) (schedule : List (Choice IngestionStimulus)) :
    Config IngestionState (PipelineTask ⊕ Handling) :=
  (system deps).run ⟨{ pipeline := .wired startedAt }, []⟩ schedule

end Ingestion

/-! ## One request -/

/-- What a request does: it publishes its event and then at most starts a timer, or
it publishes an error. -/
theorem Submission.handle_cases (config : TimingConfig) (submission : Submission) :
    (∃ event timers, submission.handle config =
        ⟨.publishSignalEvent event :: timers, some (.accepted event.signalId)⟩ ∧
        ∀ effect ∈ timers, ∃ sourceType id, effect = .markActive sourceType id) ∨
      ∃ error, submission.handle config =
        ⟨[.publishValidationError error], some (.rejected error)⟩ := by
  let attempt : Attempt := ⟨{}, submission.uuid, submission.now⟩
  cases parsed : attempt.parsed submission.rawPayload with
  | error error => exact .inr ⟨error, Attempt.handle_of_error config parsed⟩
  | ok event =>
      have handled := Attempt.handle_of_ok config parsed
      refine .inl ⟨event.classified config attempt.now, ?_⟩
      cases target : event.targetId with
      | none =>
          rw [target] at handled
          exact ⟨[], handled, nofun⟩
      | some targetId =>
          rw [target] at handled
          refine ⟨[.markActive event.source targetId], handled, ?_⟩
          intro effect listed
          exact ⟨_, _, List.mem_singleton.mp listed⟩

/-- Of an accepted request the event alone is published. -/
theorem Handling.published_of_timers {event : SignalEvent} {timers : List IngestionEffect}
    {answer : Option SignalIngestionResult}
    (only : ∀ effect ∈ timers, ∃ sourceType id, effect = .markActive sourceType id) :
    (Handling.mk (.publishSignalEvent event :: timers) answer).published = [event] ∧
      (Handling.mk (.publishSignalEvent event :: timers) answer).refused = [] := by
  have silent : ∀ {υ : Type} {view : IngestionEffect → Option υ},
      (∀ sourceType id, view (.markActive sourceType id) = none) → timers.filterMap view = [] := by
    intro υ view blind
    apply List.filterMap_eq_nil_iff.mpr
    intro effect listed
    obtain ⟨sourceType, id, rfl⟩ := only effect listed
    exact blind sourceType id
  constructor
  · show event :: timers.filterMap _ = [event]
    rw [silent fun _ _ => rfl]
  · show timers.filterMap _ = []
    exact silent fun _ _ => rfl

/-- A payload is accepted with its event or rejected with its error. -/
def Submission.Settled (config : TimingConfig) (submission : Submission) : Prop :=
  (∃ event, (submission.handle config).answer = some (.accepted event.signalId) ∧
      (submission.handle config).published = [event] ∧
      (submission.handle config).refused = []) ∨
    ∃ error, (submission.handle config).answer = some (.rejected error) ∧
      (submission.handle config).published = [] ∧
      (submission.handle config).refused = [error]

theorem Submission.settled (config : TimingConfig) (submission : Submission) :
    submission.Settled config := by
  rcases submission.handle_cases config with ⟨event, timers, handled, only⟩ | ⟨error, handled⟩
  · obtain ⟨published, refused⟩ := Handling.published_of_timers only
    exact .inl ⟨event, by rw [handled], by rw [handled, published], by rw [handled, refused]⟩
  · exact .inr ⟨error, by rw [handled], by rw [handled]; rfl, by rw [handled]; rfl⟩

/-! ## What the repository holds -/

namespace Ingestion

/-- The repository holds the events delivered, which are those of the payloads
accepted, and the errors of those refused. -/
structure Recorded (deps : PipelineDependencies) (s : IngestionState) : Prop where
  delivered : s.pipeline.audit.signalEvents = s.pipeline.intake.delivered
  accepted : s.pipeline.audit.signalEvents =
    s.submissions.flatMap fun submission => (submission.handle deps.timingConfig).published
  refused : s.validationErrors.map (·.error) =
    s.submissions.flatMap fun submission => (submission.handle deps.timingConfig).refused

/-- A suspended request has only timers left to start. -/
def OnlyTimers : PipelineTask ⊕ Handling → Prop
  | .inl _ => True
  | .inr request => ∀ effect ∈ request.effects, ∃ sourceType id, effect = .markActive sourceType id

variable {deps : PipelineDependencies}

theorem resume_signalEvents (deps : PipelineDependencies) (task : PipelineTask)
    (s : PipelineState) :
    (Pipeline.resume deps task s).shared.audit.signalEvents = s.audit.signalEvents := by
  cases task with
  | computing gate window =>
      rw [Pipeline.resume_computing]
      rfl
  | publishingForecast computation =>
      show (Pipeline.auditScore _ _ _).signalEvents = _
      unfold Pipeline.auditScore
      split <;> rfl
  | decidingNudge update fan lastNudgeAt rest generated =>
      exact congrArg (·.audit.signalEvents)
        (Pipeline.decideNudge_shared deps update fan lastNudgeAt rest generated s)
  | locatingAction gateId actionId userId now actions =>
      exact congrArg (·.audit.signalEvents)
        (Pipeline.locateAction_shared gateId actionId userId now actions s)
  | _ => rfl

/-- A stimulus that is no signal delivers and records none. -/
theorem stimulate_quiet (deps : PipelineDependencies) {stimulus : PipelineStimulus}
    (quiet : stimulus.quiet = true) (s : PipelineState) :
    (Pipeline.stimulate deps stimulus s).1.intake.delivered = s.intake.delivered ∧
      (Pipeline.stimulate deps stimulus s).1.audit.signalEvents = s.audit.signalEvents := by
  cases stimulus with
  | advance ms => exact ⟨rfl, rfl⟩
  | handleSignal signal => cases quiet
  | signalEvent event => cases quiet
  | tick gateId =>
      have same : (Pipeline.stimulate deps (.tick gateId) s).1 = s :=
        Pipeline.onTick_shared deps s gateId
      rw [same]
      exact ⟨rfl, rfl⟩
  | congestionScore message =>
      refine ⟨rfl, ?_⟩
      show (Pipeline.auditScore _ _ _).signalEvents = _
      unfold Pipeline.auditScore
      split <;> rfl
  | executeAction gateId actionId userId => exact ⟨rfl, rfl⟩

/-- A payload that comes in is recorded by the first call of its request. -/
theorem recorded_submit {s : IngestionState} (recorded : Recorded deps s)
    (submission : Submission) :
    let called := callNext deps (submission.handle deps.timingConfig)
      { s with submissions := s.submissions ++ [submission] }
    Recorded deps called.shared ∧ ∀ task ∈ called.successors, OnlyTimers task := by
  have published : (s.submissions ++ [submission]).flatMap
      (fun submission => (submission.handle deps.timingConfig).published) =
        s.pipeline.audit.signalEvents ++ (submission.handle deps.timingConfig).published := by
    rw [List.flatMap_append, ← recorded.accepted, List.flatMap_singleton]
  have refused : (s.submissions ++ [submission]).flatMap
      (fun submission => (submission.handle deps.timingConfig).refused) =
        s.validationErrors.map (·.error) ++ (submission.handle deps.timingConfig).refused := by
    rw [List.flatMap_append, ← recorded.refused, List.flatMap_singleton]
  rcases submission.handle_cases deps.timingConfig with
    ⟨event, timers, handled, only⟩ | ⟨error, handled⟩
  · obtain ⟨one, none⟩ := Handling.published_of_timers only
    rw [handled, one] at published
    rw [handled, none, List.append_nil] at refused
    rw [handled]
    refine ⟨⟨?_, ?_, ?_⟩, ?_⟩
    · show (Pipeline.onSignalEvent deps s.pipeline event).1.audit.signalEvents =
        (Pipeline.onSignalEvent deps s.pipeline event).1.intake.delivered
      rw [Pipeline.onSignalEvent_shared]
      show s.pipeline.audit.signalEvents ++ [event] = _
      rw [recorded.delivered]
      exact (IntakeState.onSignalEvent_delivered _ _).symm
    · show (Pipeline.onSignalEvent deps s.pipeline event).1.audit.signalEvents = _
      rw [Pipeline.onSignalEvent_shared]
      exact published.symm
    · exact refused.symm
    · intro task successor
      rcases List.mem_cons.mp successor with rfl | started
      · exact only
      · obtain ⟨next, -, rfl⟩ := List.mem_map.mp started
        trivial
  · rw [handled] at published refused
    rw [handled]
    refine ⟨⟨recorded.delivered, ?_, ?_⟩, ?_⟩
    · exact (published.trans (List.append_nil _)).symm
    · show (s.validationErrors ++ [_]).map ValidationErrorRecord.error = _
      rw [List.map_append]
      exact refused.symm
    · intro task successor
      rw [List.mem_singleton.mp successor]
      exact nofun

/-- A request that starts a timer, or answers, records nothing. -/
theorem recorded_timers {s : IngestionState} (recorded : Recorded deps s) {request : Handling}
    (only : OnlyTimers (.inr request)) :
    Recorded deps (callNext deps request s).shared ∧
      ∀ task ∈ (callNext deps request s).successors, OnlyTimers task := by
  obtain ⟨effects, answer⟩ := request
  cases effects with
  | nil =>
      refine ⟨recorded, ?_⟩
      intro task successor
      cases successor
  | cons effect rest =>
      obtain ⟨⟨sourceType, id, rfl⟩, later⟩ := List.forall_mem_cons.mp only
      refine ⟨⟨recorded.delivered, recorded.accepted, recorded.refused⟩, ?_⟩
      intro task successor
      rw [List.mem_singleton.mp successor]
      exact later

/-- **Every run records.** After any schedule the repository holds what was handed in,
and the requests under way have only timers left to start. -/
theorem recorded_after (deps : PipelineDependencies) (startedAt : ℤ)
    (schedule : List (Choice IngestionStimulus)) :
    Recorded deps (after deps startedAt schedule).shared ∧
      ∀ task ∈ (after deps startedAt schedule).suspended, OnlyTimers task := by
  let Inv : Config IngestionState (PipelineTask ⊕ Handling) → Prop := fun c =>
    Recorded deps c.shared ∧ ∀ task ∈ c.suspended, OnlyTimers task
  have start : Inv ⟨{ pipeline := .wired startedAt }, []⟩ :=
    ⟨⟨rfl, rfl, rfl⟩, fun _ impossible => absurd impossible List.not_mem_nil⟩
  suffices kept : Inv (after deps startedAt schedule) from kept
  refine (system deps).run_invariant ?_ ?_ start (TaskSystem.guarded_trivial _ _ schedule)
  · intro s suspended stimulus inv _
    obtain ⟨recorded, only⟩ := inv
    cases stimulus with
    | handleSignal uuid rawPayload =>
        obtain ⟨recorded', started⟩ :=
          recorded_submit recorded ⟨uuid, rawPayload, s.pipeline.intake.clock⟩
        exact ⟨recorded', List.forall_mem_append.mpr ⟨only, started⟩⟩
    | other stimulus quiet =>
        obtain ⟨delivered, events⟩ := stimulate_quiet deps quiet s.pipeline
        refine ⟨⟨?_, ?_, recorded.refused⟩, List.forall_mem_append.mpr ⟨only, ?_⟩⟩
        · exact events.trans (recorded.delivered.trans delivered.symm)
        · exact events.trans recorded.accepted
        · intro task started
          obtain ⟨next, -, rfl⟩ := List.mem_map.mp started
          trivial
  · intro s before task after inv _
    obtain ⟨recorded, only⟩ := inv
    have own := only task (List.mem_append_right _ List.mem_cons_self)
    cases task with
    | inl task =>
        have delivered := Pipeline.resume_intake deps task s.pipeline
        have events := resume_signalEvents deps task s.pipeline
        refine ⟨⟨?_, ?_, recorded.refused⟩, TaskSystem.forall_mem_resumed only fun _ => ?_⟩
        · exact events.trans (recorded.delivered.trans (congrArg (·.delivered) delivered.symm))
        · exact events.trans recorded.accepted
        · intro next successor
          rcases List.mem_append.mp successor with continued | started
          · obtain ⟨_, -, rfl⟩ := Option.mem_map.mp (Option.mem_toList.mp continued)
            trivial
          · obtain ⟨_, -, rfl⟩ := List.mem_map.mp started
            trivial
    | inr request =>
        obtain ⟨recorded', successors⟩ := recorded_timers recorded own
        exact ⟨recorded', TaskSystem.forall_mem_resumed only fun _ => successors⟩

/-- The payloads of a schedule, in order. -/
def payloads (schedule : List (Choice IngestionStimulus)) : List (Option Json) :=
  (TaskSystem.stimuli schedule).filterMap fun
    | .handleSignal _ rawPayload => some rawPayload
    | .other .. => none

theorem callNext_submissions (request : Handling) (s : IngestionState) :
    (callNext deps request s).shared.submissions = s.submissions := by
  unfold callNext
  split
  · rfl
  · rename_i effect rest _
    cases effect <;> rfl

/-- The payloads handed in are those of the schedule. -/
theorem submissions_after (startedAt : ℤ) (schedule : List (Choice IngestionStimulus)) :
    (after deps startedAt schedule).shared.submissions.map (·.rawPayload) = payloads schedule := by
  have viewed := (system deps).run_view (fun s => s.submissions.map (·.rawPayload))
    (fun listed stimulus => listed ++ ([stimulus].filterMap fun
      | .handleSignal _ rawPayload => some rawPayload
      | .other .. => none)) ?_ ?_ ⟨{ pipeline := .wired startedAt }, []⟩ schedule
  · refine viewed.trans ?_
    unfold payloads
    generalize TaskSystem.stimuli schedule = stimuli
    show stimuli.foldl _ [] = _
    induction stimuli using List.reverseRecOn with
    | nil => rfl
    | append_singleton earlier stimulus ih =>
        rw [List.foldl_append, List.filterMap_append, ih]
        rfl
  · intro stimulus s
    cases stimulus with
    | handleSignal uuid rawPayload =>
        show (callNext deps _ _).shared.submissions.map _ = _
        rw [callNext_submissions, List.map_append]
        rfl
    | other stimulus quiet => exact (List.append_nil _).symm
  · intro task s
    cases task with
    | inl task => rfl
    | inr request => exact congrArg _ (callNext_submissions request s)

/-- A rejected payload leaves the pipeline and Redis as they are, and a request that
has only its answer left. -/
theorem step_rejected (c : Config IngestionState (PipelineTask ⊕ Handling)) {uuid : String}
    {rawPayload : Option Json} {error : ValidationError}
    (rejected : (Submission.handle deps.timingConfig
      ⟨uuid, rawPayload, c.shared.pipeline.intake.clock⟩).answer = some (.rejected error)) :
    ((system deps).step c (.stimulus (.handleSignal uuid rawPayload))).shared.pipeline =
        c.shared.pipeline ∧
      ∃ request, ((system deps).step c (.stimulus (.handleSignal uuid rawPayload))).suspended =
          c.suspended ++ [.inr request] ∧
        ∀ s, (system deps).resume (.inr request) s = ⟨s, none, []⟩ := by
  rcases Submission.handle_cases deps.timingConfig
    ⟨uuid, rawPayload, c.shared.pipeline.intake.clock⟩ with
    ⟨event, timers, handled, -⟩ | ⟨other, handled⟩
  · rw [handled] at rejected
    cases rejected
  · refine ⟨?_, ⟨[], some (.rejected other)⟩, ?_, fun _ => rfl⟩
    · show (callNext deps (Submission.handle _ _) _).shared.pipeline = _
      rw [handled]
      rfl
    · show c.suspended ++ ((callNext deps (Submission.handle _ _) _).continued.toList ++
        (callNext deps (Submission.handle _ _) _).started) = _
      rw [handled]
      rfl

/-- **Every payload is recorded once.** After any run the payloads handed in are
settled one by one; the signal events of the repository are those of the accepted
ones, in order, and the very events delivered to the pipeline; its validation
errors are those of the rejected ones. And wherever a payload is rejected, the
windows, the fans and the timers stay as they are. -/
theorem ingestion_recorded_once (deps : PipelineDependencies) (startedAt : ℤ)
    (schedule : List (Choice IngestionStimulus)) :
    let reached := after deps startedAt schedule
    let handled := reached.shared.submissions.map (·.handle deps.timingConfig)
    reached.shared.submissions.map (·.rawPayload) = payloads schedule ∧
    (∀ submission ∈ reached.shared.submissions, submission.Settled deps.timingConfig) ∧
    reached.shared.pipeline.audit.signalEvents = reached.shared.pipeline.intake.delivered ∧
    reached.shared.pipeline.audit.signalEvents = handled.flatMap (·.published) ∧
    reached.shared.validationErrors.map (·.error) = handled.flatMap (·.refused) ∧
    ∀ uuid rawPayload error,
      (Submission.handle deps.timingConfig
        ⟨uuid, rawPayload, reached.shared.pipeline.intake.clock⟩).answer =
          some (.rejected error) →
      ((system deps).step reached (.stimulus (.handleSignal uuid rawPayload))).shared.pipeline =
          reached.shared.pipeline ∧
        ∃ request,
          ((system deps).step reached (.stimulus (.handleSignal uuid rawPayload))).suspended =
            reached.suspended ++ [.inr request] ∧
          ∀ s, (system deps).resume (.inr request) s = ⟨s, none, []⟩ := by
  intro reached handled
  obtain ⟨recorded, -⟩ := recorded_after deps startedAt schedule
  refine ⟨submissions_after startedAt schedule, fun submission _ => submission.settled _,
    recorded.delivered, ?_, ?_, fun _ _ _ => step_rejected reached⟩
  · rw [List.flatMap_map]
    exact recorded.accepted
  · rw [List.flatMap_map]
    exact recorded.refused

end Ingestion

end Stadium
