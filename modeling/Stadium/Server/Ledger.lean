import Stadium.Lib.Balance
import Stadium.Pipeline.ScoreAudit
import Stadium.Server.Gateway

/-!
# One score for every trigger

A signal event of a configured gate and a tick of its timer each start a recompute.
The books: a trigger is owed, an audited score is paid, and a recompute has one score
under way from its first stretch to its publication. They balance over every run of
the server (`every_trigger_is_scored`), so no trigger is lost to another task and none
is scored twice.
-/

namespace Stadium

open Interleaving TaskSystem

/-- The gate that gets a record in the score audit when the computation is published. -/
def Computation.scores? (computation : Computation) : Option GateId :=
  computation.result.scores.head?.map fun _ => computation.gate.gateId

/-- The gate a recompute is going to leave a score of. -/
def PipelineTask.scores? : PipelineTask → Option GateId
  | .computing gate _ => some gate.gateId
  | .savingScore computation _ | .publishingForecast computation => computation.scores?
  | _ => none

/-- The gate an event starts a recompute of. -/
def PipelineDependencies.routedTo (deps : PipelineDependencies) (event : SignalEvent) :
    Option GateId :=
  ((truthy event.gateId).bind deps.gatesById.get?).map (·.gateId)

/-- The gate a timer starts a recompute of, if it is configured. -/
def PipelineDependencies.ticked (deps : PipelineDependencies) (gateId : GateId) : Option GateId :=
  (deps.gatesById.get? gateId).map (·.gateId)

/-- The gate a stimulus starts a recompute of, or has a score of, without an event. -/
def PipelineStimulus.scores? (deps : PipelineDependencies) : PipelineStimulus → Option GateId
  | .tick gateId => deps.ticked gateId
  | .congestionScore message => message.result.scores.head?.map fun _ => message.gate.gateId
  | _ => none

namespace PipelineState

/-- The gates of the audited scores. -/
def paid (s : PipelineState) : Multiset GateId := s.audit.scores.map (·.gateId)

/-- The gates the audited events started a recompute of. -/
def owed (deps : PipelineDependencies) (s : PipelineState) : Multiset GateId :=
  s.audit.signalEvents.filterMap deps.routedTo

theorem paid_congr {s t : PipelineState} (same : t.audit.scores = s.audit.scores) :
    t.paid = s.paid := by
  unfold paid
  rw [same]

theorem owed_congr {deps : PipelineDependencies} {s t : PipelineState}
    (same : t.audit.signalEvents = s.audit.signalEvents) : t.owed deps = s.owed deps := by
  unfold owed
  rw [same]

end PipelineState

/-- At most one gate. -/
def entry (gateId : Option GateId) : Multiset GateId := gateId.toList

@[simp] theorem entry_none : entry none = 0 := rfl

theorem sum_entries {α : Type} (view : α → Option GateId) (items : List α) :
    (items.map fun item => entry (view item)).sum = (items.filterMap view : List GateId) := by
  induction items with
  | nil => rfl
  | cons item rest ih =>
      rw [List.map_cons, List.sum_cons, ih]
      cases own : view item with
      | none => rw [List.filterMap_cons_none own, entry_none, zero_add]
      | some gateId =>
          rw [List.filterMap_cons_some own]
          rfl

namespace Pipeline

variable (deps : PipelineDependencies)

theorem paid_onCongestionScore (s : PipelineState) (message : CongestionScoreMessage) :
    (onCongestionScore s message).1.paid =
      s.paid + entry (message.result.scores.head?.map fun _ => message.gate.gateId) := by
  unfold PipelineState.paid
  show ((auditScore s.audit message _).scores.map (·.gateId) : Multiset GateId) = _
  unfold auditScore
  cases message.result.scores.head? with
  | none => simp
  | some currentPoint =>
      simp only [List.map_append, Option.map_some]
      rfl

theorem owed_onCongestionScore (s : PipelineState) (message : CongestionScoreMessage) :
    (onCongestionScore s message).1.owed deps = s.owed deps := by
  apply PipelineState.owed_congr
  show (auditScore s.audit message _).signalEvents = _
  unfold auditScore
  split <;> rfl

/-- The recompute an event starts has its score under way. -/
theorem started_onSignalEvent (s : PipelineState) (event : SignalEvent) :
    ((onSignalEvent deps s event).2.map fun task => entry task.scores?).sum =
      entry (deps.routedTo event) := by
  unfold onSignalEvent PipelineDependencies.routedTo
  simp only
  cases (truthy event.gateId).bind deps.gatesById.get? with
  | none => rfl
  | some gate => simp [startRecompute, PipelineTask.scores?]

theorem paid_onSignalEvent (s : PipelineState) (event : SignalEvent) :
    (onSignalEvent deps s event).1.paid = s.paid := by
  apply PipelineState.paid_congr
  rw [onSignalEvent_shared]

theorem owed_onSignalEvent (s : PipelineState) (event : SignalEvent) :
    (onSignalEvent deps s event).1.owed deps = s.owed deps + entry (deps.routedTo event) := by
  unfold PipelineState.owed entry
  rw [onSignalEvent_shared, List.filterMap_append, Multiset.coe_add]
  congr 2

/-- An event is owed the score that the recompute it starts is going to leave. -/
theorem balance_onSignalEvent (s : PipelineState) (event : SignalEvent) :
    (onSignalEvent deps s event).1.paid +
        ((onSignalEvent deps s event).2.map fun task => entry task.scores?).sum + s.owed deps =
      s.paid + (onSignalEvent deps s event).1.owed deps := by
  rw [paid_onSignalEvent, owed_onSignalEvent, started_onSignalEvent]
  abel

/-- A task that is about to do something else leaves the books alone. -/
theorem balance_resume_other (task : PipelineTask) (s : PipelineState)
    (other : task.publishing? = none) :
    (resume deps task s).shared.paid = s.paid ∧
      (resume deps task s).shared.owed deps = s.owed deps :=
  ⟨PipelineState.paid_congr (resume_scores_other deps other s),
    PipelineState.owed_congr (Ingestion.resume_signalEvents deps task s)⟩

/-- Nothing but a recompute is followed by a recompute. -/
theorem successors_unscored {task : PipelineTask} (s : PipelineState)
    (computing : ∀ gate window, task ≠ .computing gate window)
    (saving : ∀ computation point, task ≠ .savingScore computation point) :
    ((resume deps task s).successors.map fun next => entry next.scores?).sum = 0 := by
  rw [sum_entries, List.filterMap_eq_nil_iff.mpr]
  · rfl
  · intro next left
    cases resume_follows deps task s next left with
    | computed computation point => exact absurd rfl (computing _ _)
    | saved computation point => exact absurd rfl (saving _ _)
    | _ => rfl

/-- **The books of the pipeline.** -/
theorem balance : (system deps).Balance PipelineState.paid (PipelineState.owed deps)
    (fun task => entry task.scores?) (fun stimulus => entry (stimulus.scores? deps)) where
  stimulate stimulus s := by
    cases stimulus with
    | advance ms =>
        show s.paid + 0 + s.owed deps = s.paid + s.owed deps + 0
        abel
    | handleSignal signal =>
        exact (balance_onSignalEvent deps s _).trans (add_zero _).symm
    | signalEvent event => exact (balance_onSignalEvent deps s event).trans (add_zero _).symm
    | tick gateId =>
        show (onTick deps s gateId).1.paid + _ + s.owed deps =
          s.paid + (onTick deps s gateId).1.owed deps + _
        have started : ((onTick deps s gateId).2.map fun task => entry task.scores?).sum =
            entry (deps.ticked gateId) := by
          unfold onTick PipelineDependencies.ticked
          cases deps.gatesById.get? gateId with
          | none => rfl
          | some gate => simp [startRecompute, PipelineTask.scores?]
        rw [onTick_shared]
        rw [show ((system deps).stimulate (.tick gateId) s).2 = (onTick deps s gateId).2 from rfl,
          started]
        show _ = s.paid + s.owed deps + entry (deps.ticked gateId)
        abel
    | congestionScore message =>
        show (onCongestionScore s message).1.paid + (0 + 0) + s.owed deps =
          s.paid + (onCongestionScore s message).1.owed deps + _
        rw [paid_onCongestionScore, owed_onCongestionScore]
        show _ = s.paid + s.owed deps +
          entry (message.result.scores.head?.map fun _ => message.gate.gateId)
        abel
    | executeAction gateId actionId userId =>
        show s.paid + (0 + 0) + s.owed deps = s.paid + s.owed deps + 0
        abel
  resume task s := by
    cases publishes : task.publishing? with
    | some computation =>
        have shape : task = .publishingForecast computation := by
          cases task <;> simp_all [PipelineTask.publishing?]
        subst shape
        -- publishing pays the score that was under way, and starts no other
        have none := @successors_unscored deps (.publishingForecast computation) s
          (by rintro _ _ ⟨⟩) (by rintro _ _ ⟨⟩)
        rw [show ((system deps).resume (.publishingForecast computation) s) =
          resume deps (.publishingForecast computation) s from rfl, none]
        show (onCongestionScore _ _).1.paid + 0 + s.owed deps =
          s.paid + entry computation.scores? + (onCongestionScore _ _).1.owed deps
        rw [paid_onCongestionScore, owed_onCongestionScore]
        show s.paid + entry computation.scores? + 0 + s.owed deps =
          s.paid + entry computation.scores? + s.owed deps
        abel
    | none =>
        obtain ⟨samePaid, sameOwed⟩ := balance_resume_other deps task s publishes
        rw [show (system deps).resume task s = resume deps task s from rfl, samePaid, sameOwed]
        -- the first two steps of a recompute hand on what it is going to leave
        suffices handed : ((resume deps task s).successors.map fun next =>
            entry next.scores?).sum = entry task.scores? by rw [handed]
        cases task with
        | computing gate window =>
            rw [resume_computing]
            simp [continueWith, Stretch.successors, PipelineTask.scores?, Computation.scores?]
        | savingScore computation point =>
            simp [resume, continueWith, Stretch.successors, PipelineTask.scores?]
        | publishingForecast computation => cases publishes
        | _ => exact successors_unscored deps s (by rintro _ _ ⟨⟩) (by rintro _ _ ⟨⟩)

end Pipeline

/-! ## The other parts -/

theorem FanNudgeDeliveryWorker.balance (deps : PipelineDependencies) :
    FanNudgeDeliveryWorker.system.Balance PipelineState.paid (PipelineState.owed deps)
      (fun _ => 0) (fun _ => 0) := by
  refine .of_unchanged (fun stimulus s => ?_) (fun task s => ?_)
  · cases stimulus
    exact ⟨rfl, rfl⟩
  · cases task <;> exact ⟨rfl, rfl⟩

theorem DataQualityCheck.balance (deps : PipelineDependencies) (gates : List Gate) :
    (DataQualityCheck.system gates).Balance PipelineState.paid (PipelineState.owed deps)
      (fun _ => 0) (fun _ => 0) := by
  refine .of_unchanged (fun stimulus s => ?_) (fun task s => ?_)
  · cases stimulus <;> exact ⟨rfl, rfl⟩
  · cases task with
    | readingStatus gateId sources statuses => cases sources <;> exact ⟨rfl, rfl⟩
    | readingAgain gateId sources statuses again => cases sources <;> exact ⟨rfl, rfl⟩

theorem ShuttleRedirectionApi.balance (deps : PipelineDependencies) :
    ShuttleRedirectionApi.system.Balance PipelineState.paid (PipelineState.owed deps)
      (fun _ => 0) (fun _ => 0) := by
  refine .of_unchanged (fun stimulus s => ?_) (fun task s => ?_)
  · cases stimulus <;> exact ⟨rfl, rfl⟩
  · cases task with
    | finding decision routeId recommendationId dispatcherId now =>
        simp only [system, resume]
        split <;> exact ⟨rfl, rfl⟩
    | storing decision updated => cases decision <;> exact ⟨rfl, rfl⟩
    | returning decision updated => cases decision <;> exact ⟨rfl, rfl⟩
    | _ => exact ⟨rfl, rfl⟩

namespace Ingestion

variable (deps : PipelineDependencies)

/-- What a task of the ingestion service, or of the pipeline behind it, is going to
leave a score of. -/
def due : PipelineTask ⊕ Handling → Multiset GateId :=
  Sum.elim (fun task => entry task.scores?) fun _ => 0

/-- What a stimulus brings that is no payload. -/
def brings : IngestionStimulus → Multiset GateId
  | .handleSignal .. => 0
  | .other stimulus _ => entry (stimulus.scores? deps)

/-- A call of a request brings nothing but what its event is owed. -/
theorem balance_callNext (request : Handling) (s : IngestionState) :
    (callNext deps request s).shared.pipeline.paid +
        ((callNext deps request s).successors.map due).sum + s.pipeline.owed deps =
      s.pipeline.paid + (callNext deps request s).shared.pipeline.owed deps := by
  unfold callNext
  cases request.effects with
  | nil =>
      show s.pipeline.paid + 0 + s.pipeline.owed deps = s.pipeline.paid + s.pipeline.owed deps
      abel
  | cons effect rest =>
      cases effect with
      | publishSignalEvent event =>
          -- what is left of the request itself is owed no score
          show (Pipeline.onSignalEvent deps s.pipeline event).1.paid +
            (0 + (((Pipeline.onSignalEvent deps s.pipeline event).2.map Sum.inl).map due).sum) +
              s.pipeline.owed deps = _
          rw [zero_add, List.map_map]
          exact Pipeline.balance_onSignalEvent deps s.pipeline event
      | publishValidationError error =>
          show s.pipeline.paid + (0 + 0) + s.pipeline.owed deps =
            s.pipeline.paid + s.pipeline.owed deps
          abel
      | markActive sourceType gateOrRouteId =>
          show s.pipeline.paid + (0 + 0) + s.pipeline.owed deps =
            s.pipeline.paid + s.pipeline.owed deps
          abel

theorem balance : (system deps).Balance (·.pipeline.paid) (·.pipeline.owed deps) due
    (brings deps) where
  stimulate stimulus s := by
    cases stimulus with
    | handleSignal uuid rawPayload =>
        have called := balance_callNext deps
          (Submission.handle deps.timingConfig ⟨uuid, rawPayload, s.pipeline.intake.clock⟩)
          { s with submissions := s.submissions ++ [⟨uuid, rawPayload, s.pipeline.intake.clock⟩] }
        exact called.trans (add_zero _).symm
    | other stimulus quiet =>
        have own := (Pipeline.balance deps).stimulate stimulus s.pipeline
        show (Pipeline.stimulate deps stimulus s.pipeline).1.paid +
          (((Pipeline.stimulate deps stimulus s.pipeline).2.map Sum.inl).map due).sum +
            s.pipeline.owed deps = _
        rw [List.map_map]
        exact own
  resume task s := by
    cases task with
    | inl task =>
        have own := (Pipeline.balance deps).resume task s.pipeline
        show (Pipeline.resume deps task s.pipeline).shared.paid +
          (((Pipeline.resume deps task s.pipeline).map Sum.inl).successors.map due).sum +
            s.pipeline.owed deps = _
        rw [Stretch.successors_map, List.map_map]
        exact own
    | inr request =>
        have called := balance_callNext deps request s
        show _ = s.pipeline.paid + 0 + _
        rw [add_zero]
        exact called

end Ingestion

/-! ## The server -/

/-- The gate a task of the server is going to leave a score of. -/
def ProcessTask.scores? : ProcessTask → Option GateId
  | .inl (.inl task) => task.scores?
  | _ => none

namespace Process

variable (deps : PipelineDependencies)

/-- What a stimulus of the process brings. -/
def brings : ProcessStimulus → Multiset GateId := Sum.elim (Ingestion.brings deps) fun _ => 0

theorem balance : (system deps).Balance (fun w => w.pipeline.paid) (fun w => w.pipeline.owed deps)
    (fun task => entry task.scores?) (brings deps) := by
  have operating : (operations deps).Balance PipelineState.paid (PipelineState.owed deps)
      (Sum.elim (fun _ => 0) (Sum.elim (fun _ => 0) fun _ => 0))
      (Sum.elim (fun _ => 0) (Sum.elim (fun _ => 0) fun _ => 0)) :=
    (FanNudgeDeliveryWorker.balance deps).sum
      ((DataQualityCheck.balance deps deps.gates).sum (ShuttleRedirectionApi.balance deps))
  have acknowledging : (OpsDashboardApi.system.onPart ServerState.desk
      ServerState.putDesk).Balance (fun w => w.pipeline.paid) (fun w => w.pipeline.owed deps)
      (fun _ => 0) (fun _ => 0) :=
    .of_unchanged (fun _ _ => ⟨rfl, rfl⟩) (fun _ _ => ⟨rfl, rfl⟩)
  have reading : (ReadRoutes.system deps.gates ServerState.pipeline).Balance
      (fun w => w.pipeline.paid) (fun w => w.pipeline.owed deps) (fun _ => 0) (fun _ => 0) :=
    .of_unchanged (fun _ _ => ⟨rfl, rfl⟩) (fun _ _ => ⟨rfl, rfl⟩)
  have all := ((Ingestion.balance deps).onPart (fun w : ServerState => w.ingestion)
    ServerState.putIngestion (fun _ _ => rfl)).sum
      ((operating.onPart ServerState.pipeline ServerState.putPipeline
        (fun _ _ => rfl)).sum (acknowledging.sum reading))
  refine all.congr (fun task => ?_) fun stimulus => ?_
  · rcases task with (task | request) | (task | task | task) | task | task <;> rfl
  · rcases stimulus with stimulus | (stimulus | stimulus | stimulus) | stimulus | query <;> rfl

end Process

namespace Gateway

variable (apiKeys : OrderedMap String (List Role)) (deps : PipelineDependencies)

/-- The gate an arrival starts a recompute of without an event. -/
def ticked : ServerArrival → Option GateId
  | .tick gateId => deps.ticked gateId
  | _ => none

/-- Only a timer brings a score that no event is owed. -/
theorem brings_read (arrival : ServerArrival) :
    ((read apiKeys arrival).map (Process.brings deps)).getD 0 = entry (ticked deps arrival) := by
  cases arrival with
  | request request =>
      show (Option.map _ (if Granted apiKeys request then some request.endpoint.command
        else none)).getD 0 = 0
      split
      · cases request.endpoint <;> rfl
      · rfl
  | _ => rfl

/-- **Every trigger is scored once.** After any run of the server, the gates of the
audited scores, together with the gates of the recomputes under way, are the gates of
the audited signal events together with those whose timers fired, each as many times. -/
theorem every_trigger_is_scored (startedAt : ℤ) (schedule : List (Choice ServerArrival)) :
    let c := (system apiKeys deps).run ⟨.started startedAt, []⟩ schedule
    (c.shared.pipeline.audit.scores.map (·.gateId) ++
        c.suspended.filterMap ProcessTask.scores?).Perm
      (c.shared.pipeline.audit.signalEvents.filterMap deps.routedTo ++
        (stimuli schedule).filterMap (ticked deps)) := by
  intro c
  have books := ((Process.balance deps).heeding (read apiKeys)).run ⟨.started startedAt, []⟩
    schedule
  have timers : (stimuli schedule).map
      (fun arrival => ((read apiKeys arrival).map (Process.brings deps)).getD 0) =
        (stimuli schedule).map fun arrival => entry (ticked deps arrival) :=
    List.map_congr_left fun arrival _ => brings_read apiKeys deps arrival
  rw [timers, sum_entries] at books
  unfold underWay at books
  rw [sum_entries] at books
  have books : c.shared.pipeline.paid + (c.suspended.filterMap ProcessTask.scores? : List GateId) +
      0 = 0 + 0 + c.shared.pipeline.owed deps +
        ((stimuli schedule).filterMap (ticked deps) : List GateId) := books
  rw [add_zero, zero_add, zero_add] at books
  exact Multiset.coe_eq_coe.mp books

end Gateway

end Stadium
