import Stadium.Server.Gateway

/-!
# From the pipeline to the server

The ingestion service does to the pipeline what a message on `signal-events` does, or
starts a timer in Redis; acknowledgements and readers leave the pipeline alone. So what
the pipeline and the operations beside it guarantee of the pipeline's memory, the process
does (`Process.guarantee_of_parts`), and the server behind its routes (`Gateway.keeps`).
-/

namespace Stadium

open Interleaving TaskSystem

/-- A stimulus of the ingestion service, in terms of those of the pipeline. -/
def IngestionStimulus.Within (allowed : PipelineStimulus → Prop) : IngestionStimulus → Prop
  | .handleSignal .. => True
  | .other stimulus _ => allowed stimulus

section

variable {deps : PipelineDependencies} {allowed : PipelineStimulus → Prop}
  {allowed' : OperationStimulus → Prop} {Inv : PipelineState → Prop}
  {moves : PipelineState → PipelineState → Prop} {ok : PipelineState → PipelineTask → Prop}
  {ok' : PipelineState → OperationTask → Prop}

theorem Ingestion.callNext_guarantee
    (G : (Pipeline.system deps).Guarantee allowed Inv moves ok)
    (signals : ∀ event, allowed (.signalEvent event)) (refl : ∀ s, moves s s)
    (redis : ∀ s r, Inv s → Inv { s with redis := r } ∧ moves s { s with redis := r })
    (request : Handling) (s : IngestionState) (inv : Inv s.pipeline) :
    Inv (callNext deps request s).shared.pipeline ∧
      moves s.pipeline (callNext deps request s).shared.pipeline ∧
      ∀ task ∈ (callNext deps request s).successors,
        Sum.elim (ok (callNext deps request s).shared.pipeline) (fun _ => True) task := by
  unfold callNext
  cases request.effects with
  | nil => exact ⟨inv, refl _, fun _ impossible => absurd impossible List.not_mem_nil⟩
  | cons effect rest =>
      cases effect with
      | publishSignalEvent event =>
          obtain ⟨kept, moved, started⟩ :=
            G.stimulate (.signalEvent event) s.pipeline (signals event) inv
          refine ⟨kept, moved, fun task member => ?_⟩
          rcases List.mem_append.mp member with left | begun
          · obtain rfl := List.mem_singleton.mp left
            trivial
          · obtain ⟨own, listed, rfl⟩ := List.mem_map.mp begun
            exact started own listed
      | publishValidationError error =>
          refine ⟨inv, refl _, fun task member => ?_⟩
          rw [List.mem_singleton.mp member]
          trivial
      | markActive sourceType gateOrRouteId =>
          obtain ⟨kept, moved⟩ := redis s.pipeline (s.pipeline.redis.markActive sourceType
            gateOrRouteId s.pipeline.intake.clock) inv
          refine ⟨kept, moved, fun task member => ?_⟩
          rw [List.mem_singleton.mp member]
          trivial

theorem Ingestion.guarantee_of_pipeline
    (G : (Pipeline.system deps).Guarantee allowed Inv moves ok)
    (signals : ∀ event, allowed (.signalEvent event)) (refl : ∀ s, moves s s)
    (redis : ∀ s r, Inv s → Inv { s with redis := r } ∧ moves s { s with redis := r }) :
    (system deps).Guarantee (IngestionStimulus.Within allowed) (fun s => Inv s.pipeline)
      (fun s t => moves s.pipeline t.pipeline)
      (fun s => Sum.elim (ok s.pipeline) fun _ => True) where
  stimulate stimulus s now inv := by
    cases stimulus with
    | handleSignal uuid rawPayload =>
        exact callNext_guarantee G signals refl redis
          (Submission.handle deps.timingConfig ⟨uuid, rawPayload, s.pipeline.intake.clock⟩)
          { s with submissions := s.submissions ++ [⟨uuid, rawPayload, s.pipeline.intake.clock⟩] }
          inv
    | other stimulus quiet =>
        obtain ⟨kept, moved, started⟩ := G.stimulate stimulus s.pipeline now inv
        refine ⟨kept, moved, fun task member => ?_⟩
        obtain ⟨own, listed, rfl⟩ := List.mem_map.mp member
        exact started own listed
  resume task s inv fine := by
    cases task with
    | inl task =>
        obtain ⟨kept, moved, left⟩ := G.resume task s.pipeline inv fine
        refine ⟨kept, moved, fun next member => ?_⟩
        have member : next ∈ ((Pipeline.resume deps task s.pipeline).map Sum.inl).successors :=
          member
        rw [Stretch.successors_map] at member
        obtain ⟨own, listed, rfl⟩ := List.mem_map.mp member
        exact left own listed
    | inr request => exact callNext_guarantee G signals refl redis request s inv
  lasts s t task moved fine := by
    cases task with
    | inl task => exact G.lasts _ _ task moved fine
    | inr request => trivial

/-- **What the parts guarantee, the process does.** -/
theorem Process.guarantee_of_parts
    (G : (Pipeline.system deps).Guarantee allowed Inv moves ok)
    (H : (operations deps).Guarantee allowed' Inv moves ok')
    (signals : ∀ event, allowed (.signalEvent event)) (refl : ∀ s, moves s s)
    (redis : ∀ s r, Inv s → Inv { s with redis := r } ∧ moves s { s with redis := r }) :
    (system deps).Guarantee
      (Sum.elim (IngestionStimulus.Within allowed) (Sum.elim allowed' fun _ => True))
      (fun w => Inv w.pipeline) (fun w w' => moves w.pipeline w'.pipeline)
      (fun w => Sum.elim (Sum.elim (ok w.pipeline) fun _ => True)
        (Sum.elim (ok' w.pipeline) fun _ => True)) := by
  have ingesting : ((Ingestion.system deps).onPart (·.ingestion)
      ServerState.putIngestion).Guarantee (IngestionStimulus.Within allowed)
      (fun w => Inv w.pipeline) (fun w w' => moves w.pipeline w'.pipeline)
      (fun w => Sum.elim (ok w.pipeline) fun _ => True) :=
    (Ingestion.guarantee_of_pipeline G signals refl redis).onPart (fun _ inv => inv)
      (fun _ _ _ kept moved => ⟨kept, moved⟩) (fun _ _ _ => rfl) (fun _ _ moved => moved)
  have operating : ((operations deps).onPart ServerState.pipeline
      ServerState.putPipeline).Guarantee allowed' (fun w => Inv w.pipeline)
      (fun w w' => moves w.pipeline w'.pipeline) (fun w => ok' w.pipeline) :=
    H.onPart (fun _ inv => inv) (fun _ _ _ kept moved => ⟨kept, moved⟩) (fun _ _ _ => rfl)
      (fun _ _ moved => moved)
  have beside : ((OpsDashboardApi.system.onPart ServerState.desk ServerState.putDesk).sum
      (ReadRoutes.system deps.gates ServerState.pipeline)).Guarantee (fun _ => True)
      (fun w => Inv w.pipeline) (fun w w' => moves w.pipeline w'.pipeline) (fun _ _ => True) := by
    refine ⟨fun e w _ inv => ?_, fun task w inv _ => ?_, fun _ _ _ _ _ => trivial⟩
    · cases e <;> exact ⟨inv, refl _, fun _ _ => trivial⟩
    · cases task <;> exact ⟨inv, refl _, fun _ _ => trivial⟩
  exact ingesting.sum (operating.sum beside)

/-- The routes and the timers bring no score from outside. -/
theorem Gateway.own_read {apiKeys : OrderedMap String (List Role)} {arrival : ServerArrival}
    {stimulus : ProcessStimulus} (passed : read apiKeys arrival = some stimulus) :
    Sum.elim (IngestionStimulus.Within PipelineStimulus.Own)
      (Sum.elim (fun _ => True) fun _ => True) stimulus := by
  cases arrival with
  | request request =>
      unfold read at passed
      simp only at passed
      split at passed
      · obtain ⟨headers, endpoint⟩ := request
        cases endpoint <;> cases passed
        all_goals trivial
      · cases passed
  | _ =>
      cases passed
      trivial

/-- **What the process guarantees holds after every run of the server.** -/
theorem Gateway.keeps {allowed : ProcessStimulus → Prop} {Inv : ServerState → Prop}
    {moves : ServerState → ServerState → Prop} {ok : ServerState → ProcessTask → Prop}
    (G : (Process.system deps).Guarantee allowed Inv moves ok) (refl : ∀ w, moves w w)
    (trans : ∀ u v w, moves u v → moves v w → moves u w)
    {apiKeys : OrderedMap String (List Role)}
    (reads : ∀ arrival stimulus, read apiKeys arrival = some stimulus → allowed stimulus)
    {c : Config ServerState ProcessTask} (inv : Inv c.shared)
    (fine : ∀ task ∈ c.suspended, ok c.shared task) (schedule : List (Choice ServerArrival)) :
    Inv ((system apiKeys deps).run c schedule).shared ∧
      moves c.shared ((system apiKeys deps).run c schedule).shared ∧
      ∀ task ∈ ((system apiKeys deps).run c schedule).suspended,
        ok ((system apiKeys deps).run c schedule).shared task := by
  unfold system
  rw [run_heeding]
  refine G.run refl trans c _ inv fine fun stimulus listed => ?_
  rw [stimuli_heeded] at listed
  obtain ⟨arrival, -, passed⟩ := List.mem_filterMap.mp listed
  exact reads arrival stimulus passed

end

end Stadium
