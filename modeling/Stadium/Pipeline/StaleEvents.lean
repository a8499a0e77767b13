import Stadium.Pipeline.Redelivery

/-!
# Events that arrive stale

A stale event enters its gate's window like any other. The forecaster leaves
it out (`stale_event_unseen_by_forecast`), but the impacts that rank the
recommended actions count it. So a stale event steers no decision in any run
exactly when it enters no window of a configured gate (`stale_harmless_iff`).
-/

namespace Stadium

open Interleaving

namespace Pipeline

variable (deps : PipelineDependencies)

/-- Take any two runs whose stimuli differ in one insertion of `event`. The
forecast of every configured gate from the window reached, at every later
time, has the same scores and Risk_Levels in both; and so do the types and
ranks of the actions generated from it and the window reached after any
further common stimuli. -/
def InsertionHarmless (event : SignalEvent) : Prop :=
  ∀ (startedAt : ℤ) (earlier later : List PipelineStimulus)
    (without inserted withoutLater insertedLater : Schedule),
    TaskSystem.stimuli without = earlier ++ later →
    TaskSystem.stimuli inserted = earlier ++ .signalEvent event :: later →
    TaskSystem.stimuli withoutLater = TaskSystem.stimuli insertedLater →
    ∀ gate, deps.gatesById.get? gate.gateId = some gate →
    ∀ now, (after deps startedAt without).shared.intake.clock ≤ now →
      let window := (after deps startedAt without).shared.intake.getWindowForGate gate.gateId
      let window' := (after deps startedAt inserted).shared.intake.getWindowForGate gate.gateId
      let windowLater := (after deps startedAt
        (without ++ withoutLater)).shared.intake.getWindowForGate gate.gateId
      let windowLater' := (after deps startedAt
        (inserted ++ insertedLater)).shared.intake.getWindowForGate gate.gateId
      (forecastOf gate window now).outlook = (forecastOf gate window' now).outlook ∧
        ranking (generateRecommendations gate (forecastOf gate window now) windowLater) =
          ranking (generateRecommendations gate (forecastOf gate window' now) windowLater')

/-- An event that enters no window of a configured gate may be inserted. -/
theorem insertionHarmless_of_unrouted {event : SignalEvent}
    (unrouted : ∀ gateId, event.gateId = some gateId → deps.gatesById.get? gateId = none) :
    InsertionHarmless deps event := by
  intro startedAt earlier later without inserted withoutLater insertedLater withoutEq insertedEq
    laterEq gate configured now _ window window' windowLater windowLater'
  have sameWindow : window = window' :=
    window_of_unrouted deps unrouted earlier later withoutEq insertedEq configured
  have sameLater : windowLater = windowLater' := by
    refine window_of_unrouted deps unrouted earlier (later ++ TaskSystem.stimuli withoutLater)
      ?_ ?_ configured
    · rw [TaskSystem.stimuli_append, withoutEq, List.append_assoc]
    · rw [TaskSystem.stimuli_append, insertedEq, laterEq, List.append_assoc, List.cons_append]
  rw [sameWindow, sameLater]
  exact ⟨rfl, rfl⟩

/-! ## Forecasts do not see stale events -/

/-- Two intake states agree on the clock and, stale events apart, on the
history of a gate. -/
def AgreeButStale (gateId : GateId) (s s' : IntakeState) : Prop :=
  s.clock = s'.clock ∧
    (s.history gateId).filter (fun event => !event.isStale) =
      (s'.history gateId).filter fun event => !event.isStale

theorem AgreeButStale.onSignalEvent {gateId : GateId} {s s' : IntakeState}
    (h : AgreeButStale gateId s s') (event : SignalEvent) :
    AgreeButStale gateId (s.onSignalEvent event) (s'.onSignalEvent event) := by
  obtain ⟨clock, history⟩ := h
  refine ⟨?_, ?_⟩
  · rw [IntakeState.onSignalEvent_clock, IntakeState.onSignalEvent_clock, clock]
  · rw [IntakeState.onSignalEvent_history, IntakeState.onSignalEvent_history, List.filter_append,
      List.filter_append, history]

theorem AgreeButStale.foldl {gateId : GateId} {s s' : IntakeState}
    (h : AgreeButStale gateId s s') (stimuli : List PipelineStimulus) :
    AgreeButStale gateId (stimuli.foldl (IntakeState.react deps) s)
      (stimuli.foldl (IntakeState.react deps) s') :=
  IntakeState.foldl_react_related (fun _ _ h => h.1)
    (fun _ _ ms h => ⟨congrArg (· + (ms : ℤ)) h.1, h.2⟩) (fun _ _ event h => h.onSignalEvent event)
    h stimuli

/-- The delivery of a stale event makes no difference. -/
theorem agreeButStale_onSignalEvent (gateId : GateId) (s : IntakeState) {event : SignalEvent}
    (stale : event.isStale = true) : AgreeButStale gateId s (s.onSignalEvent event) := by
  refine ⟨(IntakeState.onSignalEvent_clock s event).symm, ?_⟩
  rw [IntakeState.onSignalEvent_history, List.filter_append]
  by_cases own : event.gateId = some gateId
  · simp [own, stale]
  · simp [own]

/-- Eligible events are not stale. -/
theorem nonStaleRecent_filter (events : List SignalEvent) (now : ℤ) :
    nonStaleRecent (events.filter fun event => !event.isStale) now = nonStaleRecent events now := by
  unfold nonStaleRecent
  rw [List.filter_filter]
  refine List.filter_congr fun event _ => ?_
  unfold SignalEvent.eligible
  cases event.isStale <;> simp

/-- **Forecasts leave stale events out.** An inserted stale event changes no
later forecast of any gate. -/
theorem stale_event_unseen_by_forecast {event : SignalEvent} (stale : event.isStale = true)
    {startedAt : ℤ} (earlier later : List PipelineStimulus) {without inserted : Schedule}
    (withoutEq : TaskSystem.stimuli without = earlier ++ later)
    (insertedEq : TaskSystem.stimuli inserted = earlier ++ .signalEvent event :: later)
    (gate : Gate) {now : ℤ} (reached : (after deps startedAt without).shared.intake.clock ≤ now) :
    forecastOf gate
        ((after deps startedAt without).shared.intake.getWindowForGate gate.gateId) now =
      forecastOf gate
        ((after deps startedAt inserted).shared.intake.getWindowForGate gate.gateId) now := by
  have agree : AgreeButStale gate.gateId (after deps startedAt without).shared.intake
      (after deps startedAt inserted).shared.intake := by
    rw [after_intake, after_intake, withoutEq, insertedEq]
    simp only [List.foldl_append, List.foldl_cons]
    exact (agreeButStale_onSignalEvent gate.gateId _ stale).foldl deps later
  obtain ⟨clock, history⟩ := agree
  apply forecastOf_congr
  rw [(after_intake_inv deps startedAt without).complete gate.gateId now reached,
    (after_intake_inv deps startedAt inserted).complete gate.gateId now (clock ▸ reached),
    ← nonStaleRecent_filter, history, nonStaleRecent_filter]

/-! ## Rankings do -/

/-- A stale event of a configured gate may not be inserted: it tips the ranking
of a suitable window. -/
theorem unrouted_of_insertionHarmless {event : SignalEvent} (stale : event.isStale = true)
    (harmless : InsertionHarmless deps event) :
    ∀ gateId, event.gateId = some gateId → deps.gatesById.get? gateId = none := by
  intro gateId own
  by_contra routed
  obtain ⟨gate, configured, same, nonempty⟩ := PipelineDependencies.gate_of_routed own routed
  have telling := fillers_window gate gateId nonempty event.source { clock := 0 } rfl
  simp only at telling
  obtain ⟨fill, hfill⟩ : ∃ fill, fill = fillers gate gateId nonempty 0 event.source := ⟨_, rfl⟩
  obtain ⟨full, hfull⟩ : ∃ full,
      full = fill.foldl IntakeState.onSignalEvent { clock := 0 } := ⟨_, rfl⟩
  rw [← hfill, ← hfull] at telling
  obtain ⟨clock, filled, tipped⟩ := telling
  have reached : intakeAfter deps 0 (fill.map .signalEvent) = full := by
    unfold intakeAfter
    rw [List.foldl_map, hfull]
    rfl
  have observed := harmless 0 (fill.map .signalEvent) []
    ((fill.map PipelineStimulus.signalEvent).map .stimulus)
    ((fill.map PipelineStimulus.signalEvent ++ [PipelineStimulus.signalEvent event]).map .stimulus)
    [] [] (by rw [TaskSystem.stimuli_map_stimulus, List.append_nil])
    (by rw [TaskSystem.stimuli_map_stimulus]) rfl gate (by rw [same, configured]) 0
  have without : (after deps 0
      ((fill.map PipelineStimulus.signalEvent).map .stimulus)).shared.intake = full :=
    (after_stimuli_intake deps 0 _).trans reached
  have inserted : (after deps 0 ((fill.map PipelineStimulus.signalEvent ++
      [PipelineStimulus.signalEvent event]).map .stimulus)).shared.intake =
      full.onSignalEvent event := by
    rw [after_stimuli_intake, List.foldl_append]
    exact congrArg (fun s : IntakeState => s.onSignalEvent event) reached
  simp only [List.append_nil, without, inserted, same, clock, filled, tipped event own, le_refl,
    true_implies] at observed
  rw [hfill] at observed
  have out : event.eligible 0 = false := by
    unfold SignalEvent.eligible
    rw [stale]
    rfl
  exact fillers_tip_ranking gate gateId nonempty 0 out observed.2

/-- **Stale events are harmless only where nothing is routed.** A stale event
steers no later decision in any run exactly when it carries no id of a
configured gate. -/
theorem stale_harmless_iff (event : SignalEvent) (stale : event.isStale = true) :
    InsertionHarmless deps event ↔
      ∀ gateId, event.gateId = some gateId → deps.gatesById.get? gateId = none :=
  ⟨unrouted_of_insertionHarmless deps stale, insertionHarmless_of_unrouted deps⟩

/-- A late shuttle without passengers, announced for gate A. -/
def demoShuttle (signalId : String) (isStale : Bool) : SignalEvent where
  signalId
  gateId := some "gate-a"
  routeId := some "route-1"
  timestamp := "1970-01-01T00:00:00.000Z"
  receivedAt := "1970-01-01T00:00:00.000Z"
  payload := .transitArrival 0 none none none
  isStale
  lateArrivalFlag := isStale
  gateId_nonempty := gateA_nonempty

/-- Gate A is at score 40 with one reading and two shuttles. -/
def quietGate : List PipelineStimulus :=
  [.signalEvent (demoReading "reading" 200 "1970-01-01T00:00:00.000Z"),
    .signalEvent (demoShuttle "shuttle-1" false), .signalEvent (demoShuttle "shuttle-2" false)]

/-- A stale shuttle puts the redirection of routes ahead of the opening of
lanes. -/
theorem stale_shuttle_reranks :
    (demoShuttle "stale" true).isStale = true ∧
      ¬ InsertionHarmless demoDependencies (demoShuttle "stale" true) := by
  refine ⟨rfl, fun harmless => ?_⟩
  have observed := harmless 0 quietGate [] (quietGate.map .stimulus)
    ((quietGate ++ [PipelineStimulus.signalEvent (demoShuttle "stale" true)]).map .stimulus) [] []
    rfl rfl rfl demoGateA gatesById_gateA 0 (by decide)
  exact absurd observed.2 (by decide +kernel)

theorem stale_harmless_iff_demo :
    ¬ InsertionHarmless demoDependencies staleReading := by
  rw [stale_harmless_iff demoDependencies staleReading rfl]
  intro unrouted
  have missing := unrouted "gate-a" rfl
  rw [gatesById_gateA] at missing
  cases missing

end Pipeline

end Stadium
