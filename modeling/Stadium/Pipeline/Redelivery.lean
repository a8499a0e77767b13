import Stadium.Infra.Topology
import Stadium.Pipeline.Intake

/-!
# Delivering an event again

`appendToWindow` does not look at signal ids, so a repeated event takes a
second place in its window, whether or not it is still eligible: an eligible
one is counted twice by the forecast, and any one is counted twice by the
impacts of the recommended actions. A repeated delivery is harmless in every
run exactly when the event enters no window of a configured gate at all
(`redelivery_harmless_iff`).

For the converse direction every event of a configured gate needs a run in
which its repetition shows. The run waits until the event has expired, so
that forecasts do not see it, fills the window with signals that bring two
action types close to a tie, and delivers the event again.
-/

namespace Stadium

open Interleaving

/-- The scores and Risk_Levels of a series. -/
def ForecastResult.outlook (result : ForecastResult) : List (ℤ × RiskLevel) :=
  result.scores.map fun point => (point.score, point.riskLevel)

namespace Pipeline

variable (deps : PipelineDependencies)

/-- The intake after some stimuli. -/
def intakeAfter (startedAt : ℤ) (stimuli : List PipelineStimulus) : IntakeState :=
  stimuli.foldl (IntakeState.react deps) { clock := startedAt }

/-- Take any two runs whose stimuli differ in one repeated delivery of
`event`. The forecast of every configured gate from the window reached, at
every later time, has the same scores and Risk_Levels in both; and so do the
types and ranks of the actions generated from it and the window reached after
any further common stimuli. -/
def RedeliveryHarmless (event : SignalEvent) : Prop :=
  ∀ (startedAt : ℤ) (earlier later : List PipelineStimulus)
    (once again onceLater againLater : Schedule),
    event ∈ (intakeAfter deps startedAt earlier).delivered →
    TaskSystem.stimuli once = earlier ++ later →
    TaskSystem.stimuli again = earlier ++ .signalEvent event :: later →
    TaskSystem.stimuli onceLater = TaskSystem.stimuli againLater →
    ∀ gate, deps.gatesById.get? gate.gateId = some gate →
    ∀ now, (after deps startedAt once).shared.intake.clock ≤ now →
      let window := (after deps startedAt once).shared.intake.getWindowForGate gate.gateId
      let window' := (after deps startedAt again).shared.intake.getWindowForGate gate.gateId
      let windowLater :=
        (after deps startedAt (once ++ onceLater)).shared.intake.getWindowForGate gate.gateId
      let windowLater' :=
        (after deps startedAt (again ++ againLater)).shared.intake.getWindowForGate gate.gateId
      (forecastOf gate window now).outlook = (forecastOf gate window' now).outlook ∧
        ranking (generateRecommendations gate (forecastOf gate window now) windowLater) =
          ranking (generateRecommendations gate (forecastOf gate window' now) windowLater')

/-! ## Events that enter no window -/

/-- Two intake states agree on the clock and on the window of a gate. -/
def AgreeOn (gateId : GateId) (s s' : IntakeState) : Prop :=
  s.clock = s'.clock ∧ s.getWindowForGate gateId = s'.getWindowForGate gateId

theorem AgreeOn.onSignalEvent {gateId : GateId} {s s' : IntakeState} (h : AgreeOn gateId s s')
    (event : SignalEvent) : AgreeOn gateId (s.onSignalEvent event) (s'.onSignalEvent event) := by
  obtain ⟨clock, window⟩ := h
  refine ⟨?_, ?_⟩
  · rw [IntakeState.onSignalEvent_clock, IntakeState.onSignalEvent_clock, clock]
  · rw [IntakeState.onSignalEvent_window, IntakeState.onSignalEvent_window, clock, window]

theorem AgreeOn.foldl {gateId : GateId} {s s' : IntakeState} (h : AgreeOn gateId s s')
    (stimuli : List PipelineStimulus) :
    AgreeOn gateId (stimuli.foldl (IntakeState.react deps) s)
      (stimuli.foldl (IntakeState.react deps) s') :=
  IntakeState.foldl_react_related (fun _ _ h => h.1)
    (fun _ _ ms h => ⟨congrArg (· + (ms : ℤ)) h.1, h.2⟩) (fun _ _ event h => h.onSignalEvent event)
    h stimuli

/-- A delivery for another gate, or for none, is not seen. -/
theorem agreeOn_onSignalEvent {gateId : GateId} (s : IntakeState) {event : SignalEvent}
    (other : event.gateId ≠ some gateId) : AgreeOn gateId s (s.onSignalEvent event) := by
  refine ⟨(IntakeState.onSignalEvent_clock s event).symm, ?_⟩
  rw [IntakeState.onSignalEvent_window, if_neg other]

/-- The windows of a configured gate after any two runs whose stimuli differ in
one delivery of an event that enters no window of such a gate. -/
theorem window_of_unrouted {event : SignalEvent}
    (unrouted : ∀ gateId, event.gateId = some gateId → deps.gatesById.get? gateId = none)
    {startedAt : ℤ} (earlier later : List PipelineStimulus) {once again : Schedule}
    (onceEq : TaskSystem.stimuli once = earlier ++ later)
    (againEq : TaskSystem.stimuli again = earlier ++ .signalEvent event :: later) {gate : Gate}
    (configured : deps.gatesById.get? gate.gateId = some gate) :
    (after deps startedAt once).shared.intake.getWindowForGate gate.gateId =
      (after deps startedAt again).shared.intake.getWindowForGate gate.gateId := by
  have other : event.gateId ≠ some gate.gateId := fun own => by
    rw [unrouted _ own] at configured
    cases configured
  rw [after_intake, after_intake, onceEq, againEq]
  simp only [List.foldl_append, List.foldl_cons]
  exact ((agreeOn_onSignalEvent _ other).foldl deps later).2

/-- An event that enters no window of a configured gate may be repeated. -/
theorem redeliveryHarmless_of_unrouted {event : SignalEvent}
    (unrouted : ∀ gateId, event.gateId = some gateId → deps.gatesById.get? gateId = none) :
    RedeliveryHarmless deps event := by
  intro startedAt earlier later once again onceLater againLater _ onceEq againEq laterEq gate
    configured now _ window window' windowLater windowLater'
  have sameWindow : window = window' := window_of_unrouted deps unrouted earlier later onceEq
    againEq configured
  have sameLater : windowLater = windowLater' := by
    refine window_of_unrouted deps unrouted earlier (later ++ TaskSystem.stimuli onceLater) ?_ ?_
      configured
    · rw [TaskSystem.stimuli_append, onceEq, List.append_assoc]
    · rw [TaskSystem.stimuli_append, againEq, laterEq, List.append_assoc, List.cons_append]
  rw [sameWindow, sameLater]
  exact ⟨rfl, rfl⟩

/-! ## Events that do -/

/-- A signal for `gateId` at `now` that a run adds to bring types close to a
tie. -/
def fillerSignal (gateId : GateId) (nonempty : gateId ≠ "") (now : ℤ)
    (payload : SignalEventPayloadBody) : SignalEvent where
  signalId := "filler"
  gateId := some gateId
  routeId := none
  timestamp := IsoDate.toISOString now
  receivedAt := IsoDate.toISOString now
  payload
  isStale := false
  lateArrivalFlag := false
  gateId_nonempty := fun same => nonempty (Option.some.inj same)

/-- The score at which one more event of a source tips the ranking. -/
def tippingScore : SignalSource → ℤ
  | .gateCounter => 50
  | .ticketScanner => 65
  | .transitFeed => 40

/-- The number of arrivals that goes with it, next to one counter reading. -/
def tippingArrivals : SignalSource → ℕ
  | .gateCounter => 3
  | .ticketScanner => 3
  | .transitFeed => 2

/-- One reading that loads the gate to the tipping score, and arrivals without
passengers. -/
def fillers (gate : Gate) (gateId : GateId) (nonempty : gateId ≠ "") (now : ℤ)
    (source : SignalSource) : List SignalEvent :=
  fillerSignal gateId nonempty now
      (.gateCounter (tippingScore source * max 1 gate.capacityThreshold / 100) 30) ::
    List.replicate (tippingArrivals source)
      (fillerSignal gateId nonempty now (.transitArrival 0 none none none))

/-- Some event of a source. -/
def standIn (source : SignalSource) : SignalEvent :=
  fillerSignal "gate" (by decide) 0 (match source with
    | .gateCounter => .gateCounter 0 30
    | .ticketScanner => .ticketScan "fan"
    | .transitFeed => .transitArrival 0 none none none)

/-- A window with the sources of the fillers. -/
def standIns (source : SignalSource) : List SignalEvent :=
  standIn .gateCounter :: List.replicate (tippingArrivals source) (standIn .transitFeed)

theorem standIns_tip (source : SignalSource) :
    rankedActionTypes (tippingScore source) (standIns source) ≠
      rankedActionTypes (tippingScore source) (standIns source ++ [standIn source]) := by
  cases source <;> decide +kernel

/-- One more event of the source changes the order of the action types. -/
theorem fillers_tip (gate : Gate) (gateId : GateId) (nonempty : gateId ≠ "") (now : ℤ)
    (event : SignalEvent) :
    rankedActionTypes (tippingScore event.source) (fillers gate gateId nonempty now event.source) ≠
      rankedActionTypes (tippingScore event.source)
        (fillers gate gateId nonempty now event.source ++ [event]) := by
  have fewer : (fillers gate gateId nonempty now event.source).map (·.source) =
      (standIns event.source).map (·.source) := by
    cases event.source <;> rfl
  have one : event.source = (standIn event.source).source := by
    cases event.source <;> rfl
  have more : (fillers gate gateId nonempty now event.source ++ [event]).map (·.source) =
      (standIns event.source ++ [standIn event.source]).map (·.source) := by
    rw [List.map_append, List.map_append, fewer, List.map_singleton, List.map_singleton, ← one]
  rw [rankedActionTypes_congr (.of_eq fewer), rankedActionTypes_congr (.of_eq more)]
  exact standIns_tip event.source

/-! ## The window of the telling run -/

theorem fillerSignal_time (gateId : GateId) (nonempty : gateId ≠ "") (now : ℤ)
    (payload : SignalEventPayloadBody) :
    (fillerSignal gateId nonempty now payload).time = some now :=
  IsoDate.parse_toISOString now

theorem fillerSignal_eligible (gateId : GateId) (nonempty : gateId ≠ "") (now : ℤ)
    (payload : SignalEventPayloadBody) :
    (fillerSignal gateId nonempty now payload).eligible now = true := by
  unfold SignalEvent.eligible
  rw [fillerSignal_time, Option.any_some, sub_self]
  rfl

theorem mem_fillers {gate : Gate} {gateId : GateId} {nonempty : gateId ≠ ""} {now : ℤ}
    {source : SignalSource} {event : SignalEvent}
    (member : event ∈ fillers gate gateId nonempty now source) :
    event.gateId = some gateId ∧ event.eligible now = true := by
  rcases List.mem_cons.mp member with rfl | arrival
  · exact ⟨rfl, fillerSignal_eligible gateId nonempty now _⟩
  · rw [(List.mem_replicate.mp arrival).2]
    exact ⟨rfl, fillerSignal_eligible gateId nonempty now _⟩

/-- Deliveries of retained events for one gate replace its window by what is
retained of it, followed by themselves. -/
theorem window_after_deliveries {gateId : GateId} (s : IntakeState) (first : SignalEvent)
    (rest : List SignalEvent)
    (own : ∀ event ∈ first :: rest,
      event.gateId = some gateId ∧ IntakeState.retained s.clock event = true) :
    ((first :: rest).foldl IntakeState.onSignalEvent s).clock = s.clock ∧
      ((first :: rest).foldl IntakeState.onSignalEvent s).getWindowForGate gateId =
        (s.getWindowForGate gateId).filter (IntakeState.retained s.clock) ++ first :: rest := by
  induction rest generalizing s first with
  | nil =>
      refine ⟨IntakeState.onSignalEvent_clock s first, ?_⟩
      show (s.onSignalEvent first).getWindowForGate gateId = _
      rw [IntakeState.onSignalEvent_window, if_pos (own first List.mem_cons_self).1]
  | cons second rest ih =>
      have clock := IntakeState.onSignalEvent_clock s first
      have step := ih (s.onSignalEvent first) second (by
        rw [clock]
        exact fun event member => own event (List.mem_cons_of_mem first member))
      obtain ⟨ownFirst, keptFirst⟩ := own first List.mem_cons_self
      rw [clock, IntakeState.onSignalEvent_window, if_pos ownFirst, List.filter_append,
        List.filter_filter, List.filter_singleton, keptFirst] at step
      rw [List.foldl_cons]
      refine ⟨step.1, step.2.trans ?_⟩
      simp [Bool.and_self]

theorem foldl_onSignalEvent_delivered (s : IntakeState) (events : List SignalEvent) :
    (events.foldl IntakeState.onSignalEvent s).delivered = s.delivered ++ events := by
  induction events generalizing s with
  | nil => exact (List.append_nil _).symm
  | cons first rest ih =>
      rw [List.foldl_cons, ih, IntakeState.onSignalEvent_delivered, List.append_assoc,
        List.singleton_append]

/-- The fillers load the gate to the tipping score. -/
theorem fillers_score (gate : Gate) (gateId : GateId) (nonempty : gateId ≠ "") (now : ℤ)
    (source : SignalSource) :
    scoreAt (baseScore gate (totalIncomingCount (fillers gate gateId nonempty now source))) 0 =
      tippingScore source := by
  have positive : 0 < max 1 gate.capacityThreshold := lt_max_of_lt_left one_pos
  have total : totalIncomingCount (fillers gate gateId nonempty now source) =
      tippingScore source * max 1 gate.capacityThreshold / 100 := by
    have load : (0 : ℚ) ≤ tippingScore source * max 1 gate.capacityThreshold / 100 := by
      have score : (0 : ℚ) ≤ tippingScore source := by cases source <;> norm_num [tippingScore]
      exact div_nonneg (mul_nonneg score positive.le) (by norm_num)
    rw [totalIncomingCount_eq_sum, fillers, List.map_cons, List.sum_cons, List.map_replicate,
      List.sum_replicate]
    show max 0 _ + tippingArrivals source • max 0 (0 : ℚ) = _
    rw [max_eq_right load, max_self, smul_zero, add_zero]
  have base : baseScore gate (totalIncomingCount (fillers gate gateId nonempty now source)) =
      tippingScore source := by
    have percent : (tippingScore source : ℚ) * max 1 gate.capacityThreshold / 100 /
        max 1 gate.capacityThreshold * 100 = tippingScore source := by
      field_simp
    unfold baseScore
    rw [total, percent]
    cases source <;> norm_num [clampScore, tippingScore]
  rw [base]
  cases source <;> norm_num [scoreAt, clampScore, mathRound, offsetGrowthFactor, tippingScore]

section

variable (gate : Gate) (gateId : GateId) (nonempty : gateId ≠ "")

/-- Fillers delivered to a window of which nothing is retained are all of it,
and one more event for the gate goes behind them. -/
theorem fillers_window (source : SignalSource) (s : IntakeState)
    (pruned : (s.getWindowForGate gateId).filter (IntakeState.retained s.clock) = []) :
    let fill := fillers gate gateId nonempty s.clock source
    let full := fill.foldl IntakeState.onSignalEvent s
    full.clock = s.clock ∧ full.getWindowForGate gateId = fill ∧
      ∀ event, event.gateId = some gateId →
        (full.onSignalEvent event).getWindowForGate gateId = fill ++ [event] := by
  intro fill full
  have own : ∀ filler ∈ fill, filler.gateId = some gateId ∧
      IntakeState.retained s.clock filler = true := fun filler member =>
    ⟨(mem_fillers member).1, IntakeState.retained_of_eligible le_rfl (mem_fillers member).2⟩
  obtain ⟨clock, window⟩ := window_after_deliveries s _ _ own
  have filled : full.getWindowForGate gateId = fill := by
    refine window.trans ?_
    rw [pruned]
    rfl
  refine ⟨clock, filled, fun event target => ?_⟩
  have all : fill.filter (IntakeState.retained s.clock) = fill :=
    List.filter_eq_self.mpr fun filler member => (own filler member).2
  rw [IntakeState.onSignalEvent_window, if_pos target, filled, show full.clock = s.clock from clock,
    all]

/-- Behind the fillers, an event that does not count changes the ranking. -/
theorem fillers_tip_ranking (now : ℤ) {event : SignalEvent} (out : event.eligible now = false) :
    let fill := fillers gate gateId nonempty now event.source
    ranking (generateRecommendations gate (forecastOf gate fill now) fill) ≠
      ranking (generateRecommendations gate (forecastOf gate (fill ++ [event]) now)
        (fill ++ [event])) := by
  intro fill same
  have counted : nonStaleRecent fill now = fill :=
    List.filter_eq_self.mpr fun filler member => (mem_fillers member).2
  have unseen : nonStaleRecent (fill ++ [event]) now = nonStaleRecent fill now := by
    unfold nonStaleRecent
    rw [List.filter_append, List.filter_singleton, out]
    exact List.append_nil _
  have score : (currentPointOf gate fill now).score = tippingScore event.source := by
    show scoreAt (windowBase gate fill now) 0 = _
    rw [windowBase, counted]
    exact fillers_score gate gateId nonempty now event.source
  have risky : (forecastOf gate fill now).currentRiskLevel ≠ .low := by
    show riskBand (currentPointOf gate fill now).score ≠ .low
    rw [score]
    cases event.source <;> decide
  have ranked := congrArg (List.map Prod.fst) same
  rw [← forecastOf_congr unseen.symm, ranking_generateRecommendations risky,
    ranking_generateRecommendations risky, forecastOf_head, Option.map_some, Option.getD_some,
    score] at ranked
  exact fillers_tip gate gateId nonempty now event ranked

end

/-- Every event is dropped from its window at some time. -/
theorem exists_expired (event : SignalEvent) :
    ∃ wait : ℕ, IntakeState.retained wait event = false := by
  unfold IntakeState.retained
  cases reported : event.time with
  | none => exact ⟨0, rfl⟩
  | some time =>
      refine ⟨(time + signalWindowRetentionMs + 1).toNat, ?_⟩
      rw [Option.any_some, decide_eq_false_iff_not]
      omega

theorem not_eligible_of_expired {event : SignalEvent} {now : ℤ}
    (expired : IntakeState.retained now event = false) : event.eligible now = false := by
  by_contra eligible
  rw [Bool.not_eq_false] at eligible
  rw [IntakeState.retained_of_eligible le_rfl eligible] at expired
  cases expired

/-- An event of a configured gate may not be repeated: once it has expired,
its repetition tips the ranking of a suitable window. -/
theorem unrouted_of_redeliveryHarmless {event : SignalEvent}
    (harmless : RedeliveryHarmless deps event) :
    ∀ gateId, event.gateId = some gateId → deps.gatesById.get? gateId = none := by
  intro gateId own
  by_contra routed
  obtain ⟨gate, configured, same, nonempty⟩ := PipelineDependencies.gate_of_routed own routed
  obtain ⟨wait, expired⟩ := exists_expired event
  -- the run waits for it, fills the window and delivers the event again
  obtain ⟨waited, hwaited⟩ : ∃ waited, waited =
      [PipelineStimulus.signalEvent event, .advance wait].foldl (IntakeState.react deps)
        { clock := 0 } := ⟨_, rfl⟩
  have waitedClock : waited.clock = wait := by
    rw [hwaited]
    show (IntakeState.onSignalEvent { clock := 0 } event).clock + wait = wait
    rw [IntakeState.onSignalEvent_clock, zero_add]
  have waitedWindow : waited.getWindowForGate gateId = [event] := by
    rw [hwaited]
    show (IntakeState.onSignalEvent { clock := 0 } event).getWindowForGate gateId = [event]
    rw [IntakeState.onSignalEvent_window, if_pos own]
    rfl
  have pruned : (waited.getWindowForGate gateId).filter
      (IntakeState.retained waited.clock) = [] := by
    rw [waitedWindow, waitedClock, List.filter_singleton, expired]
    rfl
  have telling := fillers_window gate gateId nonempty event.source waited pruned
  rw [waitedClock] at telling
  obtain ⟨fill, hfill⟩ : ∃ fill, fill = fillers gate gateId nonempty wait event.source := ⟨_, rfl⟩
  obtain ⟨full, hfull⟩ : ∃ full, full = fill.foldl IntakeState.onSignalEvent waited := ⟨_, rfl⟩
  simp only [← hfill, ← hfull] at telling
  obtain ⟨clock, filled, repeated⟩ := telling
  let earlier : List PipelineStimulus :=
    [.signalEvent event, .advance wait] ++ fill.map .signalEvent
  have reached : intakeAfter deps 0 earlier = full := by
    unfold intakeAfter
    rw [List.foldl_append, ← hwaited, List.foldl_map, hfull]
    rfl
  have delivered : event ∈ full.delivered := by
    rw [hfull, foldl_onSignalEvent_delivered, hwaited]
    refine List.mem_append_left _ ?_
    show event ∈ (IntakeState.onSignalEvent { clock := 0 } event).delivered
    rw [IntakeState.onSignalEvent_delivered]
    exact List.mem_append_right _ (List.mem_singleton_self event)
  have observed := harmless 0 earlier [] (earlier.map .stimulus)
    ((earlier ++ [PipelineStimulus.signalEvent event]).map .stimulus) [] [] (by rwa [reached])
    (by rw [TaskSystem.stimuli_map_stimulus, List.append_nil])
    (by rw [TaskSystem.stimuli_map_stimulus]) rfl gate (by rw [same, configured]) wait
  have once : (after deps 0 (earlier.map .stimulus)).shared.intake = full :=
    (after_stimuli_intake deps 0 earlier).trans reached
  have again : (after deps 0
      ((earlier ++ [PipelineStimulus.signalEvent event]).map .stimulus)).shared.intake =
      full.onSignalEvent event := by
    rw [after_stimuli_intake, List.foldl_append]
    exact congrArg (fun s : IntakeState => s.onSignalEvent event) reached
  simp only [List.append_nil, once, again, same, clock, filled, repeated event own, le_refl,
    true_implies] at observed
  rw [hfill] at observed
  exact fillers_tip_ranking gate gateId nonempty wait (not_eligible_of_expired expired) observed.2

/-- **Redelivery is harmless only where nothing is routed.** A repeated
delivery of an event shows in no run exactly when the event carries no id of
a configured gate. -/
theorem redelivery_harmless_iff (event : SignalEvent) :
    RedeliveryHarmless deps event ↔
      ∀ gateId, event.gateId = some gateId → deps.gatesById.get? gateId = none :=
  ⟨unrouted_of_redeliveryHarmless deps, redeliveryHarmless_of_unrouted deps⟩

/-- A repeated reading of gate A raises its forecast from 50 to 100. -/
theorem repeated_reading_counts_twice :
    ¬ RedeliveryHarmless demoDependencies
      (demoReading "reading" 250 "1970-01-01T00:00:00.000Z") := by
  intro harmless
  have observed := harmless 0
    [.signalEvent (demoReading "reading" 250 "1970-01-01T00:00:00.000Z")] []
    [.stimulus (.signalEvent (demoReading "reading" 250 "1970-01-01T00:00:00.000Z"))]
    [.stimulus (.signalEvent (demoReading "reading" 250 "1970-01-01T00:00:00.000Z")),
      .stimulus (.signalEvent (demoReading "reading" 250 "1970-01-01T00:00:00.000Z"))]
    [] [] (by decide) rfl rfl rfl demoGateA gatesById_gateA 0 (by decide)
  exact absurd observed.1 (by decide +kernel)

end Pipeline

end Stadium
