import Stadium.Infra.Topology
import Stadium.Pipeline.Intake

/-!
# What a recompute counts

The pruned windows against the events delivered and accepted. A recompute at
or after the clock reading cannot tell the window from the full history of
its gate, so the order of the deliveries does not matter either.

Not every accepted arrival reaches a window: the subscriber routes by the
event's own `gateId`, so a transit arrival that names its gate only in
`destinationGateId` is counted for no gate. `counted_arrivals_iff` says that
these arrivals are the whole difference.
-/

namespace Stadium

open Interleaving

/-- The event names no gate of its own and its passengers head for `gateId`. -/
def SignalEvent.headsFor (event : SignalEvent) (gateId : GateId) : Prop :=
  event.gateId = none ∧ event.destinationGateId = some gateId

instance (event : SignalEvent) (gateId : GateId) : Decidable (event.headsFor gateId) :=
  inferInstanceAs (Decidable (_ ∧ _))

/-- The event concerns `gateId`, by its own gate id or by its destination. -/
def SignalEvent.targets (event : SignalEvent) (gateId : GateId) : Prop :=
  event.gateId = some gateId ∨ event.headsFor gateId

instance (event : SignalEvent) (gateId : GateId) : Decidable (event.targets gateId) :=
  inferInstanceAs (Decidable (_ ∨ _))

/-- The people reported by the events that target a gate and are neither
stale nor more than ten minutes old at `now`. -/
def peopleTargeting (events : List SignalEvent) (gateId : GateId) (now : ℤ) : ℚ :=
  ((events.filter fun event => event.targets gateId ∧ event.eligible now).map
    (·.payload.peopleCount)).sum

/-- The total a recompute uses that reads its window in `s` and computes at
`now`. -/
def IntakeState.countUsed (s : IntakeState) (gateId : GateId) (now : ℤ) : ℚ :=
  totalIncomingCount (nonStaleRecent (s.getWindowForGate gateId) now)

/-- The people heading for a gate in eligible events without a gate id. -/
def peopleHeadingFor (events : List SignalEvent) (gateId : GateId) (now : ℤ) : ℚ :=
  ((events.filter fun event => event.headsFor gateId ∧ event.eligible now).map
    (·.payload.peopleCount)).sum

/-- The people targeting a gate come in events with its gate id or head for it
in events without one. -/
theorem peopleTargeting_eq_add {events : List SignalEvent}
    (nonneg : ∀ event ∈ events, 0 ≤ event.payload.peopleCount) (gateId : GateId) (now : ℤ) :
    peopleTargeting events gateId now =
      totalIncomingCount
        (nonStaleRecent (events.filter fun event => event.gateId = some gateId) now) +
      peopleHeadingFor events gateId now := by
  unfold peopleTargeting peopleHeadingFor
  have parts := List.filter_append_perm (fun event : SignalEvent => event.gateId = some gateId)
    (events.filter fun event => event.targets gateId ∧ event.eligible now)
  have direct : (events.filter fun event => event.targets gateId ∧ event.eligible now).filter
      (fun event => event.gateId = some gateId) =
      nonStaleRecent (events.filter fun event => event.gateId = some gateId) now := by
    unfold nonStaleRecent
    rw [List.filter_filter, List.filter_filter]
    refine List.filter_congr fun event _ => ?_
    by_cases own : event.gateId = some gateId <;> simp [SignalEvent.targets, own]
  have heading : (events.filter fun event => event.targets gateId ∧ event.eligible now).filter
      (fun event => !decide (event.gateId = some gateId)) =
      events.filter fun event => event.headsFor gateId ∧ event.eligible now := by
    rw [List.filter_filter]
    refine List.filter_congr fun event _ => ?_
    by_cases own : event.gateId = some gateId
    · have other : ¬ event.headsFor gateId := fun heads => by
        rw [heads.1] at own
        cases own
      simp [own, other]
    · simp [SignalEvent.targets, own]
  have counts : totalIncomingCount
      (nonStaleRecent (events.filter fun event => event.gateId = some gateId) now) =
      ((nonStaleRecent (events.filter fun event => event.gateId = some gateId) now).map
        (·.payload.peopleCount)).sum := by
    rw [totalIncomingCount_eq_sum]
    refine congrArg List.sum (List.map_congr_left fun event counted => ?_)
    refine incomingCountFor_eq_peopleCount (nonneg event ?_)
    exact List.mem_of_mem_filter (List.mem_of_mem_filter counted)
  rw [← (parts.map _).sum_eq, direct, heading, List.map_append, List.sum_append, counts]

/-- Nobody is missed exactly when no such event reports anybody. -/
theorem peopleHeadingFor_eq_zero {events : List SignalEvent}
    (nonneg : ∀ event ∈ events, 0 ≤ event.payload.peopleCount) (gateId : GateId) (now : ℤ) :
    peopleHeadingFor events gateId now = 0 ↔
      ∀ event ∈ events, event.headsFor gateId → event.eligible now →
        event.payload.peopleCount = 0 := by
  unfold peopleHeadingFor
  constructor
  · intro none event member heads eligible
    have listed : event ∈ events.filter fun e => e.headsFor gateId ∧ e.eligible now := by
      rw [List.mem_filter]
      exact ⟨member, decide_eq_true ⟨heads, eligible⟩⟩
    refine List.all_zero_of_le_zero_le_of_sum_eq_zero ?_ none (List.mem_map_of_mem listed)
    intro count counted
    obtain ⟨other, inList, rfl⟩ := List.mem_map.mp counted
    exact nonneg other (List.mem_of_mem_filter inList)
  · intro none
    refine List.sum_eq_zero fun count counted => ?_
    obtain ⟨event, inList, rfl⟩ := List.mem_map.mp counted
    rw [List.mem_filter, decide_eq_true_iff] at inList
    exact none event inList.1 inList.2.1 inList.2.2

namespace Pipeline

variable (deps : PipelineDependencies)

/-- **The pruned window loses nothing that matters.** After any schedule, a
forecast at or after the clock reading is the same over the window and over
all events ever delivered for the gate; and two schedules that delivered the
same events in different orders give the same forecast. -/
theorem window_forecast_eq_history_forecast (startedAt : ℤ) (schedule : Schedule) (gate : Gate)
    (now : ℤ) (later : (after deps startedAt schedule).shared.intake.clock ≤ now) :
    computeForecast gate
        ((after deps startedAt schedule).shared.intake.getWindowForGate gate.gateId) now =
      computeForecast gate
        ((after deps startedAt schedule).shared.intake.history gate.gateId) now ∧
    ∀ (startedAt' : ℤ) (schedule' : Schedule),
      (after deps startedAt' schedule').shared.intake.clock ≤ now →
      ((after deps startedAt' schedule').shared.intake.delivered).Perm
        (after deps startedAt schedule).shared.intake.delivered →
      computeForecast gate
          ((after deps startedAt' schedule').shared.intake.getWindowForGate gate.gateId) now =
        computeForecast gate
          ((after deps startedAt schedule).shared.intake.getWindowForGate gate.gateId) now := by
  have whole := (after_intake_inv deps startedAt schedule).complete gate.gateId now later
  simp only [computeForecast_ok]
  refine ⟨congrArg _ (forecastOf_congr whole), ?_⟩
  intro startedAt' schedule' later' reordered
  have whole' := (after_intake_inv deps startedAt' schedule').complete gate.gateId now later'
  refine congrArg _ (forecastOf_perm ?_)
  rw [whole, whole']
  exact (reordered.filter _).filter _

/-- Two readings of gate A in either order. -/
theorem window_forecast_eq_history_forecast_demo :
    let high := demoReading "high" 400 "1970-01-01T00:00:00.000Z"
    let low := demoReading "low" 50 "1969-12-31T23:55:00.000Z"
    computeForecast demoGateA
        ((after demoDependencies 0 [.stimulus (.signalEvent low), .stimulus (.signalEvent high)]
          ).shared.intake.getWindowForGate demoGateA.gateId) 5 =
      computeForecast demoGateA
        ((after demoDependencies 0 [.stimulus (.signalEvent high), .stimulus (.signalEvent low)]
          ).shared.intake.getWindowForGate demoGateA.gateId) 5 :=
  (window_forecast_eq_history_forecast demoDependencies 0 _ demoGateA 5 (by decide)).2 0 _
    (by decide) (List.Perm.swap _ _ [])

/-! ## Accepted arrivals -/

/-- Every signal of the schedule came in through `handleSignal`. -/
def IngestedOnly (schedule : Schedule) : Prop :=
  ∀ event, Choice.stimulus (.signalEvent event) ∉ schedule

/-- An accepted signal keeps the payload the schema let through. -/
theorem delivered_nonneg {startedAt : ℤ} {schedule : Schedule} (ingested : IngestedOnly schedule) :
    ∀ event ∈ (after deps startedAt schedule).shared.intake.delivered,
      0 ≤ event.payload.peopleCount := by
  rw [after_intake]
  have accepted : ∀ event, PipelineStimulus.signalEvent event ∉ TaskSystem.stimuli schedule := by
    intro event delivered
    obtain ⟨choice, listed, same⟩ := List.mem_filterMap.mp delivered
    cases choice with
    | stimulus e =>
        cases same
        exact ingested event listed
    | resume position => cases same
  suffices kept : ∀ (stimuli : List PipelineStimulus) (s : IntakeState),
      (∀ event, PipelineStimulus.signalEvent event ∉ stimuli) →
      (∀ event ∈ s.delivered, 0 ≤ event.payload.peopleCount) →
      ∀ event ∈ (stimuli.foldl (IntakeState.react deps) s).delivered,
        0 ≤ event.payload.peopleCount from kept _ _ accepted (by simp)
  intro stimuli
  induction stimuli with
  | nil => exact fun s _ nonneg => nonneg
  | cons stimulus rest ih =>
      intro s accepted nonneg
      refine ih _ (fun event later => accepted event (List.mem_cons_of_mem _ later)) ?_
      cases stimulus with
      | handleSignal signal =>
          intro event delivered
          rw [IntakeState.react, IntakeState.onSignalEvent_delivered, List.mem_append,
            List.mem_singleton] at delivered
          rcases delivered with earlier | rfl
          · exact nonneg event earlier
          · exact signal.count_nonneg
      | signalEvent event => exact absurd List.mem_cons_self (accepted event)
      | advance ms => exact nonneg
      | tick gateId => exact nonneg
      | congestionScore message => exact nonneg
      | executeAction gateId actionId userId => exact nonneg

/-- **What is missed.** After any schedule of accepted signals, the total a
recompute uses is the number of people in all eligible accepted events that
target the gate exactly when the eligible transit arrivals that name the gate
only as their destination bring nobody. -/
theorem counted_arrivals_iff (startedAt : ℤ) (schedule : Schedule) (gateId : GateId) (now : ℤ)
    (ingested : IngestedOnly schedule)
    (later : (after deps startedAt schedule).shared.intake.clock ≤ now) :
    (after deps startedAt schedule).shared.intake.countUsed gateId now =
      peopleTargeting (after deps startedAt schedule).shared.intake.delivered gateId now ↔
    ∀ event ∈ (after deps startedAt schedule).shared.intake.delivered,
      event.headsFor gateId → event.eligible now → event.payload.peopleCount = 0 := by
  have nonneg : ∀ event ∈ (after deps startedAt schedule).shared.intake.delivered,
      0 ≤ event.payload.peopleCount := delivered_nonneg deps ingested
  have whole := (after_intake_inv deps startedAt schedule).complete gateId now later
  rw [IntakeState.countUsed, whole, peopleTargeting_eq_add nonneg, IntakeState.history,
    left_eq_add]
  exact peopleHeadingFor_eq_zero nonneg gateId now

/-- The counter of gate A reports fifty people, and a bus announces eighty for
the gate, which it names as their destination only. -/
def countThenBus : Schedule :=
  [.stimulus (.handleSignal
      { demoReading "crowd" 50 "1970-01-01T00:00:00.000Z" with count_nonneg := by decide }),
    .stimulus (.handleSignal (demoArrival "bus" 80 "1970-01-01T00:00:00.000Z"))]

/-- The fifty are counted, and the total is short by the eighty. -/
theorem counted_arrivals_iff_demo :
    let s := (after demoDependencies 0 countThenBus).shared.intake
    (s.countUsed "gate-a" 5 = 50 ∧ peopleTargeting s.delivered "gate-a" 5 = 130) ∧
      (s.countUsed "gate-a" 5 = peopleTargeting s.delivered "gate-a" 5 ↔
        ∀ event ∈ s.delivered, event.headsFor "gate-a" → event.eligible 5 →
          event.payload.peopleCount = 0) :=
  ⟨by decide +kernel, counted_arrivals_iff demoDependencies 0 countThenBus "gate-a" 5
    (by simp [IngestedOnly, countThenBus]) (by decide +kernel)⟩

/-- Eighty passengers announced for gate A, with the gate named as their
destination only, are counted nowhere. -/
theorem destination_only_arrival_is_missed :
    let s := (after demoDependencies 0
      [.stimulus (.handleSignal (demoArrival "bus" 80 "1970-01-01T00:00:00.000Z"))]).shared.intake
    ¬ s.countUsed "gate-a" 5 = peopleTargeting s.delivered "gate-a" 5 := by
  decide +kernel

end Pipeline

end Stadium
