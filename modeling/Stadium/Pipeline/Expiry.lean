import Stadium.Infra.Topology
import Stadium.Pipeline.Intake

/-!
# How long an accepted event counts

Ageing is measured against the reported timestamp only, and nothing bounds
that timestamp from above. An event reported from the past or the present is
out of every computation ten minutes after its acceptance; one reported from
the future counts until ten minutes after its own time
(`influence_bounded_iff`).
-/

namespace Stadium

open Interleaving

namespace Pipeline

variable (deps : PipelineDependencies)

/-! ## What recomputes work on -/

/-- A recompute of a configured gate, on events that name that gate. -/
structure SoundWindow (gate : Gate) (window : List SignalEvent) : Prop where
  configured : deps.gatesById.get? gate.gateId = some gate
  own : ∀ event ∈ window, event.gateId = some gate.gateId

theorem soundWindow_of_inv {s : IntakeState} (inv : s.Inv) {gate : Gate} {target : GateId}
    (configured : deps.gatesById.get? target = some gate) :
    SoundWindow deps gate (s.getWindowForGate gate.gateId) where
  configured := by rw [PipelineDependencies.gateId_of_get? configured, configured]
  own event member := by
    have delivered := (inv.sublist gate.gateId).subset member
    unfold IntakeState.history at delivered
    rw [List.mem_filter, decide_eq_true_iff] at delivered
    exact delivered.2

/-- The recompute a task is about to make. -/
def pendingWindow : PipelineTask → Option (Gate × List SignalEvent)
  | .computing gate window => some (gate, window)
  | _ => none

/-- The windows of all recomputes, made and to be made, are sound. -/
structure WindowsSound (c : Config PipelineState PipelineTask) : Prop where
  intake : c.shared.intake.Inv
  computed : ∀ r ∈ c.shared.forecasts.computed, SoundWindow deps r.gate r.window
  pending : ∀ task ∈ c.suspended, ∀ gate window, pendingWindow task = some (gate, window) →
    SoundWindow deps gate window

/-- A resumption never leads to a new recompute. -/
theorem pendingWindow_of_follows {task next : PipelineTask} (follows : Follows task next) :
    pendingWindow next = none := by
  cases follows <;> rfl

/-- A resumption adds at most the computation of its own window. -/
theorem resume_computed (task : PipelineTask) (s : PipelineState) :
    ∀ r ∈ (resume deps task s).shared.forecasts.computed,
      r ∈ s.forecasts.computed ∨ pendingWindow task = some (r.gate, r.window) := by
  intro r member
  cases task with
  | computing gate window =>
      rw [resume_computing] at member
      rcases List.mem_append.mp member with earlier | new
      · exact .inl earlier
      · rw [List.mem_singleton.mp new]
        exact .inr rfl
  | decidingNudge update fan lastNudgeAt rest generated =>
      rw [show resume deps (.decidingNudge update fan lastNudgeAt rest generated) s =
        decideNudge deps update fan lastNudgeAt rest generated s from rfl,
        decideNudge_shared] at member
      exact .inl member
  | locatingAction gateId actionId userId now actions =>
      rw [show resume deps (.locatingAction gateId actionId userId now actions) s =
        locateAction gateId actionId userId now actions s from rfl,
        locateAction_shared] at member
      exact .inl member
  | _ => exact .inl member

/-- A stimulus computes nothing itself. -/
theorem stimulate_computed (stimulus : PipelineStimulus) (s : PipelineState) :
    (stimulate deps stimulus s).1.forecasts.computed = s.forecasts.computed := by
  cases stimulus <;> simp [stimulate, onCongestionScore, recordScore]

/-- A stimulus starts recomputes on current windows only. -/
theorem stimulate_pendingWindow (stimulus : PipelineStimulus) (s : PipelineState) :
    ∀ next ∈ (stimulate deps stimulus s).2, ∀ gate window,
      pendingWindow next = some (gate, window) →
      ∃ target, deps.gatesById.get? target = some gate ∧
        window = (stimulate deps stimulus s).1.intake.getWindowForGate gate.gateId := by
  have delivery : ∀ event, ∀ next ∈ (onSignalEvent deps s event).2, ∀ gate window,
      pendingWindow next = some (gate, window) →
      ∃ target, deps.gatesById.get? target = some gate ∧
        window = (onSignalEvent deps s event).1.intake.getWindowForGate gate.gateId := by
    intro event next member gate window pending
    unfold onSignalEvent at member ⊢
    dsimp only at member ⊢
    cases found : (truthy event.gateId).bind deps.gatesById.get? with
    | none =>
        rw [found] at member
        exact absurd member List.not_mem_nil
    | some configured =>
        rw [found] at member
        rw [List.mem_singleton.mp member] at pending
        cases pending
        obtain ⟨target, -, get⟩ := Option.bind_eq_some_iff.mp found
        exact ⟨target, get, rfl⟩
  intro next member gate window pending
  cases stimulus with
  | handleSignal signal => exact delivery _ next member gate window pending
  | signalEvent event => exact delivery event next member gate window pending
  | tick gateId =>
      change next ∈ (onTick deps s gateId).2 at member
      show ∃ target, _ ∧ window = (onTick deps s gateId).1.intake.getWindowForGate gate.gateId
      unfold onTick at member ⊢
      cases found : deps.gatesById.get? gateId with
      | none =>
          rw [found] at member
          exact absurd member List.not_mem_nil
      | some configured =>
          rw [found] at member
          rw [List.mem_singleton.mp member] at pending
          cases pending
          exact ⟨gateId, found, rfl⟩
  | advance ms => exact absurd member List.not_mem_nil
  | congestionScore message =>
      rw [List.mem_singleton.mp member] at pending
      cases pending
  | executeAction gateId actionId userId =>
      rw [List.mem_singleton.mp member] at pending
      cases pending

/-- After every schedule, whatever the interleaving. -/
theorem windowsSound_after (startedAt : ℤ) (schedule : Schedule) :
    WindowsSound deps (after deps startedAt schedule) := by
  have start : WindowsSound deps ⟨.wired startedAt, []⟩ :=
    ⟨.wired startedAt, by simp [PipelineState.wired], by simp⟩
  refine (system deps).run_invariant ?_ ?_ start
    ((system deps).guarded_trivial ⟨.wired startedAt, []⟩ schedule)
  · intro s tasks stimulus inv _
    have intake : (stimulate deps stimulus s).1.intake.Inv := by
      rw [stimulate_intake]
      exact inv.intake.react deps stimulus
    refine ⟨intake, ?_, ?_⟩
    · intro r member
      refine inv.computed r ?_
      rwa [← stimulate_computed deps stimulus s]
    · intro task member gate window pending
      rcases List.mem_append.mp member with earlier | started
      · exact inv.pending task earlier gate window pending
      · obtain ⟨target, configured, rfl⟩ :=
          stimulate_pendingWindow deps stimulus s task started gate window pending
        exact soundWindow_of_inv deps intake configured
  · intro s before task after inv _
    refine ⟨?_, ?_, ?_⟩
    · show (resume deps task s).shared.intake.Inv
      rw [resume_intake]
      exact inv.intake
    · intro r member
      rcases resume_computed deps task s r member with earlier | new
      · exact inv.computed r earlier
      · exact inv.pending task (by simp) r.gate r.window new
    · refine TaskSystem.forall_mem_resumed inv.pending ?_
      intro _ next successor gate window pending
      rw [pendingWindow_of_follows (resume_follows deps task s next successor)] at pending
      cases pending

/-! ## The bound on an event's influence -/

/-- No computation more than ten minutes after the acceptance of `signal` at
`acceptedAt` counts the event, in any run. -/
def InfluenceBounded (signal : ParsedSignal) (acceptedAt : ℤ) : Prop :=
  ∀ (startedAt : ℤ) (earlier later : Schedule),
    (after deps startedAt earlier).shared.intake.clock = acceptedAt →
    ∀ r ∈ (after deps startedAt
        (earlier ++ .stimulus (.handleSignal signal) :: later)).shared.forecasts.computed,
      acceptedAt + recentWindowMs < r.now →
      signal.accept deps.timingConfig acceptedAt ∉ nonStaleRecent r.window r.now

/-- The signal is reported from the future, for a configured gate, and not
taken for stale. -/
structure FromTheFuture (signal : ParsedSignal) (acceptedAt time : ℤ) (gateId : GateId)
    (gate : Gate) : Prop where
  reported : IsoDate.parse signal.timestamp = some time
  ahead : acceptedAt < time
  named : signal.gateId = some gateId
  configured : deps.gatesById.get? gateId = some gate
  fresh : (signal.accept deps.timingConfig acceptedAt).isStale = false

theorem fromTheFuture_of_counted {signal : ParsedSignal} {acceptedAt : ℤ} {r : Computation}
    (sound : SoundWindow deps r.gate r.window) (late : acceptedAt + recentWindowMs < r.now)
    (counted : signal.accept deps.timingConfig acceptedAt ∈ nonStaleRecent r.window r.now) :
    ∃ time, FromTheFuture deps signal acceptedAt time r.gate.gateId r.gate := by
  unfold nonStaleRecent at counted
  rw [List.mem_filter] at counted
  obtain ⟨member, eligible⟩ := counted
  obtain ⟨fresh, time, reported, young⟩ := SignalEvent.eligible_iff.mp eligible
  exact ⟨time, reported, by omega, sound.own _ member, sound.configured, fresh⟩

/-- The run that counts an event from the future late: nothing happens until
ten minutes after its own time, when the gate's timer fires. -/
def lateTick (signal : ParsedSignal) (ms : ℕ) (gateId : GateId) : Schedule :=
  [.stimulus (.handleSignal signal), .stimulus (.advance ms), .stimulus (.tick gateId), .resume 1]

/-- A delivery for a configured gate starts a recompute on the new window. -/
theorem onSignalEvent_started {gateId : GateId} {gate : Gate}
    (configured : deps.gatesById.get? gateId = some gate) (s : PipelineState)
    {event : SignalEvent} (own : event.gateId = some gateId) :
    (onSignalEvent deps s event).2 = [startRecompute (onSignalEvent deps s event).1 gate] := by
  unfold onSignalEvent
  simp only [SignalEvent.truthy_gateId]
  simp only [own, Option.bind_some, configured]

theorem onTick_configured {gateId : GateId} {gate : Gate}
    (configured : deps.gatesById.get? gateId = some gate) (s : PipelineState) :
    onTick deps s gateId = (s, [startRecompute s gate]) := by
  unfold onTick
  rw [configured]

/-- The late tick starts a recompute on the window the acceptance has left. -/
theorem after_lateTick {signal : ParsedSignal} {acceptedAt : ℤ} {ms : ℕ} {gateId : GateId}
    {gate : Gate} (named : signal.gateId = some gateId)
    (configured : deps.gatesById.get? gateId = some gate) :
    let event := signal.accept deps.timingConfig acceptedAt
    let s := (onSignalEvent deps (.wired acceptedAt) event).1
    let late : PipelineState := { s with intake := { s.intake with clock := s.intake.clock + ms } }
    after deps acceptedAt (lateTick signal ms gateId) =
      (system deps).step ⟨late, [startRecompute s gate, startRecompute late gate]⟩
        (.resume 1) := by
  intro event s late
  have first : (system deps).step ⟨.wired acceptedAt, []⟩ (.stimulus (.handleSignal signal)) =
      ⟨s, [startRecompute s gate]⟩ := by
    have started : (onSignalEvent deps (.wired acceptedAt) event).2 = [startRecompute s gate] :=
      onSignalEvent_started deps configured _ named
    show (⟨s, [] ++ (onSignalEvent deps (.wired acceptedAt) event).2⟩ :
      Config PipelineState PipelineTask) = _
    rw [started]
    rfl
  have third : (system deps).step ⟨late, [startRecompute s gate]⟩ (.stimulus (.tick gateId)) =
      ⟨late, [startRecompute s gate, startRecompute late gate]⟩ := by
    show (⟨(onTick deps late gateId).1, [startRecompute s gate] ++ (onTick deps late gateId).2⟩ :
      Config PipelineState PipelineTask) = _
    rw [onTick_configured deps configured]
    rfl
  unfold after lateTick
  rw [TaskSystem.run_cons, first, TaskSystem.run_cons]
  exact congrArg (fun c => (system deps).step c (.resume 1)) third

/-- Exactly ten minutes after its own time a fresh event still counts. -/
theorem FromTheFuture.eligible {signal : ParsedSignal} {acceptedAt time : ℤ} {gateId : GateId}
    {gate : Gate} (future : FromTheFuture deps signal acceptedAt time gateId gate) {now : ℤ}
    (recent : now ≤ time + recentWindowMs) :
    (signal.accept deps.timingConfig acceptedAt).eligible now = true := by
  apply SignalEvent.eligible_iff.mpr
  refine ⟨future.fresh, time, future.reported, ?_⟩
  omega

theorem lateTick_counts {signal : ParsedSignal} {acceptedAt time : ℤ} {gateId : GateId}
    {gate : Gate} (future : FromTheFuture deps signal acceptedAt time gateId gate) :
    ∃ r ∈ (after deps acceptedAt
        (lateTick signal (time + recentWindowMs - acceptedAt).toNat gateId)
          ).shared.forecasts.computed,
      acceptedAt + recentWindowMs < r.now ∧
      signal.accept deps.timingConfig acceptedAt ∈ nonStaleRecent r.window r.now := by
  have ahead := future.ahead
  have same := PipelineDependencies.gateId_of_get? future.configured
  obtain ⟨ms, hms⟩ : ∃ ms : ℕ, ms = (time + recentWindowMs - acceptedAt).toNat := ⟨_, rfl⟩
  have clock : acceptedAt + ms = time + recentWindowMs := by
    unfold recentWindowMs at hms ⊢
    omega
  rw [← hms, after_lateTick deps future.named future.configured]
  have eligible : (signal.accept deps.timingConfig acceptedAt).eligible (acceptedAt + ms) = true :=
    future.eligible deps clock.le
  have own : (signal.accept deps.timingConfig acceptedAt).gateId = some gateId := future.named
  generalize signal.accept deps.timingConfig acceptedAt = event at eligible own
  -- the window after the acceptance, which no later step changes
  have intake := onSignalEvent_intake deps (.wired acceptedAt) event
  generalize (onSignalEvent deps (.wired acceptedAt) event).1 = s at intake
  have window : s.intake.getWindowForGate gate.gateId = [event] := by
    rw [intake, IntakeState.onSignalEvent_window, same, if_pos own]
    rfl
  have now : s.intake.clock = acceptedAt := by
    rw [intake, IntakeState.onSignalEvent_clock]
    rfl
  let late : PipelineState := { s with intake := { s.intake with clock := s.intake.clock + ms } }
  have resumed := (system deps).step_resume late [startRecompute s gate] []
    (startRecompute late gate)
  refine ⟨⟨gate, [event], acceptedAt + ms, forecastOf gate [event] (acceptedAt + ms)⟩, ?_, ?_, ?_⟩
  · show _ ∈ ((system deps).step ⟨late, [startRecompute s gate] ++ startRecompute late gate :: []⟩
      (.resume [startRecompute s gate].length)).shared.forecasts.computed
    rw [resumed]
    show _ ∈
      (compute gate (late.intake.getWindowForGate gate.gateId) late).shared.forecasts.computed
    have read : late.intake.getWindowForGate gate.gateId = [event] := window
    rw [read, compute_eq]
    refine List.mem_append_right _ (List.mem_singleton.mpr ?_)
    show _ = (⟨gate, [event], s.intake.clock + ms, forecastOf gate [event] (s.intake.clock + ms)⟩ :
      Computation)
    rw [now]
  · show acceptedAt + recentWindowMs < acceptedAt + ms
    omega
  · exact List.mem_filter.mpr ⟨List.mem_singleton_self event, eligible⟩

/-- **Influence is bounded exactly for the past.** No run counts the event
accepted at `acceptedAt` more than ten minutes later exactly when it is not
reported from the future for a configured gate. -/
theorem influence_bounded_iff (signal : ParsedSignal) (acceptedAt : ℤ) :
    InfluenceBounded deps signal acceptedAt ↔
      ¬ ∃ time gateId gate, FromTheFuture deps signal acceptedAt time gateId gate := by
  constructor
  · rintro bounded ⟨time, gateId, gate, future⟩
    obtain ⟨r, computed, late, counted⟩ := lateTick_counts deps future
    exact bounded acceptedAt [] _ rfl r computed late counted
  · intro past startedAt earlier later _ r computed late counted
    have sound := (windowsSound_after deps startedAt _).computed r computed
    obtain ⟨time, future⟩ := fromTheFuture_of_counted deps sound late counted
    exact past ⟨time, _, _, future⟩

/-- A counter of gate A whose clock is an hour ahead. -/
def aheadOfTime : ParsedSignal where
  signalId := "ahead"
  gateId := some "gate-a"
  routeId := none
  timestamp := "1970-01-01T01:00:00.000Z"
  receivedAt := "1970-01-01T00:00:00.000Z"
  payload := .gateCounter 400 30
  gateId_nonempty := gateA_nonempty
  count_nonneg := by decide +kernel

/-- Accepted at the epoch, its reading still counts an hour later. -/
theorem reading_ahead_of_time_outlives_bound :
    ¬ InfluenceBounded demoDependencies aheadOfTime 0 := by
  intro bounded
  have counted : (after demoDependencies 0 ([] ++ .stimulus (.handleSignal aheadOfTime) ::
      [.stimulus (.advance 3600000), .stimulus (.tick "gate-a"), .resume 1])
        ).shared.forecasts.computed.any (fun r => decide (0 + recentWindowMs < r.now) &&
          decide (aheadOfTime.accept demoDependencies.timingConfig 0 ∈
            nonStaleRecent r.window r.now)) = true := by
    decide +kernel
  obtain ⟨r, computed, both⟩ := List.any_eq_true.mp counted
  rw [Bool.and_eq_true, decide_eq_true_iff, decide_eq_true_iff] at both
  exact bounded 0 [] _ rfl r computed both.1 both.2

end Pipeline

end Stadium
