import Stadium.Pipeline.Intake

/-!
# The recomputes of one gate

A recompute of a gate passes three suspensions: it has read its window
(`computing`), it has called Redis (`saving`), and Redis has answered
(`publishing`). `forecastView` is the part of the state these stretches work
on for one gate, and `recomputeLine` the recomputes of the gate in flight, in
the order in which they were started. Everything else that runs in the
pipeline leaves both alone (`resume_other_view`), so the results on forecasts need
to look at the recomputes of one gate and at the stimuli only.
-/

namespace Stadium

open Interleaving

/-- A recompute at one of its three suspensions. -/
inductive InFlight where
  | computing (gate : Gate) (window : List SignalEvent)
  | saving (computation : Computation) (point : CongestionScorePoint)
  | publishing (computation : Computation)

namespace InFlight

def gateId : InFlight → GateId
  | .computing gate _ => gate.gateId
  | .saving computation _ => computation.gate.gateId
  | .publishing computation => computation.gate.gateId

/-- How far the recompute has come. -/
def stage : InFlight → ℕ
  | .computing .. => 0
  | .saving .. => 1
  | .publishing _ => 2

/-- The computation of a recompute that is about to publish. -/
def publishing? : InFlight → Option Computation
  | .publishing computation => some computation
  | _ => none

end InFlight

/-- The recompute a task is part of. -/
def PipelineTask.recompute? : PipelineTask → Option InFlight
  | .computing gate window => some (.computing gate window)
  | .savingScore computation point => some (.saving computation point)
  | .publishingForecast computation => some (.publishing computation)
  | _ => none

/-- What the recomputes of one gate read and write. -/
structure ForecastView where
  clock : ℤ
  window : List SignalEvent
  history : List SignalEvent
  lastKnown : Option CongestionScorePoint
  stored : Option (List CongestionScorePoint)
  score : Option CongestionScorePoint
  byGate : Option ForecastResult
  computed : List Computation

namespace Pipeline

variable (deps : PipelineDependencies) (gateId : GateId)

def forecastView (s : PipelineState) : ForecastView where
  clock := s.intake.clock
  window := s.intake.getWindowForGate gateId
  history := s.intake.history gateId
  lastKnown := s.redis.getLastKnownScore gateId
  stored := s.forecasts.forecastStore.get? gateId
  score := s.forecasts.gateScoreSource.get? gateId
  byGate := s.forecasts.forecastsByGate.get? gateId
  computed := s.forecasts.computed.filter fun computation => computation.gate.gateId = gateId

/-- The recompute of `gateId` a task is part of. -/
def recomputeOf (task : PipelineTask) : Option InFlight :=
  task.recompute?.filter fun inFlight => inFlight.gateId = gateId

/-- The recomputes of `gateId` among some tasks. -/
def recomputeLine (tasks : List PipelineTask) : List InFlight :=
  tasks.filterMap (recomputeOf gateId)

@[simp] theorem recomputeLine_nil : recomputeLine gateId [] = [] := rfl

@[simp] theorem recomputeLine_append (first second : List PipelineTask) :
    recomputeLine gateId (first ++ second) =
      recomputeLine gateId first ++ recomputeLine gateId second :=
  List.filterMap_append

theorem recomputeLine_cons_of_some {task : PipelineTask} {inFlight : InFlight}
    (own : recomputeOf gateId task = some inFlight) (rest : List PipelineTask) :
    recomputeLine gateId (task :: rest) = inFlight :: recomputeLine gateId rest :=
  List.filterMap_cons_some own

theorem recomputeLine_cons_of_none {task : PipelineTask}
    (other : recomputeOf gateId task = none) (rest : List PipelineTask) :
    recomputeLine gateId (task :: rest) = recomputeLine gateId rest :=
  List.filterMap_cons_none other

variable {gateId}

theorem recomputeOf_eq_some {task : PipelineTask} {inFlight : InFlight} :
    recomputeOf gateId task = some inFlight ↔
      task.recompute? = some inFlight ∧ inFlight.gateId = gateId := by
  unfold recomputeOf
  rw [Option.filter_eq_some_iff, decide_eq_true_iff]

theorem recomputeOf_own {task : PipelineTask} (inFlight : InFlight)
    (recompute : task.recompute? = some inFlight) (own : inFlight.gateId = gateId) :
    recomputeOf gateId task = some inFlight :=
  recomputeOf_eq_some.mpr ⟨recompute, own⟩

theorem recomputeOf_eq_none {task : PipelineTask} (inFlight : InFlight)
    (recompute : task.recompute? = some inFlight) :
    recomputeOf gateId task = none ↔ inFlight.gateId ≠ gateId := by
  unfold recomputeOf
  by_cases same : inFlight.gateId = gateId <;> simp [recompute, same]

/-- A task that is no recompute of the gate is not followed by one. -/
theorem recomputeOf_of_follows {task next : PipelineTask} (follows : Follows task next)
    (other : recomputeOf gateId task = none) : recomputeOf gateId next = none := by
  cases follows with
  | computed computation point =>
      refine (recomputeOf_eq_none (.saving computation point) rfl).mpr ?_
      exact (recomputeOf_eq_none (.computing computation.gate computation.window) rfl).mp other
  | saved computation point =>
      refine (recomputeOf_eq_none (.publishing computation) rfl).mpr ?_
      exact (recomputeOf_eq_none (.saving computation point) rfl).mp other
  | _ => rfl

theorem recomputeLine_eq_nil {tasks : List PipelineTask}
    (h : ∀ task ∈ tasks, recomputeOf gateId task = none) : recomputeLine gateId tasks = [] :=
  List.filterMap_eq_nil_iff.mpr h

/-! ## What the stretches do to the view -/

/-- Publishing a score on the bus stores the forecast under its gate. -/
theorem onCongestionScore_view (s : PipelineState) (message : CongestionScoreMessage) :
    forecastView gateId (onCongestionScore s message).1 =
      { forecastView gateId s with
        byGate := if gateId = message.gate.gateId then some message.result
          else (forecastView gateId s).byGate } := by
  unfold forecastView onCongestionScore recordScore
  simp only [OrderedMap.get?_set]

/-- The handler of a score is no recompute. -/
theorem onCongestionScore_line (s : PipelineState) (message : CongestionScoreMessage) :
    recomputeLine gateId (onCongestionScore s message).2 = [] := rfl

/-- What a recompute of another gate, or a task that is no recompute, leaves
alone. -/
theorem resume_other_view {task : PipelineTask} (other : recomputeOf gateId task = none)
    (s : PipelineState) :
    forecastView gateId (resume deps task s).shared = forecastView gateId s := by
  cases task with
  | computing gate window =>
      have elsewhere : gate.gateId ≠ gateId :=
        (recomputeOf_eq_none (.computing gate window) rfl).mp other
      simp [resume, compute_eq, continueWith, forecastView, elsewhere]
  | savingScore computation point =>
      have elsewhere : computation.gate.gateId ≠ gateId :=
        (recomputeOf_eq_none (.saving computation point) rfl).mp other
      simp [forecastView, resume, continueWith, RedisState.getLastKnownScore_set,
        Ne.symm elsewhere]
  | publishingForecast computation =>
      have elsewhere : computation.gate.gateId ≠ gateId :=
        (recomputeOf_eq_none (.publishing computation) rfl).mp other
      simp only [resume, publishForecast, onCongestionScore_view, if_neg (Ne.symm elsewhere)]
      simp only [forecastView, storeForecast, OrderedMap.get?_set, if_neg (Ne.symm elsewhere)]
      cases computation.result.scores.head? with
      | none => rfl
      | some point => simp [OrderedMap.get?_set, Ne.symm elsewhere]
  | decidingNudge update fan lastNudgeAt rest generated =>
      exact congrArg _ (decideNudge_shared deps update fan lastNudgeAt rest generated s)
  | locatingAction target actionId userId now actions =>
      exact congrArg _ (locateAction_shared target actionId userId now actions s)
  | _ => rfl

theorem resume_other_line {task : PipelineTask} (other : recomputeOf gateId task = none)
    (s : PipelineState) :
    recomputeLine gateId (resume deps task s).continued.toList = [] ∧
      recomputeLine gateId (resume deps task s).started = [] := by
  have successor := fun next member =>
    recomputeOf_of_follows (resume_follows deps task s next member) other
  exact ⟨recomputeLine_eq_nil fun next member => successor next (List.mem_append_left _ member),
    recomputeLine_eq_nil fun next member => successor next (List.mem_append_right _ member)⟩

/-! ## The recomputes of a gate as a machine of their own -/

end Pipeline

/-- A delivery for the gate. -/
def ForecastView.deliver (v : ForecastView) (event : SignalEvent) : ForecastView :=
  { v with
    window := v.window.filter (IntakeState.retained v.clock) ++ [event]
    history := v.history ++ [event] }

/-- The computation a recompute makes of its window. -/
def ForecastView.computation (v : ForecastView) (gate : Gate) (window : List SignalEvent) :
    Computation where
  gate
  window
  now := v.clock
  result := forecastOf gate window v.clock

/-- One move of a gate's recomputes, each passing its stages behind the
recomputes started before it. -/
inductive LineStep (gate : Gate) :
    ForecastView → List InFlight → ForecastView → List InFlight → Prop where
  | idle (v line) : LineStep gate v line v line
  | advance (v line) (ms : ℕ) : LineStep gate v line { v with clock := v.clock + ms } line
  | deliver (v line) (event : SignalEvent) :
      LineStep gate v line (v.deliver event)
        (line ++ [.computing gate (v.deliver event).window])
  | tick (v line) : LineStep gate v line v (line ++ [.computing gate v.window])
  | compute (v before after) (g : Gate) (window : List SignalEvent)
      (ahead : ∀ a ∈ before, 0 < a.stage) :
      LineStep gate v (before ++ .computing g window :: after)
        { v with computed := v.computed ++ [v.computation g window] }
        (before ++ .saving (v.computation g window) (currentPointOf g window v.clock) :: after)
  | save (v before after) (computation : Computation) (point : CongestionScorePoint)
      (ahead : ∀ a ∈ before, 1 < a.stage) :
      LineStep gate v (before ++ .saving computation point :: after)
        { v with lastKnown := some point }
        (before ++ .publishing computation :: after)
  | publish (v before after) (computation : Computation)
      (ahead : ∀ a ∈ before, 2 < a.stage) :
      LineStep gate v (before ++ .publishing computation :: after)
        { v with
          stored := some computation.result.scores
          score := computation.result.scores.head?.or v.score
          byGate := some computation.result }
        (before ++ after)

namespace Pipeline

variable (deps : PipelineDependencies) {gateId : GateId}

/-- The recomputes of `gateId` pass each of their stages in the order in which
they were started, and nobody else publishes scores of the gate. -/
def RecomputesInOrder (gateId : GateId) (c : Config PipelineState PipelineTask) :
    Choice PipelineStimulus → Prop
  | .stimulus (.congestionScore message) => message.gate.gateId ≠ gateId
  | .stimulus _ => True
  | .resume position =>
      ∀ task inFlight, c.suspended[position]? = some task →
        recomputeOf gateId task = some inFlight →
        ∀ earlier ∈ recomputeLine gateId (c.suspended.take position),
          inFlight.stage < earlier.stage

/-- A delivery for the gate extends its window and starts a recompute. -/
theorem onSignalEvent_own {gate : Gate} (configured : deps.gatesById.get? gateId = some gate)
    (s : PipelineState) {event : SignalEvent} (own : event.gateId = some gateId) :
    forecastView gateId (onSignalEvent deps s event).1 = (forecastView gateId s).deliver event ∧
      recomputeLine gateId (onSignalEvent deps s event).2 =
        [.computing gate ((forecastView gateId s).deliver event).window] := by
  have window := s.intake.onSignalEvent_window event gateId
  have history := s.intake.onSignalEvent_history event gateId
  have same := PipelineDependencies.gateId_of_get? configured
  rw [if_pos own] at window history
  unfold onSignalEvent
  simp only [SignalEvent.truthy_gateId]
  simp only [own, Option.bind_some, configured]
  constructor
  · simp only [forecastView, ForecastView.deliver, window, history,
      IntakeState.onSignalEvent_clock]
  · subst same
    simp only [startRecompute, window]
    exact recomputeLine_cons_of_some _ (recomputeOf_own (.computing gate _) rfl rfl) []

/-- Any other delivery leaves the gate alone. -/
theorem onSignalEvent_other (s : PipelineState) {event : SignalEvent}
    (other : event.gateId ≠ some gateId) :
    forecastView gateId (onSignalEvent deps s event).1 = forecastView gateId s ∧
      recomputeLine gateId (onSignalEvent deps s event).2 = [] := by
  have window := s.intake.onSignalEvent_window event gateId
  have history := s.intake.onSignalEvent_history event gateId
  rw [if_neg other] at window history
  have view : ∀ audit : AuditState, forecastView gateId
      { s with intake := s.intake.onSignalEvent event, audit := audit } =
        forecastView gateId s := by
    intro audit
    simp only [forecastView, window, history, IntakeState.onSignalEvent_clock, List.append_nil]
  unfold onSignalEvent
  simp only [SignalEvent.truthy_gateId]
  cases found : event.gateId.bind deps.gatesById.get? with
  | none => exact ⟨view _, rfl⟩
  | some gate =>
      refine ⟨view _, recomputeLine_cons_of_none _ ?_ []⟩
      obtain ⟨target, named, configured⟩ := Option.bind_eq_some_iff.mp found
      refine (recomputeOf_eq_none (.computing gate _) rfl).mpr fun same => other ?_
      rw [named, ← PipelineDependencies.gateId_of_get? configured]
      exact congrArg some same

/-- **Simulation.** Seen from one gate, every step of the pipeline that keeps
its recomputes in order is a move of the line. -/
theorem stimulate_line {gate : Gate} (configured : deps.gatesById.get? gateId = some gate)
    (s : PipelineState) (tasks : List PipelineTask) (stimulus : PipelineStimulus)
    (guard : RecomputesInOrder gateId ⟨s, tasks⟩ (.stimulus stimulus)) :
    LineStep gate (forecastView gateId s) (recomputeLine gateId tasks)
      (forecastView gateId (stimulate deps stimulus s).1)
      (recomputeLine gateId (tasks ++ (stimulate deps stimulus s).2)) := by
  rw [recomputeLine_append]
  have delivery : ∀ event, LineStep gate (forecastView gateId s) (recomputeLine gateId tasks)
      (forecastView gateId (onSignalEvent deps s event).1)
      (recomputeLine gateId tasks ++ recomputeLine gateId (onSignalEvent deps s event).2) := by
    intro event
    by_cases own : event.gateId = some gateId
    · obtain ⟨view, line⟩ := onSignalEvent_own deps configured s own
      rw [view, line]
      exact .deliver _ _ event
    · obtain ⟨view, line⟩ := onSignalEvent_other deps s own
      rw [view, line, List.append_nil]
      exact .idle _ _
  cases stimulus with
  | advance ms =>
      rw [show recomputeLine gateId (stimulate deps (.advance ms) s).2 = [] from rfl,
        List.append_nil]
      exact .advance _ _ ms
  | handleSignal signal => exact delivery _
  | signalEvent event => exact delivery event
  | tick target =>
      show LineStep gate _ _ (forecastView gateId (onTick deps s target).1)
        (recomputeLine gateId tasks ++ recomputeLine gateId (onTick deps s target).2)
      unfold onTick
      cases found : deps.gatesById.get? target with
      | none =>
          simp only [recomputeLine_nil, List.append_nil]
          exact .idle _ _
      | some ticking =>
          have named := PipelineDependencies.gateId_of_get? found
          by_cases own : target = gateId
          · subst own
            rw [configured, Option.some.injEq] at found
            subst found
            dsimp only
            rw [recomputeLine_cons_of_some _ (recomputeOf_own (.computing gate _) rfl named),
              recomputeLine_nil]
            simp only [named]
            exact .tick _ _
          · dsimp only
            rw [recomputeLine_cons_of_none _
              ((recomputeOf_eq_none (.computing ticking _) rfl).mpr fun same =>
                own (named.symm.trans same)), recomputeLine_nil, List.append_nil]
            exact .idle _ _
  | congestionScore message =>
      show LineStep gate _ _ (forecastView gateId (onCongestionScore s message).1)
        (recomputeLine gateId tasks ++ recomputeLine gateId (onCongestionScore s message).2)
      have elsewhere : gateId ≠ message.gate.gateId := Ne.symm guard
      rw [onCongestionScore_view, onCongestionScore_line, if_neg elsewhere, List.append_nil]
      exact .idle _ _
  | executeAction target actionId userId =>
      rw [show recomputeLine gateId (stimulate deps (.executeAction target actionId userId) s).2 =
        [] from rfl, List.append_nil]
      exact .idle _ _

theorem resume_line {gate : Gate} (s : PipelineState) (before after : List PipelineTask)
    (task : PipelineTask)
    (guard : RecomputesInOrder gateId ⟨s, before ++ task :: after⟩ (.resume before.length)) :
    LineStep gate (forecastView gateId s) (recomputeLine gateId (before ++ task :: after))
      (forecastView gateId (resume deps task s).shared)
      (recomputeLine gateId (before ++ (resume deps task s).continued.toList ++ after ++
        (resume deps task s).started)) := by
  cases own : recomputeOf gateId task with
  | none =>
      have view := resume_other_view deps own s
      obtain ⟨continued, started⟩ := resume_other_line deps own s
      simp only [recomputeLine_append, recomputeLine_cons_of_none _ own, view, continued, started,
        List.append_nil]
      exact .idle _ _
  | some inFlight =>
      have ahead : ∀ earlier ∈ recomputeLine gateId before, inFlight.stage < earlier.stage := by
        have first := guard task inFlight (by simp) own
        rwa [List.take_left' rfl] at first
      simp only [recomputeLine_append, recomputeLine_cons_of_some _ own]
      obtain ⟨shape, same⟩ := recomputeOf_eq_some.mp own
      cases task with
      | computing g window =>
          cases shape
          rw [resume_computing]
          have next : recomputeOf gateId (.savingScore
              ⟨g, window, s.intake.clock, forecastOf g window s.intake.clock⟩
              (currentPointOf g window s.intake.clock)) = some (.saving
                ⟨g, window, s.intake.clock, forecastOf g window s.intake.clock⟩
                (currentPointOf g window s.intake.clock)) := recomputeOf_own _ rfl same
          simp only [continueWith, Option.toList_some, recomputeLine_cons_of_some _ next,
            recomputeLine_nil, List.append_nil, List.append_assoc, List.cons_append,
            List.nil_append]
          have grown : ∀ r : Computation, r.gate.gateId = gateId →
              forecastView gateId { s with
                forecasts := { s.forecasts with computed := s.forecasts.computed ++ [r] } } =
              { forecastView gateId s with
                computed := (forecastView gateId s).computed ++ [r] } := by
            intro r listed
            simp [forecastView, List.filter_append, listed]
          rw [grown _ same]
          exact .compute _ _ _ g window ahead
      | savingScore computation point =>
          cases shape
          have next : recomputeOf gateId (.publishingForecast computation) =
              some (.publishing computation) := recomputeOf_own _ rfl same
          simp only [resume, continueWith, Option.toList_some, recomputeLine_cons_of_some _ next,
            recomputeLine_nil, List.append_nil, List.append_assoc, List.cons_append,
            List.nil_append]
          have named : computation.gate.gateId = gateId := same
          have saved : forecastView gateId
              { s with redis := s.redis.setLastKnownScore computation.gate.gateId point } =
              { forecastView gateId s with lastKnown := some point } := by
            simp [forecastView, RedisState.getLastKnownScore_set, named]
          rw [saved]
          exact .save _ _ _ computation point ahead
      | publishingForecast computation =>
          cases shape
          have named : computation.gate.gateId = gateId := same
          have published : forecastView gateId
              (publishForecast s computation.gate computation.result).1 =
              { forecastView gateId s with
                stored := some computation.result.scores
                score := computation.result.scores.head?.or (forecastView gateId s).score
                byGate := some computation.result } := by
            rw [publishForecast, onCongestionScore_view, if_pos named.symm]
            simp only [forecastView, storeForecast, OrderedMap.get?_set, if_pos named.symm]
            cases computation.result.scores.head? with
            | none => rfl
            | some point => simp [named]
          simp only [resume, Option.toList_none, recomputeLine_nil, List.append_nil]
          rw [published, show recomputeLine gateId
            (publishForecast s computation.gate computation.result).2 = [] from rfl,
            List.append_nil]
          exact .publish _ _ _ computation ahead
      | _ => cases shape

/-- A property of the line, read off a configuration of the pipeline. -/
def SeenFrom (gateId : GateId) (Inv : ForecastView → List InFlight → Prop)
    (c : Config PipelineState PipelineTask) : Prop :=
  Inv (forecastView gateId c.shared) (recomputeLine gateId c.suspended)

/-- **Line rule.** What every move of the line keeps holds, seen from the
gate, after every schedule that keeps the gate's recomputes in order. -/
theorem line_invariant {gate : Gate} (configured : deps.gatesById.get? gateId = some gate)
    {Inv : ForecastView → List InFlight → Prop} {startedAt : ℤ}
    (start : Inv (forecastView gateId (.wired startedAt)) [])
    (step : ∀ {v line v' line'}, Inv v line → LineStep gate v line v' line' → Inv v' line')
    {schedule : Schedule}
    (guarded : (system deps).Guarded (RecomputesInOrder gateId) ⟨.wired startedAt, []⟩ schedule) :
    SeenFrom gateId Inv (after deps startedAt schedule) := by
  have initial : SeenFrom gateId Inv ⟨.wired startedAt, []⟩ := start
  refine (system deps).run_invariant ?_ ?_ initial guarded
  · intro s tasks stimulus inv guard
    exact step inv (stimulate_line deps configured s tasks stimulus guard)
  · intro s before task after inv guard
    exact step inv (resume_line deps s before after task guard)

end Pipeline

end Stadium
