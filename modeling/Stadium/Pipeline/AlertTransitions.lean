import Stadium.Infra.Topology
import Stadium.Pipeline.Machine

/-!
# One alert for each risk transition, when the previous level is current

The `congestion-scores` subscriber compares a new Risk_Level with the stored
previous one before an `await` and stores it after, so an update that is
published in between is compared with an old level
(`overlapping_updates_alert_twice`). The alerts match the transitions of the
published levels whenever the stored level is on the right side of HIGH at
each publication that needs it, and the newest level is stored last
(`one_alert_per_transition`).
-/

namespace Stadium

open Interleaving TaskSystem

/-- The RISK_LEVEL alerts raised for a gate. -/
def AlertState.riskLevelAlerts (s : AlertState) (gateId : GateId) : List Alert :=
  s.alertStore.values.filter fun alert => alert.gateId = gateId ∧ alert.alertType = .riskLevel

/-- The current Risk_Levels published for a gate, in order. -/
def ForecastState.levelsFor (s : ForecastState) (gateId : GateId) : List RiskLevel :=
  (s.published.filter fun message => message.gate.gateId = gateId).map
    (·.result.currentRiskLevel)

/-- The level the subscriber of a gate's scores is about to store. -/
def PipelineTask.storesLevel? (gateId : GateId) : PipelineTask → Option RiskLevel
  | .raisingAlert update =>
      if update.gate.gateId = gateId then some update.result.currentRiskLevel else none
  | _ => none

/-- No id the generator has still to draw is in use. -/
def AlertState.IdsFresh (s : AlertState) : Prop :=
  ∀ alertId, s.nextAlertId ≤ alertId → s.alertStore.get? alertId = none

theorem checkRiskLevelTransition_eq (alertId : ℕ) (gateId : GateId) (previous new : RiskLevel)
    (now : ℤ) :
    checkRiskLevelTransition alertId gateId previous new now =
      if riskTransition previous new then
        some ⟨alertId, gateId, .riskLevel, IsoDate.toISOString now, some new, none⟩
      else none := by
  cases previous <;> cases new <;> rfl

namespace AlertState

variable {s : AlertState} {gateId : GateId}

theorem IdsFresh.raise (fresh : s.IdsFresh) (target : GateId) (previous new : RiskLevel)
    (now : ℤ) : (s.raiseRiskLevelAlertIfTransitioned target previous new now).IdsFresh := by
  unfold raiseRiskLevelAlertIfTransitioned
  rw [checkRiskLevelTransition_eq]
  cases riskTransition previous new with
  | false => exact fresh
  | true =>
      intro alertId later
      have drawn : s.nextAlertId + 1 ≤ alertId := later
      show (s.alertStore.set s.nextAlertId _).get? alertId = none
      rw [OrderedMap.get?_set_ne _ _ (by omega)]
      exact fresh alertId (by omega)

/-- A transition adds its alert, anything else adds none. -/
theorem riskLevelAlerts_raise (fresh : s.IdsFresh) (target : GateId) (previous new : RiskLevel)
    (now : ℤ) :
    ((s.raiseRiskLevelAlertIfTransitioned target previous new now).riskLevelAlerts
      gateId).length =
      (s.riskLevelAlerts gateId).length +
        if target = gateId then (riskTransition previous new).toNat else 0 := by
  unfold raiseRiskLevelAlertIfTransitioned
  rw [checkRiskLevelTransition_eq]
  cases riskTransition previous new with
  | false => simp
  | true =>
      simp only [if_true, riskLevelAlerts,
        OrderedMap.values_set_of_fresh (fresh s.nextAlertId le_rfl), List.filter_append,
        List.length_append, List.filter_singleton]
      by_cases own : target = gateId <;> simp [own]

theorem raise_previous (target : GateId) (previous new : RiskLevel) (now : ℤ) :
    (s.raiseRiskLevelAlertIfTransitioned target previous new now).previousRiskLevelByGate =
      s.previousRiskLevelByGate := by
  unfold raiseRiskLevelAlertIfTransitioned
  split <;> rfl

end AlertState

namespace Pipeline

variable (deps : PipelineDependencies) {gateId : GateId}

/-- The levels about to be stored for a gate, in the order in which they were
published. -/
def levelWriters (gateId : GateId) (tasks : List PipelineTask) : List RiskLevel :=
  tasks.filterMap (·.storesLevel? gateId)

theorem levelWriters_append (first second : List PipelineTask) :
    levelWriters gateId (first ++ second) =
      levelWriters gateId first ++ levelWriters gateId second :=
  List.filterMap_append

/-- When a level of the gate above MODERATE is published, the stored previous
level and the level published before it lie on the same side of HIGH. -/
def PreviousIsCurrent (gateId : GateId) (s : PipelineState) (message : CongestionScoreMessage) :
    Prop :=
  message.gate.gateId = gateId → message.result.currentRiskLevel.highOrCritical = true →
    (s.alerts.previousRiskLevel gateId).highOrCritical =
      ((s.forecasts.levelsFor gateId).getLast?.getD .low).highOrCritical

/-- Levels of the gate are published over a current previous level, and the
one published last is not stored while others wait to be. -/
def LevelsInOrder (gateId : GateId) (c : Config PipelineState PipelineTask) :
    Choice PipelineStimulus → Prop
  | .stimulus (.congestionScore message) => PreviousIsCurrent gateId c.shared message
  | .stimulus _ => True
  | .resume position =>
      (∀ message ∈ (c.suspended[position]?).bind PipelineTask.publishes?,
        PreviousIsCurrent gateId c.shared message) ∧
      ((c.suspended[position]?).bind (·.storesLevel? gateId) ≠ none →
        levelWriters gateId (c.suspended.take position) = [] ∨
          levelWriters gateId (c.suspended.drop (position + 1)) ≠ [])

instance (gateId : GateId) (s : PipelineState) (message : CongestionScoreMessage) :
    Decidable (PreviousIsCurrent gateId s message) :=
  inferInstanceAs (Decidable (_ → _ → _))

instance (gateId : GateId) (c : Config PipelineState PipelineTask) :
    ∀ choice, Decidable (LevelsInOrder gateId c choice)
  | .stimulus (.congestionScore message) =>
      inferInstanceAs (Decidable (PreviousIsCurrent gateId c.shared message))
  | .stimulus (.advance _) | .stimulus (.handleSignal _) | .stimulus (.signalEvent _)
  | .stimulus (.tick _) | .stimulus (.executeAction ..) => isTrue trivial
  | .resume _ => inferInstanceAs (Decidable ((∀ message ∈ _, _) ∧ (_ → _)))

/-- The alerts of a gate match the transitions of its published levels, and
the stored previous level is the last of them. -/
structure OneAlertPerTransition (gateId : GateId) (s : PipelineState) : Prop where
  counted : (s.alerts.riskLevelAlerts gateId).length =
    transitionCount .low (s.forecasts.levelsFor gateId)
  stored : s.alerts.previousRiskLevelByGate.get? gateId =
    (s.forecasts.levelsFor gateId).getLast?

/-- The alerts match at any time; the last level is the stored one, or that of
the handler that was started last among those that wait to store theirs. -/
structure AlertInv (gateId : GateId) (c : Config PipelineState PipelineTask) : Prop where
  counted : (c.shared.alerts.riskLevelAlerts gateId).length =
    transitionCount .low (c.shared.forecasts.levelsFor gateId)
  newest : (levelWriters gateId c.suspended).getLast?.or
      (c.shared.alerts.previousRiskLevelByGate.get? gateId) =
    (c.shared.forecasts.levelsFor gateId).getLast?
  fresh : c.shared.alerts.IdsFresh

theorem alertInv_wired (startedAt : ℤ) : AlertInv gateId ⟨.wired startedAt, []⟩ where
  counted := rfl
  newest := rfl
  fresh := fun _ _ => rfl

theorem AlertInv.congr {c c' : Config PipelineState PipelineTask} (inv : AlertInv gateId c)
    (alerts : c'.shared.alerts = c.shared.alerts)
    (published : c'.shared.forecasts.published = c.shared.forecasts.published)
    (writers : levelWriters gateId c'.suspended = levelWriters gateId c.suspended) :
    AlertInv gateId c' := by
  have levels : c'.shared.forecasts.levelsFor gateId = c.shared.forecasts.levelsFor gateId := by
    unfold ForecastState.levelsFor
    rw [published]
  refine ⟨?_, ?_, ?_⟩
  · rw [alerts, levels]
    exact inv.counted
  · rw [alerts, levels, writers]
    exact inv.newest
  · rw [alerts]
    exact inv.fresh

/-! ## Publishing a level -/

/-- What publishing a score does to the alerts of a gate. -/
theorem AlertInv.publish {s s' : PipelineState} {tasks : List PipelineTask}
    {message : CongestionScoreMessage} (inv : AlertInv gateId ⟨s, tasks⟩)
    (alerts : s'.alerts = s.alerts) (published : s'.forecasts.published = s.forecasts.published)
    (current : PreviousIsCurrent gateId s message) :
    AlertInv gateId
      ⟨(onCongestionScore s' message).1, tasks ++ (onCongestionScore s' message).2⟩ := by
  obtain ⟨gate, result⟩ := message
  have raised : (onCongestionScore s' ⟨gate, result⟩).1.alerts =
      s.alerts.raiseRiskLevelAlertIfTransitioned gate.gateId
        (s.alerts.previousRiskLevel gate.gateId) result.currentRiskLevel s'.intake.clock := by
    rw [← alerts]
    rfl
  have levels : (onCongestionScore s' ⟨gate, result⟩).1.forecasts.levelsFor gateId =
      s.forecasts.levelsFor gateId ++
        if gate.gateId = gateId then [result.currentRiskLevel] else [] := by
    unfold onCongestionScore recordScore ForecastState.levelsFor
    rw [published, List.filter_append, List.map_append]
    by_cases own : gate.gateId = gateId <;> simp [own]
  have writers : levelWriters gateId (onCongestionScore s' ⟨gate, result⟩).2 =
      if gate.gateId = gateId then [result.currentRiskLevel] else [] := by
    unfold levelWriters onCongestionScore
    by_cases own : gate.gateId = gateId <;> simp [PipelineTask.storesLevel?, own]
  have counted := inv.counted
  have newest := inv.newest
  refine ⟨?_, ?_, ?_⟩
  · dsimp only at counted ⊢
    rw [raised, levels, AlertState.riskLevelAlerts_raise inv.fresh, counted]
    by_cases own : gate.gateId = gateId
    · rw [if_pos own, if_pos own, transitionCount_append_singleton]
      congr 2
      unfold riskTransition
      cases high : result.currentRiskLevel.highOrCritical with
      | false => rw [Bool.and_false, Bool.and_false]
      | true => rw [own, current own high]
    · rw [if_neg own, if_neg own, List.append_nil, Nat.add_zero]
  · dsimp only at newest ⊢
    rw [raised, AlertState.raise_previous, levels, levelWriters_append, writers]
    by_cases own : gate.gateId = gateId
    · rw [if_pos own, List.getLast?_concat, List.getLast?_concat, Option.some_or]
    · rw [if_neg own, List.append_nil, List.append_nil]
      exact newest
  · dsimp only
    rw [raised]
    exact inv.fresh.raise _ _ _ _

/-! ## Storing a level -/

/-- The handler of a score stores its level: it is the last to do so, or the
one published last comes later. -/
theorem AlertInv.store {s : PipelineState} {before after : List PipelineTask}
    {update : ScoreUpdate} (window : List SignalEvent)
    (inv : AlertInv gateId ⟨s, before ++ .raisingAlert update :: after⟩)
    (ordered : update.gate.gateId = gateId →
      levelWriters gateId before = [] ∨ levelWriters gateId after ≠ []) :
    AlertInv gateId
      ⟨{ s with
          alerts := { s.alerts with
            previousRiskLevelByGate := s.alerts.previousRiskLevelByGate.set update.gate.gateId
              update.result.currentRiskLevel } },
        before ++ .recommending update window :: after⟩ := by
  refine ⟨inv.counted, ?_, inv.fresh⟩
  have newest := inv.newest
  unfold levelWriters at newest ordered ⊢
  dsimp only at newest ⊢
  rw [filterMap_middle] at newest ⊢
  rw [OrderedMap.get?_set, ← newest]
  by_cases own : update.gate.gateId = gateId
  · have writes : PipelineTask.storesLevel? gateId (.raisingAlert update) =
        some update.result.currentRiskLevel := if_pos own
    rw [writes, if_pos own.symm]
    show (_ ++ [] ++ _).getLast?.or _ = (_ ++ [_] ++ _).getLast?.or _
    rw [List.append_nil, List.getLast?_append, List.getLast?_append, List.getLast?_concat]
    cases last : (after.filterMap (·.storesLevel? gateId)).getLast? with
    | some level => rfl
    | none =>
        have noneAfter := List.getLast?_eq_none_iff.mp last
        rcases ordered own with noneBefore | waiting
        · rw [noneBefore]
          rfl
        · exact absurd noneAfter waiting
  · have idle : PipelineTask.storesLevel? gateId (.raisingAlert update) = none := if_neg own
    rw [idle, if_neg (Ne.symm own)]
    rfl

/-! ## Everything else -/

theorem stimulate_levels (stimulus : PipelineStimulus) (s : PipelineState)
    (silent : ∀ message, stimulus ≠ .congestionScore message) :
    (stimulate deps stimulus s).1.alerts = s.alerts ∧
      (stimulate deps stimulus s).1.forecasts = s.forecasts ∧
      levelWriters gateId (stimulate deps stimulus s).2 = [] := by
  have writers : levelWriters gateId (stimulate deps stimulus s).2 = [] := by
    unfold levelWriters
    rw [List.filterMap_eq_nil_iff]
    intro task member
    cases stimulate_starts deps stimulus s task member with
    | scored message => exact absurd rfl (silent message)
    | _ => rfl
  refine ⟨?_, ?_, writers⟩
  all_goals
    cases stimulus with
    | congestionScore message => exact absurd rfl (silent message)
    | _ => simp [stimulate]

theorem alertInv_stimulate {s : PipelineState} {tasks : List PipelineTask}
    {stimulus : PipelineStimulus} (inv : AlertInv gateId ⟨s, tasks⟩)
    (silent : ∀ message, stimulus ≠ .congestionScore message) :
    AlertInv gateId
      ⟨(stimulate deps stimulus s).1, tasks ++ (stimulate deps stimulus s).2⟩ := by
  obtain ⟨alerts, forecasts, writers⟩ := stimulate_levels deps stimulus s silent
  refine inv.congr alerts (congrArg (·.published) forecasts) ?_
  rw [levelWriters_append, writers, List.append_nil]

/-- Only a publication starts a handler that stores a level. -/
theorem storesLevel?_of_follows {task next : PipelineTask} (follows : Follows task next)
    (silent : task.publishes? = none) : next.storesLevel? gateId = none := by
  cases follows with
  | published => cases silent
  | _ => rfl

/-- A stretch that neither publishes nor stores a level leaves alerts and
publications alone. -/
theorem resume_levels {task : PipelineTask} (silent : task.publishes? = none)
    (other : ∀ update, task ≠ .raisingAlert update) (s : PipelineState) :
    (resume deps task s).shared.alerts = s.alerts ∧
      (resume deps task s).shared.forecasts.published = s.forecasts.published := by
  cases task with
  | computing gate window =>
      rw [resume_computing]
      exact ⟨rfl, rfl⟩
  | publishingForecast => cases silent
  | raisingAlert update => exact absurd rfl (other update)
  | decidingNudge update fan lastNudgeAt rest generated =>
      have unchanged := decideNudge_shared deps update fan lastNudgeAt rest generated s
      exact ⟨congrArg (·.alerts) unchanged,
        congrArg (fun t : PipelineState => t.forecasts.published) unchanged⟩
  | locatingAction target actionId userId now actions =>
      have unchanged := locateAction_shared target actionId userId now actions s
      exact ⟨congrArg (·.alerts) unchanged,
        congrArg (fun t : PipelineState => t.forecasts.published) unchanged⟩
  | _ => exact ⟨rfl, rfl⟩

theorem alertInv_other {s : PipelineState} {before after : List PipelineTask}
    {task : PipelineTask} (inv : AlertInv gateId ⟨s, before ++ task :: after⟩)
    (silent : task.publishes? = none) (other : ∀ update, task ≠ .raisingAlert update) :
    AlertInv gateId ⟨(resume deps task s).shared,
      before ++ (resume deps task s).continued.toList ++ after ++
        (resume deps task s).started⟩ := by
  obtain ⟨alerts, published⟩ := resume_levels deps silent other s
  have idle : task.storesLevel? gateId = none := by
    cases task with
    | raisingAlert update => exact absurd rfl (other update)
    | _ => rfl
  have none : ∀ next ∈ (resume deps task s).continued.toList ++ (resume deps task s).started,
      next.storesLevel? gateId = none := fun next member =>
    storesLevel?_of_follows (resume_follows deps task s next member) silent
  refine inv.congr alerts published ?_
  simp only [levelWriters_append]
  unfold levelWriters
  rw [List.filterMap_eq_nil_iff.mpr fun next member => none next (List.mem_append_left _ member),
    List.filterMap_eq_nil_iff.mpr fun next member => none next (List.mem_append_right _ member),
    List.filterMap_cons_none idle, List.append_nil, List.append_nil]

/-! ## Runs -/

theorem alertInv_after {startedAt : ℤ} {schedule : Schedule}
    (inOrder : (system deps).Guarded (LevelsInOrder gateId) ⟨.wired startedAt, []⟩ schedule) :
    AlertInv gateId (after deps startedAt schedule) := by
  refine (system deps).run_invariant ?_ ?_ (alertInv_wired startedAt) inOrder
  · intro s tasks stimulus inv guard
    cases stimulus with
    | congestionScore message => exact inv.publish rfl rfl guard
    | _ => exact alertInv_stimulate deps inv (by simp)
  · intro s before task after inv guard
    obtain ⟨current, ordered⟩ := guard
    have rest : (before ++ task :: after).drop (before.length + 1) = after := by simp
    rw [List.getElem?_append_right le_rfl, Nat.sub_self, List.getElem?_cons_zero,
      Option.bind_some] at current ordered
    rw [List.take_left' rfl, rest] at ordered
    cases task with
    | publishingForecast computation =>
        have left : AlertInv gateId ⟨s, before ++ after⟩ := by
          refine inv.congr rfl rfl ?_
          unfold levelWriters
          rw [filterMap_middle, List.filterMap_append]
          exact congrArg (· ++ _) (List.append_nil _).symm
        have stored : (storeForecast s.forecasts computation.gate computation.result).published =
            s.forecasts.published := rfl
        show AlertInv gateId ⟨(publishForecast s computation.gate computation.result).1,
          before ++ [] ++ after ++ (publishForecast s computation.gate computation.result).2⟩
        rw [List.append_nil]
        exact left.publish rfl stored (current _ rfl)
    | raisingAlert update =>
        have last := inv.store (s.intake.getWindowForGate update.gate.gateId)
          fun own => ordered (by simp [PipelineTask.storesLevel?, own])
        simpa [system, resume, continueWith] using last
    | _ => exact alertInv_other deps inv rfl (by simp)

/-- **One alert for each transition** of the published levels, whenever these
are published and stored in order. -/
theorem one_alert_per_transition (startedAt : ℤ) (schedule : Schedule)
    (inOrder : (system deps).Guarded (LevelsInOrder gateId) ⟨.wired startedAt, []⟩ schedule)
    (stored : levelWriters gateId (after deps startedAt schedule).suspended = []) :
    OneAlertPerTransition gateId (after deps startedAt schedule).shared := by
  have inv := alertInv_after deps inOrder
  have newest := inv.newest
  rw [stored] at newest
  exact ⟨inv.counted, newest⟩

/-- Gate A becomes crowded, its signals expire, and it becomes crowded again. -/
def twoTransitions : Schedule :=
  ([.stimulus (.signalEvent (demoReading "crowd" 400 "1970-01-01T00:00:00.000Z"))] : Schedule) ++
    List.replicate 4 (Choice.resume 0) ++
    ([.stimulus (.advance 660000), .stimulus (.tick "gate-a")] : Schedule) ++
    List.replicate 4 (Choice.resume 1) ++
    ([.stimulus (.signalEvent (demoReading "crowd-2" 450 "1970-01-01T00:11:00.000Z"))] :
      Schedule) ++
    List.replicate 4 (Choice.resume 2)

/-- Both transitions raise an alert. -/
theorem one_alert_per_transition_demo :
    ((after demoDependencies 0 twoTransitions).shared.alerts.riskLevelAlerts "gate-a").length =
        2 ∧
      OneAlertPerTransition "gate-a" (after demoDependencies 0 twoTransitions).shared :=
  ⟨by decide +kernel,
    one_alert_per_transition demoDependencies 0 twoTransitions (by decide +kernel)
      (by decide +kernel)⟩

/-- Two recomputes of the crowded gate A publish before the handler of the
first stores its level. -/
def overlappingScores : Schedule :=
  ([.stimulus (.signalEvent (demoReading "crowd" 400 "1970-01-01T00:00:00.000Z")),
    .stimulus (.signalEvent (demoReading "more" 50 "1970-01-01T00:00:00.000Z"))] : Schedule) ++
    -- both publish
    List.replicate 6 (Choice.resume 0) ++
    -- and both handlers complete
    List.replicate 12 (Choice.resume 0)

/-- Both handlers have completed; the gate was LOW once, and there are two
alerts. -/
theorem overlapping_updates_alert_twice :
    (after demoDependencies 0 overlappingScores).suspended = [] ∧
      ¬ OneAlertPerTransition "gate-a" (after demoDependencies 0 overlappingScores).shared := by
  refine ⟨List.isEmpty_iff.mp (by decide +kernel), fun matching => ?_⟩
  have counted := matching.counted
  revert counted
  decide +kernel

end Pipeline

end Stadium
