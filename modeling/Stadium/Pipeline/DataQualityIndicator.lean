import Stadium.OpsDashboard.Snapshot
import Stadium.Pipeline.AlertTransitions
import Stadium.Pipeline.Containment

/-!
# The data-quality indicator

A check asks Redis twice for the sources of its gate. The alert goes by the
first answers, the indicator of the dashboard by the second, and both ask
whether all sources are degraded. So the alerts are right in every run
(`CheckInv.alerts`), and the indicator shows whether some source is degraded
exactly as long as every check finds all of them degraded or none
(`indicator_tells_truth_iff`).
-/

namespace Stadium

open Interleaving TaskSystem

/-- What the two readings of a check found, when the check completes. -/
structure CompletedCheck where
  gateId : GateId
  statuses : List SourceStatus
  again : List SourceStatus

namespace CompletedCheck

def someDegraded (check : CompletedCheck) : Bool := check.statuses.any (·.degraded)

/-- The first reading finds a degraded source exactly if the second finds none
active. -/
def Unanimous (check : CompletedCheck) : Prop :=
  check.someDegraded = Stadium.allDegraded check.again

end CompletedCheck

/-- The last of the checks of a gate. -/
def lastCheck (checks : List CompletedCheck) (gateId : GateId) : Option CompletedCheck :=
  (checks.filter (·.gateId = gateId)).getLast?

theorem lastCheck_append_singleton (checks : List CompletedCheck) (check : CompletedCheck)
    (gateId : GateId) :
    lastCheck (checks ++ [check]) gateId =
      if check.gateId = gateId then some check else lastCheck checks gateId := by
  unfold lastCheck
  rw [List.filter_append, List.filter_singleton]
  by_cases own : check.gateId = gateId <;> simp [own]

/-- The DATA_QUALITY alerts, in the order in which they were raised. -/
def AlertState.dataQualityAlerts (s : AlertState) : List Alert :=
  s.alertStore.values.filter (·.alertType = .dataQuality)

/-- Each check has asked for every source of its gate. The indicator of a gate
shows whether its last check found a degraded source; the alerts raised are
those of the checks that found all sources degraded. -/
structure TellsTruth (s : PipelineState) (checks : List CompletedCheck) : Prop where
  sources : ∀ check ∈ checks, check.statuses.map (·.sourceType) = allSourceTypes
  indicator : ∀ gateId, (s.gateSnapshot gateId).dataQualityIndicator =
    (lastCheck checks gateId).any (·.someDegraded)
  alerts : s.alerts.dataQualityAlerts.map (fun alert => (alert.gateId, alert.affectedSources)) =
    (checks.filter fun check => allDegraded check.statuses).map
      fun check => (check.gateId, some allSourceTypes)

namespace Pipeline

variable (deps : PipelineDependencies)

/-- Notes each check when it completes. -/
def completions : Observer PipelineState ServerTask ServerStimulus CompletedCheck where
  onStimulus _ _ := []
  onResume
    | .inr (.inr (.readingAgain gateId [] statuses again)), _ => [⟨gateId, statuses, again⟩]
    | _, _ => []

/-- The server after a schedule. -/
def serverAfter (startedAt : ℤ) (schedule : List (Choice ServerStimulus)) :
    Config PipelineState ServerTask :=
  (server deps).run ⟨.wired startedAt, []⟩ schedule

/-- The checks completed in a schedule. -/
def checksIn (startedAt : ℤ) (schedule : List (Choice ServerStimulus)) : List CompletedCheck :=
  (server deps).trace completions ⟨.wired startedAt, []⟩ schedule

end Pipeline

/-! ## What changes the indicator and the alerts -/

/-- Nothing that is reported about data quality changes. -/
structure SameReports (s s' : PipelineState) : Prop where
  flags : s'.dataQuality = s.dataQuality
  alerts : s.alerts.IdsFresh → s'.alerts.IdsFresh ∧
    s'.alerts.dataQualityAlerts = s.alerts.dataQualityAlerts

theorem SameReports.of_eq {s s' : PipelineState} (flags : s'.dataQuality = s.dataQuality)
    (store : s'.alerts.alertStore = s.alerts.alertStore)
    (ids : s'.alerts.nextAlertId = s.alerts.nextAlertId) : SameReports s s' := by
  refine ⟨flags, fun fresh => ⟨?_, ?_⟩⟩
  · unfold AlertState.IdsFresh at fresh ⊢
    rw [store, ids]
    exact fresh
  · unfold AlertState.dataQualityAlerts
    rw [store]

theorem AlertState.dataQualityAlerts_raise {s : AlertState} (fresh : s.IdsFresh)
    (gateId : GateId) (previous new : RiskLevel) (now : ℤ) :
    (s.raiseRiskLevelAlertIfTransitioned gateId previous new now).dataQualityAlerts =
      s.dataQualityAlerts := by
  unfold raiseRiskLevelAlertIfTransitioned
  rw [checkRiskLevelTransition_eq]
  cases riskTransition previous new with
  | false => rfl
  | true =>
      unfold dataQualityAlerts
      simp only [if_true, OrderedMap.values_set_of_fresh (fresh s.nextAlertId le_rfl),
        List.filter_append, List.filter_singleton]
      exact List.append_nil _

theorem AlertState.IdsFresh.raiseDataQuality {s : AlertState} (fresh : s.IdsFresh)
    (gateId : GateId) (statuses : List SourceStatus) (now : ℤ) :
    (s.raiseDataQualityAlertIfAllDegraded gateId statuses now).IdsFresh := by
  unfold raiseDataQualityAlertIfAllDegraded
  split
  · intro alertId later
    have drawn : s.nextAlertId + 1 ≤ alertId := later
    show (s.alertStore.set s.nextAlertId _).get? alertId = none
    rw [OrderedMap.get?_set_ne _ _ (by omega)]
    exact fresh alertId (by omega)
  · exact fresh

/-- A check that finds all sources degraded adds its alert. -/
theorem AlertState.dataQualityAlerts_raiseDataQuality {s : AlertState} (fresh : s.IdsFresh)
    (gateId : GateId) {statuses : List SourceStatus}
    (asked : statuses.map (·.sourceType) = allSourceTypes) (now : ℤ) :
    (s.raiseDataQualityAlertIfAllDegraded gateId statuses now).dataQualityAlerts =
      s.dataQualityAlerts ++ if allDegraded statuses then
        [buildDataQualityAlert s.nextAlertId gateId allSourceTypes now] else [] := by
  have nonempty : statuses.isEmpty = false := by
    cases statuses with
    | nil => cases asked
    | cons status rest => rfl
  unfold raiseDataQualityAlertIfAllDegraded
  rw [nonempty, Bool.not_false, Bool.true_and, asked]
  cases allDegraded statuses with
  | false => exact (List.append_nil _).symm
  | true =>
      unfold dataQualityAlerts
      simp only [if_true, OrderedMap.values_set_of_fresh (fresh s.nextAlertId le_rfl),
        List.filter_append, List.filter_singleton]
      rfl

theorem DataQualityState.hasDegradedSource_set (s : DataQualityState) (target gateId : GateId)
    (degraded : Bool) :
    (s.setDegraded target degraded).hasDegradedSource gateId =
      if target = gateId then degraded else s.hasDegradedSource gateId := by
  unfold setDegraded hasDegradedSource
  cases degraded <;> by_cases own : target = gateId <;> simp [own, eq_comm]

namespace Pipeline

variable (deps : PipelineDependencies)

/-- Raising an alert for a risk transition leaves the reports alone. -/
theorem sameReports_onCongestionScore (s : PipelineState) (forecasts : ForecastState)
    (message : CongestionScoreMessage) :
    SameReports s (onCongestionScore { s with forecasts } message).1 :=
  ⟨rfl, fun fresh =>
    ⟨fresh.raise _ _ _ _, AlertState.dataQualityAlerts_raise fresh _ _ _ _⟩⟩

theorem sameReports_stimulate (stimulus : PipelineStimulus) (s : PipelineState) :
    SameReports s (stimulate deps stimulus s).1 := by
  cases stimulus with
  | handleSignal signal =>
      show SameReports s (onSignalEvent deps s _).1
      rw [onSignalEvent_shared]
      exact .of_eq rfl rfl rfl
  | signalEvent event =>
      show SameReports s (onSignalEvent deps s event).1
      rw [onSignalEvent_shared]
      exact .of_eq rfl rfl rfl
  | tick gateId =>
      show SameReports s (onTick deps s gateId).1
      rw [onTick_shared]
      exact .of_eq rfl rfl rfl
  | congestionScore message => exact sameReports_onCongestionScore s s.forecasts message
  | advance | executeAction => exact .of_eq rfl rfl rfl

theorem sameReports_resume (task : PipelineTask) (s : PipelineState) :
    SameReports s (resume deps task s).shared := by
  cases task with
  | computing gate window =>
      rw [resume_computing]
      exact .of_eq rfl rfl rfl
  | publishingForecast computation =>
      exact sameReports_onCongestionScore s
        (storeForecast s.forecasts computation.gate computation.result) _
  | decidingNudge update fan lastNudgeAt rest generated =>
      show SameReports s (decideNudge deps update fan lastNudgeAt rest generated s).shared
      rw [decideNudge_shared]
      exact .of_eq rfl rfl rfl
  | locatingAction gateId actionId userId now actions =>
      show SameReports s (locateAction gateId actionId userId now actions s).shared
      rw [locateAction_shared]
      exact .of_eq rfl rfl rfl
  | _ => exact .of_eq rfl rfl rfl

/-! ## The invariant -/

/-- A check asks for every source of its gate, once in each reading. -/
def AsksAll : ServerTask → Prop
  | .inr (.inr (.readingStatus _ left statuses)) =>
      statuses.map (·.sourceType) ++ left = allSourceTypes
  | .inr (.inr (.readingAgain _ _ statuses _)) => statuses.map (·.sourceType) = allSourceTypes
  | _ => True

/-- The indicator shows what the last check found in its second reading, and
the alerts are those of the checks that found everything degraded in the
first. -/
structure CheckInv (c : Config PipelineState ServerTask) (checks : List CompletedCheck) :
    Prop where
  fresh : c.shared.alerts.IdsFresh
  sources : ∀ check ∈ checks, check.statuses.map (·.sourceType) = allSourceTypes
  indicator : ∀ gateId, c.shared.dataQuality.hasDegradedSource gateId =
    (lastCheck checks gateId).any (allDegraded ·.again)
  alerts : c.shared.alerts.dataQualityAlerts.map
      (fun alert => (alert.gateId, alert.affectedSources)) =
    (checks.filter fun check => allDegraded check.statuses).map
      fun check => (check.gateId, some allSourceTypes)
  asks : ∀ task ∈ c.suspended, AsksAll task

theorem checkInv_wired (startedAt : ℤ) : CheckInv ⟨.wired startedAt, []⟩ [] where
  fresh _ _ := rfl
  sources _ member := absurd member List.not_mem_nil
  indicator _ := rfl
  alerts := rfl
  asks _ member := absurd member List.not_mem_nil

/-- A step that changes no report keeps the invariant. -/
theorem CheckInv.congr {c c' : Config PipelineState ServerTask} {checks : List CompletedCheck}
    (inv : CheckInv c checks) (same : SameReports c.shared c'.shared)
    (asks : ∀ task ∈ c'.suspended, AsksAll task) : CheckInv c' checks := by
  obtain ⟨fresh, alerts⟩ := same.alerts inv.fresh
  refine ⟨fresh, inv.sources, ?_, ?_, asks⟩
  · rw [same.flags]
    exact inv.indicator
  · rw [alerts]
    exact inv.alerts

/-- A check that completes sets the indicator and may raise its alert. -/
theorem CheckInv.complete {s : PipelineState} {before after : List ServerTask}
    {checks : List CompletedCheck} {gateId : GateId} {statuses again : List SourceStatus}
    (inv : CheckInv
      ⟨s, before ++ .inr (.inr (.readingAgain gateId [] statuses again)) :: after⟩ checks)
    (tasks : List ServerTask) (asks : ∀ task ∈ tasks, AsksAll task) :
    CheckInv
      ⟨(DataQualityCheck.resume (.readingAgain gateId [] statuses again) s).shared, tasks⟩
      (checks ++ [⟨gateId, statuses, again⟩]) := by
  have asked : statuses.map (·.sourceType) = allSourceTypes :=
    inv.asks _ (List.mem_append_right before List.mem_cons_self)
  have alerts := AlertState.dataQualityAlerts_raiseDataQuality inv.fresh gateId asked s.intake.clock
  refine ⟨inv.fresh.raiseDataQuality gateId statuses s.intake.clock, ?_, ?_, ?_, asks⟩
  · intro check member
    rcases List.mem_append.mp member with earlier | this
    · exact inv.sources check earlier
    · rw [List.mem_singleton.mp this]
      exact asked
  · intro other
    show (s.dataQuality.setDegraded gateId (allDegraded again)).hasDegradedSource other = _
    rw [DataQualityState.hasDegradedSource_set, lastCheck_append_singleton, inv.indicator other]
    by_cases own : gateId = other
    · rw [if_pos own, if_pos own]
      rfl
    · rw [if_neg own, if_neg own]
  · show (s.alerts.raiseDataQualityAlertIfAllDegraded gateId statuses
      s.intake.clock).dataQualityAlerts.map _ = _
    rw [alerts, List.map_append, inv.alerts, List.filter_append, List.map_append,
      List.filter_singleton]
    congr 1
    cases allDegraded statuses <;> rfl

/-- A task of the server is a check or not. -/
def IsCheck : ServerTask → Prop
  | .inr (.inr _) => True
  | _ => False

/-- The checks a stimulus starts are about to read the statuses of a gate. -/
theorem started_check {stimulus : ServerStimulus} {s : PipelineState} {task : ServerTask}
    (started : task ∈ ((server deps).stimulate stimulus s).2) :
    ¬ IsCheck task ∨
      ∃ gateId, task = .inr (.inr (.readingStatus gateId allSourceTypes [])) := by
  obtain stimulus | stimulus | stimulus := stimulus
  · obtain ⟨own, -, rfl⟩ := List.mem_map.mp started
    exact .inl id
  · obtain ⟨tagged, starts, rfl⟩ := List.mem_map.mp started
    obtain ⟨own, -, rfl⟩ := List.mem_map.mp starts
    exact .inl id
  · obtain ⟨tagged, starts, rfl⟩ := List.mem_map.mp started
    obtain ⟨own, check, rfl⟩ := List.mem_map.mp starts
    cases stimulus with
    | check =>
        obtain ⟨gate, -, rfl⟩ := List.mem_map.mp check
        exact .inr ⟨gate.gateId, rfl⟩
    | markActive => exact absurd check List.not_mem_nil

/-- A resumption leaves a check only where a check goes on. -/
theorem resumed_check {task next : ServerTask} {s : PipelineState}
    (member : next ∈ ((server deps).resume task s).successors) :
    ¬ IsCheck next ∨ ∃ check following, task = .inr (.inr check) ∧ next = .inr (.inr following) ∧
      (DataQualityCheck.resume check s).continued = some following := by
  obtain task | task | task := task
  · rw [show (server deps).resume (.inl task) s = (resume deps task s).map .inl from rfl,
      Stretch.successors_map] at member
    obtain ⟨own, -, rfl⟩ := List.mem_map.mp member
    exact .inl id
  · rw [show (server deps).resume (.inr (.inl task)) s =
        ((FanNudgeDeliveryWorker.system.resume task s).map .inl).map .inr from rfl,
      Stretch.successors_map, Stretch.successors_map] at member
    obtain ⟨tagged, delivery, rfl⟩ := List.mem_map.mp member
    obtain ⟨own, -, rfl⟩ := List.mem_map.mp delivery
    exact .inl id
  · rw [show (server deps).resume (.inr (.inr task)) s =
        ((DataQualityCheck.resume task s).map .inr).map .inr from rfl,
      Stretch.successors_map, Stretch.successors_map] at member
    obtain ⟨tagged, checks, rfl⟩ := List.mem_map.mp member
    obtain ⟨following, goesOn, rfl⟩ := List.mem_map.mp checks
    refine .inr ⟨task, following, rfl, rfl, ?_⟩
    rcases task with ⟨gateId, _ | ⟨sourceType, left⟩, statuses⟩ |
        ⟨gateId, _ | ⟨sourceType, left⟩, statuses, again⟩
    · exact congrArg some (List.mem_singleton.mp goesOn).symm
    · exact congrArg some (List.mem_singleton.mp goesOn).symm
    · exact absurd goesOn List.not_mem_nil
    · exact congrArg some (List.mem_singleton.mp goesOn).symm

theorem asksAll_of_not_check {task : ServerTask} (other : ¬ IsCheck task) : AsksAll task := by
  obtain task | task | task := task
  · trivial
  · trivial
  · exact absurd trivial other

theorem asksAll_stimulate (stimulus : ServerStimulus) (s : PipelineState) :
    ∀ task ∈ ((server deps).stimulate stimulus s).2, AsksAll task := by
  intro task started
  rcases started_check deps started with other | ⟨gateId, rfl⟩
  · exact asksAll_of_not_check other
  · rfl

/-- One more status is read, and one source less is left to be asked for. -/
theorem asksAll_resume {task : ServerTask} (asks : AsksAll task) (s : PipelineState) :
    ∀ next ∈ ((server deps).resume task s).successors, AsksAll next := by
  intro next member
  rcases resumed_check deps member with other | ⟨check, following, rfl, rfl, continues⟩
  · exact asksAll_of_not_check other
  · rcases check with ⟨gateId, _ | ⟨sourceType, left⟩, statuses⟩ |
      ⟨gateId, _ | ⟨sourceType, left⟩, statuses, again⟩
    · obtain rfl := Option.some.inj continues
      exact (List.append_nil _).symm.trans asks
    · obtain rfl := Option.some.inj continues
      show (statuses ++ [DataQualityCheck.read s gateId sourceType]).map (·.sourceType) ++ left = _
      rw [List.map_append, List.append_assoc]
      exact asks
    · cases continues
    · obtain rfl := Option.some.inj continues
      exact asks

theorem sameReports_server_resume {task : ServerTask}
    (running : completions.onResume task = fun _ => []) (s : PipelineState) :
    SameReports s ((server deps).resume task s).shared := by
  obtain task | task | task := task
  · exact sameReports_resume deps task s
  · cases task <;> exact .of_eq rfl rfl rfl
  · rcases task with ⟨gateId, _ | ⟨sourceType, left⟩, statuses⟩ |
      ⟨gateId, _ | ⟨sourceType, left⟩, statuses, again⟩
    · exact .of_eq rfl rfl rfl
    · exact .of_eq rfl rfl rfl
    · exact absurd (congrFun running s) (List.cons_ne_nil _ _)
    · exact .of_eq rfl rfl rfl

/-- **The alerts and the indicator go by the checks**, in every run. -/
theorem checkInv_after (startedAt : ℤ) (schedule : List (Choice ServerStimulus)) :
    CheckInv (serverAfter deps startedAt schedule) (checksIn deps startedAt schedule) := by
  refine (server deps).run_invariant_traced completions ?_ ?_ (checkInv_wired startedAt)
    ((server deps).guarded_trivial _ schedule)
  · intro s tasks checks stimulus inv _
    show CheckInv _ (checks ++ [])
    rw [List.append_nil]
    apply inv.congr
    · obtain stimulus | stimulus | stimulus := stimulus
      · exact sameReports_stimulate deps stimulus s
      · cases stimulus
        exact .of_eq rfl rfl rfl
      · cases stimulus <;> exact .of_eq rfl rfl rfl
    · intro task member
      rcases List.mem_append.mp member with old | new
      · exact inv.asks task old
      · exact asksAll_stimulate deps stimulus s task new
  · intro s before task after checks inv _
    have asks := forall_mem_resumed inv.asks fun own => asksAll_resume deps own s
    by_cases running : completions.onResume task = fun _ => []
    · rw [running, List.append_nil]
      exact inv.congr (sameReports_server_resume deps running s) asks
    · obtain task | task | task := task
      · exact absurd rfl running
      · exact absurd rfl running
      · rcases task with
          ⟨gateId, left, statuses⟩ | ⟨gateId, _ | ⟨sourceType, left⟩, statuses, again⟩
        · exact absurd rfl running
        · exact inv.complete _ asks
        · exact absurd rfl running

/-! ## What a check reads -/

/-- Redis gave this answer about a source at some point of the schedule. -/
def Answered (startedAt : ℤ) (schedule : List (Choice ServerStimulus)) (gateId : GateId)
    (status : SourceStatus) : Prop :=
  ∃ before, before <+: schedule ∧
    DataQualityCheck.read (serverAfter deps startedAt before).shared gateId status.sourceType =
      status

/-- The statuses a check has read so far. -/
def statusesOf : ServerTask → Option (GateId × List SourceStatus)
  | .inr (.inr (.readingStatus gateId _ statuses)) => some (gateId, statuses)
  | .inr (.inr (.readingAgain gateId _ statuses again)) => some (gateId, statuses ++ again)
  | _ => none

theorem statusesOf_not_check {task : ServerTask} (other : ¬ IsCheck task) :
    statusesOf task = none := by
  obtain task | task | task := task
  · rfl
  · rfl
  · exact absurd trivial other

/-- What a check has read is what it had read before, and the answer it has just
got. -/
theorem statusesOf_resumed {task next : ServerTask} {s : PipelineState}
    (member : next ∈ ((server deps).resume task s).successors) :
    ∀ own ∈ statusesOf next, ∃ previous ∈ statusesOf task, previous.1 = own.1 ∧
      ∀ status ∈ own.2, status ∈ previous.2 ∨
        DataQualityCheck.read s own.1 status.sourceType = status := by
  intro own reads
  rcases resumed_check deps member with other | ⟨check, following, rfl, rfl, continues⟩
  · rw [statusesOf_not_check other] at reads
    cases reads
  · rcases check with ⟨gateId, _ | ⟨sourceType, left⟩, statuses⟩ |
      ⟨gateId, _ | ⟨sourceType, left⟩, statuses, again⟩
    · obtain rfl := Option.some.inj continues
      obtain rfl := Option.some.inj reads
      refine ⟨_, rfl, rfl, fun status listed => .inl ?_⟩
      rw [List.append_nil] at listed
      exact listed
    · obtain rfl := Option.some.inj continues
      obtain rfl := Option.some.inj reads
      refine ⟨_, rfl, rfl, fun status listed => ?_⟩
      rcases List.mem_append.mp listed with old | new
      · exact .inl old
      · rw [List.mem_singleton.mp new]
        exact .inr rfl
    · cases continues
    · obtain rfl := Option.some.inj continues
      obtain rfl := Option.some.inj reads
      refine ⟨_, rfl, rfl, fun status listed => ?_⟩
      rw [← List.append_assoc] at listed
      rcases List.mem_append.mp listed with old | new
      · exact .inl old
      · rw [List.mem_singleton.mp new]
        exact .inr rfl

/-- **Every status a check goes by is an answer of Redis** about that source of
its gate. -/
theorem statuses_answered (startedAt : ℤ) (schedule : List (Choice ServerStimulus)) :
    ∀ check ∈ checksIn deps startedAt schedule, ∀ status ∈ check.statuses ++ check.again,
      Answered deps startedAt schedule check.gateId status := by
  let Kept : Config PipelineState ServerTask → List CompletedCheck → Prop := fun c checks =>
    (∀ task ∈ c.suspended, ∀ own ∈ statusesOf task, ∀ status ∈ own.2,
      Answered deps startedAt schedule own.1 status) ∧
    ∀ check ∈ checks, ∀ status ∈ check.statuses ++ check.again,
      Answered deps startedAt schedule check.gateId status
  suffices kept : Kept (serverAfter deps startedAt schedule)
    ([] ++ checksIn deps startedAt schedule) from kept.2
  refine (server deps).run_invariant_traced completions ?_ ?_ ⟨?_, ?_⟩
    ((server deps).guarded_reached _ schedule)
  · intro s tasks checks stimulus kept _
    refine ⟨fun task member => ?_, ?_⟩
    · rcases List.mem_append.mp member with old | new
      · exact kept.1 task old
      · intro own reads status listed
        rcases started_check deps new with other | ⟨gateId, rfl⟩
        · rw [statusesOf_not_check other] at reads
          cases reads
        · obtain rfl := Option.some.inj reads
          cases listed
    · show ∀ check ∈ checks ++ [], _
      rw [List.append_nil]
      exact kept.2
  · intro s before task after checks kept reached
    obtain ⟨earlier, beginning, here⟩ := reached
    have asked := kept.1 task (List.mem_append_right before List.mem_cons_self)
    refine ⟨forall_mem_resumed kept.1 fun _ next member own reads status listed => ?_, ?_⟩
    · obtain ⟨previous, known, gate, split⟩ := statusesOf_resumed deps member own reads
      rcases split status listed with old | new
      · rw [← gate]
        exact asked previous known status old
      · refine ⟨earlier, beginning, ?_⟩
        rw [show serverAfter deps startedAt earlier = _ from here]
        exact new
    · intro check completed
      rcases List.mem_append.mp completed with old | new
      · exact kept.2 check old
      · simp only [completions] at new
        split at new
        · rename_i gateId statuses again
          rw [List.mem_singleton.mp new]
          exact asked (gateId, statuses ++ again) rfl
        · cases new
  · intro task member
    cases member
  · intro check member
    cases member

theorem mem_of_lastCheck {checks : List CompletedCheck} {gateId : GateId}
    {check : CompletedCheck} (last : lastCheck checks gateId = some check) : check ∈ checks :=
  List.mem_of_mem_filter (List.mem_of_getLast? last)

/-- The notes on a step are at most one check, and it is the last one of its
gate when it is taken. -/
theorem lastCheck_of_notes {c : Config PipelineState ServerTask}
    {choice : Choice ServerStimulus} {check : CompletedCheck}
    (noted : check ∈ completions.notes c choice) (checks : List CompletedCheck) :
    lastCheck (checks ++ completions.notes c choice) check.gateId = some check := by
  have single : completions.notes c choice = [check] := by
    cases choice with
    | stimulus e => exact absurd noted List.not_mem_nil
    | resume position =>
        cases found : c.suspended[position]? with
        | none =>
            simp only [Observer.notes, found] at noted
            exact absurd noted List.not_mem_nil
        | some task =>
            simp only [Observer.notes, found, completions] at noted ⊢
            split at noted
            · rw [List.mem_singleton.mp noted]
            · exact absurd noted List.not_mem_nil
  rw [single, lastCheck_append_singleton, if_pos rfl]

/-- **The data-quality indicator tells the truth** in every state of a run
exactly if every check of the run finds all sources of its gate degraded or
none. -/
theorem indicator_tells_truth_iff (startedAt : ℤ) (schedule : List (Choice ServerStimulus)) :
    (∀ before, before <+: schedule →
      TellsTruth (serverAfter deps startedAt before).shared (checksIn deps startedAt before)) ↔
      ∀ check ∈ checksIn deps startedAt schedule, check.Unanimous := by
  constructor
  · intro truthful check completed
    obtain ⟨before, choice, rest, split, noted⟩ := (server deps).mem_trace completions completed
    have here := truthful (before ++ [choice]) ⟨rest, by rw [split, List.append_assoc]; rfl⟩
    have shown := (checkInv_after deps startedAt (before ++ [choice])).indicator check.gateId
    have found := here.indicator check.gateId
    have last : lastCheck (checksIn deps startedAt (before ++ [choice])) check.gateId =
        some check := by
      unfold checksIn
      rw [trace_append, trace_cons, trace_nil, List.append_nil]
      exact lastCheck_of_notes noted _
    rw [last] at shown found
    exact found.symm.trans shown
  · intro unanimous before beginning
    have inv := checkInv_after deps startedAt before
    refine ⟨inv.sources, fun gateId => (inv.indicator gateId).trans ?_, inv.alerts⟩
    obtain ⟨rest, rfl⟩ := beginning
    cases last : lastCheck (checksIn deps startedAt before) gateId with
    | none => rfl
    | some check =>
        refine (unanimous check ?_).symm
        unfold checksIn
        rw [trace_append]
        exact List.mem_append_left _ (mem_of_lastCheck last)

/-- The counter of gate A has reported, its other sources have not, and the
gates are checked. -/
def partlySilent : List (Choice ServerStimulus) :=
  [.stimulus (.inr (.inr (.markActive .gateCounter "gate-a"))),
    .stimulus (.inr (.inr .check))] ++ List.replicate 8 (.resume 0)

/-- Two sources of gate A are degraded, and the indicator does not show it. -/
theorem partial_silence_not_shown :
    ¬ ∀ schedule, TellsTruth (serverAfter demoDependencies 0 schedule).shared
      (checksIn demoDependencies 0 schedule) := by
  intro truthful
  have found := (truthful partlySilent).indicator "gate-a"
  revert found
  decide +kernel

end Pipeline

end Stadium
