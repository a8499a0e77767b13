import Stadium.Server.Stream

/-!
# The feeds of the dashboards

An alert is broadcast in the stretch that stores it, and a redirection in the stretch
that audits it. So a dashboard that stays connected hears of every alert and of every
redirection from then on, each once and in order, as long as no send throws
(`dashboards_miss_nothing`), although between two stretches of one subscriber those of
any others run.
-/

namespace Stadium

open Interleaving TaskSystem

namespace DashboardStreamEvent

def alert? : DashboardStreamEvent → Option Alert
  | .alert raised => some raised
  | _ => none

def redirection? : DashboardStreamEvent → Option ShuttleRedirectionRecommendation
  | .redirectionUpdate recommendation => some recommendation
  | _ => none

end DashboardStreamEvent

/-- The alerts, in the order of their ids. -/
def AlertState.log (s : AlertState) : List Alert :=
  (List.range s.nextAlertId).filterMap s.alertStore.get?

/-- The alerts in the store, as they were raised and in the order of their ids. -/
def ServerState.raisedAlerts (w : ServerState) : List Alert :=
  (List.range w.pipeline.alerts.nextAlertId).filterMap fun alertId =>
    (w.alertStore.get? alertId).map (·.alert)

def ServerState.auditedRedirections (w : ServerState) : List ShuttleRedirectionRecommendation :=
  w.pipeline.audit.shuttleRecommendations

theorem ServerState.AlertsFiled.raisedAlerts {w : ServerState} (filed : w.AlertsFiled) :
    w.raisedAlerts = w.pipeline.alerts.log := by
  unfold ServerState.raisedAlerts AlertState.log
  exact congrArg (List.filterMap · _) (funext filed.filed)

/-! ## What a stretch adds to the logs -/

namespace AlertState

variable {s t : AlertState}

/-- An alert under the next id comes last. -/
theorem log_add {alert : Alert} (store : t.alertStore = s.alertStore.set s.nextAlertId alert)
    (next : t.nextAlertId = s.nextAlertId + 1) : t.log = s.log ++ [alert] := by
  have before : (List.range s.nextAlertId).filterMap t.alertStore.get? = s.log := by
    refine List.filterMap_congr fun alertId earlier => ?_
    have other : alertId ≠ s.nextAlertId := by
      have := List.mem_range.mp earlier
      omega
    rw [store, OrderedMap.get?_set_ne _ _ other]
  unfold log
  rw [next, List.range_succ, List.filterMap_append, before, store]
  simp [log]

theorem log_raise (s : AlertState) (gateId : GateId) (previous new : RiskLevel) (now : ℤ) :
    (s.raiseRiskLevelAlertIfTransitioned gateId previous new now).log =
      s.log ++ (checkRiskLevelTransition s.nextAlertId gateId previous new now).toList := by
  unfold raiseRiskLevelAlertIfTransitioned
  rw [checkRiskLevelTransition_eq]
  cases riskTransition previous new with
  | false => exact (List.append_nil _).symm
  | true => exact log_add rfl rfl

end AlertState

/-- The logs grow by what is broadcast. -/
structure Announces (s t : PipelineState) (site : Option (Broadcast DashboardStreamEvent)) :
    Prop where
  alerts : t.alerts.log = s.alerts.log ++ announced DashboardStreamEvent.alert? site
  redirections : t.audit.shuttleRecommendations =
    s.audit.shuttleRecommendations ++ announced DashboardStreamEvent.redirection? site

theorem Announces.of_eq {s t : PipelineState} {site : Option (Broadcast DashboardStreamEvent)}
    (alerts : t.alerts.log = s.alerts.log)
    (redirections : t.audit.shuttleRecommendations = s.audit.shuttleRecommendations)
    (noAlert : announced DashboardStreamEvent.alert? site = [])
    (noRedirection : announced DashboardStreamEvent.redirection? site = []) :
    Announces s t site := by
  constructor
  · rw [alerts, noAlert, List.append_nil]
  · rw [redirections, noRedirection, List.append_nil]

theorem Announces.unmoved {s t : PipelineState} {site : Option (Broadcast DashboardStreamEvent)}
    (same : t = s) (silent : site = none) : Announces s t site := by
  subst same silent
  exact .of_eq rfl rfl rfl rfl

namespace Pipeline

variable (deps : PipelineDependencies)

theorem announces_publish (computation : Computation) (s : PipelineState) :
    Announces s (resume deps (.publishingForecast computation) s).shared
      (riskLevelAlert s ⟨computation.gate, computation.result⟩) where
  alerts := by
    have raised := AlertState.log_raise s.alerts computation.gate.gateId
      (s.alerts.previousRiskLevel computation.gate.gateId) computation.result.currentRiskLevel
      s.intake.clock
    have grown : (resume deps (.publishingForecast computation) s).shared.alerts.log =
      s.alerts.log ++ (checkRiskLevelTransition s.alerts.nextAlertId computation.gate.gateId
        (s.alerts.previousRiskLevel computation.gate.gateId)
        computation.result.currentRiskLevel s.intake.clock).toList := raised
    rw [grown]
    unfold riskLevelAlert announced
    simp only
    cases checkRiskLevelTransition s.alerts.nextAlertId computation.gate.gateId
      (s.alerts.previousRiskLevel computation.gate.gateId) computation.result.currentRiskLevel
      s.intake.clock <;> rfl
  redirections := by
    have same : (resume deps (.publishingForecast computation)
        s).shared.audit.shuttleRecommendations = s.audit.shuttleRecommendations :=
      auditScore_shuttleRecommendations _ _ _
    rw [same]
    unfold riskLevelAlert announced
    simp only
    cases checkRiskLevelTransition s.alerts.nextAlertId computation.gate.gateId
      (s.alerts.previousRiskLevel computation.gate.gateId) computation.result.currentRiskLevel
      s.intake.clock <;> exact (List.append_nil _).symm

theorem announces_check (gateId : GateId) (statuses again : List SourceStatus)
    (s : PipelineState) :
    Announces s (DataQualityCheck.resume (.readingAgain gateId [] statuses again) s).shared
      (dataQualityAlert s gateId statuses) := by
  have alerts : (DataQualityCheck.resume (.readingAgain gateId [] statuses again)
      s).shared.alerts = s.alerts.raiseDataQualityAlertIfAllDegraded gateId statuses
        s.intake.clock := rfl
  unfold dataQualityAlert
  unfold AlertState.raiseDataQualityAlertIfAllDegraded at alerts
  split
  · next all =>
      rw [if_pos all] at alerts
      exact ⟨(congrArg AlertState.log alerts).trans (AlertState.log_add rfl rfl),
        (List.append_nil _).symm⟩
  · next some' =>
      rw [if_neg some'] at alerts
      exact .of_eq (congrArg AlertState.log alerts) rfl rfl rfl

theorem announces_resume (own : ServerTask) (s : PipelineState)
    (actions : List RecommendedAction) :
    Announces s ((server deps).resume own s).shared
      ((broadcastSites deps).onResume actions own s) := by
  rcases own with task | task | task
  · cases task with
    | computing gate window =>
        have same : (resume deps (.computing gate window) s).shared.alerts = s.alerts ∧
            (resume deps (.computing gate window) s).shared.audit = s.audit := by
          rw [resume_computing]
          exact ⟨rfl, rfl⟩
        exact .of_eq (congrArg AlertState.log same.1)
          (congrArg AuditState.shuttleRecommendations same.2) rfl rfl
    | publishingForecast computation => exact announces_publish deps computation s
    | raisingAlert update =>
        -- a score update belongs to neither feed
        refine .of_eq rfl rfl ?_ ?_
        · show announced _ (update.result.scores.head?.map _) = []
          cases update.result.scores.head? <;> rfl
        · show announced _ (update.result.scores.head?.map _) = []
          cases update.result.scores.head? <;> rfl
    | publishingRedirection update redirection rest => exact ⟨(List.append_nil _).symm, rfl⟩
    | decidingNudge update fan lastNudgeAt rest generated =>
        exact .unmoved (decideNudge_shared deps update fan lastNudgeAt rest generated s) rfl
    | locatingAction gateId actionId userId now found =>
        exact .unmoved (locateAction_shared gateId actionId userId now found s) rfl
    | _ => exact .of_eq rfl rfl rfl rfl
  · cases task <;> exact .of_eq rfl rfl rfl rfl
  · rcases task with ⟨gateId, left, statuses⟩ | ⟨gateId, _ | ⟨sourceType, left⟩, statuses, again⟩
    · cases left <;> exact .of_eq rfl rfl rfl rfl
    · exact announces_check gateId statuses again s
    · exact .of_eq rfl rfl rfl rfl

theorem announces_stimulate {stimulus : PipelineStimulus} (own : stimulus.Own)
    (s : PipelineState) : Announces s (stimulate deps stimulus s).1 none := by
  have event : ∀ event, Announces s (onSignalEvent deps s event).1 none := by
    intro event
    rw [onSignalEvent_shared]
    exact .of_eq rfl rfl rfl rfl
  cases stimulus with
  | congestionScore message => exact absurd own id
  | handleSignal signal => exact event _
  | signalEvent delivered => exact event delivered
  | tick gateId => exact .unmoved (onTick_shared deps s gateId) rfl
  | _ => exact .of_eq rfl rfl rfl rfl

end Pipeline

theorem Ingestion.announces_callNext (deps : PipelineDependencies) (request : Handling)
    (s : IngestionState) : Announces s.pipeline (callNext deps request s).shared.pipeline none := by
  unfold callNext
  cases request.effects with
  | nil => exact .of_eq rfl rfl rfl rfl
  | cons effect rest =>
      cases effect with
      | publishSignalEvent event =>
          have own : (PipelineStimulus.signalEvent event).Own := trivial
          exact Pipeline.announces_stimulate deps own s.pipeline
      | publishValidationError error => exact .of_eq rfl rfl rfl rfl
      | markActive sourceType gateOrRouteId => exact .of_eq rfl rfl rfl rfl

theorem ShuttleRedirectionApi.announces_resume (task : DecisionTask) (s : PipelineState) :
    Announces s (resume task s).shared none := by
  cases task with
  | finding decision routeId recommendationId dispatcherId now =>
      unfold resume
      simp only
      split <;> exact .of_eq rfl rfl rfl rfl
  | storing decision updated => cases decision <;> exact .of_eq rfl rfl rfl rfl
  | returning decision updated => cases decision <;> exact .of_eq rfl rfl rfl rfl
  | _ => exact .of_eq rfl rfl rfl rfl

namespace Process

variable (deps : PipelineDependencies)

theorem announces_stimulate {stimulus : ProcessStimulus} (now : Within stimulus)
    (w : ServerState) : Announces w.pipeline ((system deps).stimulate stimulus w).1.pipeline
      ((broadcastSites deps).onStimulus stimulus w) := by
  rcases stimulus with stimulus | (stimulus | stimulus | stimulus) | (stimulus | query)
  · cases stimulus with
    | handleSignal uuid rawPayload =>
        exact Ingestion.announces_callNext deps
          (Submission.handle deps.timingConfig ⟨uuid, rawPayload, w.pipeline.intake.clock⟩)
          { w.ingestion with
            submissions :=
              w.ingestion.submissions ++ [⟨uuid, rawPayload, w.pipeline.intake.clock⟩] }
    | other stimulus quiet =>
        have announces := Pipeline.announces_stimulate deps now w.pipeline
        cases stimulus with
        | congestionScore message => exact absurd now id
        | _ => exact announces
  · cases stimulus
    exact .of_eq rfl rfl rfl rfl
  · cases stimulus <;> exact .of_eq rfl rfl rfl rfl
  · cases stimulus <;> exact .of_eq rfl rfl rfl rfl
  all_goals exact .of_eq rfl rfl rfl rfl

theorem announces_resume (task : ProcessTask) (w : ServerState)
    (actions : List RecommendedAction) :
    Announces w.pipeline ((system deps).resume task w).shared.pipeline
      ((broadcastSites deps).onResume actions task w) := by
  cases behind : task.server? with
  | some own =>
      have announces := Pipeline.announces_resume deps own w.pipeline actions
      rw [← resume_server deps behind] at announces
      have site : (broadcastSites deps).onResume actions task w =
          (Pipeline.broadcastSites deps).onResume actions own w.pipeline := by
        simp only [broadcastSites, behind, Option.bind_some]
      rw [site]
      exact announces
  | none =>
      have site : (broadcastSites deps).onResume actions task w = none := by
        simp only [broadcastSites, behind, Option.bind_none]
      rw [site]
      rcases task with (task | handling) | (task | task | task) | (task | task)
      · cases behind
      · exact Ingestion.announces_callNext deps handling w.ingestion
      · cases behind
      · cases behind
      · exact ShuttleRedirectionApi.announces_resume task w.pipeline
      all_goals exact .of_eq rfl rfl rfl rfl

theorem feeds_alerts : (system deps).Feeds (broadcastSites deps) Within ServerState.InStep
    (fun w task => task.InOrder w) (fun w => w.pipeline.alerts.log)
    DashboardStreamEvent.alert? where
  onStimulus _ w now _ := (announces_stimulate deps now w).alerts
  onResume actions task w _ _ := (announces_resume deps task w actions).alerts

theorem feeds_redirections : (system deps).Feeds (broadcastSites deps) Within
    ServerState.InStep (fun w task => task.InOrder w) ServerState.auditedRedirections
    DashboardStreamEvent.redirection? where
  onStimulus _ w now _ := (announces_stimulate deps now w).redirections
  onResume actions task w _ _ := (announces_resume deps task w actions).redirections

end Process

/-! ## Staying connected -/

namespace Dashboards

variable {Connection : Type} [DecidableEq Connection] (apiKeys : OrderedMap String (List Role))
  (deps : PipelineDependencies)

/-- The dashboard goes. -/
def leaves (connection : Connection) : Choice (DashboardArrival Connection) → Bool
  | .stimulus (.closed other) => other = connection
  | _ => false

/-- No send of this step throws, and the dashboard stays. -/
def Attended (connection : Connection)
    (c : Config (Streamed ServerState Connection DashboardStreamEvent)
      (List RecommendedAction × ProcessTask)) (choice : Choice (DashboardArrival Connection)) :
    Prop :=
  leaves connection choice = false ∧
    HeededGuard (read apiKeys) (QuietStep (Process.system deps) (Process.broadcastSites deps))
      c choice

instance (connection : Connection)
    (c : Config (Streamed ServerState Connection DashboardStreamEvent)
      (List RecommendedAction × ProcessTask)) (choice : Choice (DashboardArrival Connection)) :
    Decidable (Attended apiKeys deps connection c choice) :=
  inferInstanceAs (Decidable (_ ∧ _))

/-- The dashboard has heard exactly what the log has grown by, in its order. -/
def Hears {α : Type} (log : ServerState → List α) (pick : DashboardStreamEvent → Option α)
    (connection : Connection)
    (before after : Streamed ServerState Connection DashboardStreamEvent) : Prop :=
  ∃ new, log after.shared = log before.shared ++ new ∧
    (after.hub.receivedBy connection).filterMap pick =
      (before.hub.receivedBy connection).filterMap pick ++ new

variable {apiKeys deps}

/-- What the process and its hub read of an attended step. -/
theorem attended_read {connection : Connection}
    {c : Config (Streamed ServerState Connection DashboardStreamEvent)
      (List RecommendedAction × ProcessTask)} {choice : Choice (DashboardArrival Connection)}
    (attended : Attended apiKeys deps connection c choice) :
    HeededGuard (read apiKeys) (TaskSystem.Attended (Process.system deps)
      (Process.broadcastSites deps) Process.Within connection) c choice := by
  obtain ⟨stays, quiet⟩ := attended
  intro own heard
  refine ⟨quiet own heard, ?_, ?_⟩
  · rintro e rfl
    obtain ⟨arrival, rfl, reads⟩ := reads_of_heeded heard
    cases reads with
    | server arrival own asked => exact Gateway.own_read asked
  · rintro rfl
    obtain ⟨arrival, rfl, reads⟩ := reads_of_heeded heard
    cases reads with
    | closed other => simp [leaves] at stays

/-- **Dashboards miss nothing.** Let a dashboard be connected at some point of a run of
the server. Then at every later point, as long as it stays and no send throws, it has
heard of exactly the alerts raised and the redirections published since, each once and in
order. -/
theorem dashboards_miss_nothing (apiKeys : OrderedMap String (List Role))
    (deps : PipelineDependencies) (startedAt : ℤ)
    (earlier later : List (Choice (DashboardArrival Connection))) (connection : Connection)
    (up : ((system apiKeys deps).run (opened startedAt) earlier).shared.up = true)
    (connected : connection ∈
      ((system apiKeys deps).run (opened startedAt) earlier).shared.hub.connections)
    (attended : (system apiKeys deps).Guarded (Attended apiKeys deps connection)
      ((system apiKeys deps).run (opened startedAt) earlier) later) :
    Hears ServerState.raisedAlerts DashboardStreamEvent.alert? connection
        ((system apiKeys deps).run (opened startedAt) earlier).shared
        ((system apiKeys deps).run (opened startedAt) (earlier ++ later)).shared ∧
      Hears ServerState.auditedRedirections DashboardStreamEvent.redirection? connection
        ((system apiKeys deps).run (opened startedAt) earlier).shared
        ((system apiKeys deps).run (opened startedAt) (earlier ++ later)).shared := by
  obtain ⟨inStep, heard, fine⟩ := reached apiKeys deps startedAt earlier
  obtain ⟨⟨filed', -⟩, -, -⟩ := reached apiKeys deps startedAt (earlier ++ later)
  rw [run_append] at filed' ⊢
  generalize (system apiKeys deps).run (opened startedAt) earlier = c at *
  have guarded := guarded_heeding _ (read apiKeys)
    (guarded_imp _ (fun _ _ => attended_read) attended)
  have same : (system apiKeys deps).run c later =
      ((Process.system deps).streaming (Process.broadcastSites deps)).run c
        (later.filterMap (heeded (read apiKeys))) := run_heeding _ _ _ _
  rw [same] at filed' ⊢
  have alerts := (Process.feeds_alerts deps).run (Process.onRecord deps) ServerState.Lasts.refl
    inStep fine up heard.once connected guarded
  have redirections := (Process.feeds_redirections deps).run (Process.onRecord deps)
    ServerState.Lasts.refl inStep fine up heard.once connected guarded
  refine ⟨?_, redirections.heard⟩
  -- at both ends the store has the alerts as the pipeline raised them
  unfold Hears
  rw [inStep.1.raisedAlerts, filed'.raisedAlerts]
  exact alerts.heard

/-- A dashboard connects. -/
def oneConnects : List (Choice (DashboardArrival ℕ)) :=
  [.stimulus (.upgrade "/v1/dashboard/stream" (some "ops") 0)]

/-- No source has ever been heard of, and the check of gate A finds them all degraded. -/
def silentGate : List (Choice (DashboardArrival ℕ)) :=
  .stimulus (.server .checkSources) :: List.replicate 8 (.resume 0)

theorem dashboards_miss_nothing_demo :
    (Hears ServerState.raisedAlerts DashboardStreamEvent.alert? 0
        ((system (parseApiKeys (some "ops:VENUE_OPS_MANAGER")) demoDependencies).run (opened 0)
          oneConnects).shared
        ((system (parseApiKeys (some "ops:VENUE_OPS_MANAGER")) demoDependencies).run (opened 0)
          (oneConnects ++ silentGate)).shared ∧
      Hears ServerState.auditedRedirections DashboardStreamEvent.redirection? 0
        ((system (parseApiKeys (some "ops:VENUE_OPS_MANAGER")) demoDependencies).run (opened 0)
          oneConnects).shared
        ((system (parseApiKeys (some "ops:VENUE_OPS_MANAGER")) demoDependencies).run (opened 0)
          (oneConnects ++ silentGate)).shared) ∧
      (((system (parseApiKeys (some "ops:VENUE_OPS_MANAGER")) demoDependencies).run (opened 0)
        (oneConnects ++ silentGate)).shared.hub.receivedBy 0).length = 1 :=
  ⟨dashboards_miss_nothing _ demoDependencies 0 oneConnects silentGate 0 (by decide +kernel)
    (by decide +kernel) (by decide +kernel), by decide +kernel⟩

end Dashboards

end Stadium
