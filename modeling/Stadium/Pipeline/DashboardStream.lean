import Stadium.Lib.FanOut
import Stadium.Pipeline.Containment

/-!
# The dashboard stream

`websocket.ts` and the broadcasts of `pipeline.ts`. The `congestion-scores`
subscriber broadcasts an alert before it remembers the Risk_Level, the score
before it asks for actions, the actions before it looks for redirections, and
each redirection before it turns to the next. Nothing on the way catches what a
dashboard's `send` throws, short of the bus, and the promise of a data-quality
check is discarded. So a dashboard makes no difference to the others as long as
its sends return. The heartbeat of the server has no events to send.
-/

namespace Stadium

open Interleaving TaskSystem

inductive DashboardStreamEvent where
  | scoreUpdate (point : CongestionScorePoint)
  | actionListUpdate (gateId : GateId) (actions : List RecommendedAction)
  | redirectionUpdate (recommendation : ShuttleRedirectionRecommendation)
  | alert (alert : Alert)

/-- What the dashboards and the gates have in common in two runs: the events
received by the connections that are not broken, the alerts and the previous
Risk_Levels, the actions, the redirections and the nudges. -/
structure SameForOthers {Connection : Type} [DecidableEq Connection]
    (broken : Connection → Bool)
    (s s' : Streamed PipelineState Connection DashboardStreamEvent) : Prop where
  received : ∀ connection, broken connection = false →
    s.hub.receivedBy connection = s'.hub.receivedBy connection
  alerts : s.shared.alerts = s'.shared.alerts
  actions : s.shared.actions = s'.shared.actions
  redirections : s.shared.redirections = s'.shared.redirections
  nudges : s.shared.nudges = s'.shared.nudges

/-- Leaving the broken connections out of a hub takes nothing from the others. -/
theorem SameForOthers.of_without {Connection : Type} [DecidableEq Connection]
    (broken : Connection → Bool) (s : Streamed PipelineState Connection DashboardStreamEvent) :
    SameForOthers broken s (s.without broken) where
  received _ others := (Hub.receivedBy_without s.hub others).symm
  alerts := rfl
  actions := rfl
  redirections := rfl
  nudges := rfl

namespace Pipeline

variable (deps : PipelineDependencies) {Connection : Type} [DecidableEq Connection]

/-- `publishAlert` for the transition of a message, after the alert is stored. -/
def riskLevelAlert (s : PipelineState) (message : CongestionScoreMessage) :
    Option (Broadcast DashboardStreamEvent) :=
  let gateId := message.gate.gateId
  (checkRiskLevelTransition s.alerts.nextAlertId gateId (s.alerts.previousRiskLevel gateId)
    message.result.currentRiskLevel s.intake.clock).map fun alert => ⟨.alert alert, true⟩

/-- `publishAlert` for a data-quality check, after the alert is stored. -/
def dataQualityAlert (s : PipelineState) (gateId : GateId) (statuses : List SourceStatus) :
    Option (Broadcast DashboardStreamEvent) :=
  if !statuses.isEmpty && allDegraded statuses then
    some ⟨.alert (buildDataQualityAlert s.alerts.nextAlertId gateId
      (statuses.map (·.sourceType)) s.intake.clock), false⟩
  else none

/-- Where the server broadcasts. The variable is what `onScoreUpdate` of the
recommendation engine returned. -/
def broadcastSites :
    BroadcastSites (server deps) DashboardStreamEvent (List RecommendedAction) where
  onStimulus
    | .inl (.congestionScore message), s => riskLevelAlert s message
    | _, _ => none
  onResume
    | _, .inl (.publishingForecast computation), s =>
        riskLevelAlert s ⟨computation.gate, computation.result⟩
    | _, .inl (.raisingAlert update), _ =>
        update.result.scores.head?.map fun currentPoint => ⟨.scoreUpdate currentPoint, true⟩
    | actions, .inl (.advising update), _ =>
        some ⟨.actionListUpdate update.gate.gateId actions, true⟩
    | _, .inl (.publishingRedirection _ redirection _), _ =>
        some ⟨.redirectionUpdate redirection, true⟩
    | _, .inr (.inr (.readingAgain gateId [] statuses _)), s => dataQualityAlert s gateId statuses
    | _, _, _ => none
  initial := []
  next
    | _, .inl (.publishingActions _ actions) => actions
    | actions, _ => actions

/-- The server with its dashboards. -/
def streamingServer :
    TaskSystem (Streamed PipelineState Connection DashboardStreamEvent)
      (List RecommendedAction × ServerTask)
      (StreamStimulus ServerStimulus Connection DashboardStreamEvent) :=
  (server deps).streaming (broadcastSites deps)

abbrev StreamSchedule (Connection : Type) :=
  List (Choice (StreamStimulus ServerStimulus Connection DashboardStreamEvent))

/-- The server just started, with no dashboard connected. -/
def opened (startedAt : ℤ) :
    Config (Streamed PipelineState Connection DashboardStreamEvent)
      (List RecommendedAction × ServerTask) :=
  ⟨{ shared := .wired startedAt }, []⟩

def afterStreaming (startedAt : ℤ) (schedule : StreamSchedule Connection) :
    Config (Streamed PipelineState Connection DashboardStreamEvent)
      (List RecommendedAction × ServerTask) :=
  (streamingServer deps).run (opened startedAt) schedule

/-- The same schedule with the broken connections never registered. -/
def unregistered (broken : Connection → Bool) (schedule : StreamSchedule Connection) :
    StreamSchedule Connection :=
  schedule.filter (registersOthers broken)

/-- The sends that throw are sends of broken connections. -/
def ThrowsOnlyFor (broken : Connection → Bool) (schedule : StreamSchedule Connection) : Prop :=
  ∀ throws, .stimulus (.faults throws) ∈ schedule → ∀ connection event,
    throws connection event = true → broken connection = true

/-! ## The broadcasts -/

/-- An alert that a message gives rise to is in the store when it is broadcast. -/
theorem riskLevelAlert_stored {s : PipelineState} {message : CongestionScoreMessage}
    {site : Broadcast DashboardStreamEvent} (raised : riskLevelAlert s message = some site) :
    ∃ alert, site = ⟨.alert alert, true⟩ ∧
      (onCongestionScore s message).1.alerts.alertStore.get? alert.alertId = some alert := by
  obtain ⟨alert, due, rfl⟩ := Option.map_eq_some_iff.mp raised
  refine ⟨alert, rfl, ?_⟩
  simp only [onCongestionScore, AlertState.raiseRiskLevelAlertIfTransitioned, due]
  exact OrderedMap.get?_set_self _ _ _

theorem dataQualityAlert_stored {s : PipelineState} {gateId : GateId}
    {statuses : List SourceStatus} {site : Broadcast DashboardStreamEvent}
    (raised : dataQualityAlert s gateId statuses = some site) :
    ∃ alert, site = ⟨.alert alert, false⟩ ∧
      (s.alerts.raiseDataQualityAlertIfAllDegraded gateId statuses s.intake.clock).alertStore.get?
        alert.alertId = some alert := by
  unfold dataQualityAlert at raised
  split at raised
  · rename_i all
    obtain rfl := Option.some.inj raised
    refine ⟨_, rfl, ?_⟩
    unfold AlertState.raiseDataQualityAlertIfAllDegraded
    rw [if_pos all]
    exact OrderedMap.get?_set_self _ _ _
  · cases raised

/-- **What is broadcast is stored**: an alert is in the store by then, and only
the alert of a data-quality check is broadcast where nobody catches. -/
theorem broadcast_stored {actions : List RecommendedAction} {task : ServerTask}
    {s : PipelineState} {site : Broadcast DashboardStreamEvent}
    (broadcasts : (broadcastSites deps).onResume actions task s = some site) :
    (∀ alert, site.event = .alert alert →
      ((server deps).resume task s).shared.alerts.alertStore.get? alert.alertId = some alert) ∧
    (site.caught = false → ∃ check, task = .inr (.inr check)) := by
  rcases task with task | task | task
  · cases task with
    | publishingForecast computation =>
        obtain ⟨alert, rfl, stored⟩ := riskLevelAlert_stored broadcasts
        refine ⟨?_, nofun⟩
        rintro _ ⟨⟩
        exact stored
    | raisingAlert update =>
        obtain ⟨point, -, rfl⟩ := Option.map_eq_some_iff.mp broadcasts
        exact ⟨nofun, nofun⟩
    | advising update =>
        obtain rfl := Option.some.inj broadcasts
        exact ⟨nofun, nofun⟩
    | publishingRedirection update redirection rest =>
        obtain rfl := Option.some.inj broadcasts
        exact ⟨nofun, nofun⟩
    | _ => cases broadcasts
  · cases broadcasts
  · refine ⟨?_, fun _ => ⟨task, rfl⟩⟩
    rcases task with ⟨gateId, left, statuses⟩ | ⟨gateId, _ | ⟨sourceType, left⟩, statuses, again⟩
    · cases broadcasts
    · obtain ⟨alert, rfl, stored⟩ := dataQualityAlert_stored broadcasts
      rintro _ ⟨⟩
      exact stored
    · cases broadcasts

/-- A send that throws ends the task where it broadcasts: the effects up to there
stay, and nothing is left or started. -/
theorem resume_loud {actions : List RecommendedAction} {task : ServerTask}
    {s : Streamed PipelineState Connection DashboardStreamEvent}
    {site : Broadcast DashboardStreamEvent} (up : s.up = true)
    (broadcasts : (broadcastSites deps).onResume actions task s.shared = some site)
    (loud : ¬ s.hub.Quiet site.event) :
    (streamingServer deps).resume (actions, task) s =
      ⟨⟨((server deps).resume task s.shared).shared, (s.hub.broadcast site.event).1, site.caught⟩,
        none, []⟩ := by
  simp only [streamingServer, streaming, up, Bool.not_true, Bool.false_eq_true, if_false,
    broadcasts]
  exact Streamed.broadcasting_loud loud _

/-! ## Connections nobody misses -/

/-- **A dashboard whose sends return** is missed by nobody: in every run in which
no send throws, the other dashboards and the gates have at every point what they
have in the run that leaves any set of connections out. -/
theorem dashboards_isolated (startedAt : ℤ) (broken : Connection → Bool)
    (schedule : StreamSchedule Connection)
    (quiet : (streamingServer deps).Guarded (QuietStep (server deps) (broadcastSites deps))
      (opened startedAt) schedule) :
    ∀ before, before <+: schedule →
      SameForOthers broken (afterStreaming deps startedAt before).shared
        (afterStreaming deps startedAt (unregistered broken before)).shared := by
  rintro before ⟨rest, rfl⟩
  obtain ⟨quiet, -⟩ := (guarded_append _).mp quiet
  have same : (streamingServer deps).run (opened startedAt) (unregistered broken before) =
      withoutConnections broken (afterStreaming deps startedAt before) :=
    (server deps).run_without (broadcastSites deps) broken quiet
  have reached : (afterStreaming deps startedAt (unregistered broken before)).shared =
      (afterStreaming deps startedAt before).shared.without broken :=
    congrArg Config.shared same
  rw [reached]
  exact .of_without broken _

/-- Two dashboards, and gate A becomes crowded; the sends of the first one throw
at these events. -/
def crowdStreamed (throws : DashboardStreamEvent → Bool) : StreamSchedule ℕ :=
  [.stimulus (.register 0), .stimulus (.register 1),
    .stimulus (.faults fun connection event => connection = 0 && throws event),
    .stimulus (.event (.inl (.signalEvent
      (demoReading "crowd" 400 "1970-01-01T00:00:00.000Z")))),
    .resume 0, .resume 0, .resume 0, .resume 0]

/-- The second dashboard gets the alert and the score while the first cannot take
redirections. -/
theorem dashboards_isolated_demo :
    let schedule := crowdStreamed fun
      | .redirectionUpdate _ => true
      | _ => false
    ((afterStreaming demoDependencies 0 schedule).shared.hub.receivedBy 1).length = 2 ∧
      SameForOthers (fun connection => connection = 0)
        (afterStreaming demoDependencies 0 schedule).shared
        (afterStreaming demoDependencies 0
          (unregistered (fun connection => connection = 0) schedule)).shared :=
  ⟨by decide +kernel,
    dashboards_isolated demoDependencies 0 _ _ (by decide +kernel) _ (List.prefix_refl _)⟩

/-- The first dashboard throws, and the second does not get the alert. -/
theorem broken_dashboard_cuts_off :
    ¬ ∀ (broken : ℕ → Bool) (schedule : StreamSchedule ℕ), ThrowsOnlyFor broken schedule →
      ∀ before, before <+: schedule →
        SameForOthers broken (afterStreaming demoDependencies 0 before).shared
          (afterStreaming demoDependencies 0 (unregistered broken before)).shared := by
  intro isolated
  have same := isolated (fun connection => connection = 0) (crowdStreamed fun _ => true) ?_ _
    (List.prefix_refl _)
  · have received := congrArg List.length (same.received 1 (by decide))
    revert received
    decide +kernel
  · intro throws listed connection event thrown
    simp [crowdStreamed] at listed
    subst listed
    simpa using thrown

end Pipeline

end Stadium
