import Stadium.Lib.Streaming
import Stadium.Pipeline.OnRecord
import Stadium.Server.Rules

/-!
# The dashboards of the server

`GET /v1/dashboard/stream` and the hub behind it, over the whole server. The upgrade
handler lets a connection in whose key has a role of the stream; from then on the hub
sends it what `publishAlert` and the subscriber of a score broadcast.

Whatever happens, a dashboard hears nothing that is not on record by then and stays on
record, and nobody hears anything without a key (`dashboards_hear_what_is_on_record`).
-/

namespace Stadium

open Interleaving TaskSystem

/-- `DASHBOARD_STREAM_ROLES`. -/
def dashboardStreamRoles : List Role :=
  [.venueOpsManager, .gateStaff, .transitDispatcher, .auditor]

/-- The upgrade request, with the path and the `apiKey` of its URL, is let through. -/
def upgradeAuthorized (apiKeys : OrderedMap String (List Role)) (pathname : String)
    (apiKey : Option String) : Bool :=
  pathname = "/v1/dashboard/stream" &&
    (verifyApiKey apiKeys apiKey).any fun roles => roles.any (· ∈ dashboardStreamRoles)

/-- The pipeline's, worker's or check's task behind a task of the process. -/
def ProcessTask.server? : ProcessTask → Option Pipeline.ServerTask
  | .inl (.inl task) => some (.inl task)
  | .inr (.inl (.inl task)) => some (.inr (.inl task))
  | .inr (.inl (.inr (.inl task))) => some (.inr (.inr task))
  | _ => none

/-- What reaches the server and its dashboards. -/
inductive DashboardArrival (Connection : Type) where
  | server (arrival : ServerArrival)
  | upgrade (pathname : String) (apiKey : Option String) (connection : Connection)
  /-- The socket is no longer open. Its `send` drops everything from then on, and the
  hub forgets it when it reports that it has closed, or an error. -/
  | closed (connection : Connection)
  /-- From now on exactly these sends throw. -/
  | faults (throws : Connection → DashboardStreamEvent → Bool)

/-- The event is on record. -/
def ServerState.OnRecord (w : ServerState) : DashboardStreamEvent → Prop
  | .alert alert =>
      ∃ record, w.alertStore.get? alert.alertId = some record ∧ record.alert = alert
  | .scoreUpdate point => w.pipeline.audit.HasScore point
  | .actionListUpdate gateId actions => ∀ action ∈ actions,
      action.gateId = gateId ∧ w.pipeline.audit.HasAction action
  | .redirectionUpdate redirection =>
      redirection ∈ w.pipeline.audit.shuttleRecommendations ∧
        w.pipeline.redirections.Lists redirection

namespace Process

variable (deps : PipelineDependencies)

/-- Where the process broadcasts: where the pipeline and the checks do. -/
def broadcastSites :
    BroadcastSites (system deps) DashboardStreamEvent (List RecommendedAction) where
  onStimulus
    | .inl (.other stimulus _), w =>
        (Pipeline.broadcastSites deps).onStimulus (.inl stimulus) w.pipeline
    | _, _ => none
  onResume actions task w :=
    task.server?.bind fun task =>
      (Pipeline.broadcastSites deps).onResume actions task w.pipeline
  initial := []
  next actions task :=
    task.server?.elim actions ((Pipeline.broadcastSites deps).next actions ·)

end Process

namespace Dashboards

variable {Connection : Type} [DecidableEq Connection] (apiKeys : OrderedMap String (List Role))
  (deps : PipelineDependencies)

/-- What an arrival is to the process and its hub. -/
def read : DashboardArrival Connection →
    Option (StreamStimulus ProcessStimulus Connection DashboardStreamEvent)
  | .server arrival => (Gateway.read apiKeys arrival).map .event
  | .upgrade pathname apiKey connection =>
      if upgradeAuthorized apiKeys pathname apiKey then some (.register connection) else none
  | .closed connection => some (.unregister connection)
  | .faults throws => some (.faults throws)

/-- The server with its dashboards. -/
def system : TaskSystem (Streamed ServerState Connection DashboardStreamEvent)
    (List RecommendedAction × ProcessTask) (DashboardArrival Connection) :=
  ((Process.system deps).streaming (Process.broadcastSites deps)).heeding (read apiKeys)

/-- The server just started, with no dashboard connected. -/
def opened (startedAt : ℤ) : Config (Streamed ServerState Connection DashboardStreamEvent)
    (List RecommendedAction × ProcessTask) :=
  ⟨{ shared := .started startedAt }, []⟩

end Dashboards

/-! ## What is broadcast is on record -/

namespace Process

variable (deps : PipelineDependencies)

/-- The process does to the pipeline what the pipeline's server does. -/
theorem resume_server {task : ProcessTask} {own : Pipeline.ServerTask}
    (behind : task.server? = some own) (w : ServerState) :
    ((system deps).resume task w).shared.pipeline =
      ((Pipeline.server deps).resume own w.pipeline).shared := by
  rcases task with (task | handling) | (task | task | task) | (task | task) <;> cases behind <;> rfl

end Process

/-- What the variable of a task holds by the time it is broadcast. -/
def ProcessTask.Knows (w : ServerState) (actions : List RecommendedAction) : ProcessTask → Prop
  | .inl (.inl (.advising update)) => w.OnRecord (.actionListUpdate update.gate.gateId actions)
  | _ => True

/-- What the tasks of the pipeline are going to broadcast is on record. -/
def ProcessTask.OnRecord (w : ServerState) : ProcessTask → Prop :=
  Sum.elim
    (Sum.elim (fun task => task.CarriesOwnResult ∧ task.OnRecord w.pipeline) fun _ => True)
    (Sum.elim (fun _ => True) fun _ => True)

/-- What a task of the process is going to store or broadcast is in order. -/
abbrev ProcessTask.InOrder (w : ServerState) (task : ProcessTask) : Prop :=
  Sum.elim (fun _ => True) (Sum.elim (fun _ => True) (Sum.elim w.Supports fun _ => True)) task ∧
    task.OnRecord w

/-- The alerts are filed, and the audited actions are under their own ids. -/
abbrev ServerState.InStep (w : ServerState) : Prop :=
  w.AlertsFiled ∧ w.pipeline.audit.ActionsOwn

/-- No alert and no record is taken back. -/
abbrev ServerState.Lasts (w w' : ServerState) : Prop :=
  w.AlertsLast w' ∧ RecordsLast w.pipeline w'.pipeline

theorem ServerState.Lasts.refl (w : ServerState) : w.Lasts w :=
  ⟨.refl w, .refl w.pipeline⟩

namespace Process

variable (deps : PipelineDependencies)

theorem operations_recordsLast : (operations deps).Guarantee (fun _ => True)
    (·.audit.ActionsOwn) RecordsLast (fun _ _ => True) := by
  have parts := FanNudgeDeliveryWorker.recordsLast.sum
    ((DataQualityCheck.recordsLast deps.gates).sum ShuttleRedirectionApi.recordsLast)
  refine ⟨fun e s _ own => ?_, fun task s own _ => ?_, fun _ _ _ _ _ => trivial⟩
  · obtain ⟨kept, last, -⟩ :=
      parts.stimulate e s (by rcases e with e | e | e <;> trivial) own
    exact ⟨kept, last, fun _ _ => trivial⟩
  · obtain ⟨kept, last, -⟩ :=
      parts.resume task s own (by rcases task with task | task | task <;> trivial)
    exact ⟨kept, last, fun _ _ => trivial⟩

/-- What reaches the process from its routes and timers. -/
abbrev Within : ProcessStimulus → Prop :=
  Sum.elim (IngestionStimulus.Within PipelineStimulus.Own)
    (Sum.elim (fun _ => True) fun _ => True)

theorem onRecord : (system deps).Guarantee Within ServerState.InStep ServerState.Lasts
    fun w task => task.InOrder w := by
  have records := guarantee_of_parts (Pipeline.onRecord deps) (operations_recordsLast deps)
    (fun _ => trivial) .refl fun s redis own => ⟨own, .of_eq rfl rfl⟩
  exact ((guarantee deps).restrict (by rintro (e | e | e | e) - <;> trivial)).and records

end Process

theorem ServerState.OnRecord.mono {w w' : ServerState} (last : w.Lasts w')
    {event : DashboardStreamEvent} (so : w.OnRecord event) : w'.OnRecord event := by
  obtain ⟨alerts, records⟩ := last
  cases event with
  | alert alert =>
      obtain ⟨record, stored, same⟩ := so
      obtain ⟨later, stored', same', -⟩ := alerts.lasts _ _ stored
      exact ⟨later, stored', same'.trans same⟩
  | scoreUpdate point => exact records.hasScore so
  | actionListUpdate gateId actions =>
      intro action listed
      exact ⟨(so action listed).1, records.actions _ (so action listed).2⟩
  | redirectionUpdate redirection =>
      exact ⟨records.redirections _ so.1, records.lists _ so.2⟩

namespace Process

variable (deps : PipelineDependencies)

/-- Only the task that has published its actions goes on to look for redirections. -/
theorem knows_continued {task next : ProcessTask} {w : ServerState}
    {actions : List RecommendedAction} (own : w.pipeline.audit.ActionsOwn) (fine : task.OnRecord w)
    (goes : next ∈ ((system deps).resume task w).continued) :
    next.Knows ((system deps).resume task w).shared
      ((broadcastSites deps).next actions task) := by
  rcases task with (task | handling) | operation | beside
  · have goes : ((Pipeline.resume deps task w.pipeline).continued.map Sum.inl).map Sum.inl =
      some next := goes
    rw [Option.map_map] at goes
    obtain ⟨own, left, rfl⟩ := Option.map_eq_some_iff.mp goes
    have follows := Pipeline.resume_follows deps task w.pipeline own
      (List.mem_append_left _ (Option.mem_toList.mpr left))
    cases follows with
    | listed update published =>
        -- the stretch that hands the actions on is the one that audits them
        have written := own.write fun action listed => (fine.2 action listed).2
        exact fun action listed => ⟨(fine.2 action listed).1, written.2.1 action listed⟩
    | _ => trivial
  -- nothing else comes to look for redirections
  · have goes : (Ingestion.callNext deps handling w.ingestion).continued.map Sum.inl =
      some next := goes
    unfold Ingestion.callNext at goes
    split at goes
    · cases goes
    · cases goes
      trivial
  · obtain ⟨own, left, rfl⟩ := Option.map_eq_some_iff.mp goes
    trivial
  · obtain ⟨own, left, rfl⟩ := Option.map_eq_some_iff.mp goes
    trivial

theorem eq_inl_of_server? {task : ProcessTask} {own : PipelineTask}
    (behind : task.server? = some (.inl own)) : task = .inl (.inl own) := by
  rcases task with (task | handling) | (task | task | task) | (task | task) <;> cases behind
  rfl

/-- **What the process broadcasts is on record.** -/
theorem truthful : (system deps).Truthful (broadcastSites deps) Within ServerState.InStep
    ServerState.Lasts (fun w task => task.InOrder w) (fun w actions task => task.Knows w actions)
    ServerState.OnRecord where
  lasts w w' event moved so := so.mono moved
  known w w' actions task moved known := by
    rcases task with (task | handling) | operation | beside
    · cases task with
      | advising update =>
          have so : w.OnRecord (.actionListUpdate update.gate.gateId actions) := known
          exact so.mono moved
      | _ => trivial
    all_goals trivial
  begins w task := by
    rcases task with (task | handling) | operation | beside
    · cases task with
      | advising update => exact fun action impossible => absurd impossible List.not_mem_nil
      | _ => trivial
    all_goals trivial
  continues w actions task inv fine _ next goes := knows_continued deps inv.2 fine.2 goes
  onStimulus stimulus w site now _ due := by
    rcases stimulus with stimulus | operation | beside
    · cases stimulus with
      | handleSignal uuid rawPayload => cases due
      | other stimulus quiet =>
          cases stimulus with
          -- the only stimulus with a broadcast is a score of somebody else's
          | congestionScore message => exact absurd now id
          | _ => cases due
    · cases due
    · cases due
  onResume actions task w site inv fine known due := by
    obtain ⟨own, behind, broadcasts⟩ := Option.bind_eq_some_iff.mp due
    obtain ⟨⟨filed, -⟩, ⟨-, last⟩, -⟩ := (onRecord deps).resume task w inv fine
    have raised := (Pipeline.broadcast_stored deps broadcasts).1
    have what := Pipeline.broadcasts_of_onResume broadcasts
    obtain ⟨event, caught⟩ := site
    cases what with
    | raised _ alert =>
        -- stored by the pipeline in this stretch, and so filed for the dispatchers
        have stored := raised alert rfl
        rw [← resume_server deps behind] at stored
        exact Option.map_eq_some_iff.mp ((filed.filed alert.alertId).trans stored)
    | scored update point current =>
        obtain rfl := eq_inl_of_server? behind
        exact last.hasScore (fine.2.2.2 point current)
    | listed update =>
        obtain rfl := eq_inl_of_server? behind
        have so : w.OnRecord (.actionListUpdate update.gate.gateId actions) := known
        intro action listed
        exact ⟨(so action listed).1, last.actions _ (so action listed).2⟩
    | redirected update redirection rest =>
        obtain rfl := eq_inl_of_server? behind
        exact ⟨List.mem_append_right _ List.mem_cons_self, last.lists redirection fine.2.2⟩

end Process

namespace Dashboards

variable {Connection : Type}

/-- The connection has been let in by one of the arrivals. -/
def Admitted (apiKeys : OrderedMap String (List Role))
    (arrivals : List (DashboardArrival Connection)) (connection : Connection) : Prop :=
  ∃ pathname apiKey, .upgrade pathname apiKey connection ∈ arrivals ∧
    upgradeAuthorized apiKeys pathname apiKey = true

/-- What the process and its hub can read, and of which arrival. -/
inductive Reads (apiKeys : OrderedMap String (List Role)) : DashboardArrival Connection →
    StreamStimulus ProcessStimulus Connection DashboardStreamEvent → Prop where
  | server (arrival stimulus) (passed : Gateway.read apiKeys arrival = some stimulus) :
      Reads apiKeys (.server arrival) (.event stimulus)
  | upgrade (pathname apiKey connection)
      (authorized : upgradeAuthorized apiKeys pathname apiKey = true) :
      Reads apiKeys (.upgrade pathname apiKey connection) (.register connection)
  | closed (connection) : Reads apiKeys (.closed connection) (.unregister connection)
  | faults (throws) : Reads apiKeys (.faults throws) (.faults throws)

theorem reads_of_read {apiKeys : OrderedMap String (List Role)}
    {arrival : DashboardArrival Connection}
    {stimulus : StreamStimulus ProcessStimulus Connection DashboardStreamEvent}
    (passed : read apiKeys arrival = some stimulus) : Reads apiKeys arrival stimulus := by
  cases arrival with
  | server arrival =>
      have passed : (Gateway.read apiKeys arrival).map StreamStimulus.event = some stimulus :=
        passed
      obtain ⟨own, asked, rfl⟩ := Option.map_eq_some_iff.mp passed
      exact .server arrival own asked
  | upgrade pathname apiKey connection =>
      have passed : (if upgradeAuthorized apiKeys pathname apiKey then
        some (StreamStimulus.register connection) else none) = some stimulus := passed
      split at passed
      · next authorized =>
          cases passed
          exact .upgrade pathname apiKey connection authorized
      · cases passed
  | closed connection =>
      cases passed
      exact .closed connection
  | faults throws =>
      cases passed
      exact .faults throws

theorem reads_of_heeded {apiKeys : OrderedMap String (List Role)}
    {choice : Choice (DashboardArrival Connection)}
    {stimulus : StreamStimulus ProcessStimulus Connection DashboardStreamEvent}
    (heard : .stimulus stimulus ∈ heeded (read apiKeys) choice) :
    ∃ arrival, choice = .stimulus arrival ∧ Reads apiKeys arrival stimulus := by
  cases choice with
  | resume position => cases heard
  | stimulus arrival =>
      obtain ⟨own, passed, same⟩ := Option.map_eq_some_iff.mp heard
      cases same
      exact ⟨arrival, rfl, reads_of_read passed⟩

/-- What the process and its hub read is in order. -/
theorem within_read {apiKeys : OrderedMap String (List Role)}
    {arrivals : List (DashboardArrival Connection)} {arrival : DashboardArrival Connection}
    (listed : arrival ∈ arrivals)
    {stimulus : StreamStimulus ProcessStimulus Connection DashboardStreamEvent}
    (passed : read apiKeys arrival = some stimulus) :
    stimulus.Within Process.Within (Admitted apiKeys arrivals) := by
  cases reads_of_read passed with
  | server arrival own asked => exact Gateway.own_read asked
  | upgrade pathname apiKey connection authorized => exact ⟨pathname, apiKey, listed, authorized⟩
  | closed connection => trivial
  | faults throws => trivial

variable [DecidableEq Connection]

/-- What holds of the server and its dashboards after every run. -/
theorem reached (apiKeys : OrderedMap String (List Role)) (deps : PipelineDependencies)
    (startedAt : ℤ) (schedule : List (Choice (DashboardArrival Connection))) :
    let c := (system apiKeys deps).run (opened startedAt) schedule
    c.shared.shared.InStep ∧
      HeardSo ServerState.OnRecord (Admitted apiKeys (stimuli schedule)) c.shared ∧
      ∀ task ∈ c.suspended, task.2.InOrder c.shared.shared := by
  intro c
  have guarantee := (Process.onRecord deps).streaming ServerState.Lasts.refl
    (Process.truthful deps) (Admitted apiKeys (stimuli schedule))
  have filed : (ServerState.started startedAt).AlertsFiled :=
    ⟨⟨fun _ _ => rfl, fun _ _ impossible => by cases impossible⟩, fun _ => rfl,
      List.forall_mem_nil _⟩
  have run : c = ((Process.system deps).streaming (Process.broadcastSites deps)).run
      (opened startedAt) (schedule.filterMap (heeded (read apiKeys))) :=
    run_heeding _ _ _ _
  obtain ⟨⟨inStep, heard⟩, -, fine⟩ := guarantee.run (fun w => .refl _)
    (fun u v w first second => ⟨first.1.trans second.1, first.2.trans second.2⟩)
    (opened startedAt) (schedule.filterMap (heeded (read apiKeys)))
    ⟨⟨filed, fun _ _ impossible => by cases impossible⟩, List.nodup_nil, List.forall_mem_nil _,
      List.forall_mem_nil _⟩
    (List.forall_mem_nil _) fun stimulus listed => by
      rw [stimuli_heeded] at listed
      obtain ⟨arrival, arrived, passed⟩ := List.mem_filterMap.mp listed
      exact within_read arrived passed
  rw [← run] at inStep heard fine
  exact ⟨inStep, heard, fun task suspended => (fine task suspended).1⟩

/-- **Dashboards hear only what is on record.** After any run of the server with its
dashboards, whatever sends throw: everything a dashboard was ever sent is on record, the
alert in the alert store as it was raised, the score in the audit, each of the gate's
actions in the audit, under its id as one of its gate, type and time, the redirection in
the audit and in the store of its route; and every connection that was sent anything had
been let in with a key that `verifyApiKey` accepts with a role of the stream. -/
theorem dashboards_hear_what_is_on_record (apiKeys : OrderedMap String (List Role))
    (deps : PipelineDependencies) (startedAt : ℤ)
    (schedule : List (Choice (DashboardArrival Connection))) :
    let s := ((system apiKeys deps).run (opened startedAt) schedule).shared
    (∀ send ∈ s.hub.received, s.shared.OnRecord send.2) ∧
      ∀ send ∈ s.hub.received, Admitted apiKeys (stimuli schedule) send.1 := by
  intro s
  obtain ⟨-, heard, -⟩ := reached apiKeys deps startedAt schedule
  constructor
  · intro send listed
    exact (heard.sent send listed).2
  · intro send listed
    exact (heard.sent send listed).1

end Dashboards

end Stadium
