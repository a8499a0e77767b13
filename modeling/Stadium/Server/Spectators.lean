import Stadium.Lib.Omission
import Stadium.Server.Stream

/-!
# Spectators

The routes open to the AUDITOR role are the reading ones and the dashboard stream. So
whoever has no other role may read what there is and follow the stream, and nobody else
can tell: without the spectators' requests, the readers these have started and the
connections to the stream, everybody else's run is the same
(`spectators_leave_no_trace`), as long as no send throws.
-/

namespace Stadium

open Interleaving TaskSystem

namespace Gateway

variable (apiKeys : OrderedMap String (List Role))

/-- The key presented, if `verifyApiKey` accepts it, has no role but AUDITOR. -/
def Spectator (headers : KeyHeaders) : Prop :=
  ∀ roles, verifyApiKey apiKeys (extractApiKey headers) = some roles →
    ∀ role ∈ roles, role = .auditor

/-- A route that lets an auditor through is a reading one. -/
theorem command_of_auditor {endpoint : Endpoint} (allowed : .auditor ∈ endpoint.allowedRoles) :
    ∃ query, endpoint.command = .inr (.inr (.inr query)) := by
  cases endpoint with
  | postSignals uuid body => simp [Endpoint.allowedRoles] at allowed
  | executeAction gateId actionId userId => simp [Endpoint.allowedRoles] at allowed
  | decideRedirection decision routeId recId dispatcherId =>
      simp [Endpoint.allowedRoles] at allowed
  | acknowledgeAlert alertId userId => simp [Endpoint.allowedRoles] at allowed
  | _ => exact ⟨_, rfl⟩

/-- A spectator's request is refused, or it reads. -/
theorem read_of_spectator {request : HttpRequest} (spectator : Spectator apiKeys request.headers)
    {stimulus : ProcessStimulus} (passed : read apiKeys (.request request) = some stimulus) :
    ∃ query, stimulus = .inr (.inr (.inr query)) := by
  unfold read at passed
  simp only at passed
  split at passed
  · next granted =>
      obtain ⟨actorRole, rawKey, answer⟩ := granted
      obtain ⟨rfl, allowed, roles, verified, listed⟩ := requireRole_granted answer
      obtain rfl := spectator roles verified actorRole listed
      obtain ⟨query, reads⟩ := command_of_auditor allowed
      exact ⟨query, (Option.some.inj passed).symm.trans reads⟩
  · cases passed

end Gateway

/-- The task is a handler of a reading route. -/
def ProcessTask.Reads (task : ProcessTask) : Prop :=
  ∃ reader, task = .inr (.inr (.inr reader))

namespace Dashboards

variable {Connection : Type}

/-- The arrival is one of the requests. -/
def requests (onlooking : HttpRequest → Bool) : DashboardArrival Connection → Bool
  | .server (.request request) => onlooking request
  | _ => false

/-- The arrival is the upgrade of one of the connections. -/
def upgrades (eyes : Connection → Bool) : DashboardArrival Connection → Bool
  | .upgrade _ _ connection => eyes connection
  | _ => false

/-- The choice is not the upgrade of one of the connections. -/
def upgradesOthers (eyes : Connection → Bool) : Choice (DashboardArrival Connection) → Bool
  | .stimulus arrival => !upgrades eyes arrival
  | .resume _ => true

theorem stimuli_upgradesOthers (eyes : Connection → Bool)
    (schedule : List (Choice (DashboardArrival Connection))) :
    stimuli (schedule.filter (upgradesOthers eyes)) =
      (stimuli schedule).filter (!upgrades eyes ·) := by
  unfold stimuli
  rw [List.filterMap_filter, List.filter_filterMap]
  refine List.filterMap_congr fun choice _ => ?_
  cases choice with
  | resume position => rfl
  | stimulus arrival => cases own : upgrades eyes arrival <;>
        simp [upgradesOthers, Option.filter_some, own]

variable (apiKeys : OrderedMap String (List Role))

/-- To the hub, leaving out upgrades is leaving out registrations. -/
theorem heeded_upgradesOthers (eyes : Connection → Bool)
    (schedule : List (Choice (DashboardArrival Connection))) :
    (schedule.filter (upgradesOthers eyes)).filterMap (heeded (read apiKeys)) =
      (schedule.filterMap (heeded (read apiKeys))).filter (registersOthers eyes) := by
  rw [List.filterMap_filter, List.filter_filterMap]
  refine List.filterMap_congr fun choice _ => ?_
  cases choice with
  | resume position => rfl
  | stimulus arrival =>
      cases arrival with
      | server arrival =>
          cases asked : Gateway.read apiKeys arrival <;>
            simp [upgradesOthers, upgrades, heeded, read, asked, registersOthers,
              Option.filter_some]
      | upgrade pathname apiKey connection =>
          cases own : eyes connection <;>
            cases open_ : upgradeAuthorized apiKeys pathname apiKey <;>
            simp [upgradesOthers, upgrades, heeded, read, own, open_, registersOthers,
              Option.filter_some]
      | _ => rfl

variable [DecidableEq Connection] (deps : PipelineDependencies)

/-- A reader reads, and goes on. -/
theorem resume_reader (actions : List RecommendedAction) (reader : ReadTask) (w : ServerState)
    (hub : Hub Connection DashboardStreamEvent) :
    (system apiKeys deps).resume (actions, .inr (.inr (.inr reader))) ⟨w, hub, true⟩ =
      ⟨⟨w, hub, true⟩, (ReadRoutes.next deps.gates reader w.pipeline).map fun following =>
        (actions, .inr (.inr (.inr following))), []⟩ := by
  have own : (Process.system deps).resume (.inr (.inr (.inr reader))) w =
      ⟨w, (ReadRoutes.next deps.gates reader w.pipeline).map fun following =>
        .inr (.inr (.inr following)), []⟩ := by
    cases following : ReadRoutes.next deps.gates reader w.pipeline <;>
      simp [Process.system, TaskSystem.sum, ReadRoutes.system, Stretch.map, following]
  simp [system, heeding, streaming, own, Process.broadcastSites, ProcessTask.server?,
    Streamed.broadcasting, Function.comp_def]

/-- The spectators' requests and the readers they start leave everything as it is. -/
theorem idles {onlooking : HttpRequest → Bool}
    (only : ∀ request, onlooking request = true → Gateway.Spectator apiKeys request.headers) :
    (system apiKeys deps).Idles (requests onlooking : DashboardArrival Connection → Bool)
      fun task => task.2.Reads := by
  constructor
  · rintro arrival ⟨w, hub, up⟩ out
    obtain ⟨request, rfl⟩ : ∃ request, arrival = .server (.request request) := by
      cases arrival with
      | server arrival => cases arrival <;> first | exact ⟨_, rfl⟩ | cases out
      | _ => cases out
    cases asked : Gateway.read apiKeys (.request request) with
    | none =>
        have refused : (system apiKeys deps).stimulate (.server (.request request)) ⟨w, hub, up⟩ =
            (⟨w, hub, up⟩, []) := by
          simp [system, heeding, read, asked]
        rw [refused]
        exact ⟨rfl, List.forall_mem_nil _⟩
    | some stimulus =>
        obtain ⟨query, rfl⟩ := Gateway.read_of_spectator apiKeys (only request out) asked
        have heard : (system apiKeys deps).stimulate (.server (.request request)) ⟨w, hub, up⟩ =
            ((Process.system deps).streaming (Process.broadcastSites deps)).stimulate
              (.event (.inr (.inr (.inr query)))) ⟨w, hub, up⟩ := by
          simp [system, heeding, read, asked]
        rw [heard]
        cases up with
        | false => exact ⟨rfl, List.forall_mem_nil _⟩
        | true =>
            refine ⟨rfl, fun task started => ?_⟩
            rw [List.mem_singleton.mp started]
            exact ⟨_, rfl⟩
  · rintro ⟨actions, _⟩ ⟨w, hub, up⟩ ⟨reader, rfl⟩
    cases up with
    | false =>
        refine ⟨rfl, fun next left => ?_⟩
        rw [List.mem_singleton.mp left]
        exact ⟨reader, rfl⟩
    | true =>
        refine ⟨rfl, fun next left => ?_⟩
        rw [resume_reader] at left
        simp only [Stretch.successors, List.append_nil, Option.mem_toList] at left
        obtain ⟨following, -, rfl⟩ := Option.map_eq_some_iff.mp left
        exact ⟨following, rfl⟩

/-- The schedule without the requests, the tasks they start, and the connections. -/
def withoutSpectators (onlooking : HttpRequest → Bool) (eyes : Connection → Bool)
    (c : Config (Streamed ServerState Connection DashboardStreamEvent)
      (List RecommendedAction × ProcessTask))
    (schedule : List (Choice (DashboardArrival Connection))) :
    List (Choice (DashboardArrival Connection)) :=
  (system apiKeys deps).leavingOut (requests onlooking) (unmarked (withoutConnections eyes c))
    (schedule.filter (upgradesOthers eyes))

/-- **Spectators leave no trace.** Take any run in which no send throws, any requests with
keys that are unknown or only AUDITOR's, and any connections to the stream. Without the
requests, the readers they start and the connections, the run leads to the same memory
and has sent every other dashboard the same, and the tasks suspended at its end are those
of the whole run but for some readers. -/
theorem spectators_leave_no_trace
    (c : Config (Streamed ServerState Connection DashboardStreamEvent)
      (List RecommendedAction × ProcessTask))
    (schedule : List (Choice (DashboardArrival Connection))) (onlooking : HttpRequest → Bool)
    (eyes : Connection → Bool)
    (only : ∀ request, onlooking request = true → Gateway.Spectator apiKeys request.headers)
    (quiet : (system apiKeys deps).Guarded (HeededGuard (read apiKeys)
      (QuietStep (Process.system deps) (Process.broadcastSites deps))) c schedule) :
    let pruned := withoutSpectators apiKeys deps onlooking eyes c schedule
    let d := (system apiKeys deps).run c schedule
    let d' := (system apiKeys deps).run (withoutConnections eyes c) pruned
    stimuli pruned = (stimuli schedule).filter
        (fun arrival => !requests onlooking arrival && !upgrades eyes arrival) ∧
      d'.shared = d.shared.without eyes ∧
      (∀ connection, eyes connection = false →
        d'.shared.hub.receivedBy connection = d.shared.hub.receivedBy connection) ∧
      ∃ tasks, tasks.map Prod.snd = d.suspended ∧ otherTasks tasks = d'.suspended ∧
        ∀ task ∈ tasks, task.1 = true → task.2.2.Reads := by
  intro pruned d d'
  let attended := schedule.filter (upgradesOthers eyes)
  let e := ((system apiKeys deps).marked (requests onlooking)).run
    (unmarked (withoutConnections eyes c)) attended
  -- first the connections go, then the requests
  have unseen : (system apiKeys deps).run (withoutConnections eyes c) attended =
      withoutConnections eyes d := by
    have without := (Process.system deps).run_without (Process.broadcastSites deps) eyes
      (guarded_heeding _ (read apiKeys) quiet)
    rw [← heeded_upgradesOthers, ← run_heeding, ← run_heeding] at without
    exact without
  have marks : unmark e = withoutConnections eyes d := by
    rw [← unseen]
    exact ((system apiKeys deps).unmark_run _ _).trans (by rw [unmark_unmarked])
  have omitted : d' = others e := by
    have run := (idles apiKeys deps only).run_leavingOut
      (markedIdle_unmarked _ (withoutConnections eyes c)) attended
    rw [others_unmarked] at run
    exact run
  have shared : d'.shared = d.shared.without eyes := by
    rw [omitted]
    exact congrArg Config.shared marks
  refine ⟨?_, shared, fun connection other => ?_, e.suspended, ?_, ?_, ?_⟩
  · have kept := (system apiKeys deps).stimuli_leavingOut (requests onlooking)
      (unmarked (withoutConnections eyes c)) attended
    rw [stimuli_upgradesOthers, List.filter_filter] at kept
    exact kept
  · rw [shared]
    exact Hub.receivedBy_without d.shared.hub other
  · exact congrArg Config.suspended marks
  · rw [omitted]
    rfl
  · exact (idles apiKeys deps only).run (markedIdle_unmarked _ _) attended

/-- An auditor asks for the gates. -/
def auditorsQuery : HttpRequest := ⟨⟨none, some "eye"⟩, .getDashboardGates⟩

/-- And tries to acknowledge an alert. -/
def auditorsAttempt : HttpRequest := ⟨⟨none, some "eye"⟩, .acknowledgeAlert 0 "someone"⟩

/-- Gate A is scored, while an auditor follows the stream and does both. -/
def watchedTick : List (Choice (DashboardArrival ℕ)) :=
  [.stimulus (.upgrade "/v1/dashboard/stream" (some "eye") 0),
    .stimulus (.server (.request auditorsQuery)), .stimulus (.server (.tick demoGateA.gateId)),
    .stimulus (.server (.request auditorsAttempt)), .resume 0] ++
  List.replicate 4 (.resume 1)

/-- The auditor hears of the score and has a query under way, and might as well not be
there. -/
theorem spectators_leave_no_trace_demo :
    let apiKeys := parseApiKeys (some "eye:AUDITOR")
    let pruned := withoutSpectators apiKeys demoDependencies
      (fun request => decide (request.headers = auditorsQuery.headers)) (fun _ => true) (opened 0)
      watchedTick
    let d := (system apiKeys demoDependencies).run (opened 0) watchedTick
    let d' := (system apiKeys demoDependencies).run (opened 0) pruned
    d'.shared = d.shared.without (fun _ => true) ∧
      (d.shared.hub.received.length, d.suspended.length, pruned.length, d'.suspended.length) =
        (1, 2, 5, 1) := by
  intro apiKeys pruned d d'
  have auditor : verifyApiKey apiKeys (extractApiKey auditorsQuery.headers) = some [.auditor] := by
    decide +kernel
  refine ⟨(spectators_leave_no_trace apiKeys demoDependencies (opened 0) watchedTick
    (fun request => decide (request.headers = auditorsQuery.headers)) (fun _ => true) ?_
    (by decide +kernel)).2.1, by decide +kernel⟩
  intro request own roles verified role listed
  rw [of_decide_eq_true own, auditor] at verified
  cases verified
  exact List.mem_singleton.mp listed

end Dashboards

end Stadium
