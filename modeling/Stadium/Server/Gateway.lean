import Stadium.Infra.RequestKey
import Stadium.Pipeline.Flow
import Stadium.Server.Process

/-!
# Requests and the roles behind them

The routes of `server.ts`: what each route asks of the process, and which roles
`requireRole` lets through to it. A refused request asks nothing.

Every decision that any store of the process shows, at any point of any run, goes
back to a request that `requireRole` let through to its route, and bears the name that
request gave (`every_decision_is_authorised`).
-/

namespace Stadium

open Interleaving TaskSystem

/-- The routes under `requireRole`, with what the process needs of a request. The
bodies of the operators' routes are taken as the handlers cast them. The upgrade to
`/v1/dashboard/stream` does not pass `requireRole`; it is `DashboardArrival.upgrade`. -/
inductive Endpoint where
  /-- `POST /v1/signals`, with the id `randomUUID` would return. -/
  | postSignals (uuid : String) (body : Option Json)
  | getSourceStatus (gateOrRouteId : String)
  | getForecast (gateId : GateId)
  | getActions (gateId : GateId)
  | executeAction (gateId : GateId) (actionId userId : String)
  | getRedirections (routeId : RouteId)
  /-- Both `…/accept` and `…/reject`. -/
  | decideRedirection (decision : RedirectionDecision) (routeId : RouteId)
      (recId dispatcherId : String)
  | getNudges (gateId : Option GateId) (fanId : Option FanId)
  | getDashboardGates
  | acknowledgeAlert (alertId : ℕ) (userId : String)
  | getAuditScores (gateId : Option GateId) (from? to? : Option String)
  | getAuditActions (gateId : Option GateId) (from? to? : Option String)
  | getAuditNudges (fanId : Option FanId) (gateId : Option GateId) (from? to? : Option String)

namespace Endpoint

/-- The roles a route is registered with. -/
def allowedRoles : Endpoint → List Role
  | .postSignals .. => [.ingestionSource]
  | .getSourceStatus _ => [.venueOpsManager, .gateStaff, .transitDispatcher, .auditor]
  | .getForecast _ => [.venueOpsManager, .gateStaff, .transitDispatcher, .auditor]
  | .getActions _ => [.venueOpsManager, .gateStaff, .auditor]
  | .executeAction .. => [.venueOpsManager, .gateStaff]
  | .getRedirections _ => [.transitDispatcher, .auditor]
  | .decideRedirection .. => [.transitDispatcher]
  | .getNudges .. => [.venueOpsManager, .auditor]
  | .getDashboardGates => [.venueOpsManager, .gateStaff, .transitDispatcher, .auditor]
  | .acknowledgeAlert .. => [.venueOpsManager, .transitDispatcher]
  | .getAuditScores .. => [.venueOpsManager, .auditor]
  | .getAuditActions .. => [.venueOpsManager, .auditor]
  | .getAuditNudges .. => [.venueOpsManager, .auditor]

/-- The call the handler of a route makes. -/
def command : Endpoint → ProcessStimulus
  | .postSignals uuid body => .inl (.handleSignal uuid body)
  | .executeAction gateId actionId userId =>
      .inl (.other (.executeAction gateId actionId userId) rfl)
  | .decideRedirection decision routeId recId dispatcherId =>
      .inr (.inl (.inr (.inr (.decide decision routeId recId dispatcherId))))
  | .acknowledgeAlert alertId userId => .inr (.inr (.inl (.acknowledgeAlert alertId userId)))
  | .getSourceStatus gateOrRouteId => .inr (.inr (.inr (.getStatus gateOrRouteId)))
  | .getForecast gateId => .inr (.inr (.inr (.getForecast gateId)))
  | .getActions gateId => .inr (.inr (.inr (.getActions gateId)))
  | .getRedirections routeId => .inr (.inr (.inr (.getRedirections routeId)))
  | .getNudges gateId fanId => .inr (.inr (.inr (.getNudges gateId fanId)))
  | .getDashboardGates => .inr (.inr (.inr .getSnapshot))
  | .getAuditScores gateId from? to? => .inr (.inr (.inr (.getScores { gateId, from?, to? })))
  | .getAuditActions gateId from? to? =>
      .inr (.inr (.inr (.getAuditedActions { gateId, from?, to? })))
  | .getAuditNudges fanId gateId from? to? =>
      .inr (.inr (.inr (.getAuditedNudges { fanId, gateId, from?, to? })))

end Endpoint

structure HttpRequest where
  headers : KeyHeaders
  endpoint : Endpoint

/-- What reaches the running server. -/
inductive ServerArrival where
  | request (request : HttpRequest)
  /-- Time passes. -/
  | advance (ms : ℕ)
  /-- The timer of a gate fires. -/
  | tick (gateId : GateId)
  /-- The interval of the delivery worker elapses. -/
  | deliverNudges
  /-- The interval of the data-quality check elapses. -/
  | checkSources

namespace Gateway

variable (apiKeys : OrderedMap String (List Role)) (deps : PipelineDependencies)

/-- `requireRole` has let the request through. -/
def Granted (request : HttpRequest) : Prop :=
  ∃ actorRole rawKey,
    requireRole apiKeys request.endpoint.allowedRoles request.headers = .granted actorRole rawKey

instance (request : HttpRequest) : Decidable (Granted apiKeys request) :=
  match answer : requireRole apiKeys request.endpoint.allowedRoles request.headers with
  | .granted actorRole rawKey => isTrue ⟨actorRole, rawKey, answer⟩
  | .unauthorized | .forbidden => isFalse fun ⟨_, _, granted⟩ => by
      rw [answer] at granted
      cases granted

/-- What an arrival asks of the process. -/
def read (arrival : ServerArrival) : Option ProcessStimulus :=
  match arrival with
  | .request request => if Granted apiKeys request then some request.endpoint.command else none
  | .advance ms => some (.inl (.other (.advance ms) rfl))
  | .tick gateId => some (.inl (.other (.tick gateId) rfl))
  | .deliverNudges => some (.inr (.inl (.inl .interval)))
  | .checkSources => some (.inr (.inl (.inr (.inl .check))))

/-- The process behind its routes. -/
def system : TaskSystem ServerState ProcessTask ServerArrival :=
  (Process.system deps).heeding (read apiKeys)

end Gateway

/-! ## What a decision goes back to -/

section

variable (deps : PipelineDependencies) (granted : Endpoint → Prop)

/-- The event was posted in a granted request. -/
def Posted (event : SignalEvent) : Prop :=
  ∃ uuid body now, granted (.postSignals uuid body) ∧
    .publishSignalEvent event ∈ (Submission.handle deps.timingConfig ⟨uuid, body, now⟩).effects

/-- A request to decide so on the recommendation was granted. -/
def DecidedBy (decision : RedirectionDecision) (redirection : ShuttleRedirectionRecommendation)
    (dispatcherId : String) : Prop :=
  granted (.decideRedirection decision redirection.routeId redirection.recommendationId
    dispatcherId)

/-- The recommendation is rejected, in the name of somebody who was granted to. -/
def SignedRejection (redirection : ShuttleRedirectionRecommendation) : Prop :=
  redirection.rejectedAt.isSome = true ∧ ∃ dispatcherId,
    redirection.rejectedByDispatcherId = some dispatcherId ∧
      DecidedBy granted .reject redirection dispatcherId

/-- Whoever the record names has made a granted request for it, and the events it goes
back to were posted. Remembered rejections are spoken of in
`RedirectionState.InOrder`. -/
def Authorised : ServerRecord → Prop
  | .delivered event => Posted deps granted event
  | .signal gateId event => event.gateId = some gateId ∧ Posted deps granted event
  | .fan gateId fanId => ∃ event, Posted deps granted event ∧ event.Reports gateId fanId
  | .computation computation => ∀ event ∈ computation.window,
      event.gateId = some computation.gate.gateId ∧ Posted deps granted event
  | .action action => ∀ userId, action.executedByUserId = some userId →
      ∃ gateId, granted (.executeAction gateId action.actionId userId)
  | .redirection redirection =>
      (∀ dispatcherId, redirection.acceptedByDispatcherId = some dispatcherId →
        DecidedBy granted .accept redirection dispatcherId) ∧
      ∀ dispatcherId, redirection.rejectedByDispatcherId = some dispatcherId →
        DecidedBy granted .reject redirection dispatcherId
  | _ => True

/-- A route lists only its own recommendations, and every remembered rejection is that of
a recommendation as it was stored, rejected and signed. -/
structure RedirectionState.InOrder (s : RedirectionState) : Prop where
  routes : ∀ routeId, ∀ redirection ∈ s.getActiveRecommendations routeId,
    redirection.routeId = routeId
  rejections : ∀ rejection ∈ s.recentRejections, ∃ redirection ∈ s.stored,
    rejection.routeId = redirection.routeId ∧
      rejection.alternativeGateId = redirection.alternativeGateId ∧
      redirection.rejectedAt = some rejection.rejectedAt ∧ SignedRejection granted redirection

def AlertRecord.Authorised (record : AlertRecord) : Prop :=
  ∀ userId, record.acknowledgedByUserId = some userId →
    granted (.acknowledgeAlert record.alert.alertId userId)

/-- Nothing in any store of the process is decided by anyone unauthorised. -/
structure ServerState.OnlyAuthorised (w : ServerState) : Prop where
  records : ∀ r, w.pipeline.Holds r → Authorised deps granted r
  redirections : w.pipeline.redirections.InOrder granted
  alerts : ∀ alertId record, w.alertStore.get? alertId = some record →
    record.alert.alertId = alertId ∧ record.Authorised granted
  acknowledged : ∀ record ∈ w.acknowledged, record.Authorised granted

end

/-! ## The pipeline -/

section

variable {deps : PipelineDependencies} {granted : Endpoint → Prop}

/-- What the gateway passes on to the pipeline. -/
def PipelineStimulus.Allowed (granted : Endpoint → Prop) : PipelineStimulus → Prop
  | .executeAction gateId actionId userId => granted (.executeAction gateId actionId userId)
  | .advance _ | .tick _ => True
  | _ => False

/-- An execution in progress was granted. -/
def PipelineTask.Fit (granted : Endpoint → Prop) : PipelineTask → Prop
  | .readingActions gateId actionId userId _ | .locatingAction gateId actionId userId _ _ =>
      granted (.executeAction gateId actionId userId)
  | _ => True

/-- What an authorised event brings. -/
theorem authorised_brought {event : SignalEvent} {r : ServerRecord}
    (posted : Posted deps granted event) (brings : event.Brings deps r) :
    Authorised deps granted r := by
  cases r with
  | delivered listed =>
      cases brings
      exact posted
  | signal gateId listed =>
      obtain ⟨rfl, own⟩ := brings
      exact ⟨own, posted⟩
  | fan gateId fanId => exact ⟨event, posted, brings⟩
  | computation computation => exact absurd brings id
  | action action => exact absurd brings id
  | redirection redirection => exact absurd brings id
  | _ => trivial

theorem executedByUserId_generated {gate : Gate} {forecast : ForecastResult}
    {window : List SignalEvent} {action : RecommendedAction}
    (generated : action ∈ generateRecommendations gate forecast window) :
    action.executedByUserId = none := by
  unfold generateRecommendations at generated
  by_cases low : forecast.currentRiskLevel = .low
  · simp only [if_pos low, List.not_mem_nil] at generated
  · simp only [if_neg low, List.mem_map] at generated
    obtain ⟨ranked, -, rfl⟩ := generated
    rfl

/-- What is generated is not decided yet. -/
theorem authorised_made {task : PipelineTask} {s : PipelineState} {r : ServerRecord}
    (fit : task.Fit granted) (own : ∀ r, task.Carries r → Authorised deps granted r)
    (makes : task.Makes deps s r) : Authorised deps granted r := by
  cases task with
  | computing gate window =>
      cases makes
      exact fun event counted => own (.signal gate.gateId event) (.inr ⟨event, counted, rfl⟩)
  | publishingForecast computation =>
      rcases makes with rfl | rfl | rfl | ⟨alert, rfl, -⟩ | ⟨point, counted, -, rfl⟩ <;> trivial
  | recommending update window =>
      obtain ⟨action, generated, rfl⟩ := makes
      intro userId executed
      rw [executedByUserId_generated generated] at executed
      cases executed
  | advising update =>
      obtain ⟨redirection, generated, rfl⟩ := makes
      obtain ⟨-, route, -, -, alternativeGateId, -, -, -, rfl⟩ :=
        mem_generateRedirections.mp generated
      exact ⟨nofun, nofun⟩
  | decidingNudge update fan lastNudgeAt rest generated =>
      obtain ⟨nudge, -, rfl⟩ := makes
      trivial
  | locatingAction gateId actionId userId now actions =>
      obtain ⟨found, -, rfl, rfl⟩ := makes
      intro executor named
      cases named
      exact ⟨gateId, fit⟩
  | _ => exact absurd makes id

theorem PipelineTask.Fit.resume {task : PipelineTask} (fit : task.Fit granted) (s : PipelineState) :
    ∀ next ∈ (Pipeline.resume deps task s).successors, next.Fit granted := by
  intro next left
  have follows := Pipeline.resume_follows deps task s next left
  cases follows with
  | read => exact fit
  | _ => trivial

/-- A recommendation is stored under its own route. -/
theorem RedirectionState.InOrder.update {s : RedirectionState} (inOrder : s.InOrder granted)
    (updated : ShuttleRedirectionRecommendation) :
    (s.updateRecommendation updated).InOrder granted where
  routes routeId redirection listed := by
    rw [getActiveRecommendations_update] at listed
    split at listed
    · next own =>
        rcases mem_updateRecommendation listed with rfl | old
        · exact own.symm
        · exact inOrder.routes routeId redirection old
    · exact inOrder.routes routeId redirection listed
  rejections rejection listed := by
    obtain ⟨redirection, stored, same⟩ := inOrder.rejections rejection listed
    exact ⟨redirection, List.mem_append_left _ stored, same⟩

/-- What was stored stays on the list of what was. -/
abbrev PipelineState.StoredLasts (s t : PipelineState) : Prop :=
  s.redirections.stored ⊆ t.redirections.stored

/-- A part of the process that leaves the redirections alone. -/
theorem inOrder_of_unchanged {τ ε : Type} {S : TaskSystem PipelineState τ ε} {allowed : ε → Prop}
    {fit : τ → Prop}
    (stimulated : ∀ e s, (S.stimulate e s).1.redirections = s.redirections)
    (resumed : ∀ task s, (S.resume task s).shared.redirections = s.redirections)
    (started : ∀ e s, allowed e → ∀ task ∈ (S.stimulate e s).2, fit task)
    (left : ∀ task s, fit task → ∀ next ∈ (S.resume task s).successors, fit next) :
    S.Guarantee allowed (·.redirections.InOrder granted) PipelineState.StoredLasts
      (fun _ => fit) where
  stimulate e s now inOrder := by
    unfold PipelineState.StoredLasts
    rw [stimulated]
    exact ⟨inOrder, List.Subset.refl _, started e s now⟩
  resume task s inOrder fine := by
    unfold PipelineState.StoredLasts
    rw [resumed]
    exact ⟨inOrder, List.Subset.refl _, left task s fine⟩
  lasts _ _ _ _ fine := fine

theorem Pipeline.stimulate_redirections (stimulus : PipelineStimulus) (s : PipelineState) :
    (stimulate deps stimulus s).1.redirections = s.redirections := by
  cases stimulus <;> simp [stimulate, onCongestionScore]

theorem Pipeline.inOrder : (Pipeline.system deps).Guarantee (PipelineStimulus.Allowed granted)
    (·.redirections.InOrder granted) PipelineState.StoredLasts (fun _ => PipelineTask.Fit granted)
    where
  stimulate stimulus s allowed inOrder := by
    have same : (stimulate deps stimulus s).1.redirections = s.redirections :=
      stimulate_redirections stimulus s
    refine ⟨same.symm ▸ inOrder, fun _ stored => same.symm ▸ stored, fun task started => ?_⟩
    cases Pipeline.stimulate_starts deps stimulus s task started with
    | requested gateId actionId userId now => exact allowed
    | _ => trivial
  resume task s inOrder fit := by
    have left : ∀ next ∈ (resume deps task s).successors, next.Fit granted := fit.resume s
    cases task with
    | storingRedirection update redirection rest =>
        exact ⟨inOrder.update redirection, List.subset_append_left _ _, left⟩
    | computing gate window =>
        have same : (resume deps (.computing gate window) s).shared.redirections =
            s.redirections := by rw [resume_computing]; rfl
        exact ⟨same.symm ▸ inOrder, fun _ stored => same.symm ▸ stored, left⟩
    | decidingNudge update fan lastNudgeAt rest generated =>
        have same : (resume deps (.decidingNudge update fan lastNudgeAt rest generated)
            s).shared.redirections = s.redirections := by simp [resume]
        exact ⟨same.symm ▸ inOrder, fun _ stored => same.symm ▸ stored, left⟩
    | locatingAction gateId actionId userId now actions =>
        have same : (resume deps (.locatingAction gateId actionId userId now actions)
            s).shared.redirections = s.redirections := by simp [resume]
        exact ⟨same.symm ▸ inOrder, fun _ stored => same.symm ▸ stored, left⟩
    | _ => exact ⟨inOrder, List.Subset.refl _, left⟩
  lasts _ _ _ _ fit := fit

theorem Pipeline.authority : (Pipeline.system deps).Guarantee (PipelineStimulus.Allowed granted)
    (fun s => s.redirections.InOrder granted ∧ ∀ r, s.Holds r → Authorised deps granted r)
    PipelineState.StoredLasts
    (fun _ task => task.Fit granted ∧ ∀ r, task.Carries r → Authorised deps granted r) := by
  refine (Pipeline.flow deps).guarantee_lasting Pipeline.inOrder (fun _ => Authorised deps granted)
    (fun _ _ _ _ fine => fine) (fun stimulus s r allowed _ brings => ?_)
    (fun task s r _ fit own makes => authorised_made fit own makes)
  cases stimulus with
  | tick gateId =>
      obtain ⟨gate, -, rfl⟩ := brings
      trivial
  | advance ms => exact absurd brings id
  | executeAction gateId actionId userId => exact absurd brings id
  | _ => exact absurd allowed id

/-! ## The other parts -/

theorem FanNudgeDeliveryWorker.authority :
    FanNudgeDeliveryWorker.system.Guarantee (fun _ => True)
      (fun s => s.redirections.InOrder granted ∧ ∀ r, s.Holds r → Authorised deps granted r)
      PipelineState.StoredLasts
      (fun _ task => True ∧ ∀ r, task.Carries r → Authorised deps granted r) := by
  refine flow.guarantee_lasting (inOrder_of_unchanged (fun ⟨⟩ _ => rfl)
    (fun task s => by cases task <;> rfl) (fun _ _ _ _ _ => trivial) (fun _ _ _ _ _ => trivial))
    (fun _ => Authorised deps granted) (fun _ _ _ _ fine => fine)
    (fun _ _ _ _ _ impossible => absurd impossible id) (fun task s r _ _ _ makes => ?_)
  cases task with
  | delivering now queued =>
      obtain ⟨nudge, -, rfl⟩ := makes
      trivial
  | _ => exact absurd makes id

theorem DataQualityCheck.redirections_resume (gates : List Gate) (task : DataQualityTask)
    (s : PipelineState) : ((system gates).resume task s).shared.redirections = s.redirections := by
  cases task with
  | readingStatus gateId sources statuses => cases sources <;> rfl
  | readingAgain gateId sources statuses again => cases sources <;> rfl

theorem DataQualityCheck.authority :
    (DataQualityCheck.system deps.gates).Guarantee (fun _ => True)
      (fun s => s.redirections.InOrder granted ∧ ∀ r, s.Holds r → Authorised deps granted r)
      PipelineState.StoredLasts
      (fun _ task => True ∧ ∀ r, task.Carries r → Authorised deps granted r) := by
  refine (flow deps).guarantee_lasting (inOrder_of_unchanged
    (fun stimulus s => by cases stimulus <;> rfl) (redirections_resume deps.gates)
    (fun _ _ _ _ _ => trivial) (fun _ _ _ _ _ => trivial))
    (fun _ => Authorised deps granted) (fun _ _ _ _ fine => fine)
    (fun stimulus s r _ _ brings => ?_) (fun task s r _ _ _ makes => ?_)
  · cases stimulus with
    | check =>
        obtain ⟨gate, -, rfl⟩ := brings
        trivial
    | markActive sourceType gateOrRouteId => exact absurd brings id
  · cases task with
    | readingStatus gateId sources statuses => exact absurd makes id
    | readingAgain gateId sources statuses again =>
        obtain ⟨alert, rfl, -⟩ := makes
        trivial

/-- What the gateway passes on to the dispatchers' calls. -/
def DecisionStimulus.Allowed (granted : Endpoint → Prop) : DecisionStimulus → Prop
  | .advance _ => False
  | .decide decision routeId recommendationId dispatcherId =>
      granted (.decideRedirection decision routeId recommendationId dispatcherId)

/-- A decision in progress was granted. -/
def DecisionTask.Fit (granted : Endpoint → Prop) (s : PipelineState) : DecisionTask → Prop
  | .finding decision routeId recommendationId dispatcherId _ =>
      granted (.decideRedirection decision routeId recommendationId dispatcherId)
  | .found decision recommendation dispatcherId _ =>
      DecidedBy granted decision recommendation dispatcherId
  | .storing .reject updated => SignedRejection granted updated
  | .recordingRejection updated | .returning .reject updated =>
      updated ∈ s.redirections.stored ∧ SignedRejection granted updated
  | _ => True

theorem DecisionTask.Fit.mono {s t : PipelineState} (last : s.StoredLasts t) {task : DecisionTask}
    (fit : task.Fit granted s) : task.Fit granted t := by
  cases task with
  | recordingRejection updated => exact ⟨last fit.1, fit.2⟩
  | storing decision updated => cases decision <;> exact fit
  | returning decision updated =>
      cases decision with
      | accept => trivial
      | reject => exact ⟨last fit.1, fit.2⟩
  | _ => exact fit

theorem ShuttleRedirectionApi.inOrder_resume {task : DecisionTask} {s : PipelineState}
    (inOrder : s.redirections.InOrder granted) (fit : task.Fit granted s) :
    (resume task s).shared.redirections.InOrder granted ∧
      s.StoredLasts (resume task s).shared ∧
      ∀ next ∈ (resume task s).successors, next.Fit granted (resume task s).shared := by
  cases task with
  | finding decision routeId recommendationId dispatcherId now =>
      unfold resume
      simp only
      split
      · exact ⟨inOrder, List.Subset.refl _, fun _ impossible => absurd impossible List.not_mem_nil⟩
      · next recommendation located =>
          refine ⟨inOrder, List.Subset.refl _, fun next left => ?_⟩
          have named : recommendation.recommendationId = recommendationId := by
            simpa using List.find?_some located
          have route := inOrder.routes routeId recommendation (List.mem_of_find?_eq_some located)
          rw [List.mem_singleton.mp left]
          show granted (.decideRedirection decision recommendation.routeId
            recommendation.recommendationId dispatcherId)
          rw [named, route]
          exact fit
  | found decision recommendation dispatcherId now =>
      refine ⟨inOrder, List.Subset.refl _, fun next left => ?_⟩
      rw [List.mem_singleton.mp left]
      cases decision with
      | accept => trivial
      | reject => exact ⟨rfl, dispatcherId, rfl, fit⟩
  | storing decision updated =>
      have stored := inOrder.update updated
      cases decision with
      | accept =>
          refine ⟨stored, List.subset_append_left _ _, fun next left => ?_⟩
          rw [List.mem_singleton.mp left]
          trivial
      | reject =>
          refine ⟨stored, List.subset_append_left _ _, fun next left => ?_⟩
          rw [List.mem_singleton.mp left]
          exact ⟨List.mem_append_right _ List.mem_cons_self, fit⟩
  | recordingRejection updated =>
      refine ⟨inOrder, List.Subset.refl _, fun next left => ?_⟩
      rw [List.mem_singleton.mp left]
      exact fit
  | returning decision updated =>
      cases decision with
      | accept =>
          exact ⟨inOrder, List.Subset.refl _,
            fun _ impossible => absurd impossible List.not_mem_nil⟩
      | reject =>
          refine ⟨⟨inOrder.routes, fun rejection listed => ?_⟩, List.Subset.refl _,
            fun _ impossible => absurd impossible List.not_mem_nil⟩
          rcases List.mem_append.mp listed with old | new
          · exact inOrder.rejections rejection old
          · rw [List.mem_singleton.mp new]
            obtain ⟨time, dated⟩ := Option.isSome_iff_exists.mp fit.2.1
            refine ⟨updated, fit.1, rfl, rfl, ?_, fit.2⟩
            simp [rejectionRecordOf, dated]

/-- A decision is signed by whoever was granted it, and earlier ones stay signed. -/
theorem authorised_decided {decision : RedirectionDecision}
    {recommendation : ShuttleRedirectionRecommendation} {dispatcherId : String} {now : ℤ}
    (decided : DecidedBy granted decision recommendation dispatcherId)
    (before : Authorised deps granted (.redirection recommendation)) :
    Authorised deps granted (.redirection (decision.update recommendation dispatcherId now)) := by
  obtain ⟨accepted, rejected⟩ := before
  cases decision with
  | accept =>
      refine ⟨fun name signed => ?_, rejected⟩
      cases signed
      exact decided
  | reject =>
      refine ⟨accepted, fun name signed => ?_⟩
      cases signed
      exact decided

theorem ShuttleRedirectionApi.inOrder : system.Guarantee (DecisionStimulus.Allowed granted)
    (·.redirections.InOrder granted) PipelineState.StoredLasts
    (fun s task => task.Fit granted s) where
  stimulate stimulus s allowed inOrder := by
    cases stimulus with
    | advance ms => exact absurd allowed id
    | decide decision routeId recommendationId dispatcherId =>
        refine ⟨inOrder, List.Subset.refl _, fun task started => ?_⟩
        rw [List.mem_singleton.mp started]
        exact allowed
  resume _ _ inOrder fit := inOrder_resume inOrder fit
  lasts _ _ _ last fit := fit.mono last

theorem ShuttleRedirectionApi.authority : system.Guarantee (DecisionStimulus.Allowed granted)
    (fun s => s.redirections.InOrder granted ∧ ∀ r, s.Holds r → Authorised deps granted r)
    PipelineState.StoredLasts
    (fun s task => task.Fit granted s ∧ ∀ r, task.Carries r → Authorised deps granted r) := by
  refine flow.guarantee_lasting inOrder (fun _ => Authorised deps granted)
    (fun _ _ _ _ fine => fine) (fun _ _ _ _ _ impossible => absurd impossible id)
    (fun task s r _ fit own makes => ?_)
  cases task with
  | found decision recommendation dispatcherId now =>
      cases makes
      exact authorised_decided fit (own (.redirection recommendation) rfl)
  | returning decision updated =>
      cases decision with
      | accept => exact absurd makes id
      | reject =>
          cases makes
          trivial
  | _ => exact absurd makes id

/-- What the gateway passes on to the ingestion service and the pipeline's timers. -/
def IngestionStimulus.Allowed (granted : Endpoint → Prop) : IngestionStimulus → Prop
  | .handleSignal uuid rawPayload => granted (.postSignals uuid rawPayload)
  | .other stimulus _ => stimulus.Allowed granted

/-- The events a request has yet to publish may be published. -/
def Handling.Fit (deps : PipelineDependencies) (granted : Endpoint → Prop)
    (handling : Handling) : Prop :=
  ∀ event, .publishSignalEvent event ∈ handling.effects → Posted deps granted event

/-- One call of an authorised request. -/
theorem Ingestion.callNext_authority {request : Handling} {s : IngestionState}
    (held : ∀ r, s.pipeline.Holds r → Authorised deps granted r)
    (fit : request.Fit deps granted) :
    (∀ r, (callNext deps request s).shared.pipeline.Holds r → Authorised deps granted r) ∧
      ∀ next ∈ (callNext deps request s).successors,
        Sum.elim (fun task : PipelineTask => task.Fit granted ∧
          ∀ r, task.Carries r → Authorised deps granted r) (Handling.Fit deps granted) next := by
  unfold callNext
  cases effects : request.effects with
  | nil => exact ⟨held, fun next impossible => absurd impossible List.not_mem_nil⟩
  | cons effect rest =>
      have later : Handling.Fit deps granted ⟨rest, request.answer⟩ :=
        fun event listed => fit event (effects ▸ List.mem_cons_of_mem _ listed)
      cases effect with
      | publishSignalEvent event =>
          have arrived := fit event (effects ▸ List.mem_cons_self)
          refine ⟨fun r has => ?_, fun next member => ?_⟩
          · rcases Pipeline.holds_onSignalEvent has with old | brings
            · exact held r old
            · exact authorised_brought arrived brings
          · rcases List.mem_cons.mp member with rfl | started
            · exact later
            · obtain ⟨task, listed, rfl⟩ := List.mem_map.mp started
              have computing := Pipeline.startsRecompute_of_onSignalEvent deps listed
              refine ⟨?_, fun r has => ?_⟩
              · obtain ⟨gate, window, rfl⟩ := computing
                trivial
              · rcases Pipeline.carries_onSignalEvent listed has with old | brings
                · exact held r old
                · exact authorised_brought arrived brings
      | publishValidationError error =>
          refine ⟨held, fun next member => ?_⟩
          rw [List.mem_singleton.mp member]
          exact later
      | markActive sourceType gateOrRouteId =>
          refine ⟨fun r has => held r (by cases r <;> exact has), fun next member => ?_⟩
          rw [List.mem_singleton.mp member]
          exact later

/-- The service leaves the redirections alone. -/
theorem Ingestion.callNext_inOrder (request : Handling) {s : IngestionState}
    (inOrder : s.pipeline.redirections.InOrder granted) :
    (callNext deps request s).shared.pipeline.redirections.InOrder granted ∧
      s.pipeline.StoredLasts (callNext deps request s).shared.pipeline := by
  have same : (callNext deps request s).shared.pipeline.redirections =
      s.pipeline.redirections := by
    unfold callNext
    cases request.effects with
    | nil => rfl
    | cons effect rest => cases effect <;> simp [perform]
  unfold PipelineState.StoredLasts
  rw [same]
  exact ⟨inOrder, List.Subset.refl _⟩

theorem Ingestion.authority : (Ingestion.system deps).Guarantee (IngestionStimulus.Allowed granted)
    (fun s => s.pipeline.redirections.InOrder granted ∧
      ∀ r, s.pipeline.Holds r → Authorised deps granted r)
    (fun s t => s.pipeline.StoredLasts t.pipeline)
    (fun _ => Sum.elim (fun task : PipelineTask => task.Fit granted ∧
      ∀ r, task.Carries r → Authorised deps granted r) (Handling.Fit deps granted)) where
  stimulate stimulus s allowed held := by
    cases stimulus with
    | handleSignal uuid rawPayload =>
        have fit : Handling.Fit deps granted
            (Submission.handle deps.timingConfig ⟨uuid, rawPayload, s.pipeline.intake.clock⟩) :=
          fun event listed => ⟨uuid, rawPayload, _, allowed, listed⟩
        let s' : IngestionState := { s with
          submissions := s.submissions ++ [⟨uuid, rawPayload, s.pipeline.intake.clock⟩] }
        obtain ⟨kept, left⟩ := callNext_authority (s := s') held.2 fit
        obtain ⟨inOrder, last⟩ := callNext_inOrder (s := s') _ held.1
        exact ⟨⟨inOrder, kept⟩, last, left⟩
    | other stimulus quiet =>
        obtain ⟨kept, last, started⟩ :=
          Pipeline.authority.stimulate stimulus s.pipeline allowed held
        refine ⟨kept, last, fun task member => ?_⟩
        obtain ⟨own, listed, rfl⟩ := List.mem_map.mp member
        exact started own listed
  resume task s held fine := by
    cases task with
    | inl task =>
        obtain ⟨kept, last, left⟩ := Pipeline.authority.resume task s.pipeline held fine
        refine ⟨kept, last, fun next member => ?_⟩
        have member : next ∈ ((Pipeline.resume deps task s.pipeline).map Sum.inl).successors :=
          member
        rw [Stretch.successors_map] at member
        obtain ⟨own, listed, rfl⟩ := List.mem_map.mp member
        exact left own listed
    | inr request =>
        obtain ⟨kept, left⟩ := callNext_authority held.2 fine
        obtain ⟨inOrder, last⟩ := callNext_inOrder request held.1
        exact ⟨⟨inOrder, kept⟩, last, left⟩
  lasts _ _ _ _ fine := fine

/-! ## The alert store -/

/-- Filed alerts are nobody's acknowledgement. -/
theorem fileAlerts_authorised {raised : OrderedMap ℕ Alert} {store : OrderedMap ℕ AlertRecord}
    (before : ∀ alertId record, store.get? alertId = some record →
      record.alert.alertId = alertId ∧ record.Authorised granted) :
    ∀ alertId record, (fileAlerts raised store).get? alertId = some record →
      record.alert.alertId = alertId ∧ record.Authorised granted := by
  intro alertId record filed
  rcases get?_fileAlerts_cases raised store alertId with ⟨alert, -, named, -, now⟩ | ⟨-, kept⟩
  · obtain rfl := Option.some.inj (now.symm.trans filed)
    exact ⟨named, nofun⟩
  · exact before alertId record (kept.symm.trans filed)

theorem ServerState.OnlyAuthorised.put {w : ServerState} (inv : w.OnlyAuthorised deps granted)
    (s : IngestionState) (held : s.pipeline.redirections.InOrder granted ∧
      ∀ r, s.pipeline.Holds r → Authorised deps granted r) :
    (w.putIngestion s).OnlyAuthorised deps granted where
  records := held.2
  redirections := held.1
  alerts := fileAlerts_authorised inv.alerts
  acknowledged := inv.acknowledged

/-- An acknowledgement in progress was granted. -/
def AcknowledgementTask.Fit (granted : Endpoint → Prop) : AcknowledgementTask → Prop
  | .finding alertId userId _ => granted (.acknowledgeAlert alertId userId)
  | .found record userId _ => granted (.acknowledgeAlert record.alert.alertId userId)
  | .storing updated | .returning updated => updated.Authorised granted

def AcknowledgementStimulus.Allowed (granted : Endpoint → Prop) : AcknowledgementStimulus → Prop
  | .acknowledgeAlert alertId userId => granted (.acknowledgeAlert alertId userId)

open ServerState in
theorem OpsDashboardApi.authority :
    (OpsDashboardApi.system.onPart desk putDesk).Guarantee
      (AcknowledgementStimulus.Allowed granted) (OnlyAuthorised deps granted)
      (fun w w' => w.pipeline.StoredLasts w'.pipeline) (fun _ task => task.Fit granted) where
  stimulate stimulus w allowed inv := by
    cases stimulus with
    | acknowledgeAlert alertId userId =>
        refine ⟨⟨inv.records, inv.redirections, inv.alerts, inv.acknowledged⟩,
          List.Subset.refl _, fun task started => ?_⟩
        rw [List.mem_singleton.mp started]
        exact allowed
  resume task w inv fit := by
    cases task with
    | finding alertId userId now =>
        have found : ∀ next ∈ (OpsDashboardApi.resume (.finding alertId userId now)
            w.desk).successors, next.Fit granted := by
          intro next left
          unfold OpsDashboardApi.resume at left
          simp only at left
          split at left
          · exact absurd left List.not_mem_nil
          · next record stored =>
              rw [List.mem_singleton.mp left]
              show granted (.acknowledgeAlert record.alert.alertId userId)
              rw [(inv.alerts alertId record stored).1]
              exact fit
        have unchanged : (OpsDashboardApi.resume (.finding alertId userId now) w.desk).shared =
            w.desk := by
          unfold OpsDashboardApi.resume
          simp only
          split <;> rfl
        refine ⟨?_, ?_, found⟩
        · show (w.putDesk (OpsDashboardApi.resume _ w.desk).shared).OnlyAuthorised deps granted
          rw [unchanged]
          exact ⟨inv.records, inv.redirections, inv.alerts, inv.acknowledged⟩
        · exact List.Subset.refl _
    | found record userId now =>
        refine ⟨⟨inv.records, inv.redirections, inv.alerts, inv.acknowledged⟩,
          List.Subset.refl _, fun next left => ?_⟩
        rw [List.mem_singleton.mp left]
        intro name signed
        cases signed
        exact fit
    | storing updated =>
        refine ⟨⟨inv.records, inv.redirections, fun alertId record stored => ?_,
          inv.acknowledged⟩, List.Subset.refl _,
          fun next left => ?_⟩
        · have stored : (w.alertStore.set updated.alert.alertId updated).get? alertId =
              some record := stored
          rw [OrderedMap.get?_set] at stored
          split at stored
          · next own =>
              cases stored
              exact ⟨own.symm, fit⟩
          · exact inv.alerts alertId record stored
        · rw [List.mem_singleton.mp left]
          exact fit
    | returning updated =>
        refine ⟨⟨inv.records, inv.redirections, inv.alerts, fun record listed => ?_⟩,
          List.Subset.refl _,
          fun next impossible => absurd impossible List.not_mem_nil⟩
        rcases List.mem_append.mp listed with old | new
        · exact inv.acknowledged record old
        · rw [List.mem_singleton.mp new]
          exact fit
  lasts _ _ _ _ fit := fit

/-! ## The process -/

/-- What the gateway passes on to the process. -/
def ProcessStimulus.Allowed (granted : Endpoint → Prop) : ProcessStimulus → Prop :=
  Sum.elim (IngestionStimulus.Allowed granted)
    (Sum.elim (Sum.elim (fun _ => True) (Sum.elim (fun _ => True)
      (DecisionStimulus.Allowed granted)))
      (Sum.elim (AcknowledgementStimulus.Allowed granted) fun _ => True))

open ServerState in
theorem Process.authority : ∃ ok, (Process.system deps).Guarantee
    (ProcessStimulus.Allowed granted) (OnlyAuthorised deps granted)
    (fun w w' => w.pipeline.StoredLasts w'.pipeline) ok := by
  have ingesting : ∃ ok, ((Ingestion.system deps).onPart (·.ingestion) putIngestion).Guarantee
      (IngestionStimulus.Allowed granted) (OnlyAuthorised deps granted)
      (fun w w' => w.pipeline.StoredLasts w'.pipeline) ok :=
    ⟨_, Ingestion.authority.onPart (fun w inv => ⟨inv.redirections, inv.records⟩)
      (fun s w inv held last => ⟨inv.put s held, last⟩) (fun _ _ _ => rfl) (fun _ _ last => last)⟩
  have operating : ∃ ok, ((operations deps).onPart pipeline putPipeline).Guarantee
      (Sum.elim (fun _ => True) (Sum.elim (fun _ => True) (DecisionStimulus.Allowed granted)))
      (OnlyAuthorised deps granted) (fun w w' => w.pipeline.StoredLasts w'.pipeline) ok :=
    ⟨_, (FanNudgeDeliveryWorker.authority.sum
        (DataQualityCheck.authority.sum ShuttleRedirectionApi.authority)).onPart
      (fun w inv => ⟨inv.redirections, inv.records⟩)
      (fun s w inv held last => ⟨inv.put { w.ingestion with pipeline := s } held, last⟩)
      (fun _ _ _ => rfl) (fun _ _ last => last)⟩
  obtain ⟨_, ingesting⟩ := ingesting
  obtain ⟨_, operating⟩ := operating
  exact ⟨_, ingesting.sum (operating.sum (OpsDashboardApi.authority.sum
    (ReadRoutes.guarantee deps.gates pipeline fun _ => List.Subset.refl _)))⟩

end

end Stadium
