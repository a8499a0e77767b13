import Stadium.Pipeline.Flow

/-!
# Nothing without a ground

Every window, forecast, alert, action, redirection and nudge that the server
holds anywhere, at any point of any interleaving, goes back to what was
delivered: fans were reported at the gate, scores were computed from delivered
events of a configured gate, and nobody is alerted, redirected or nudged unless
a score of the origin was published that asks for it
(`every_record_is_grounded`).
-/

namespace Stadium

open Interleaving TaskSystem

/-- The computation was made for a configured gate, of delivered events of that
gate. -/
structure Computation.Sound (deps : PipelineDependencies) (s : PipelineState)
    (computation : Computation) : Prop where
  made : computation ∈ s.forecasts.computed
  gate : computation.gate ∈ deps.gates
  window : ∀ event ∈ computation.window,
    event ∈ s.intake.delivered ∧ event.gateId = some computation.gate.gateId
  result : computation.result =
    forecastOf computation.gate computation.window computation.now

/-- A published score of the gate was HIGH or CRITICAL. -/
def PublishedRisk (s : PipelineState) (gateId : GateId) (riskLevel : RiskLevel) : Prop :=
  riskLevel.highOrCritical = true ∧ ∃ message ∈ s.forecasts.published,
    message.gate.gateId = gateId ∧ message.result.currentRiskLevel = riskLevel

/-- A published score of another gate was of a lower level. -/
def PublishedRelief (s : PipelineState) (originGateId : GateId) (riskLevel : RiskLevel)
    (gateId : GateId) : Prop :=
  gateId ≠ originGateId ∧ ∃ message ∈ s.forecasts.published, message.gate.gateId = gateId ∧
    riskOrderOf message.result.currentRiskLevel < riskOrderOf riskLevel

/-- What a record goes back to. -/
def Grounded (deps : PipelineDependencies) (s : PipelineState) : ServerRecord → Prop
  | .gate gate => gate ∈ deps.gates
  | .gateId gateId => gateId ∈ deps.gates.map (·.gateId)
  | .delivered event => event ∈ s.intake.delivered
  | .signal gateId event => event ∈ s.intake.delivered ∧ event.gateId = some gateId
  | .fan gateId fanId => ∃ event ∈ s.intake.delivered, event.Reports gateId fanId
  | .computation computation => computation.Sound deps s
  | .message message => message ∈ s.forecasts.published ∧
      ∃ computation : Computation, computation.Sound deps s ∧
        message = ⟨computation.gate, computation.result⟩
  | .forecast gateId result => ∃ message ∈ s.forecasts.published,
      message.gate.gateId = gateId ∧ message.result = result
  | .series gateId scores => ∃ computation : Computation, computation.Sound deps s ∧
      computation.gate.gateId = gateId ∧ computation.result.scores = scores
  | .audited record => ∃ message ∈ s.forecasts.published, ∃ point counted,
      message.result.scores.head? = some point ∧ record = scoreAuditOf message.gate point counted
  | .alert alert =>
      match alert.alertType with
      | .riskLevel => ∃ riskLevel, alert.riskLevel = some riskLevel ∧
          PublishedRisk s alert.gateId riskLevel
      | .dataQuality => alert.gateId ∈ deps.gates.map (·.gateId)
  | .action action => ∃ message ∈ s.forecasts.published, ∃ window,
      (∀ event ∈ window, event ∈ s.intake.delivered ∧ event.gateId = some message.gate.gateId) ∧
        action.unmarked ∈ generateRecommendations message.gate message.result window
  | .redirection redirection =>
      (∃ route ∈ deps.routes, route.routeId = redirection.routeId) ∧
      (∃ gate ∈ deps.gates, gate.gateId = redirection.originGateId ∧
        redirection.routeId ∈ gate.assignedRouteIds) ∧
      ∃ riskLevel, PublishedRisk s redirection.originGateId riskLevel ∧
        PublishedRelief s redirection.originGateId riskLevel redirection.alternativeGateId
  | .rejection rejection =>
      (∃ route ∈ deps.routes, route.routeId = rejection.routeId) ∧
      ∃ originGateId riskLevel, PublishedRisk s originGateId riskLevel ∧
        PublishedRelief s originGateId riskLevel rejection.alternativeGateId
  | .nudge nudge =>
      (∃ event ∈ s.intake.delivered, event.Reports nudge.originGateId nudge.fanId) ∧
      ∃ riskLevel, PublishedRisk s nudge.originGateId riskLevel ∧
        ∀ gateId, nudge.alternativeGateId = some gateId →
          PublishedRelief s nudge.originGateId riskLevel gateId

/-! ## Grounds last -/

/-- What has happened in `s` has happened in `t`. -/
structure Extends (s t : PipelineState) : Prop where
  delivered : s.intake.delivered ⊆ t.intake.delivered
  computed : s.forecasts.computed ⊆ t.forecasts.computed
  published : s.forecasts.published ⊆ t.forecasts.published

namespace Extends

variable {deps : PipelineDependencies} {s t : PipelineState}

theorem of_eq (delivered : t.intake.delivered = s.intake.delivered)
    (computed : t.forecasts.computed = s.forecasts.computed)
    (published : t.forecasts.published = s.forecasts.published) : Extends s t where
  delivered := delivered ▸ List.Subset.refl _
  computed := computed ▸ List.Subset.refl _
  published := published ▸ List.Subset.refl _

theorem sound (more : Extends s t) {computation : Computation}
    (sound : computation.Sound deps s) : computation.Sound deps t where
  made := more.computed sound.made
  gate := sound.gate
  window event listed :=
    ⟨more.delivered (sound.window event listed).1, (sound.window event listed).2⟩
  result := sound.result

theorem risk (more : Extends s t) {gateId : GateId} {riskLevel : RiskLevel}
    (risk : PublishedRisk s gateId riskLevel) : PublishedRisk t gateId riskLevel := by
  obtain ⟨risky, message, published, own⟩ := risk
  exact ⟨risky, message, more.published published, own⟩

theorem relief (more : Extends s t) {originGateId gateId : GateId} {riskLevel : RiskLevel}
    (relief : PublishedRelief s originGateId riskLevel gateId) :
    PublishedRelief t originGateId riskLevel gateId := by
  obtain ⟨other, message, published, lower⟩ := relief
  exact ⟨other, message, more.published published, lower⟩

theorem grounded (more : Extends s t) {r : ServerRecord} (ground : Grounded deps s r) :
    Grounded deps t r := by
  cases r with
  | gate gate => exact ground
  | gateId gateId => exact ground
  | delivered event => exact more.delivered ground
  | signal gateId event => exact ⟨more.delivered ground.1, ground.2⟩
  | fan gateId fanId =>
      obtain ⟨event, delivered, reports⟩ := ground
      exact ⟨event, more.delivered delivered, reports⟩
  | computation computation => exact more.sound ground
  | message message =>
      obtain ⟨published, computation, sound, same⟩ := ground
      exact ⟨more.published published, computation, more.sound sound, same⟩
  | forecast gateId result =>
      obtain ⟨message, published, own⟩ := ground
      exact ⟨message, more.published published, own⟩
  | series gateId scores =>
      obtain ⟨computation, sound, own⟩ := ground
      exact ⟨computation, more.sound sound, own⟩
  | audited record =>
      obtain ⟨message, published, own⟩ := ground
      exact ⟨message, more.published published, own⟩
  | alert alert =>
      unfold Grounded at ground ⊢
      cases kind : alert.alertType with
      | riskLevel =>
          simp only [kind] at ground ⊢
          obtain ⟨riskLevel, shown, risk⟩ := ground
          exact ⟨riskLevel, shown, more.risk risk⟩
      | dataQuality =>
          simp only [kind] at ground ⊢
          exact ground
  | action action =>
      obtain ⟨message, published, window, counted, generated⟩ := ground
      exact ⟨message, more.published published, window, fun event listed =>
        ⟨more.delivered (counted event listed).1, (counted event listed).2⟩, generated⟩
  | redirection redirection =>
      obtain ⟨route, gate, riskLevel, risk, relief⟩ := ground
      exact ⟨route, gate, riskLevel, more.risk risk, more.relief relief⟩
  | rejection rejection =>
      obtain ⟨route, originGateId, riskLevel, risk, relief⟩ := ground
      exact ⟨route, originGateId, riskLevel, more.risk risk, more.relief relief⟩
  | nudge nudge =>
      obtain ⟨⟨event, delivered, reports⟩, riskLevel, risk, relief⟩ := ground
      exact ⟨⟨event, more.delivered delivered, reports⟩, riskLevel, more.risk risk,
        fun gateId chosen => more.relief (relief gateId chosen)⟩

end Extends

/-! ## What is made has a ground -/

/-- A generated nudge is for the fan, and the published scores ask for it. -/
theorem grounded_nudge {deps : PipelineDependencies} {s : PipelineState} {fan : FanContext}
    {originGate : Gate} {lastNudgeAt : Option ℤ} {now : ℤ} {nudge : FanNudge}
    (held : Held (Grounded deps) PipelineState.Holds s)
    (reported : Grounded deps s (.fan originGate.gateId fan.fanId))
    (generated : generateFanNudge deps.localeCompare fan originGate s.forecasts.forecastsByGate
      lastNudgeAt now = some nudge) : Grounded deps s (.nudge nudge) := by
  obtain ⟨-, forFan, atGate, -⟩ := generateFanNudge_spec generated
  obtain ⟨risky, picked⟩ := generateFanNudge_alternative generated
  refine ⟨by rw [forFan, atGate]; exact reported, _, ⟨risky, ?_⟩, ?_⟩
  · cases known : s.forecasts.forecastsByGate.get? originGate.gateId with
    | none =>
        rw [known] at risky
        cases risky
    | some result =>
        obtain ⟨message, published, own, shown⟩ := held (.forecast _ result) known
        exact ⟨message, published, own.trans atGate.symm, by rw [shown]; rfl⟩
  · intro gateId chosen
    rw [picked] at chosen
    obtain ⟨other, forecast, known, lower⟩ := lowerRiskGate_of_pick chosen
    obtain ⟨message, published, own, shown⟩ := held (.forecast gateId forecast) known
    refine ⟨by rw [atGate]; exact other, message, published, own, ?_⟩
    rw [shown]
    exact lower

/-- A generated redirection leads a route of the gate to where the published
scores are lower. -/
theorem grounded_redirection {deps : PipelineDependencies} {s : PipelineState}
    {originGate : Gate} {rejections : List RejectionRecord} {now : ℤ}
    {redirection : ShuttleRedirectionRecommendation}
    (held : Held (Grounded deps) PipelineState.Holds s) (configured : originGate ∈ deps.gates)
    (generated : redirection ∈ generateRedirections deps.localeCompare originGate
      s.forecasts.forecastsByGate deps.routes rejections now) :
    Grounded deps s (.redirection redirection) := by
  obtain ⟨risky, route, listed, assigned, alternativeGateId, picked, -, -, rfl⟩ :=
    mem_generateRedirections.mp generated
  refine ⟨⟨route, listed, rfl⟩, ⟨originGate, configured, rfl, assigned⟩, _, ⟨risky, ?_⟩, ?_⟩
  · cases known : s.forecasts.forecastsByGate.get? originGate.gateId with
    | none =>
        rw [known] at risky
        cases risky
    | some result =>
        obtain ⟨message, published, own, shown⟩ := held (.forecast _ result) known
        exact ⟨message, published, own, by rw [shown]; rfl⟩
  · obtain ⟨other, forecast, known, lower⟩ := lowerRiskGate_of_pick picked
    obtain ⟨message, published, own, shown⟩ := held (.forecast alternativeGateId forecast) known
    refine ⟨other, message, published, own, ?_⟩
    rw [shown]
    exact lower

namespace Pipeline

variable (deps : PipelineDependencies)

theorem extends_onSignalEvent (s : PipelineState) (event : SignalEvent) :
    Extends s (onSignalEvent deps s event).1 := by
  rw [onSignalEvent_shared]
  refine ⟨?_, List.Subset.refl _, List.Subset.refl _⟩
  show s.intake.delivered ⊆ (s.intake.onSignalEvent event).delivered
  rw [IntakeState.onSignalEvent_delivered]
  exact List.subset_append_left _ _

theorem extends_onCongestionScore (s : PipelineState) (message : CongestionScoreMessage) :
    Extends s (onCongestionScore s message).1 :=
  ⟨List.Subset.refl _, List.Subset.refl _, List.subset_append_left _ _⟩

theorem extends_stimulate (stimulus : PipelineStimulus) (s : PipelineState) :
    Extends s (stimulate deps stimulus s).1 := by
  cases stimulus with
  | handleSignal signal => exact extends_onSignalEvent deps s _
  | signalEvent event => exact extends_onSignalEvent deps s event
  | tick gateId =>
      show Extends s (onTick deps s gateId).1
      rw [onTick_shared]
      exact .of_eq rfl rfl rfl
  | congestionScore message => exact extends_onCongestionScore s message
  | _ => exact .of_eq rfl rfl rfl

theorem extends_resume (task : PipelineTask) (s : PipelineState) :
    Extends s (resume deps task s).shared := by
  cases task with
  | computing gate window =>
      rw [resume_computing]
      exact ⟨List.Subset.refl _, List.subset_append_left _ _, List.Subset.refl _⟩
  | publishingForecast computation =>
      exact ⟨List.Subset.refl _, List.Subset.refl _, List.subset_append_left _ _⟩
  | decidingNudge update fan lastNudgeAt rest generated =>
      show Extends s (decideNudge deps update fan lastNudgeAt rest generated s).shared
      rw [decideNudge_shared]
      exact .of_eq rfl rfl rfl
  | locatingAction gateId actionId userId now actions =>
      show Extends s (locateAction gateId actionId userId now actions s).shared
      rw [locateAction_shared]
      exact .of_eq rfl rfl rfl
  | _ => exact .of_eq rfl rfl rfl

variable {deps} {s : PipelineState}

/-- What a delivered event brings goes back to it. -/
theorem grounded_brought {t : PipelineState} {event : SignalEvent} {r : ServerRecord}
    (arrived : event ∈ t.intake.delivered) (brings : event.Brings deps r) : Grounded deps t r := by
  cases r with
  | gate gate => exact brings
  | delivered listed =>
      cases brings
      exact arrived
  | signal gateId listed =>
      obtain ⟨rfl, own⟩ := brings
      exact ⟨arrived, own⟩
  | fan gateId fanId => exact ⟨event, arrived, brings⟩
  | _ => exact absurd brings id

theorem delivered_onSignalEvent (event : SignalEvent) :
    event ∈ (onSignalEvent deps s event).1.intake.delivered := by
  rw [onSignalEvent_shared]
  show event ∈ (s.intake.onSignalEvent event).delivered
  rw [IntakeState.onSignalEvent_delivered]
  exact List.mem_append_right _ List.mem_cons_self

theorem grounded_stimulate {stimulus : PipelineStimulus} {r : ServerRecord}
    (own : stimulus.Own) (brings : stimulus.Brings deps s r) :
    Grounded deps (stimulate deps stimulus s).1 r := by
  cases stimulus with
  | handleSignal signal => exact grounded_brought (delivered_onSignalEvent _) brings
  | signalEvent event => exact grounded_brought (delivered_onSignalEvent event) brings
  | tick gateId =>
      obtain ⟨gate, configured, rfl⟩ := brings
      exact configured
  | congestionScore message => exact absurd own id
  | _ => exact absurd brings id

/-- What a publication makes goes back to the message and its computation. -/
theorem grounded_publication {computation : Computation} {r : ServerRecord}
    (sound : computation.Sound deps s)
    (makes : (PipelineTask.publishingForecast computation).Makes deps s r) :
    Grounded deps (resume deps (.publishingForecast computation) s).shared r := by
  have sound := (extends_resume deps (.publishingForecast computation) s).sound sound
  have published : (⟨computation.gate, computation.result⟩ : CongestionScoreMessage) ∈
      (resume deps (.publishingForecast computation) s).shared.forecasts.published :=
    List.mem_append_right _ List.mem_cons_self
  rcases makes with rfl | rfl | rfl | ⟨alert, rfl, kind, atGate, level, risky, -⟩ |
    ⟨point, counted, current, rfl⟩
  · exact ⟨published, computation, sound, rfl⟩
  · exact ⟨_, published, rfl, rfl⟩
  · exact ⟨computation, sound, rfl, rfl⟩
  · simp only [Grounded, kind]
    exact ⟨_, level, risky, _, published, atGate.symm, rfl⟩
  · exact ⟨_, published, point, counted, current, rfl⟩

/-- What a stretch makes has a ground if all it could read has. -/
theorem grounded_resume {task : PipelineTask} {r : ServerRecord}
    (held : Held (Grounded deps) PipelineState.Holds s)
    (own : Carried (Grounded deps) PipelineTask.Carries s task) (makes : task.Makes deps s r) :
    Grounded deps (resume deps task s).shared r := by
  have lasts : Grounded deps s r → Grounded deps (resume deps task s).shared r :=
    (extends_resume deps task s).grounded
  cases task with
  | computing gate window =>
      cases makes
      rw [resume_computing]
      refine ⟨List.mem_append_right _ List.mem_cons_self, own (.gate gate) (.inl rfl), ?_, rfl⟩
      intro event listed
      exact own (.signal gate.gateId event) (.inr ⟨event, listed, rfl⟩)
  | publishingForecast computation =>
      exact grounded_publication (own (.computation computation) rfl) makes
  | recommending update window =>
      obtain ⟨action, generated, rfl⟩ := makes
      have message := own (.message ⟨update.gate, update.result⟩) (.inl rfl)
      have counted : ∀ event ∈ window, Grounded deps s (.signal update.gate.gateId event) :=
        fun event listed => own _ (.inr ⟨event, listed, rfl⟩)
      refine lasts ⟨_, message.1, window, counted, ?_⟩
      rwa [unmarked_of_generated generated]
  | advising update =>
      obtain ⟨redirection, generated, rfl⟩ := makes
      obtain ⟨-, computation, sound, same⟩ := own (.message ⟨update.gate, update.result⟩) rfl
      refine lasts (grounded_redirection held ?_ generated)
      rw [show update.gate = computation.gate from congrArg (·.gate) same]
      exact sound.gate
  | decidingNudge update fan lastNudgeAt rest generated =>
      obtain ⟨nudge, made, rfl⟩ := makes
      have reported := own (.fan update.gate.gateId fan.fanId)
        (.inl ⟨fan, List.mem_cons_self, rfl⟩)
      exact lasts (grounded_nudge held reported made)
  | locatingAction gateId actionId userId now actions =>
      obtain ⟨found, listed, -, rfl⟩ := makes
      -- an executed action goes back to what the action found goes back to
      have ground : Grounded deps s (.action found) := own (.action found) ⟨found, listed, rfl⟩
      exact lasts ground
  | _ => exact absurd makes id

end Pipeline

theorem Pipeline.provenance (deps : PipelineDependencies) :
    (Pipeline.system deps).Provenance PipelineStimulus.Own (Grounded deps) PipelineState.Holds
      PipelineTask.Carries :=
  (Pipeline.flow deps).provenance
    (fun stimulus s _ ground => (Pipeline.extends_stimulate deps stimulus s).grounded ground)
    (fun task s _ ground => (Pipeline.extends_resume deps task s).grounded ground)
    (fun _ _ _ own _ brings => Pipeline.grounded_stimulate own brings)
    (fun _ _ _ held own makes => Pipeline.grounded_resume held own makes)

/-! ## The other tasks -/

namespace FanNudgeDeliveryWorker

variable {deps : PipelineDependencies} {s : PipelineState}

/-- A settled nudge has the ground of the queued one. -/
theorem grounded_settled {nudge : FanNudge} (ground : Grounded deps s (.nudge nudge))
    (forecastsByGate : OrderedMap GateId ForecastResult) (now : ℤ) :
    Grounded deps s (.nudge (simulateDelivery nudge forecastsByGate now).1) := by
  unfold simulateDelivery
  simp only
  split <;> exact ground

theorem extends_resume (task : DeliveryTask) (s : PipelineState) :
    Extends s (resume task s).shared := by
  cases task <;> exact .of_eq rfl rfl rfl

theorem provenance (deps : PipelineDependencies) :
    system.Provenance (fun _ => True) (Grounded deps) PipelineState.Holds
      DeliveryTask.Carries := by
  refine flow.provenance (fun _ _ _ ground => ground)
    (fun task s _ ground => (extends_resume task s).grounded ground)
    (fun _ _ _ _ _ impossible => absurd impossible id) ?_
  intro task s r held own makes
  cases task with
  | delivering now queued =>
      obtain ⟨nudge, listed, rfl⟩ := makes
      exact grounded_settled (own (.nudge nudge) ⟨nudge, listed, rfl⟩) _ now
  | _ => exact absurd makes id

end FanNudgeDeliveryWorker

namespace DataQualityCheck

theorem extends_stimulate (gates : List Gate) (stimulus : DataQualityStimulus)
    (s : PipelineState) : Extends s ((system gates).stimulate stimulus s).1 := by
  cases stimulus <;> exact .of_eq rfl rfl rfl

theorem extends_resume (task : DataQualityTask) (s : PipelineState) :
    Extends s (resume task s).shared := by
  cases task with
  | readingStatus gateId sources statuses => cases sources <;> exact .of_eq rfl rfl rfl
  | readingAgain gateId sources statuses again => cases sources <;> exact .of_eq rfl rfl rfl

theorem provenance (deps : PipelineDependencies) :
    (system deps.gates).Provenance (fun _ => True) (Grounded deps) PipelineState.Holds
      DataQualityTask.Carries := by
  refine (flow deps).provenance
    (fun stimulus s _ ground => (extends_stimulate deps.gates stimulus s).grounded ground)
    (fun task s _ ground => (extends_resume task s).grounded ground) ?_ ?_
  · intro stimulus s r _ held brings
    cases stimulus with
    | check =>
        obtain ⟨gate, configured, rfl⟩ := brings
        exact List.mem_map_of_mem configured
    | markActive sourceType gateOrRouteId => exact absurd brings id
  · intro task s r held own makes
    refine (extends_resume task s).grounded ?_
    cases task with
    | readingStatus gateId sources statuses => exact absurd makes id
    | readingAgain gateId sources statuses again =>
        obtain ⟨alert, rfl, kind, named, -⟩ := makes
        simp only [Grounded, kind]
        rw [named]
        exact own (.gateId gateId) rfl

end DataQualityCheck

namespace ShuttleRedirectionApi

variable {deps : PipelineDependencies} {s : PipelineState}

/-- A decision leaves route and gates alone. -/
theorem grounded_decided {redirection : ShuttleRedirectionRecommendation}
    (ground : Grounded deps s (.redirection redirection)) (decision : RedirectionDecision)
    (dispatcherId : String) (now : ℤ) :
    Grounded deps s (.redirection (decision.update redirection dispatcherId now)) := by
  cases decision <;> exact ground

theorem extends_stimulate (stimulus : DecisionStimulus) (s : PipelineState) :
    Extends s (system.stimulate stimulus s).1 := by
  cases stimulus <;> exact .of_eq rfl rfl rfl

theorem extends_resume (task : DecisionTask) (s : PipelineState) :
    Extends s (resume task s).shared := by
  cases task with
  | finding decision routeId recommendationId dispatcherId now =>
      simp only [resume]
      split <;> exact .of_eq rfl rfl rfl
  | found decision recommendation dispatcherId now => exact .of_eq rfl rfl rfl
  | storing decision updated => cases decision <;> exact .of_eq rfl rfl rfl
  | recordingRejection updated => exact .of_eq rfl rfl rfl
  | returning decision updated => cases decision <;> exact .of_eq rfl rfl rfl

theorem provenance (deps : PipelineDependencies) :
    system.Provenance (fun _ => True) (Grounded deps) PipelineState.Holds
      DecisionTask.Carries := by
  refine flow.provenance
    (fun stimulus s _ ground => (extends_stimulate stimulus s).grounded ground)
    (fun task s _ ground => (extends_resume task s).grounded ground)
    (fun _ _ _ _ _ impossible => absurd impossible id) ?_
  intro task s r held own makes
  cases task with
  | found decision recommendation dispatcherId now =>
      cases makes
      exact grounded_decided (own (.redirection recommendation) rfl) decision dispatcherId now
  | returning decision updated =>
      cases decision with
      | accept => exact absurd makes id
      | reject =>
          cases makes
          obtain ⟨route, -, riskLevel, risk, relief⟩ := own (.redirection updated) rfl
          exact ⟨route, updated.originGateId, riskLevel, risk, relief⟩
  | _ => exact absurd makes id

end ShuttleRedirectionApi

/-- **Nothing without a ground.** When all scores come from this process, then after
any interleaving of requests, timers and decisions, every window, fan, computation,
message, forecast, alert, action, redirection and nudge the server holds goes back
to events that were delivered and scores that were published. An action is, up to
the marks of its execution, one that `generateRecommendations` makes of a published
score of its gate and a window of events delivered for it. -/
theorem every_record_is_grounded (deps : PipelineDependencies) (startedAt : ℤ)
    (schedule : List (Choice (Pipeline.ServerStimulus ⊕ DecisionStimulus)))
    (own : ∀ message, .inl (.inl (.congestionScore message)) ∉ stimuli schedule)
    (r : ServerRecord)
    (has : ((Pipeline.withDispatchers deps).run ⟨.wired startedAt, []⟩ schedule).shared.Holds r) :
    Grounded deps ((Pipeline.withDispatchers deps).run ⟨.wired startedAt, []⟩ schedule).shared
      r := by
  have provenance := ((Pipeline.provenance deps).sum
    ((FanNudgeDeliveryWorker.provenance deps).sum (DataQualityCheck.provenance deps))).sum
      (ShuttleRedirectionApi.provenance deps)
  refine (provenance.run ?_ ?_ (guarded_allows ?_)).1 r has
  · exact fun r has => absurd has (PipelineState.not_holds_wired startedAt r)
  · exact fun task impossible => absurd impossible List.not_mem_nil
  · rintro ((stimulus | stimulus | stimulus) | stimulus) listed
    · cases stimulus with
      | congestionScore message => exact absurd listed (own message)
      | _ => trivial
    all_goals trivial

/-- A fan scans a ticket at gate A, and then a crowd gathers there. -/
def scanThenCrowd : List (Choice (Pipeline.ServerStimulus ⊕ DecisionStimulus)) :=
  .stimulus (.inl (.inl (.signalEvent (demoScan "scan" "fan-1" "1970-01-01T00:00:00.000Z")))) ::
    List.replicate 11 (.resume 0) ++
  .stimulus (.inl (.inl (.signalEvent
    (demoReading "crowd" 400 "1970-01-01T00:00:00.000Z")))) :: List.replicate 14 (.resume 0)

/-- The fan is nudged, and for a reason. -/
theorem every_record_is_grounded_demo :
    let s := ((Pipeline.withDispatchers demoDependencies).run ⟨.wired 0, []⟩ scanThenCrowd).shared
    ∃ nudge, s.nudges.queuedNudgeStore.get? "fan-1-gate-a-1970-01-01T00:00:00.000Z" =
        some nudge ∧ Grounded demoDependencies s (.nudge nudge) := by
  intro s
  have sent : (s.nudges.queuedNudgeStore.get?
      "fan-1-gate-a-1970-01-01T00:00:00.000Z").isSome = true := by decide +kernel
  obtain ⟨nudge, queued⟩ := Option.isSome_iff_exists.mp sent
  exact ⟨nudge, queued, every_record_is_grounded demoDependencies 0 scanThenCrowd
    (fun message listed => by simp [scanThenCrowd, stimuli] at listed) (.nudge nudge)
    (.inl ⟨_, queued⟩)⟩

end Stadium
