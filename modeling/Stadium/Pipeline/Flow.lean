import Stadium.FanNotificationSystem.Delivery
import Stadium.Lib.Provenance
import Stadium.OpsDashboard.DataQuality
import Stadium.Pipeline.AlertTransitions
import Stadium.Pipeline.Draining
import Stadium.ShuttleRedirectionAdvisor.Decisions

/-!
# Which records flow where

The records of the server, as they lie in its stores or in the local variables of
suspended tasks. A stretch passes records on from one to the other and makes a few;
what it makes is said here once for each task, whatever a record is then asked to go
back to.
-/

namespace Stadium

open Interleaving TaskSystem

/-- The event reports the fan at the gate, or on the way to it. -/
def SignalEvent.Reports (event : SignalEvent) (gateId : GateId) (fanId : FanId) : Prop :=
  match event.payload with
  | .gateCounter .. => False
  | .ticketScan scanned => event.gateId = some gateId ∧ scanned = fanId
  | .transitArrival _ destinationGateId _ fanIds =>
      destinationGateId = some gateId ∧ ∃ ids, fanIds = some ids ∧ fanId ∈ ids

/-- What the server holds, or a task carries. -/
inductive ServerRecord where
  | gate (gate : Gate)
  /-- The id of a gate. -/
  | gateId (gateId : GateId)
  /-- An event that reached the subscribers. -/
  | delivered (event : SignalEvent)
  | signal (gateId : GateId) (event : SignalEvent)
  | fan (gateId : GateId) (fanId : FanId)
  | computation (computation : Computation)
  | message (message : CongestionScoreMessage)
  | forecast (gateId : GateId) (result : ForecastResult)
  | series (gateId : GateId) (scores : List CongestionScorePoint)
  | audited (record : ScoreAuditRecord)
  | alert (alert : Alert)
  | action (action : RecommendedAction)
  | redirection (redirection : ShuttleRedirectionRecommendation)
  | rejection (rejection : RejectionRecord)
  | nudge (nudge : FanNudge)

/-- Everything the shared state has of a kind. -/
def PipelineState.Holds (s : PipelineState) : ServerRecord → Prop
  | .gate _ | .gateId _ => False
  | .delivered event => event ∈ s.intake.delivered ∨ event ∈ s.audit.signalEvents
  | .signal gateId event => event ∈ s.intake.getWindowForGate gateId
  | .fan gateId fanId => ∃ fan ∈ fansOf s.intake.fansByGate gateId, fan.fanId = fanId
  | .computation computation => computation ∈ s.forecasts.computed
  | .message message => message ∈ s.forecasts.published
  | .forecast gateId result => s.forecasts.forecastsByGate.get? gateId = some result
  | .series gateId scores => s.forecasts.forecastStore.get? gateId = some scores
  | .audited record => record ∈ s.audit.scores
  | .alert alert => ∃ alertId, s.alerts.alertStore.get? alertId = some alert
  | .action action =>
      (∃ gateId, action ∈ s.actions.getActiveActions gateId) ∨
      (∃ gateId, action ∈ (s.actions.activeActionsSource.get? gateId).getD []) ∨
      (∃ actionId, s.audit.actions.get? actionId = some action) ∨ action ∈ s.actions.executed
  | .redirection redirection =>
      (∃ routeId, redirection ∈ s.redirections.getActiveRecommendations routeId) ∨
      redirection ∈ s.audit.shuttleRecommendations
  | .rejection rejection => rejection ∈ s.redirections.recentRejections
  | .nudge nudge =>
      (∃ nudgeId, s.nudges.queuedNudgeStore.get? nudgeId = some nudge) ∨
      (∃ nudgeId, s.audit.nudges.get? nudgeId = some nudge) ∨
      nudge ∈ s.nudges.enqueued ∨ nudge ∈ s.nudges.nudgeAuditQuery

/-- What a task of the pipeline has in its local variables. -/
def PipelineTask.Carries : PipelineTask → ServerRecord → Prop
  | .computing gate window, r => r = .gate gate ∨
      ∃ event ∈ window, r = .signal gate.gateId event
  | .savingScore computation _, r | .publishingForecast computation, r =>
      r = .computation computation
  | .raisingAlert update, r | .advising update, r => r = .message ⟨update.gate, update.result⟩
  | .recommending update window, r => r = .message ⟨update.gate, update.result⟩ ∨
      ∃ event ∈ window, r = .signal update.gate.gateId event
  | .storingActions update actions, r | .publishingActions update actions, r =>
      r = .message ⟨update.gate, update.result⟩ ∨ ∃ action ∈ actions, r = .action action
  | .storingRedirection update redirection rest, r
  | .publishingRedirection update redirection rest, r =>
      r = .message ⟨update.gate, update.result⟩ ∨
        ∃ carried ∈ redirection :: rest, r = .redirection carried
  | .readingCooldown update fan rest generated, r
  | .decidingNudge update fan _ rest generated, r =>
      (∃ carried ∈ fan :: rest, r = .fan update.gate.gateId carried.fanId) ∨
        ∃ nudge ∈ generated, r = .nudge nudge
  | .settingCooldown update _ nudge rest generated, r
  | .enqueueingNudge update nudge rest generated, r =>
      (∃ carried ∈ rest, r = .fan update.gate.gateId carried.fanId) ∨
        ∃ carried ∈ nudge :: generated, r = .nudge carried
  | .nudgeEnqueued update rest generated, r =>
      (∃ carried ∈ rest, r = .fan update.gate.gateId carried.fanId) ∨
        ∃ nudge ∈ generated, r = .nudge nudge
  | .publishingNudges nudges, r => ∃ nudge ∈ nudges, r = .nudge nudge
  | .readingActions .., _ => False
  | .locatingAction _ _ _ _ actions, r => ∃ action ∈ actions, r = .action action
  | .writingActions _ actions _ updated, r => ∃ action ∈ updated :: actions, r = .action action
  | .returningAction updated, r => r = .action updated

def DeliveryTask.Carries : DeliveryTask → ServerRecord → Prop
  | .readingQueue _, _ => False
  | .delivering _ queued, r => ∃ nudge ∈ queued, r = .nudge nudge
  | .updatingNudge _ _ updated _ rest, r | .recordingOutcome _ updated _ rest, r =>
      ∃ nudge ∈ updated :: rest, r = .nudge nudge

def DataQualityTask.Carries : DataQualityTask → ServerRecord → Prop
  | .readingStatus gateId _ _, r | .readingAgain gateId _ _ _, r => r = .gateId gateId

def DecisionTask.Carries : DecisionTask → ServerRecord → Prop
  | .finding .., _ => False
  | .found _ redirection _ _, r => r = .redirection redirection
  | .storing _ updated, r | .recordingRejection updated, r | .returning _ updated, r =>
      r = .redirection updated

theorem PipelineState.not_holds_wired (startedAt : ℤ) (r : ServerRecord) :
    ¬ (PipelineState.wired startedAt).Holds r := by
  intro has
  cases r <;> simp [Holds, wired, fansOf, IntakeState.getWindowForGate,
    ActionState.getActiveActions, RedirectionState.getActiveRecommendations] at has

/-! ## What is brought and made -/

/-- The stimulus brings no score of another process. -/
def PipelineStimulus.Own : PipelineStimulus → Prop
  | .congestionScore _ => False
  | _ => True

theorem PipelineStimulus.Own.ne {stimulus : PipelineStimulus} (own : stimulus.Own)
    (message : CongestionScoreMessage) : stimulus ≠ .congestionScore message := by
  rintro rfl
  exact own

/-- What a delivered event brings. -/
def SignalEvent.Brings (deps : PipelineDependencies) (event : SignalEvent) :
    ServerRecord → Prop
  | .delivered arrived => arrived = event
  | .signal gateId listed => listed = event ∧ event.gateId = some gateId
  | .fan gateId fanId => event.Reports gateId fanId
  | .gate gate => gate ∈ deps.gates
  | _ => False

/-- What a stimulus brings into the pipeline; a score of another process may bring
anything. -/
def PipelineStimulus.Brings (deps : PipelineDependencies) (stimulus : PipelineStimulus)
    (s : PipelineState) (r : ServerRecord) : Prop :=
  match stimulus with
  | .advance _ | .executeAction .. => False
  | .handleSignal signal => (signal.accept deps.timingConfig s.intake.clock).Brings deps r
  | .signalEvent event => event.Brings deps r
  | .tick _ => ∃ gate ∈ deps.gates, r = .gate gate
  | .congestionScore _ => True

/-- The alert is raised now, for a level of this result that is HIGH or CRITICAL. -/
def ForecastResult.Raises (result : ForecastResult) (gateId : GateId) (now : ℤ) (alert : Alert) :
    Prop :=
  alert.alertType = .riskLevel ∧ alert.gateId = gateId ∧
    alert.riskLevel = some result.currentRiskLevel ∧
    result.currentRiskLevel.highOrCritical = true ∧ alert.raisedAt = IsoDate.toISOString now

/-- What a stretch of the pipeline makes of what it can read. -/
def PipelineTask.Makes (deps : PipelineDependencies) (task : PipelineTask) (s : PipelineState)
    (r : ServerRecord) : Prop :=
  match task with
  | .computing gate window =>
      r = .computation ⟨gate, window, s.intake.clock, forecastOf gate window s.intake.clock⟩
  | .publishingForecast computation =>
      r = .message ⟨computation.gate, computation.result⟩ ∨
      r = .forecast computation.gate.gateId computation.result ∨
      r = .series computation.gate.gateId computation.result.scores ∨
      (∃ alert, r = .alert alert ∧
        computation.result.Raises computation.gate.gateId s.intake.clock alert) ∨
      ∃ point counted, computation.result.scores.head? = some point ∧
        r = .audited (scoreAuditOf computation.gate point counted)
  | .recommending update window =>
      ∃ action ∈ generateRecommendations update.gate update.result window, r = .action action
  | .advising update =>
      ∃ redirection ∈ generateRedirections deps.localeCompare update.gate
        s.forecasts.forecastsByGate deps.routes
        (s.redirections.getRecentRejections s.intake.clock) update.now,
        r = .redirection redirection
  | .decidingNudge update fan lastNudgeAt _ _ =>
      ∃ nudge, generateFanNudge deps.localeCompare fan update.gate s.forecasts.forecastsByGate
        lastNudgeAt update.now = some nudge ∧ r = .nudge nudge
  | .locatingAction _ actionId userId now actions =>
      ∃ found ∈ actions, found.actionId = actionId ∧
        r = .action { found with
          executedAt := some (IsoDate.toISOString now)
          executedByUserId := some userId }
  | _ => False

/-- A run of the worker settles the nudges it finds queued. -/
def DeliveryTask.Makes (task : DeliveryTask) (s : PipelineState) (r : ServerRecord) : Prop :=
  match task with
  | .delivering now queued =>
      ∃ nudge ∈ queued, r = .nudge (simulateDelivery nudge s.forecasts.forecastsByGate now).1
  | _ => False

def DataQualityStimulus.Brings (deps : PipelineDependencies) (stimulus : DataQualityStimulus)
    (_ : PipelineState) (r : ServerRecord) : Prop :=
  match stimulus with
  | .check => ∃ gate ∈ deps.gates, r = .gateId gate.gateId
  | .markActive .. => False

def DataQualityTask.Makes (task : DataQualityTask) (s : PipelineState) (r : ServerRecord) : Prop :=
  match task with
  | .readingStatus .. => False
  | .readingAgain gateId .. =>
      ∃ alert : Alert, r = .alert alert ∧ alert.alertType = .dataQuality ∧
        alert.gateId = gateId ∧ alert.raisedAt = IsoDate.toISOString s.intake.clock

def DecisionTask.Makes (task : DecisionTask) (s : PipelineState) (r : ServerRecord) : Prop :=
  match task with
  | .found decision recommendation dispatcherId now =>
      r = .redirection (decision.update recommendation dispatcherId now)
  | .returning .reject updated => r = .rejection (rejectionRecordOf updated s.intake.clock)
  | _ => False

/-! ## What is new in the stores -/

theorem fans_addFan {fansByGate : OrderedMap GateId (OrderedMap FanId FanContext)}
    {target gateId : GateId} {fanIds : List FanId} {fan : FanContext}
    (listed : fan ∈ fansOf (IntakeState.addFan fansByGate target fanIds) gateId) :
    fan ∈ fansOf fansByGate gateId ∨ target = gateId ∧ fan.fanId ∈ fanIds := by
  unfold fansOf IntakeState.addFan at listed
  rw [OrderedMap.get?_set] at listed
  by_cases own : gateId = target
  · rw [if_pos own, Option.map_some, Option.getD_some, OrderedMap.mem_values] at listed
    obtain ⟨key, found⟩ := listed
    suffices either : ∀ (ids : List FanId) (known : OrderedMap FanId FanContext),
        (ids.foldl (fun fanMap fanId => fanMap.set fanId { fanId }) known).get? key = some fan →
          known.get? key = some fan ∨ fan.fanId ∈ ids by
      rcases either fanIds _ found with known | new
      · left
        unfold fansOf
        rw [own]
        cases fans : fansByGate.get? target with
        | none =>
            rw [fans] at known
            cases known
        | some fanMap =>
            rw [fans] at known
            exact OrderedMap.mem_values.mpr ⟨key, known⟩
      · exact .inr ⟨own.symm, new⟩
    intro ids
    induction ids with
    | nil => exact fun known found => .inl found
    | cons first rest ih =>
        intro known found
        rcases ih _ found with stored | later
        · rw [OrderedMap.get?_set] at stored
          split at stored
          · cases stored
            exact .inr List.mem_cons_self
          · exact .inl stored
        · exact .inr (List.mem_cons_of_mem first later)
  · rw [if_neg own] at listed
    exact .inl listed

/-- A fan that is known after a delivery was known before, or the event reports
it. -/
theorem fans_onSignalEvent {s : IntakeState} {event : SignalEvent} {gateId : GateId}
    {fan : FanContext} (listed : fan ∈ fansOf (s.onSignalEvent event).fansByGate gateId) :
    fan ∈ fansOf s.fansByGate gateId ∨ event.Reports gateId fan.fanId := by
  have tracked : (s.onSignalEvent event).fansByGate = (s.trackFansForEvent event).fansByGate := by
    unfold IntakeState.onSignalEvent
    dsimp only
    split <;> rfl
  rw [tracked] at listed
  unfold IntakeState.trackFansForEvent at listed
  unfold SignalEvent.Reports
  cases payload : event.payload with
  | gateCounter count intervalSeconds =>
      simp only [payload] at listed
      exact .inl listed
  | ticketScan scanned =>
      simp only [payload] at listed ⊢
      split at listed
      · next target named =>
          rcases fans_addFan listed with known | ⟨rfl, new⟩
          · exact .inl known
          · exact .inr ⟨(truthy_eq_some.mp named).1, (List.mem_singleton.mp new).symm⟩
      · exact .inl listed
  | transitArrival count destinationGateId destinationRouteId fanIds =>
      simp only [payload] at listed ⊢
      split at listed
      · next target ids named =>
          rcases fans_addFan listed with known | ⟨rfl, new⟩
          · exact .inl known
          · exact .inr ⟨(truthy_eq_some.mp named).1, _, rfl, new⟩
      · exact .inl listed

/-- What a fold of writes under the records' own keys holds was there before, or is
one of the records. -/
theorem mem_of_get?_foldl_set {κ ν : Type*} [DecidableEq κ] {keyOf : ν → κ} {records : List ν}
    {m : OrderedMap κ ν} {key : κ} {found : ν}
    (held : (records.foldl (fun m r => m.set (keyOf r) r) m).get? key = some found) :
    m.get? key = some found ∨ found ∈ records := by
  rcases OrderedMap.get?_foldl_set_cases keyOf records m key with
    ⟨newest, listed, -, now⟩ | ⟨-, kept⟩
  · obtain rfl := Option.some.inj (now.symm.trans held)
    exact .inr listed
  · exact .inl (kept.symm.trans held)

/-- An alert that is in the store after a transition was there before, or is for a
new level that is HIGH or CRITICAL. -/
theorem alert_raised {s : AlertState} {gateId : GateId} {previous new : RiskLevel} {now : ℤ}
    {alertId : ℕ} {alert : Alert}
    (stored : (s.raiseRiskLevelAlertIfTransitioned gateId previous new now).alertStore.get?
      alertId = some alert) :
    s.alertStore.get? alertId = some alert ∨ alert.alertType = .riskLevel ∧
      alert.gateId = gateId ∧ alert.riskLevel = some new ∧ new.highOrCritical = true ∧
      alert.raisedAt = IsoDate.toISOString now := by
  unfold AlertState.raiseRiskLevelAlertIfTransitioned at stored
  rw [checkRiskLevelTransition_eq] at stored
  cases rises : riskTransition previous new with
  | false =>
      rw [rises] at stored
      exact .inl stored
  | true =>
      rw [rises, if_pos rfl] at stored
      rw [OrderedMap.get?_set] at stored
      split at stored
      · cases stored
        unfold riskTransition at rises
        exact .inr ⟨rfl, rfl, rfl, (Bool.and_eq_true _ _ ▸ rises).2, rfl⟩
      · exact .inl stored

/-! ## The pipeline -/

namespace Pipeline

variable {deps : PipelineDependencies} {s : PipelineState} {r : ServerRecord}

/-- After a delivery the state has what it had, and what the event brings. -/
theorem holds_onSignalEvent {event : SignalEvent} (has : (onSignalEvent deps s event).1.Holds r) :
    s.Holds r ∨ event.Brings deps r := by
  rw [onSignalEvent_shared] at has
  cases r with
  | delivered arrived =>
      have has : arrived ∈ (s.intake.onSignalEvent event).delivered ∨
          arrived ∈ s.audit.signalEvents ++ [event] := has
      rw [IntakeState.onSignalEvent_delivered] at has
      rcases has with delivered | audited
      · rcases List.mem_append.mp delivered with old | new
        · exact .inl (.inl old)
        · exact .inr (List.mem_singleton.mp new)
      · rcases List.mem_append.mp audited with old | new
        · exact .inl (.inr old)
        · exact .inr (List.mem_singleton.mp new)
  | signal gateId listed =>
      have has : listed ∈ (s.intake.onSignalEvent event).getWindowForGate gateId := has
      rw [IntakeState.onSignalEvent_window] at has
      split at has
      · next own =>
          rcases List.mem_append.mp has with old | new
          · exact .inl (List.mem_filter.mp old).1
          · exact .inr ⟨List.mem_singleton.mp new, own⟩
      · exact .inl has
  | fan gateId fanId =>
      obtain ⟨fan, listed, named⟩ := has
      rcases fans_onSignalEvent listed with known | reports
      · exact .inl ⟨fan, known, named⟩
      · exact .inr (named ▸ reports)
  | _ => exact .inl has

theorem configured_of_get? {gateId : GateId} {gate : Gate}
    (found : deps.gatesById.get? gateId = some gate) : gate ∈ deps.gates := by
  obtain ⟨listed, member, same⟩ := List.mem_map.mp (OrderedMap.mem_of_get?_ofList found)
  cases same
  exact member

theorem carries_onSignalEvent {event : SignalEvent} {task : PipelineTask}
    (started : task ∈ (onSignalEvent deps s event).2) (has : task.Carries r) :
    s.Holds r ∨ event.Brings deps r := by
  have inWindow : ∀ gateId listed,
      listed ∈ (onSignalEvent deps s event).1.intake.getWindowForGate gateId →
      s.Holds (.signal gateId listed) ∨ event.Brings deps (.signal gateId listed) :=
    fun gateId listed window => holds_onSignalEvent window
  rw [onSignalEvent_shared] at inWindow
  unfold onSignalEvent at started
  simp only at started
  split at started
  · cases started
  · next gate found =>
      rw [List.mem_singleton.mp started] at has
      obtain ⟨gateId, -, known⟩ := Option.bind_eq_some_iff.mp found
      rcases has with rfl | ⟨listed, window, rfl⟩
      · exact .inr (configured_of_get? known)
      · exact inWindow gate.gateId listed window

theorem holds_stimulate {stimulus : PipelineStimulus}
    (has : (stimulate deps stimulus s).1.Holds r) : s.Holds r ∨ stimulus.Brings deps s r := by
  cases stimulus with
  | advance ms => cases r <;> exact .inl has
  | handleSignal signal => exact holds_onSignalEvent has
  | signalEvent event => exact holds_onSignalEvent has
  | tick gateId =>
      have has : (onTick deps s gateId).1.Holds r := has
      rw [onTick_shared] at has
      exact .inl has
  | congestionScore message => exact .inr trivial
  | executeAction gateId actionId userId => exact .inl has

theorem carries_stimulate {stimulus : PipelineStimulus} {task : PipelineTask}
    (started : task ∈ (stimulate deps stimulus s).2) (has : task.Carries r) :
    s.Holds r ∨ stimulus.Brings deps s r := by
  cases stimulus with
  | advance ms => exact absurd started List.not_mem_nil
  | handleSignal signal => exact carries_onSignalEvent started has
  | signalEvent event => exact carries_onSignalEvent started has
  | tick gateId =>
      have started : task ∈ (onTick deps s gateId).2 := started
      unfold onTick at started
      split at started
      · cases started
      · next gate found =>
          rw [List.mem_singleton.mp started] at has
          rcases has with rfl | ⟨listed, window, rfl⟩
          · exact .inr ⟨gate, configured_of_get? found, rfl⟩
          · exact .inl window
  | congestionScore message => exact .inr trivial
  | executeAction gateId actionId userId =>
      rw [List.mem_singleton.mp started] at has
      exact absurd has id

theorem auditScore_signalEvents (s : AuditState) (message : CongestionScoreMessage)
    (window : List SignalEvent) :
    (auditScore s message window).signalEvents = s.signalEvents := by
  unfold auditScore
  split <;> rfl

/-- What publishing a forecast leaves in the state. -/
theorem holds_publishForecast {computation : Computation}
    (has : (publishForecast s computation.gate computation.result).1.Holds r) :
    s.Holds r ∨ (PipelineTask.publishingForecast computation).Makes deps s r := by
  cases r with
  | message message =>
      rcases List.mem_append.mp has with old | new
      · exact .inl old
      · exact .inr (.inl (congrArg _ (List.mem_singleton.mp new)))
  | forecast gateId result =>
      have has : (s.forecasts.forecastsByGate.set computation.gate.gateId
          computation.result).get? gateId = some result := has
      rw [OrderedMap.get?_set] at has
      split at has
      · next own =>
          cases has
          exact .inr (.inr (.inl (own ▸ rfl)))
      · exact .inl has
  | series gateId scores =>
      have has : (s.forecasts.forecastStore.set computation.gate.gateId
          computation.result.scores).get? gateId = some scores := has
      rw [OrderedMap.get?_set] at has
      split at has
      · next own =>
          cases has
          exact .inr (.inr (.inr (.inl (own ▸ rfl))))
      · exact .inl has
  | alert alert =>
      obtain ⟨alertId, stored⟩ := has
      rcases alert_raised stored with old | raised
      · exact .inl ⟨alertId, old⟩
      · exact .inr (.inr (.inr (.inr (.inl ⟨alert, rfl, raised⟩))))
  | audited record =>
      have has : record ∈ (auditScore s.audit ⟨computation.gate, computation.result⟩
          (s.intake.getWindowForGate computation.gate.gateId)).scores := has
      unfold auditScore at has
      split at has
      · exact .inl has
      · next currentPoint current =>
          rcases List.mem_append.mp has with old | new
          · exact .inl old
          · exact .inr (.inr (.inr (.inr (.inr ⟨currentPoint, _, current,
              congrArg _ (List.mem_singleton.mp new)⟩))))
  -- the audit subscriber appends to the scores only
  | delivered event =>
      have same : (publishForecast s computation.gate computation.result).1.audit.signalEvents =
          s.audit.signalEvents := auditScore_signalEvents _ _ _
      unfold PipelineState.Holds at has
      rw [same] at has
      exact .inl has
  | action action =>
      have same : (publishForecast s computation.gate computation.result).1.audit.actions =
          s.audit.actions := auditScore_actions _ _ _
      unfold PipelineState.Holds at has
      rw [same] at has
      exact .inl has
  | redirection redirection =>
      have same : (publishForecast s computation.gate
          computation.result).1.audit.shuttleRecommendations = s.audit.shuttleRecommendations :=
        auditScore_shuttleRecommendations _ _ _
      unfold PipelineState.Holds at has
      rw [same] at has
      exact .inl has
  | nudge nudge =>
      have same : (publishForecast s computation.gate computation.result).1.audit.nudges =
          s.audit.nudges := auditScore_nudges _ _ _
      unfold PipelineState.Holds at has
      rw [same] at has
      exact .inl has
  | _ => exact .inl has

/-- A stretch stores what it was handed or makes. -/
theorem holds_resume {task : PipelineTask} (has : (resume deps task s).shared.Holds r) :
    s.Holds r ∨ task.Carries r ∨ task.Makes deps s r := by
  cases task with
  | computing gate window =>
      rw [resume_computing] at has
      cases r with
      | computation computation =>
          rcases List.mem_append.mp has with old | new
          · exact .inl old
          · exact .inr (.inr (congrArg _ (List.mem_singleton.mp new)))
      | _ => exact .inl has
  | publishingForecast computation => exact (holds_publishForecast has).imp_right .inr
  | storingActions update actions =>
      cases r with
      | action action =>
          rcases has with ⟨gateId, listed⟩ | others
          · have listed : action ∈ (s.actions.setActiveActions update.gate.gateId
                actions).getActiveActions gateId := listed
            rw [ActionState.getActiveActions_set] at listed
            split at listed
            · exact .inr (.inl (.inr ⟨action, listed, rfl⟩))
            · exact .inl (.inl ⟨gateId, listed⟩)
          · exact .inl (.inr others)
      | _ => exact .inl has
  | publishingActions update actions =>
      cases r with
      | action action =>
          rcases has with stored | ⟨gateId, listed⟩ | ⟨actionId, audited⟩ | executed
          · exact .inl (.inl stored)
          · have listed : action ∈ ((s.actions.activeActionsSource.set update.gate.gateId
                actions).get? gateId).getD [] := listed
            rw [OrderedMap.get?_set] at listed
            split at listed
            · exact .inr (.inl (.inr ⟨action, listed, rfl⟩))
            · exact .inl (.inr (.inl ⟨gateId, listed⟩))
          · rcases mem_of_get?_foldl_set audited with old | new
            · exact .inl (.inr (.inr (.inl ⟨actionId, old⟩)))
            · exact .inr (.inl (.inr ⟨action, new, rfl⟩))
          · exact .inl (.inr (.inr (.inr executed)))
      | _ => exact .inl has
  | storingRedirection update redirection rest =>
      cases r with
      | redirection stored =>
          rcases has with ⟨routeId, listed⟩ | audited
          · have listed : stored ∈ (s.redirections.updateRecommendation
                redirection).getActiveRecommendations routeId := listed
            rw [RedirectionState.getActiveRecommendations_update] at listed
            split at listed
            · rcases mem_updateRecommendation listed with rfl | old
              · exact .inr (.inl (.inr ⟨_, List.mem_cons_self, rfl⟩))
              · exact .inl (.inl ⟨routeId, old⟩)
            · exact .inl (.inl ⟨routeId, listed⟩)
          · exact .inl (.inr audited)
      | _ => exact .inl has
  | publishingRedirection update redirection rest =>
      cases r with
      | redirection stored =>
          rcases has with listed | audited
          · exact .inl (.inl listed)
          · rcases List.mem_append.mp audited with old | new
            · exact .inl (.inr old)
            · rw [List.mem_singleton.mp new]
              exact .inr (.inl (.inr ⟨_, List.mem_cons_self, rfl⟩))
      | _ => exact .inl has
  | decidingNudge update fan lastNudgeAt rest generated =>
      have has : (decideNudge deps update fan lastNudgeAt rest generated s).shared.Holds r := has
      rw [decideNudge_shared] at has
      exact .inl has
  | enqueueingNudge update nudge rest generated =>
      have new : (PipelineTask.enqueueingNudge update nudge rest generated).Carries
          (.nudge nudge) := .inr ⟨nudge, List.mem_cons_self, rfl⟩
      cases r with
      | nudge stored =>
          rcases has with ⟨nudgeId, queued⟩ | audited | enqueued | listed
          · have queued : (s.nudges.queuedNudgeStore.set nudge.nudgeId nudge).get? nudgeId =
                some stored := queued
            rw [OrderedMap.get?_set] at queued
            split at queued
            · cases queued
              exact .inr (.inl new)
            · exact .inl (.inl ⟨nudgeId, queued⟩)
          · exact .inl (.inr (.inl audited))
          · rcases List.mem_append.mp enqueued with old | same
            · exact .inl (.inr (.inr (.inl old)))
            · rw [List.mem_singleton.mp same]
              exact .inr (.inl new)
          · exact .inl (.inr (.inr (.inr listed)))
      | _ => exact .inl has
  | publishingNudges nudges =>
      cases r with
      | nudge stored =>
          rcases has with queued | ⟨nudgeId, audited⟩ | others
          · exact .inl (.inl queued)
          · rcases mem_of_get?_foldl_set audited with old | new
            · exact .inl (.inr (.inl ⟨nudgeId, old⟩))
            · exact .inr (.inl ⟨stored, new, rfl⟩)
          · exact .inl (.inr (.inr others))
      | _ => exact .inl has
  | locatingAction gateId actionId userId now actions =>
      have has : (locateAction gateId actionId userId now actions s).shared.Holds r := has
      rw [locateAction_shared] at has
      exact .inl has
  | writingActions gateId actions index updated =>
      cases r with
      | action action =>
          rcases has with ⟨other, listed⟩ | others
          · have listed : action ∈ (s.actions.setActiveActions gateId
                (actions.set index updated)).getActiveActions other := listed
            rw [ActionState.getActiveActions_set] at listed
            split at listed
            · refine .inr (.inl ⟨action, ?_, rfl⟩)
              rcases List.mem_or_eq_of_mem_set listed with old | rfl
              · exact List.mem_cons_of_mem _ old
              · exact List.mem_cons_self
            · exact .inl (.inl ⟨other, listed⟩)
          · exact .inl (.inr others)
      | _ => exact .inl has
  | returningAction updated =>
      cases r with
      | action action =>
          rcases has with stored | listed | audited | executed
          · exact .inl (.inl stored)
          · exact .inl (.inr (.inl listed))
          · exact .inl (.inr (.inr (.inl audited)))
          · rcases List.mem_append.mp executed with old | new
            · exact .inl (.inr (.inr (.inr old)))
            · rw [List.mem_singleton.mp new]
              exact .inr (.inl rfl)
      | _ => exact .inl has
  | _ => cases r <;> exact .inl has

/-- What the loop over the fans is handed. -/
theorem carries_nextFan {update : ScoreUpdate} {fans : List FanContext}
    {generated : List FanNudge} (has : (nextFan update fans generated).Carries r) :
    (∃ fan ∈ fans, r = .fan update.gate.gateId fan.fanId) ∨
      ∃ nudge ∈ generated, r = .nudge nudge := by
  cases fans with
  | nil => exact .inr has
  | cons fan rest => exact has

/-- What the loop over the redirections, or else the loop over the fans, is handed. -/
theorem carries_nextRedirection {update : ScoreUpdate}
    {redirections : List ShuttleRedirectionRecommendation}
    (has : (nextRedirection s update redirections).Carries r) :
    s.Holds r ∨ r = .message ⟨update.gate, update.result⟩ ∨
      ∃ redirection ∈ redirections, r = .redirection redirection := by
  cases redirections with
  | cons redirection rest => exact .inr has
  | nil =>
      rcases carries_nextFan has with ⟨fan, listed, rfl⟩ | ⟨nudge, impossible, -⟩
      · exact .inl ⟨fan, listed, rfl⟩
      · exact absurd impossible List.not_mem_nil

/-- A stretch hands on what it read, was handed or makes. -/
theorem carries_resume {task next : PipelineTask} (left : next ∈ (resume deps task s).successors)
    (has : next.Carries r) : s.Holds r ∨ task.Carries r ∨ task.Makes deps s r := by
  cases task with
  | computing gate window =>
      rw [resume_computing] at left
      rw [List.mem_singleton.mp left] at has
      exact .inr (.inr has)
  | savingScore computation point =>
      rw [List.mem_singleton.mp left] at has
      exact .inr (.inl has)
  | publishingForecast computation =>
      rw [List.mem_singleton.mp left] at has
      exact .inr (.inr (.inl has))
  | raisingAlert update =>
      rw [List.mem_singleton.mp left] at has
      rcases has with message | ⟨event, listed, rfl⟩
      · exact .inr (.inl message)
      -- the window is read in this stretch
      · exact .inl listed
  | recommending update window =>
      rw [List.mem_singleton.mp left] at has
      exact .inr (has.imp_left .inl)
  | storingActions update actions =>
      rw [List.mem_singleton.mp left] at has
      exact .inr (.inl has)
  | publishingActions update actions =>
      rw [List.mem_singleton.mp left] at has
      exact .inr (.inl (.inl has))
  | advising update =>
      rw [List.mem_singleton.mp left] at has
      exact carries_nextRedirection has
  | storingRedirection update redirection rest =>
      rw [List.mem_singleton.mp left] at has
      exact .inr (.inl has)
  | publishingRedirection update redirection rest =>
      rw [List.mem_singleton.mp left] at has
      rcases carries_nextRedirection has with known | message | ⟨carried, listed, rfl⟩
      · exact .inl known
      · exact .inr (.inl (.inl message))
      · exact .inr (.inl (.inr ⟨carried, List.mem_cons_of_mem _ listed, rfl⟩))
  | readingCooldown update fan rest generated =>
      rw [List.mem_singleton.mp left] at has
      exact .inr (.inl has)
  | decidingNudge update fan lastNudgeAt rest generated =>
      have left : next ∈ (decideNudge deps update fan lastNudgeAt rest generated s).successors :=
        left
      unfold decideNudge at left
      split at left
      · rw [List.mem_singleton.mp left] at has
        rcases carries_nextFan has with ⟨carried, listed, rfl⟩ | nudges
        · exact .inr (.inl (.inl ⟨carried, List.mem_cons_of_mem _ listed, rfl⟩))
        · exact .inr (.inl (.inr nudges))
      · next nudge made =>
          rw [List.mem_singleton.mp left] at has
          rcases has with ⟨carried, listed, rfl⟩ | ⟨carried, listed, rfl⟩
          · exact .inr (.inl (.inl ⟨carried, List.mem_cons_of_mem _ listed, rfl⟩))
          · rcases List.mem_cons.mp listed with rfl | old
            · exact .inr (.inr ⟨carried, made, rfl⟩)
            · exact .inr (.inl (.inr ⟨carried, old, rfl⟩))
  | settingCooldown update fan nudge rest generated =>
      rw [List.mem_singleton.mp left] at has
      exact .inr (.inl has)
  | enqueueingNudge update nudge rest generated =>
      rw [List.mem_singleton.mp left] at has
      rcases has with fans | ⟨carried, listed, rfl⟩
      · exact .inr (.inl (.inl fans))
      · refine .inr (.inl (.inr ⟨carried, ?_, rfl⟩))
        rcases List.mem_append.mp listed with old | new
        · exact List.mem_cons_of_mem _ old
        · rw [List.mem_singleton.mp new]
          exact List.mem_cons_self
  | nudgeEnqueued update rest generated =>
      rw [List.mem_singleton.mp left] at has
      exact .inr (.inl (carries_nextFan has))
  | publishingNudges nudges => exact absurd left List.not_mem_nil
  | readingActions gateId actionId userId now =>
      rw [List.mem_singleton.mp left] at has
      obtain ⟨action, listed, rfl⟩ := has
      exact .inl (.inl ⟨gateId, listed⟩)
  | locatingAction gateId actionId userId now actions =>
      have left : next ∈ (locateAction gateId actionId userId now actions s).successors := left
      unfold locateAction at left
      split at left
      · exact absurd left List.not_mem_nil
      · next found located =>
          rw [List.mem_singleton.mp left] at has
          obtain ⟨action, carried, rfl⟩ := has
          rcases List.mem_cons.mp carried with rfl | old
          · have named : found.actionId = actionId := by simpa using List.find?_some located
            exact .inr (.inr ⟨found, List.mem_of_find?_eq_some located, named, rfl⟩)
          · exact .inr (.inl ⟨action, old, rfl⟩)
  | writingActions gateId actions index updated =>
      rw [List.mem_singleton.mp left] at has
      exact .inr (.inl ⟨updated, List.mem_cons_self, has⟩)
  | returningAction updated => exact absurd left List.not_mem_nil

variable (deps) in
/-- The pipeline's records. -/
theorem flow : (system deps).Flow PipelineState.Holds PipelineTask.Carries
    (PipelineStimulus.Brings deps) (PipelineTask.Makes deps) where
  stimulus_held _ _ _ := holds_stimulate
  stimulus_carried _ _ _ started _ := carries_stimulate started
  resume_held _ _ _ := holds_resume
  resume_carried _ _ _ left _ := carries_resume left

end Pipeline

/-! ## The other tasks -/

namespace FanNudgeDeliveryWorker

/-- What the loop over the snapshot is handed, or makes of it. -/
theorem carries_nextNudge {forecastsByGate : OrderedMap GateId ForecastResult} {now : ℤ}
    {queued : List FanNudge} {next : DeliveryTask} {r : ServerRecord}
    (found : next ∈ nextNudge forecastsByGate now queued) (has : next.Carries r) :
    (∃ nudge ∈ queued, r = .nudge nudge) ∨
      ∃ nudge ∈ queued, r = .nudge (simulateDelivery nudge forecastsByGate now).1 := by
  induction queued with
  | nil => cases found
  | cons nudge rest ih =>
      unfold nextNudge at found
      split at found
      · rcases ih found with ⟨later, listed, rfl⟩ | ⟨later, listed, rfl⟩
        · exact .inl ⟨later, List.mem_cons_of_mem _ listed, rfl⟩
        · exact .inr ⟨later, List.mem_cons_of_mem _ listed, rfl⟩
      · cases found
        obtain ⟨carried, listed, rfl⟩ := has
        rcases List.mem_cons.mp listed with rfl | later
        · exact .inr ⟨nudge, List.mem_cons_self, rfl⟩
        · exact .inl ⟨carried, List.mem_cons_of_mem _ later, rfl⟩

variable {s : PipelineState} {r : ServerRecord}

theorem holds_resume {task : DeliveryTask} (has : (resume task s).shared.Holds r) :
    s.Holds r ∨ task.Carries r ∨ task.Makes s r := by
  cases task with
  | readingQueue now => exact .inl has
  | delivering now queued => exact .inl has
  | updatingNudge now nudge updated deliveryRecord rest =>
      cases r with
      | nudge stored =>
          rcases has with ⟨nudgeId, queued⟩ | others
          · have queued : (s.nudges.queuedNudgeStore.set updated.nudgeId updated).get? nudgeId =
                some stored := queued
            rw [OrderedMap.get?_set] at queued
            split at queued
            · cases queued
              exact .inr (.inl ⟨updated, List.mem_cons_self, rfl⟩)
            · exact .inl (.inl ⟨nudgeId, queued⟩)
          · exact .inl (.inr others)
      | _ => exact .inl has
  | recordingOutcome now updated deliveryRecord rest =>
      have new : (DeliveryTask.recordingOutcome now updated deliveryRecord rest).Carries
          (.nudge updated) := ⟨updated, List.mem_cons_self, rfl⟩
      cases r with
      | nudge stored =>
          rcases has with queued | ⟨nudgeId, audited⟩ | enqueued | listed
          · exact .inl (.inl queued)
          · have audited : (s.audit.nudges.set updated.nudgeId updated).get? nudgeId =
                some stored := audited
            rw [OrderedMap.get?_set] at audited
            split at audited
            · cases audited
              exact .inr (.inl new)
            · exact .inl (.inr (.inl ⟨nudgeId, audited⟩))
          · exact .inl (.inr (.inr (.inl enqueued)))
          · rcases List.mem_append.mp listed with old | same
            · exact .inl (.inr (.inr (.inr old)))
            · rw [List.mem_singleton.mp same]
              exact .inr (.inl new)
      | _ => exact .inl has

theorem carries_resume {task next : DeliveryTask} (left : next ∈ (resume task s).successors)
    (has : next.Carries r) : s.Holds r ∨ task.Carries r ∨ task.Makes s r := by
  cases task with
  | readingQueue now =>
      rw [List.mem_singleton.mp left] at has
      obtain ⟨nudge, listed, rfl⟩ := has
      exact .inl (.inl (OrderedMap.mem_values.mp listed))
  | delivering now queued =>
      have left : next ∈ (nextNudge s.forecasts.forecastsByGate now queued).toList ++ [] := left
      rw [List.append_nil, Option.mem_toList] at left
      exact .inr (carries_nextNudge left has)
  | updatingNudge now nudge updated deliveryRecord rest =>
      rw [List.mem_singleton.mp left] at has
      exact .inr (.inl has)
  | recordingOutcome now updated deliveryRecord rest =>
      rw [List.mem_singleton.mp left] at has
      obtain ⟨nudge, listed, rfl⟩ := has
      exact .inr (.inl ⟨nudge, List.mem_cons_of_mem _ listed, rfl⟩)

theorem flow : system.Flow PipelineState.Holds DeliveryTask.Carries (fun _ _ _ => False)
    DeliveryTask.Makes where
  stimulus_held _ _ _ has := .inl has
  stimulus_carried _ _ task started r has := by
    rw [List.mem_singleton.mp started] at has
    exact absurd has id
  resume_held _ _ _ := holds_resume
  resume_carried _ _ _ left _ := carries_resume left

end FanNudgeDeliveryWorker

namespace DataQualityCheck

/-- An alert that is in the store after a check was there before, or is for the gate
that was checked. -/
theorem alert_raised {s : AlertState} {gateId : GateId} {statuses : List SourceStatus} {now : ℤ}
    {alertId : ℕ} {alert : Alert}
    (stored : (s.raiseDataQualityAlertIfAllDegraded gateId statuses now).alertStore.get? alertId =
      some alert) :
    s.alertStore.get? alertId = some alert ∨ alert.alertType = .dataQuality ∧
      alert.gateId = gateId ∧ alert.raisedAt = IsoDate.toISOString now := by
  unfold AlertState.raiseDataQualityAlertIfAllDegraded at stored
  split at stored
  · rw [OrderedMap.get?_set] at stored
    split at stored
    · cases stored
      exact .inr ⟨rfl, rfl, rfl⟩
    · exact .inl stored
  · exact .inl stored

theorem flow (deps : PipelineDependencies) :
    (system deps.gates).Flow PipelineState.Holds DataQualityTask.Carries
      (DataQualityStimulus.Brings deps) DataQualityTask.Makes where
  stimulus_held stimulus s r has := by
    cases stimulus with
    | check => exact .inl has
    | markActive sourceType gateOrRouteId => cases r <;> exact .inl has
  stimulus_carried stimulus s task started r has := by
    cases stimulus with
    | check =>
        obtain ⟨gate, listed, rfl⟩ := List.mem_map.mp started
        exact .inr ⟨gate, listed, has⟩
    | markActive sourceType gateOrRouteId => exact absurd started List.not_mem_nil
  resume_held task s r has := by
    cases task with
    | readingStatus gateId sources statuses => cases sources <;> exact .inl has
    | readingAgain gateId sources statuses again =>
        cases sources with
        | cons first rest => exact .inl has
        | nil =>
            cases r with
            | alert alert =>
                obtain ⟨alertId, stored⟩ := has
                rcases alert_raised stored with old | raised
                · exact .inl ⟨alertId, old⟩
                · exact .inr (.inr ⟨alert, rfl, raised⟩)
            | _ => exact .inl has
  resume_carried task s next left r has := by
    cases task with
    | readingStatus gateId sources statuses =>
        cases sources <;>
          · rw [List.mem_singleton.mp left] at has
            exact .inr (.inl has)
    | readingAgain gateId sources statuses again =>
        cases sources with
        | nil => exact absurd left List.not_mem_nil
        | cons first rest =>
            rw [List.mem_singleton.mp left] at has
            exact .inr (.inl has)

end DataQualityCheck

namespace ShuttleRedirectionApi

variable {s : PipelineState} {r : ServerRecord}

theorem holds_resume {task : DecisionTask} (has : (resume task s).shared.Holds r) :
    s.Holds r ∨ task.Carries r ∨ task.Makes s r := by
  cases task with
  | finding decision routeId recommendationId dispatcherId now =>
      unfold resume at has
      simp only at has
      split at has <;> exact .inl has
  | found decision recommendation dispatcherId now => exact .inl has
  | storing decision updated =>
      have has : PipelineState.Holds
          { s with redirections := s.redirections.updateRecommendation updated } r := by
        cases decision <;> exact has
      cases r with
      | redirection stored =>
          rcases has with ⟨routeId, listed⟩ | audited
          · have listed : stored ∈ (s.redirections.updateRecommendation
                updated).getActiveRecommendations routeId := listed
            rw [RedirectionState.getActiveRecommendations_update] at listed
            split at listed
            · rcases mem_updateRecommendation listed with rfl | old
              · exact .inr (.inl rfl)
              · exact .inl (.inl ⟨routeId, old⟩)
            · exact .inl (.inl ⟨routeId, listed⟩)
          · exact .inl (.inr audited)
      | _ => exact .inl has
  | recordingRejection updated => cases r <;> exact .inl has
  | returning decision updated =>
      cases decision with
      | accept => exact .inl has
      | reject =>
          cases r with
          | rejection rejection =>
              rcases List.mem_append.mp has with old | new
              · exact .inl old
              · exact .inr (.inr (congrArg _ (List.mem_singleton.mp new)))
          | _ => exact .inl has

theorem carries_resume {task next : DecisionTask} (left : next ∈ (resume task s).successors)
    (has : next.Carries r) : s.Holds r ∨ task.Carries r ∨ task.Makes s r := by
  cases task with
  | finding decision routeId recommendationId dispatcherId now =>
      unfold resume at left
      simp only at left
      split at left
      · exact absurd left List.not_mem_nil
      · next recommendation located =>
          rw [List.mem_singleton.mp left] at has
          cases has
          exact .inl (.inl ⟨routeId, List.mem_of_find?_eq_some located⟩)
  | found decision recommendation dispatcherId now =>
      rw [List.mem_singleton.mp left] at has
      exact .inr (.inr has)
  | storing decision updated =>
      cases decision <;>
        · rw [List.mem_singleton.mp left] at has
          exact .inr (.inl has)
  | recordingRejection updated =>
      rw [List.mem_singleton.mp left] at has
      exact .inr (.inl has)
  | returning decision updated => cases decision <;> exact absurd left List.not_mem_nil

theorem flow : system.Flow PipelineState.Holds DecisionTask.Carries (fun _ _ _ => False)
    DecisionTask.Makes where
  stimulus_held stimulus s r has := by
    cases stimulus with
    | advance ms => cases r <;> exact .inl has
    | decide decision routeId recommendationId dispatcherId => exact .inl has
  stimulus_carried stimulus s task started r has := by
    cases stimulus with
    | advance ms => exact absurd started List.not_mem_nil
    | decide decision routeId recommendationId dispatcherId =>
        rw [List.mem_singleton.mp started] at has
        exact absurd has id
  resume_held _ _ _ := holds_resume
  resume_carried _ _ _ left _ := carries_resume left

end ShuttleRedirectionApi

end Stadium
