import Stadium.FanNotificationSystem.Delivery
import Stadium.OpsDashboard.Acknowledgement
import Stadium.OpsDashboard.DataQuality
import Stadium.Pipeline.AlertTransitions
import Stadium.Pipeline.IngestionAudit
import Stadium.Server.ReadRoutes
import Stadium.ShuttleRedirectionAdvisor.Api

/-!
# The server process

Everything `server.ts` puts together, over one memory: the ingestion service with the
pipeline behind it, the pipeline's timers, the dispatchers' decisions, the
acknowledgement of alerts and the readers. Each part works on its part of the memory;
whatever part raises an alert, the alert is filed in the one alert store.

No acknowledgement loses or alters an alert, and no later step takes an
acknowledgement back (`alerts_survive_acknowledgement`).
-/

namespace Stadium

open Interleaving TaskSystem

structure ServerState where
  ingestion : IngestionState
  /-- The alert store, with acknowledgements. -/
  alertStore : OrderedMap ℕ AlertRecord := ∅
  /-- Every record an `acknowledgeAlert` call returned. -/
  acknowledged : List AlertRecord := []

namespace ServerState

/-- The server just started. -/
def started (startedAt : ℤ) : ServerState where
  ingestion := { pipeline := .wired startedAt }

def pipeline (w : ServerState) : PipelineState := w.ingestion.pipeline

def putIngestion (s : IngestionState) (w : ServerState) : ServerState :=
  { w with
    ingestion := s
    alertStore := fileAlerts s.pipeline.alerts.alertStore w.alertStore }

def putPipeline (s : PipelineState) (w : ServerState) : ServerState :=
  w.putIngestion { w.ingestion with pipeline := s }

def desk (w : ServerState) : AlertDesk := ⟨w.pipeline.intake.clock, w.alertStore, w.acknowledged⟩

def putDesk (s : AlertDesk) (w : ServerState) : ServerState :=
  { w with alertStore := s.alertStore, acknowledged := s.acknowledged }

end ServerState

/-- The worker, the checks and the dispatchers' calls. -/
abbrev OperationTask := DeliveryTask ⊕ (DataQualityTask ⊕ DecisionTask)

abbrev OperationStimulus := DeliveryStimulus ⊕ (DataQualityStimulus ⊕ DecisionStimulus)

abbrev ProcessTask :=
  (PipelineTask ⊕ Handling) ⊕ (OperationTask ⊕ (AcknowledgementTask ⊕ ReadTask))

abbrev ProcessStimulus :=
  IngestionStimulus ⊕ (OperationStimulus ⊕ (AcknowledgementStimulus ⊕ Query))

namespace Process

variable (deps : PipelineDependencies)

def operations : TaskSystem PipelineState OperationTask OperationStimulus :=
  FanNudgeDeliveryWorker.system.sum
    ((DataQualityCheck.system deps.gates).sum ShuttleRedirectionApi.system)

/-- The server process. -/
def system : TaskSystem ServerState ProcessTask ProcessStimulus :=
  ((Ingestion.system deps).onPart (·.ingestion) ServerState.putIngestion).sum
    (((operations deps).onPart ServerState.pipeline ServerState.putPipeline).sum
      ((OpsDashboardApi.system.onPart ServerState.desk ServerState.putDesk).sum
        (ReadRoutes.system deps.gates ServerState.pipeline)))

end Process

/-! ## Raised alerts -/

/-- Ids still to be drawn are not in use, and every alert has the id it is under. -/
structure AlertState.Orderly (s : AlertState) : Prop where
  fresh : s.IdsFresh
  own : OwnIds s.alertStore

/-- Alerts may come, none goes or changes. -/
def AlertState.Grows (s t : AlertState) : Prop :=
  ∀ alertId alert, s.alertStore.get? alertId = some alert →
    t.alertStore.get? alertId = some alert

namespace AlertState

variable {s t : AlertState}

theorem Grows.refl (s : AlertState) : s.Grows s := fun _ _ stored => stored

theorem Grows.trans {u : AlertState} (first : s.Grows t) (second : t.Grows u) : s.Grows u :=
  fun alertId alert stored => second alertId alert (first alertId alert stored)

theorem Orderly.congr (orderly : s.Orderly) (store : t.alertStore = s.alertStore)
    (next : t.nextAlertId = s.nextAlertId) : t.Orderly ∧ s.Grows t := by
  refine ⟨⟨?_, store ▸ orderly.own⟩, fun alertId alert stored => store ▸ stored⟩
  intro alertId later
  rw [store]
  exact orderly.fresh alertId (next ▸ later)

/-- An alert is added under the next id. -/
theorem Orderly.add (orderly : s.Orderly) {alert : Alert} (named : alert.alertId = s.nextAlertId)
    (store : t.alertStore = s.alertStore.set s.nextAlertId alert)
    (next : t.nextAlertId = s.nextAlertId + 1) : t.Orderly ∧ s.Grows t := by
  have unused : s.alertStore.get? s.nextAlertId = none := orderly.fresh _ le_rfl
  refine ⟨⟨?_, ?_⟩, ?_⟩
  · intro alertId later
    rw [next] at later
    rw [store, OrderedMap.get?_set_ne _ _ (by omega)]
    exact orderly.fresh alertId (by omega)
  · intro alertId stored found
    rw [store, OrderedMap.get?_set] at found
    split at found
    · next same =>
        cases found
        rw [named, same]
    · exact orderly.own alertId stored found
  · intro alertId stored found
    have other : alertId ≠ s.nextAlertId := by
      rintro rfl
      rw [unused] at found
      cases found
    rw [store, OrderedMap.get?_set_ne _ _ other]
    exact found

theorem Orderly.raise (orderly : s.Orderly) (gateId : GateId) (previous new : RiskLevel)
    (now : ℤ) :
    (s.raiseRiskLevelAlertIfTransitioned gateId previous new now).Orderly ∧
      s.Grows (s.raiseRiskLevelAlertIfTransitioned gateId previous new now) := by
  unfold raiseRiskLevelAlertIfTransitioned
  rw [checkRiskLevelTransition_eq]
  cases riskTransition previous new with
  | false => exact ⟨orderly, .refl s⟩
  | true => exact orderly.add rfl rfl rfl

theorem Orderly.raiseDataQuality (orderly : s.Orderly) (gateId : GateId)
    (sourceStatuses : List SourceStatus) (now : ℤ) :
    (s.raiseDataQualityAlertIfAllDegraded gateId sourceStatuses now).Orderly ∧
      s.Grows (s.raiseDataQualityAlertIfAllDegraded gateId sourceStatuses now) := by
  unfold raiseDataQualityAlertIfAllDegraded
  split
  · exact orderly.add rfl rfl rfl
  · exact ⟨orderly, .refl s⟩

end AlertState

/-- What a step guarantees about the alerts of the pipeline. -/
abbrev FilesAlerts {τ ε : Type} (S : TaskSystem PipelineState τ ε) : Prop :=
  S.Guarantee (fun _ => True) (·.alerts.Orderly) (fun s t => s.alerts.Grows t.alerts)
    (fun _ _ => True)

theorem filesAlerts_of {τ ε : Type} {S : TaskSystem PipelineState τ ε}
    (stimulate : ∀ e s, s.alerts.Orderly →
      (S.stimulate e s).1.alerts.Orderly ∧ s.alerts.Grows (S.stimulate e s).1.alerts)
    (resume : ∀ task s, s.alerts.Orderly →
      (S.resume task s).shared.alerts.Orderly ∧ s.alerts.Grows (S.resume task s).shared.alerts) :
    FilesAlerts S where
  stimulate e s _ orderly :=
    ⟨(stimulate e s orderly).1, (stimulate e s orderly).2, fun _ _ => trivial⟩
  resume task s orderly _ :=
    ⟨(resume task s orderly).1, (resume task s orderly).2, fun _ _ => trivial⟩
  lasts _ _ _ _ _ := trivial

theorem Pipeline.filesAlerts (deps : PipelineDependencies) :
    FilesAlerts (Pipeline.system deps) := by
  refine filesAlerts_of (fun stimulus s orderly => ?_) (fun task s orderly => ?_)
  · cases stimulus with
    | congestionScore message => exact orderly.raise message.gate.gateId _ _ _
    | _ => exact orderly.congr (by simp [system, stimulate]) (by simp [system, stimulate])
  · by_cases publishes : task.publishes? = none
    · by_cases raising : ∃ update, task = .raisingAlert update
      · obtain ⟨update, rfl⟩ := raising
        exact orderly.congr rfl rfl
      · have unchanged := (resume_levels deps publishes (not_exists.mp raising) s).1
        exact orderly.congr (congrArg (·.alertStore) unchanged) (congrArg (·.nextAlertId) unchanged)
    · cases task with
      | publishingForecast computation => exact orderly.raise computation.gate.gateId _ _ _
      | _ => exact absurd rfl publishes

theorem FanNudgeDeliveryWorker.filesAlerts : FilesAlerts FanNudgeDeliveryWorker.system := by
  refine filesAlerts_of (fun stimulus s orderly => ?_) (fun task s orderly => ?_)
  · cases stimulus
    exact orderly.congr rfl rfl
  · cases task <;> exact orderly.congr rfl rfl

theorem DataQualityCheck.filesAlerts (gates : List Gate) :
    FilesAlerts (DataQualityCheck.system gates) := by
  refine filesAlerts_of (fun stimulus s orderly => ?_) (fun task s orderly => ?_)
  · cases stimulus <;> exact orderly.congr rfl rfl
  · cases task with
    | readingStatus gateId sources statuses => cases sources <;> exact orderly.congr rfl rfl
    | readingAgain gateId sources statuses again =>
        cases sources with
        | cons first rest => exact orderly.congr rfl rfl
        | nil => exact orderly.raiseDataQuality gateId statuses s.intake.clock

theorem ShuttleRedirectionApi.filesAlerts : FilesAlerts ShuttleRedirectionApi.system := by
  refine filesAlerts_of (fun stimulus s orderly => ?_) (fun task s orderly => ?_)
  · cases stimulus <;> exact orderly.congr rfl rfl
  · cases task with
    | finding decision routeId recommendationId dispatcherId now =>
        simp only [system, resume]
        split <;> exact orderly.congr rfl rfl
    | storing decision updated => cases decision <;> exact orderly.congr rfl rfl
    | returning decision updated => cases decision <;> exact orderly.congr rfl rfl
    | _ => exact orderly.congr rfl rfl

theorem Ingestion.callNext_alerts (deps : PipelineDependencies) (request : Handling)
    (s : IngestionState) :
    (Ingestion.callNext deps request s).shared.pipeline.alerts = s.pipeline.alerts := by
  unfold Ingestion.callNext
  cases request.effects with
  | nil => rfl
  | cons effect rest => cases effect <;> simp [Ingestion.perform]

/-- The ingestion service raises no alert of its own. -/
theorem Ingestion.filesAlerts (deps : PipelineDependencies) :
    (Ingestion.system deps).Guarantee (fun _ => True) (·.pipeline.alerts.Orderly)
      (fun s t => s.pipeline.alerts.Grows t.pipeline.alerts) (fun _ _ => True) where
  stimulate stimulus s _ orderly := by
    cases stimulus with
    | handleSignal uuid rawPayload =>
        have unchanged : ((system deps).stimulate (.handleSignal uuid rawPayload)
            s).1.pipeline.alerts = s.pipeline.alerts := callNext_alerts deps _ _
        rw [unchanged]
        exact ⟨orderly, .refl _, fun _ _ => trivial⟩
    | other stimulus quiet =>
        obtain ⟨kept, grows, -⟩ :=
          (Pipeline.filesAlerts deps).stimulate stimulus s.pipeline trivial orderly
        exact ⟨kept, grows, fun _ _ => trivial⟩
  resume task s orderly _ := by
    cases task with
    | inl task =>
        obtain ⟨kept, grows, -⟩ :=
          (Pipeline.filesAlerts deps).resume task s.pipeline orderly trivial
        exact ⟨kept, grows, fun _ _ => trivial⟩
    | inr request =>
        have unchanged : ((system deps).resume (.inr request) s).shared.pipeline.alerts =
            s.pipeline.alerts := callNext_alerts deps request s
        rw [unchanged]
        exact ⟨orderly, .refl _, fun _ _ => trivial⟩
  lasts _ _ _ _ _ := trivial

/-! ## The alert store -/

/-- Both fields of an acknowledgement are filled in. -/
def AlertRecord.Acknowledged (record : AlertRecord) : Prop :=
  record.acknowledgedAt.isSome = true ∧ record.acknowledgedByUserId.isSome = true

namespace ServerState

variable {w w' : ServerState}

/-- The store has the record's alert. -/
def Has (w : ServerState) (record : AlertRecord) : Prop :=
  ∃ stored, w.alertStore.get? record.alert.alertId = some stored ∧ stored.alert = record.alert

/-- The store has the record's alert, and it is acknowledged. -/
def HasAcknowledged (w : ServerState) (record : AlertRecord) : Prop :=
  ∃ stored, w.alertStore.get? record.alert.alertId = some stored ∧ stored.alert = record.alert ∧
    stored.Acknowledged

/-- The store is the pipeline's alerts, with acknowledgements. -/
structure AlertsFiled (w : ServerState) : Prop where
  orderly : w.pipeline.alerts.Orderly
  filed : ∀ alertId, (w.alertStore.get? alertId).map (·.alert) =
    w.pipeline.alerts.alertStore.get? alertId
  recorded : ∀ record ∈ w.acknowledged, w.HasAcknowledged record

/-- No alert goes or changes, and no acknowledgement is taken back. -/
structure AlertsLast (w w' : ServerState) : Prop where
  grows : w.pipeline.alerts.Grows w'.pipeline.alerts
  lasts : ∀ alertId record, w.alertStore.get? alertId = some record →
    ∃ later, w'.alertStore.get? alertId = some later ∧ later.alert = record.alert ∧
      (record.Acknowledged → later.Acknowledged)

theorem AlertsLast.refl (w : ServerState) : w.AlertsLast w where
  grows := .refl _
  lasts _ record stored := ⟨record, stored, rfl, id⟩

theorem AlertsLast.trans {u : ServerState} (first : w.AlertsLast w') (second : w'.AlertsLast u) :
    w.AlertsLast u where
  grows := first.grows.trans second.grows
  lasts alertId record stored := by
    obtain ⟨later, stored', same, kept⟩ := first.lasts alertId record stored
    obtain ⟨latest, stored'', same', kept'⟩ := second.lasts alertId later stored'
    exact ⟨latest, stored'', same'.trans same, fun marked => kept' (kept marked)⟩

theorem AlertsLast.has (last : w.AlertsLast w') {record : AlertRecord} (has : w.Has record) :
    w'.Has record := by
  obtain ⟨stored, found, same⟩ := has
  obtain ⟨later, found', same', -⟩ := last.lasts _ _ found
  exact ⟨later, found', same'.trans same⟩

theorem AlertsLast.hasAcknowledged (last : w.AlertsLast w') {record : AlertRecord}
    (has : w.HasAcknowledged record) : w'.HasAcknowledged record := by
  obtain ⟨stored, found, same, marked⟩ := has
  obtain ⟨later, found', same', kept⟩ := last.lasts _ _ found
  exact ⟨later, found', same'.trans same, kept marked⟩

/-- Filing new alerts keeps the store in step with the pipeline. -/
theorem AlertsFiled.put (inv : w.AlertsFiled) (s : IngestionState)
    (orderly : s.pipeline.alerts.Orderly) (grows : w.pipeline.alerts.Grows s.pipeline.alerts) :
    (w.putIngestion s).AlertsFiled ∧ w.AlertsLast (w.putIngestion s) := by
  have store : ∀ alertId, (w.putIngestion s).alertStore.get? alertId =
      (w.alertStore.get? alertId).or
        ((s.pipeline.alerts.alertStore.get? alertId).map fun alert => { alert }) :=
    get?_fileAlerts orderly.own w.alertStore
  have last : w.AlertsLast (w.putIngestion s) := by
    refine ⟨grows, fun alertId record stored => ⟨record, ?_, rfl, id⟩⟩
    rw [store, stored]
    rfl
  refine ⟨⟨orderly, fun alertId => ?_, fun record listed => ?_⟩, last⟩
  · show _ = s.pipeline.alerts.alertStore.get? alertId
    rw [store]
    have before := inv.filed alertId
    cases stored : w.alertStore.get? alertId with
    | none =>
        rw [Option.none_or, Option.map_map]
        exact congrFun Option.map_id _
    | some record =>
        rw [stored] at before
        exact (grows alertId record.alert before.symm).symm
  · exact last.hasAcknowledged (inv.recorded record listed)

/-- Storing an acknowledged copy of a filed alert. -/
theorem AlertsFiled.store (inv : w.AlertsFiled) {updated : AlertRecord} (has : w.Has updated)
    (marked : updated.Acknowledged) :
    (w.putDesk { w.desk with
        alertStore := w.alertStore.set updated.alert.alertId updated }).AlertsFiled ∧
      w.AlertsLast (w.putDesk { w.desk with
        alertStore := w.alertStore.set updated.alert.alertId updated }) := by
  obtain ⟨stored, found, same⟩ := has
  have last : w.AlertsLast (w.putDesk { w.desk with
      alertStore := w.alertStore.set updated.alert.alertId updated }) := by
    refine ⟨.refl _, fun alertId record filed => ?_⟩
    by_cases own : alertId = updated.alert.alertId
    · subst own
      rw [found] at filed
      cases filed
      exact ⟨updated, OrderedMap.get?_set_self _ _ _, same.symm, fun _ => marked⟩
    · exact ⟨record, (OrderedMap.get?_set_ne _ _ own).trans filed, rfl, id⟩
  refine ⟨⟨inv.orderly, fun alertId => ?_, fun record listed => ?_⟩, last⟩
  · show ((w.alertStore.set updated.alert.alertId updated).get? alertId).map (·.alert) =
      w.pipeline.alerts.alertStore.get? alertId
    rw [← inv.filed alertId, OrderedMap.get?_set]
    split
    · next own =>
        rw [own, found, Option.map_some, Option.map_some, same]
    · rfl
  · exact last.hasAcknowledged (inv.recorded record listed)

/-- What a call of `acknowledgeAlert` has in its local variables. -/
def Supports (w : ServerState) : AcknowledgementTask → Prop
  | .finding .. => True
  | .found record _ _ => w.Has record
  | .storing updated => w.Has updated ∧ updated.Acknowledged
  | .returning updated => w.HasAcknowledged updated

theorem AlertsLast.supports (last : w.AlertsLast w') {task : AcknowledgementTask}
    (fine : w.Supports task) : w'.Supports task := by
  cases task with
  | finding alertId userId now => trivial
  | found record userId now => exact last.has fine
  | storing updated => exact ⟨last.has fine.1, fine.2⟩
  | returning updated => exact last.hasAcknowledged fine

end ServerState

open ServerState in
/-- The calls of `acknowledgeAlert` keep the store in step with the pipeline. -/
theorem OpsDashboardApi.guarantee :
    (OpsDashboardApi.system.onPart desk putDesk).Guarantee (fun _ => True) AlertsFiled AlertsLast
      Supports where
  stimulate stimulus w _ inv := by
    cases stimulus with
    | acknowledgeAlert alertId userId =>
        refine ⟨inv, .refl w, fun task started => ?_⟩
        rw [List.mem_singleton.mp started]
        trivial
  resume task w inv fine := by
    cases task with
    | finding alertId userId now =>
        have next : ∀ found, w.alertStore.get? alertId = found →
            OpsDashboardApi.resume (.finding alertId userId now) w.desk =
              ⟨w.desk, found.map (.found · userId now), []⟩ := by
          rintro found rfl
          show OpsDashboardApi.resume (.finding alertId userId now) w.desk =
            ⟨w.desk, (w.desk.alertStore.get? alertId).map _, []⟩
          unfold OpsDashboardApi.resume
          simp only
          cases w.desk.alertStore.get? alertId <;> rfl
        show (putDesk (OpsDashboardApi.resume (.finding alertId userId now) w.desk).shared
          w).AlertsFiled ∧ w.AlertsLast (putDesk (OpsDashboardApi.resume _ w.desk).shared w) ∧
            ∀ task ∈ (OpsDashboardApi.resume (.finding alertId userId now) w.desk).successors,
              (putDesk (OpsDashboardApi.resume _ w.desk).shared w).Supports task
        cases found : w.alertStore.get? alertId with
        | none =>
            rw [next _ found]
            exact ⟨inv, .refl w, fun task impossible => absurd impossible List.not_mem_nil⟩
        | some record =>
            rw [next _ found]
            refine ⟨inv, .refl w, fun task left => ?_⟩
            rw [List.mem_singleton.mp left]
            have raised := inv.filed alertId
            rw [found] at raised
            have named := inv.orderly.own alertId record.alert raised.symm
            exact ⟨record, named ▸ found, rfl⟩
    | found record userId now =>
        refine ⟨inv, .refl w, fun next left => ?_⟩
        rw [List.mem_singleton.mp left]
        exact ⟨fine, rfl, rfl⟩
    | storing updated =>
        obtain ⟨kept, last⟩ := inv.store fine.1 fine.2
        refine ⟨kept, last, fun next left => ?_⟩
        rw [List.mem_singleton.mp left]
        exact ⟨updated, OrderedMap.get?_set_self _ _ _, rfl, fine.2⟩
    | returning updated =>
        refine ⟨⟨inv.orderly, inv.filed, fun record listed => ?_⟩,
          ⟨.refl _, fun alertId record stored => ⟨record, stored, rfl, id⟩⟩,
          fun next impossible => absurd impossible List.not_mem_nil⟩
        rcases List.mem_append.mp listed with old | new
        · exact inv.recorded record old
        · rw [List.mem_singleton.mp new]
          exact fine
  lasts w w' task last fine := last.supports fine

namespace Process

variable (deps : PipelineDependencies)

open ServerState in
theorem guarantee : (system deps).Guarantee
    (Sum.elim (fun _ => True) (Sum.elim (fun _ => True)
      (Sum.elim (fun _ => True) fun _ => True))) AlertsFiled AlertsLast
    (fun w => Sum.elim (fun _ => True) (Sum.elim (fun _ => True)
      (Sum.elim w.Supports fun _ => True))) := by
  have operating : FilesAlerts (operations deps) := by
    refine filesAlerts_of (fun e s orderly => ?_) (fun task s orderly => ?_)
    · obtain ⟨kept, grows, -⟩ := (FanNudgeDeliveryWorker.filesAlerts.sum
        ((DataQualityCheck.filesAlerts deps.gates).sum
          ShuttleRedirectionApi.filesAlerts)).stimulate e s (by rcases e with e | e | e <;> trivial)
            orderly
      exact ⟨kept, grows⟩
    · obtain ⟨kept, grows, -⟩ := (FanNudgeDeliveryWorker.filesAlerts.sum
        ((DataQualityCheck.filesAlerts deps.gates).sum
          ShuttleRedirectionApi.filesAlerts)).resume task s orderly
            (by rcases task with task | task | task <;> trivial)
      exact ⟨kept, grows⟩
  have ingesting : ((Ingestion.system deps).onPart (·.ingestion) putIngestion).Guarantee
      (fun _ => True) AlertsFiled AlertsLast (fun _ _ => True) :=
    (Ingestion.filesAlerts deps).onPart (fun w inv => inv.orderly)
      (fun s w inv orderly grows => inv.put s orderly grows) (fun _ _ _ => rfl)
      (fun w w' last => last.grows)
  have operatingPart : ((operations deps).onPart pipeline putPipeline).Guarantee
      (fun _ => True) AlertsFiled AlertsLast (fun _ _ => True) :=
    operating.onPart (fun w inv => inv.orderly)
      (fun s w inv orderly grows => inv.put { w.ingestion with pipeline := s } orderly grows)
      (fun _ _ _ => rfl) (fun w w' last => last.grows)
  exact ingesting.sum (operatingPart.sum
    (OpsDashboardApi.guarantee.sum (ReadRoutes.guarantee deps.gates pipeline .refl)))

/-- **No alert is lost or altered by an acknowledgement, and none is taken back.** At
every point of every run of the process, the store holds the alerts that were raised,
as they were raised; what was acknowledged, or answered as acknowledged, stays so. -/
theorem alerts_survive_acknowledgement (startedAt : ℤ)
    (earlier later : List (Choice ProcessStimulus)) :
    ((system deps).run ⟨.started startedAt, []⟩ earlier).shared.AlertsFiled ∧
      ((system deps).run ⟨.started startedAt, []⟩ earlier).shared.AlertsLast
        ((system deps).run ⟨.started startedAt, []⟩ (earlier ++ later)).shared := by
  have all : ∀ e : ProcessStimulus,
      Sum.elim (fun _ => True) (Sum.elim (fun _ => True)
        (Sum.elim (fun _ => True) fun _ => True)) e := by
    rintro (e | e | e | e) <;> trivial
  have start : (ServerState.started startedAt).AlertsFiled :=
    ⟨⟨fun _ _ => rfl, fun _ _ impossible => by cases impossible⟩, fun _ => rfl,
      fun _ impossible => absurd impossible List.not_mem_nil⟩
  obtain ⟨filed, -, fine⟩ := (guarantee deps).run .refl (fun _ _ _ => .trans)
    ⟨.started startedAt, []⟩ earlier start
    (fun _ impossible => absurd impossible List.not_mem_nil) (fun e _ => all e)
  refine ⟨filed, ?_⟩
  rw [run_append]
  exact ((guarantee deps).run .refl (fun _ _ _ => .trans) _ later filed fine
    (fun e _ => all e)).2.1

end Process

end Stadium
