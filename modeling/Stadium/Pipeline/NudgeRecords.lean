import Stadium.Lib.IsoText
import Stadium.Lib.RecordStore
import Stadium.Pipeline.NudgeAudit

/-!
# The records of generated nudges

A nudge id joins the fan, the gate and the time of the score update with
hyphens. The time can be told apart from what stands before it, fan and gate
cannot be told apart from each other. So two nudges share their id exactly if
they are of one time and fan and gate of one read like fan and gate of the
other with a hyphen in between. The queue and the audit store a nudge under
its id, the worker only moves its status: where no two nudges read alike, both
show every nudge as it was generated.
-/

namespace Stadium

open Interleaving TaskSystem

/-- The fan, the gate and the time of a score update that a nudge is generated
for. -/
structure NudgeOrigin where
  fanId : FanId
  gateId : GateId
  now : ℤ
  deriving DecidableEq

def NudgeOrigin.nudgeId (origin : NudgeOrigin) : String :=
  Text.join '-' (Text.join '-' origin.fanId origin.gateId) (IsoDate.toISOString origin.now)

/-- The two are of different times, or fan and gate of one do not read like fan
and gate of the other. -/
def NudgeOrigin.Apart (a b : NudgeOrigin) : Prop :=
  a.now = b.now → ¬ Text.ReadsLike '-' a.fanId a.gateId b.fanId b.gateId

/-- **When two nudge ids agree.** -/
theorem NudgeOrigin.nudgeId_ne_iff (a b : NudgeOrigin) : a.nudgeId ≠ b.nudgeId ↔ a.Apart b := by
  unfold nudgeId Apart
  rw [Ne, IsoDate.join_toISOString_inj, Text.join_eq_join_iff, not_and']

/-- The nudge as it was generated: the worker has not settled it yet. -/
def FanNudge.asGenerated (nudge : FanNudge) : FanNudge :=
  { nudge with
    status := .queued
    simulatedDeliveryTimestamp := none }

theorem generateFanNudge_nudgeId {localeCompare : String → String → Ordering} {fan : FanContext}
    {originGate : Gate} {forecastsByGate : OrderedMap GateId ForecastResult}
    {lastNudgeAt : Option ℤ} {now : ℤ} {nudge : FanNudge}
    (generated : generateFanNudge localeCompare fan originGate forecastsByGate lastNudgeAt now =
      some nudge) :
    nudge.nudgeId = NudgeOrigin.nudgeId ⟨fan.fanId, originGate.gateId, now⟩ ∧
      nudge.asGenerated = nudge := by
  unfold generateFanNudge at generated
  split at generated
  · cases generated
  · simp only at generated
    split at generated
    · cases generated
    · cases generated
      exact ⟨rfl, rfl⟩

theorem asGenerated_simulateDelivery (nudge : FanNudge)
    (forecastsByGate : OrderedMap GateId ForecastResult) (now : ℤ) :
    (simulateDelivery nudge forecastsByGate now).1.asGenerated = nudge.asGenerated := by
  unfold simulateDelivery
  simp only
  split <;> rfl

/-! ## What is noted of a run -/

/-- What happens to the nudges of a score update. -/
inductive NudgeEvent where
  | generated (origin : NudgeOrigin) (nudge : FanNudge)
  | enqueued (nudge : FanNudge)
  | published (nudges : List FanNudge)

namespace NudgeEvent

def origin? : NudgeEvent → Option NudgeOrigin
  | .generated origin _ => some origin
  | _ => none

def generated? : NudgeEvent → Option FanNudge
  | .generated _ nudge => some nudge
  | _ => none

def enqueued? : NudgeEvent → Option FanNudge
  | .enqueued nudge => some nudge
  | _ => none

def publishedNudges : NudgeEvent → List FanNudge
  | .published nudges => nudges
  | _ => []

end NudgeEvent

section events

variable (events first second : List NudgeEvent)

def nudgeOrigins : List NudgeOrigin := events.filterMap NudgeEvent.origin?

def generatedNudges : List FanNudge := events.filterMap NudgeEvent.generated?

def enqueuedNudges : List FanNudge := events.filterMap NudgeEvent.enqueued?

def publishedNudges : List FanNudge := events.flatMap NudgeEvent.publishedNudges

@[simp] theorem nudgeOrigins_append :
    nudgeOrigins (first ++ second) = nudgeOrigins first ++ nudgeOrigins second :=
  List.filterMap_append

@[simp] theorem generatedNudges_append :
    generatedNudges (first ++ second) = generatedNudges first ++ generatedNudges second :=
  List.filterMap_append

@[simp] theorem enqueuedNudges_append :
    enqueuedNudges (first ++ second) = enqueuedNudges first ++ enqueuedNudges second :=
  List.filterMap_append

@[simp] theorem publishedNudges_append :
    publishedNudges (first ++ second) = publishedNudges first ++ publishedNudges second :=
  List.flatMap_append

end events

/-- The nudges a run of the worker carries. -/
def DeliveryTask.carriedNudges : DeliveryTask → List FanNudge
  | .readingQueue _ => []
  | .delivering _ queued => queued
  | .updatingNudge _ _ updated _ rest => updated :: rest
  | .recordingOutcome _ updated _ rest => updated :: rest

/-- A generated nudge has the id of its origin, and is noted as generated. -/
def NudgeEvent.Faithful : NudgeEvent → Prop
  | .generated origin nudge => nudge.nudgeId = origin.nudgeId ∧ nudge.asGenerated = nudge
  | _ => True

theorem map_nudgeId_generatedNudges {events : List NudgeEvent}
    (faithful : ∀ event ∈ events, event.Faithful) :
    (generatedNudges events).map (·.nudgeId) =
      (nudgeOrigins events).map NudgeOrigin.nudgeId := by
  induction events with
  | nil => rfl
  | cons event rest ih =>
      rw [List.forall_mem_cons] at faithful
      have later := ih faithful.2
      cases event with
      | generated origin nudge => exact congrArg₂ List.cons faithful.1.1 later
      | enqueued nudge => exact later
      | published nudges => exact later

theorem asGenerated_of_generated {events : List NudgeEvent}
    (faithful : ∀ event ∈ events, event.Faithful) :
    ∀ nudge ∈ generatedNudges events, nudge.asGenerated = nudge := by
  intro nudge member
  obtain ⟨event, noted, shown⟩ := List.mem_filterMap.mp member
  have own := faithful event noted
  cases event with
  | generated origin made =>
      obtain rfl := Option.some.inj shown
      exact own.2
  | enqueued => cases shown
  | published => cases shown

/-- Generated nudges have different ids exactly if their origins are pairwise
apart. -/
theorem nodup_nudgeIds_iff {events : List NudgeEvent}
    (faithful : ∀ event ∈ events, event.Faithful) :
    ((generatedNudges events).map (·.nudgeId)).Nodup ↔
      (nudgeOrigins events).Pairwise NudgeOrigin.Apart := by
  rw [map_nudgeId_generatedNudges faithful, List.Nodup, List.pairwise_map]
  exact List.Pairwise.iff NudgeOrigin.nudgeId_ne_iff

namespace Pipeline

variable (deps : PipelineDependencies)

/-- The note on the answer of `getLastNudgeAt`. -/
def noteDecision (update : ScoreUpdate) (fan : FanContext) (made : Option FanNudge) :
    List NudgeEvent :=
  (made.map (.generated ⟨fan.fanId, update.gate.gateId, update.now⟩)).toList

/-- Notes when nudges are generated, enqueued and published. -/
def nudgeEvents : Observer PipelineState (PipelineTask ⊕ DeliveryTask)
    (PipelineStimulus ⊕ DeliveryStimulus) NudgeEvent where
  onStimulus _ _ := []
  onResume
    | .inl (.decidingNudge update fan lastNudgeAt rest generated), s =>
        noteDecision update fan
          (newNudge? deps s (.decidingNudge update fan lastNudgeAt rest generated))
    | .inl (.enqueueingNudge _ nudge _ _), _ => [.enqueued nudge]
    | .inl (.publishingNudges nudges), _ => [.published nudges]
    | _, _ => []

/-- What happens to nudges along a schedule. -/
def nudgeEventsAlong (startedAt : ℤ) (schedule : WorkerSchedule) : List NudgeEvent :=
  (withWorker deps).trace (nudgeEvents deps) ⟨.wired startedAt, []⟩ schedule

theorem generatedNudges_onResume (task : PipelineTask) (s : PipelineState) :
    generatedNudges ((nudgeEvents deps).onResume (.inl task) s) =
      (newNudge? deps s task).toList := by
  cases task with
  | decidingNudge update fan lastNudgeAt rest generated =>
      simp only [nudgeEvents, noteDecision]
      cases newNudge? deps s (.decidingNudge update fan lastNudgeAt rest generated) <;> rfl
  | _ => rfl

theorem noteDecision_faithful (update : ScoreUpdate) (fan : FanContext) (lastNudgeAt : Option ℤ)
    (rest : List FanContext) (generated : List FanNudge) (s : PipelineState) :
    let notes := (nudgeEvents deps).onResume
      (.inl (.decidingNudge update fan lastNudgeAt rest generated)) s
    enqueuedNudges notes = [] ∧ publishedNudges notes = [] ∧
      ∀ event ∈ notes, event.Faithful := by
  simp only [nudgeEvents, noteDecision]
  cases made : newNudge? deps s (.decidingNudge update fan lastNudgeAt rest generated) with
  | none => exact ⟨rfl, rfl, List.forall_mem_nil _⟩
  | some nudge =>
      refine ⟨rfl, rfl, ?_⟩
      intro event noted
      rw [List.mem_singleton.mp noted]
      exact generateFanNudge_nudgeId made

/-- At the head of its loop a run carries nothing but its snapshot, with the
first QUEUED nudge settled. -/
theorem carriedNudges_nextNudge (forecastsByGate : OrderedMap GateId ForecastResult) (now : ℤ)
    (queued : List FanNudge) :
    ∀ task ∈ FanNudgeDeliveryWorker.nextNudge forecastsByGate now queued,
      ∀ nudge ∈ task.carriedNudges, ∃ held ∈ queued, held.asGenerated = nudge.asGenerated := by
  induction queued with
  | nil => exact fun task impossible => nomatch impossible
  | cons first rest ih =>
      intro task next nudge carried
      unfold FanNudgeDeliveryWorker.nextNudge at next
      split at next
      · obtain ⟨held, member, same⟩ := ih task next nudge carried
        exact ⟨held, List.mem_cons_of_mem first member, same⟩
      · obtain rfl := Option.some.inj next
        rcases List.mem_cons.mp carried with rfl | later
        · exact ⟨first, List.mem_cons_self, (asGenerated_simulateDelivery first _ now).symm⟩
        · exact ⟨nudge, List.mem_cons_of_mem first later, rfl⟩

/-! ## The invariant -/

/-- Handlers, runs of the worker, the queue and the audit hold generated nudges
only; the queue keeps the enqueued ones and the audit the published ones. -/
structure NudgeRecordsInv (s : PipelineState) (handlers : List PipelineTask)
    (workers : List DeliveryTask) (events : List NudgeEvent) : Prop where
  faithful : ∀ event ∈ events, event.Faithful
  carried : ∀ task ∈ handlers, ∀ nudge ∈ task.carriedNudges, nudge ∈ generatedNudges events
  worked : ∀ task ∈ workers, ∀ nudge ∈ task.carriedNudges,
    nudge.asGenerated ∈ generatedNudges events
  queue : s.nudges.queuedNudgeStore.Keeps (·.nudgeId) FanNudge.asGenerated
    (generatedNudges events) (enqueuedNudges events)
  audit : s.audit.nudges.Keeps (·.nudgeId) FanNudge.asGenerated
    (generatedNudges events) (publishedNudges events)

namespace NudgeRecordsInv

variable {s : PipelineState} {handlers before after : List PipelineTask} {task : PipelineTask}
  {workers : List DeliveryTask} {events : List NudgeEvent}

theorem wired (startedAt : ℤ) : NudgeRecordsInv (.wired startedAt) [] [] [] where
  faithful := by simp
  carried := by simp
  worked := by simp
  queue := .empty
  audit := .empty

/-- A step that enqueues nothing, publishes nothing and leaves the stores
alone. -/
theorem congr (inv : NudgeRecordsInv s handlers workers events) {t : PipelineState}
    {handlers' : List PipelineTask} {notes : List NudgeEvent} (nudges : t.nudges = s.nudges)
    (audit : t.audit.nudges = s.audit.nudges)
    (silent : enqueuedNudges notes = [] ∧ publishedNudges notes = [] ∧
      ∀ event ∈ notes, event.Faithful)
    (carried : ∀ task ∈ handlers', ∀ nudge ∈ task.carriedNudges,
      nudge ∈ generatedNudges (events ++ notes)) :
    NudgeRecordsInv t handlers' workers (events ++ notes) where
  faithful := List.forall_mem_append.mpr ⟨inv.faithful, silent.2.2⟩
  carried := carried
  worked := by
    intro task member nudge held
    rw [generatedNudges_append]
    exact List.mem_append_left _ (inv.worked task member nudge held)
  queue := by
    rw [nudges, enqueuedNudges_append, silent.1, List.append_nil, generatedNudges_append]
    exact inv.queue.grow (List.subset_append_left _ _)
  audit := by
    rw [audit, publishedNudges_append, silent.2.1, List.append_nil, generatedNudges_append]
    exact inv.audit.grow (List.subset_append_left _ _)

theorem carried_resumed (inv : NudgeRecordsInv s (before ++ task :: after) workers events) :
    ∀ next ∈ resumed (system deps) before task after s, ∀ nudge ∈ next.carriedNudges,
      nudge ∈ generatedNudges (events ++ (nudgeEvents deps).onResume (.inl task) s) := by
  rw [generatedNudges_append, generatedNudges_onResume]
  exact carried_mem_resumed inv.carried (carriedNudges_resume deps task s)

/-- What a handler carries was generated, and is as it was generated. -/
theorem generated_of_carried (inv : NudgeRecordsInv s (before ++ task :: after) workers events) :
    ∀ nudge ∈ task.carriedNudges,
      nudge ∈ generatedNudges events ∧ nudge.asGenerated = nudge := by
  intro nudge carried
  have generated := inv.carried task (by simp) nudge carried
  exact ⟨generated, asGenerated_of_generated inv.faithful nudge generated⟩

/-- A step of the pipeline. -/
theorem pipeline (inv : NudgeRecordsInv s (before ++ task :: after) workers events) :
    NudgeRecordsInv (resume deps task s).shared (resumed (system deps) before task after s)
      workers (events ++ (nudgeEvents deps).onResume (.inl task) s) := by
  have carried := inv.carried_resumed deps
  have own := inv.generated_of_carried
  cases task with
  | enqueueingNudge update nudge rest generated =>
      obtain ⟨made, fresh⟩ := own nudge List.mem_cons_self
      refine ⟨?_, carried, ?_, ?_, ?_⟩
      · exact List.forall_mem_append.mpr ⟨inv.faithful, by simp [nudgeEvents, NudgeEvent.Faithful]⟩
      · simpa [nudgeEvents, generatedNudges, NudgeEvent.generated?] using inv.worked
      · rw [generatedNudges_append, enqueuedNudges_append]
        show OrderedMap.Keeps _ _ (generatedNudges events ++ [])
          (enqueuedNudges events ++ [nudge])
          (s.nudges.queuedNudgeStore.set nudge.nudgeId nudge)
        rw [List.append_nil]
        exact inv.queue.write made fresh
      · simpa [nudgeEvents, generatedNudges, publishedNudges, NudgeEvent.generated?,
          NudgeEvent.publishedNudges, List.filterMap_cons, resume, continueWith,
          NudgeState.enqueue] using inv.audit
  | publishingNudges nudges =>
      -- the worker may have settled the nudge by now: the audit goes back to QUEUED,
      -- which `asGenerated` does not see
      refine ⟨?_, carried, ?_, ?_, ?_⟩
      · exact List.forall_mem_append.mpr ⟨inv.faithful, by simp [nudgeEvents, NudgeEvent.Faithful]⟩
      · simpa [nudgeEvents, generatedNudges, NudgeEvent.generated?] using inv.worked
      · simpa [nudgeEvents, generatedNudges, enqueuedNudges, NudgeEvent.generated?,
          NudgeEvent.enqueued?, List.filterMap_cons, resume, finish] using inv.queue
      · have written := inv.audit.writeAll own
        simpa [nudgeEvents, generatedNudges, publishedNudges, NudgeEvent.generated?,
          NudgeEvent.publishedNudges, List.filterMap_cons, PipelineTask.carriedNudges,
          PipelineTask.generated?, PipelineTask.unpublished, resume, finish] using written
  | decidingNudge update fan lastNudgeAt rest generated =>
      exact inv.congr (resume_nudges_other deps rfl s).1 (resume_nudges_other deps rfl s).2
        (noteDecision_faithful deps update fan lastNudgeAt rest generated s) carried
  | _ =>
      exact inv.congr (resume_nudges_other deps rfl s).1 (resume_nudges_other deps rfl s).2
        ⟨rfl, rfl, List.forall_mem_nil _⟩ carried

/-- A step of a run of the worker. -/
theorem worker {before after : List DeliveryTask} {task : DeliveryTask}
    (inv : NudgeRecordsInv s handlers (before ++ task :: after) events) :
    NudgeRecordsInv (FanNudgeDeliveryWorker.resume task s).shared handlers
      (resumed FanNudgeDeliveryWorker.system before task after s) events := by
  have own := inv.worked task (by simp)
  have worked : ∀ next ∈ resumed FanNudgeDeliveryWorker.system before task after s,
      ∀ nudge ∈ next.carriedNudges, nudge.asGenerated ∈ generatedNudges events := by
    refine forall_mem_resumed inv.worked ?_
    intro own next member nudge carried
    cases task with
    | readingQueue now =>
        rw [List.mem_singleton.mp member] at carried
        exact inv.queue.mem_of_mem_values carried
    | delivering now queued =>
        -- the snapshot may be old, but it holds generated nudges only
        have next : next ∈ FanNudgeDeliveryWorker.nextNudge s.forecasts.forecastsByGate now
            queued := by
          simpa [FanNudgeDeliveryWorker.system, FanNudgeDeliveryWorker.resume] using member
        obtain ⟨held, among, same⟩ := carriedNudges_nextNudge _ now queued _ next nudge carried
        rw [← same]
        exact own held among
    | updatingNudge now original updated deliveryRecord rest =>
        rw [List.mem_singleton.mp member] at carried
        exact own nudge carried
    | recordingOutcome now updated deliveryRecord rest =>
        rw [List.mem_singleton.mp member] at carried
        exact own nudge (List.mem_cons_of_mem updated carried)
  cases task with
  | readingQueue now => exact ⟨inv.faithful, inv.carried, worked, inv.queue, inv.audit⟩
  | delivering now queued => exact ⟨inv.faithful, inv.carried, worked, inv.queue, inv.audit⟩
  -- a write of the worker replaces a state of a nudge by another state of it
  | updatingNudge now original updated deliveryRecord rest =>
      exact ⟨inv.faithful, inv.carried, worked, inv.queue.set (own updated List.mem_cons_self),
        inv.audit⟩
  | recordingOutcome now updated deliveryRecord rest =>
      exact ⟨inv.faithful, inv.carried, worked, inv.queue,
        inv.audit.set (own updated List.mem_cons_self)⟩

end NudgeRecordsInv

theorem nudgeRecordsInv_after (startedAt : ℤ) (schedule : WorkerSchedule) :
    NudgeRecordsInv (afterWorker deps startedAt schedule).shared
      (lefts (afterWorker deps startedAt schedule).suspended)
      (rights (afterWorker deps startedAt schedule).suspended)
      ([] ++ nudgeEventsAlong deps startedAt schedule) := by
  refine sum_invariant _ _ (nudgeEvents deps) ?_ ?_ ?_ ?_ (NudgeRecordsInv.wired startedAt)
    ((withWorker deps).guarded_trivial _ schedule)
  · intro s tasks events stimulus inv _
    obtain ⟨nudges, audit, started⟩ := stimulate_nudges deps stimulus s
    refine inv.congr nudges audit ⟨rfl, rfl, List.forall_mem_nil _⟩ ?_
    intro task member nudge carried
    rcases List.mem_append.mp member with old | new
    · rw [generatedNudges_append]
      exact List.mem_append_left _ (inv.carried task old nudge carried)
    · obtain ⟨fresh, empty⟩ := started task new
      simp [PipelineTask.carriedNudges, fresh, empty] at carried
  · intro s tasks events stimulus inv _
    rw [show (nudgeEvents deps).onStimulus (.inr stimulus) s = [] from rfl, List.append_nil]
    refine ⟨inv.faithful, inv.carried, ?_, inv.queue, inv.audit⟩
    cases stimulus with
    | interval =>
        refine List.forall_mem_append.mpr ⟨inv.worked, ?_⟩
        intro task started nudge carried
        rw [List.mem_singleton.mp started] at carried
        exact absurd carried List.not_mem_nil
  · intro s before task after events inv _
    exact inv.pipeline deps
  · intro s before task after events inv _
    rw [show (nudgeEvents deps).onResume (.inr task) s = [] from rfl, List.append_nil]
    exact inv.worker

end Pipeline

end Stadium
