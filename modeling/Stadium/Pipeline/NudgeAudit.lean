import Stadium.FanNotificationSystem.Settlement
import Stadium.Infra.Topology
import Stadium.Pipeline.Machine

/-!
# The nudge audit

Two writers share the audit record of a nudge: the worker's sink, which writes
the outcome, and the subscriber of `fan-nudges`, which writes the QUEUED nudge
once the handler that has enqueued it publishes its batch. The worker can see
a nudge before that, so the QUEUED record may come last. As long as it does
not, and no run settles from an outdated snapshot, an outcome in the audit
stays, and the audit agrees with the queue on every nudge that no handler has
still to publish and no run has still to record.
-/

namespace Stadium

open Interleaving TaskSystem

namespace PipelineTask

/-- The nudges a score update has enqueued and not yet published. -/
def unpublished : PipelineTask → List FanNudge
  | .readingCooldown _ _ _ generated => generated
  | .decidingNudge _ _ _ _ generated => generated
  | .settingCooldown _ _ _ _ generated => generated
  | .enqueueingNudge _ _ _ generated => generated
  | .nudgeEnqueued _ _ generated => generated
  | .publishingNudges nudges => nudges
  | _ => []

/-- The nudge a score update has generated and not yet enqueued. -/
def generated? : PipelineTask → Option FanNudge
  | .settingCooldown _ _ nudge _ _ => some nudge
  | .enqueueingNudge _ nudge _ _ => some nudge
  | _ => none

/-- Every nudge the task carries is QUEUED. -/
def CarriesQueued (task : PipelineTask) : Prop :=
  ∀ nudge ∈ task.generated?.toList ++ task.unpublished, nudge.status = .queued

/-- The nudges a score update carries. -/
def carriedNudges (task : PipelineTask) : List FanNudge :=
  task.generated?.toList ++ task.unpublished

/-- The stretches that enqueue or publish nudges. -/
def releasesNudges : PipelineTask → Bool
  | .enqueueingNudge .. | .publishingNudges .. => true
  | _ => false

end PipelineTask

/-- The audit holds the outcome of a nudge. -/
def AuditState.outcomeRecorded (s : AuditState) (nudgeId : String) : Bool :=
  (s.nudges.get? nudgeId).any (·.status ≠ .queued)

/-- The next step of the task enqueues no nudge under an id that stands for
another one, and publishes none whose outcome is recorded already. -/
def PipelineTask.keepsOutcomes (s : PipelineState) : PipelineTask → Bool
  | .enqueueingNudge _ nudge _ _ => s.nudges.ownsId nudge
  | .publishingNudges nudges => nudges.all fun nudge => !s.audit.outcomeRecorded nudge.nudgeId
  | _ => true

namespace Pipeline

variable (deps : PipelineDependencies)

/-- The score updates beside the delivery worker. -/
def withWorker :
    TaskSystem PipelineState (PipelineTask ⊕ DeliveryTask) (PipelineStimulus ⊕ DeliveryStimulus) :=
  (system deps).sum FanNudgeDeliveryWorker.system

abbrev WorkerSchedule := List (Choice (PipelineStimulus ⊕ DeliveryStimulus))

def afterWorker (startedAt : ℤ) (schedule : WorkerSchedule) :
    Config PipelineState (PipelineTask ⊕ DeliveryTask) :=
  (withWorker deps).run ⟨.wired startedAt, []⟩ schedule

/-- An id stands for one nudge, which is published before its outcome is
recorded; where the worker stores a settlement, the store still holds the nudge
of the run's snapshot. -/
def keepsOutcomes (c : Config PipelineState (PipelineTask ⊕ DeliveryTask)) :
    Choice (PipelineStimulus ⊕ DeliveryStimulus) → Bool
  | .stimulus _ => true
  | .resume position =>
      c.suspended[position]?.all fun
        | .inl task => task.keepsOutcomes c.shared
        | .inr task => task.findsSnapshot c.shared.nudges

/-! ## What the stretches do to the nudges -/

theorem stimulate_nudges (stimulus : PipelineStimulus) (s : PipelineState) :
    (stimulate deps stimulus s).1.nudges = s.nudges ∧
      (stimulate deps stimulus s).1.audit.nudges = s.audit.nudges ∧
      ∀ task ∈ (stimulate deps stimulus s).2, task.generated? = none ∧ task.unpublished = [] := by
  refine ⟨?_, ?_, ?_⟩
  · cases stimulus <;> simp [stimulate, onCongestionScore]
  · cases stimulus <;> simp [stimulate, onCongestionScore]
  · intro task member
    cases stimulate_starts deps stimulus s task member <;> exact ⟨rfl, rfl⟩

theorem resume_nudges_other {task : PipelineTask} (other : task.releasesNudges = false)
    (s : PipelineState) :
    (resume deps task s).shared.nudges = s.nudges ∧
      (resume deps task s).shared.audit.nudges = s.audit.nudges := by
  cases task with
  | computing gate window =>
      rw [resume_computing]
      exact ⟨rfl, rfl⟩
  | publishingForecast computation =>
      simp [resume, publishForecast, onCongestionScore]
  | decidingNudge update fan lastNudgeAt rest generated =>
      simp [resume]
  | locatingAction gateId actionId userId now actions =>
      simp [resume]
  | enqueueingNudge => cases other
  | publishingNudges => cases other
  | _ => exact ⟨rfl, rfl⟩

/-- Until it publishes them a score update hands its nudges on. -/
theorem unpublished_other {task : PipelineTask} (other : task.releasesNudges = false)
    (s : PipelineState) :
    ((resume deps task s).continued.toList ++ (resume deps task s).started).flatMap
      PipelineTask.unpublished = task.unpublished := by
  have fans (update : ScoreUpdate) (fans : List FanContext) (generated : List FanNudge) :
      (nextFan update fans generated).unpublished = generated := by
    rcases nextFan_cases update fans generated with done | ⟨fan, rest, more⟩
    · rw [done]
      rfl
    · rw [more]
      rfl
  have redirections (update : ScoreUpdate) (list : List ShuttleRedirectionRecommendation) :
      (nextRedirection s update list).unpublished = [] := by
    rcases nextRedirection_cases s update list with
      ⟨redirection, rest, more⟩ | done | ⟨fan, rest, more⟩
    · rw [more]
      rfl
    · rw [done]
      rfl
    · rw [more]
      rfl
  cases task with
  | computing gate window =>
      rw [resume_computing]
      rfl
  | advising update =>
      simp only [resume, continueWith, Option.toList_some, List.append_nil,
        List.flatMap_singleton]
      exact redirections update _
  | publishingRedirection update redirection rest =>
      simp only [resume, continueWith, Option.toList_some, List.append_nil,
        List.flatMap_singleton]
      cases rest with
      | nil => exact fans update _ []
      | cons next rest => rfl
  | decidingNudge update fan lastNudgeAt rest generated =>
      simp only [resume, decideNudge]
      split
      · simp only [continueWith, Option.toList_some, List.append_nil, List.flatMap_singleton]
        exact fans update rest generated
      · simp [continueWith, PipelineTask.unpublished]
  | nudgeEnqueued update rest generated =>
      simp only [resume, continueWith, Option.toList_some, List.append_nil,
        List.flatMap_singleton]
      exact fans update rest generated
  | locatingAction gateId actionId userId now actions =>
      simp only [resume, locateAction]
      split <;> simp [continueWith, finish, PipelineTask.unpublished]
  | enqueueingNudge => cases other
  | publishingNudges => cases other
  | _ => simp [resume, continueWith, finish, publishForecast, onCongestionScore,
      PipelineTask.unpublished]

/-- A generated nudge is QUEUED. -/
theorem generateFanNudge_queued {fan : FanContext} {originGate : Gate}
    {forecastsByGate : OrderedMap GateId ForecastResult} {lastNudgeAt : Option ℤ} {now : ℤ}
    {nudge : FanNudge} (generated : generateFanNudge deps.localeCompare fan originGate
      forecastsByGate lastNudgeAt now = some nudge) : nudge.status = .queued := by
  unfold generateFanNudge at generated
  split at generated
  · cases generated
  · simp only at generated
    split at generated
    · cases generated
    · cases generated
      rfl

/-- The nudge a resumption generates. -/
def newNudge? (s : PipelineState) : PipelineTask → Option FanNudge
  | .decidingNudge update fan lastNudgeAt _ _ =>
      generateFanNudge deps.localeCompare fan update.gate s.forecasts.forecastsByGate lastNudgeAt
        update.now
  | _ => none

/-- A score update hands its nudges on, and carries only what it has
generated. -/
theorem carriedNudges_resume (task : PipelineTask) (s : PipelineState) :
    ∀ next ∈ (resume deps task s).continued.toList ++ (resume deps task s).started,
      ∀ nudge ∈ next.carriedNudges, nudge ∈ task.carriedNudges ∨
        nudge ∈ (newNudge? deps s task).toList := by
  intro next member nudge carried
  have follows := resume_follows deps task s next member
  cases task with
  | decidingNudge update fan lastNudgeAt rest generated =>
      cases nudging : generateFanNudge deps.localeCompare fan update.gate
          s.forecasts.forecastsByGate lastNudgeAt update.now with
      | none =>
          simp only [resume, decideNudge, nudging, continueWith] at member
          rw [List.mem_singleton.mp member] at carried
          refine .inl ?_
          rcases nextFan_cases update rest generated with done | ⟨fan, more, found⟩
          · rwa [done] at carried
          · rwa [found] at carried
      | some made =>
          simp only [resume, decideNudge, nudging, continueWith] at member
          rw [List.mem_singleton.mp member] at carried
          rw [newNudge?, nudging]
          exact (List.mem_append.mp carried).symm
  | enqueueingNudge update queued rest generated =>
      rw [List.mem_singleton.mp member] at carried
      refine .inl ?_
      simp only [PipelineTask.carriedNudges, PipelineTask.generated?, PipelineTask.unpublished,
        Option.toList_none, Option.toList_some, List.nil_append, List.mem_append,
        List.mem_singleton] at carried ⊢
      exact carried.symm
  | _ => cases follows <;> exact .inl carried

/-- What a score update carries stays QUEUED on its way. -/
theorem carriesQueued_resume {task : PipelineTask} (queued : task.CarriesQueued)
    (s : PipelineState) :
    ∀ next ∈ (resume deps task s).continued.toList ++ (resume deps task s).started,
      next.CarriesQueued := by
  intro next member nudge carried
  rcases carriedNudges_resume deps task s next member nudge carried with handed | new
  · exact queued nudge handed
  · rw [Option.mem_toList] at new
    cases task with
    | decidingNudge update fan lastNudgeAt rest generated => exact generateFanNudge_queued deps new
    | _ => cases new

/-! ## The invariant -/

/-- The ids of the nudges the handlers have still to publish. -/
def unpublishedIds (handlers : List PipelineTask) : List String :=
  (handlers.flatMap PipelineTask.unpublished).map (·.nudgeId)

theorem mem_unpublishedIds_resumed {nudgeId : String}
    {before continued after started : List PipelineTask} :
    nudgeId ∈ unpublishedIds (before ++ continued ++ after ++ started) ↔
      nudgeId ∈ unpublishedIds (before ++ after) ∨
        nudgeId ∈ unpublishedIds (continued ++ started) := by
  simp only [unpublishedIds, List.flatMap_append, List.map_append, List.mem_append]
  tauto

theorem mem_unpublishedIds_middle {nudgeId : String} {before after : List PipelineTask}
    {task : PipelineTask} :
    nudgeId ∈ unpublishedIds (before ++ task :: after) ↔
      nudgeId ∈ unpublishedIds (before ++ after) ∨
        nudgeId ∈ task.unpublished.map (·.nudgeId) := by
  simp only [unpublishedIds, List.flatMap_append, List.flatMap_cons, List.map_append,
    List.mem_append]
  tauto

/-- What the audit holds of each nudge: the outcome once its call was made,
the QUEUED nudge or nothing before that. -/
structure NudgeAuditInv (s : PipelineState) (handlers : List PipelineTask)
    (workers : List DeliveryTask) (calls : List OutcomeCall) : Prop where
  settlement : SettlementInv (fun _ => []) s.nudges workers calls
  queued : ∀ task ∈ handlers, task.CarriesQueued
  recorded : ∀ call ∈ calls, s.audit.nudges.get? call.nudge.nudgeId = some call.nudge
  called : ∀ nudgeId record, s.audit.nudges.get? nudgeId = some record →
    record.status ≠ .queued → callsFor nudgeId calls ≠ []
  published : ∀ nudgeId nudge, s.nudges.queuedNudgeStore.get? nudgeId = some nudge →
    nudge.status = .queued →
      nudgeId ∈ unpublishedIds handlers ∨ (s.audit.nudges.get? nudgeId).isSome
  enqueued : ∀ nudgeId, nudgeId ∈ unpublishedIds handlers ∨
    (s.audit.nudges.get? nudgeId).isSome → (s.nudges.queuedNudgeStore.get? nudgeId).isSome

namespace NudgeAuditInv

variable {s : PipelineState} {handlers before after : List PipelineTask} {task : PipelineTask}
  {workers : List DeliveryTask} {calls : List OutcomeCall}

theorem wired (startedAt : ℤ) : NudgeAuditInv (.wired startedAt) [] [] [] where
  settlement := ⟨by simp, fun _ => by simp [NudgeState.settlementOf, PipelineState.wired]⟩
  queued := by simp
  recorded := by simp
  called := by simp [PipelineState.wired]
  published := by simp [PipelineState.wired]
  enqueued := by simp [unpublishedIds, PipelineState.wired]

/-- The invariant depends on the queue, the audit of the nudges, and what the
handlers carry. -/
theorem congr (inv : NudgeAuditInv s handlers workers calls) {t : PipelineState}
    {handlers' : List PipelineTask} (nudges : t.nudges = s.nudges)
    (audit : t.audit.nudges = s.audit.nudges)
    (held : ∀ nudgeId, nudgeId ∈ unpublishedIds handlers' ↔ nudgeId ∈ unpublishedIds handlers)
    (queued : ∀ task ∈ handlers', task.CarriesQueued) :
    NudgeAuditInv t handlers' workers calls where
  settlement := nudges ▸ inv.settlement
  queued := queued
  recorded := by rw [audit]; exact inv.recorded
  called := by rw [audit]; exact inv.called
  published := by
    intro nudgeId nudge
    rw [nudges, audit, held]
    exact inv.published nudgeId nudge
  enqueued := by
    intro nudgeId
    rw [nudges, audit, held]
    exact inv.enqueued nudgeId

theorem queued_resumed (inv : NudgeAuditInv s (before ++ task :: after) workers calls) :
    ∀ next ∈ resumed (system deps) before task after s, next.CarriesQueued :=
  forall_mem_resumed inv.queued fun queued => carriesQueued_resume deps queued s

/-- A call was made for the stored nudge, which is settled. -/
theorem stored_of_call (inv : NudgeAuditInv s handlers workers calls) {call : OutcomeCall}
    (made : call ∈ calls) :
    s.nudges.queuedNudgeStore.get? call.nudge.nudgeId = some call.nudge ∧
      call.nudge.status ≠ .queued := by
  have asked : call ∈ s.nudges.settlementOf call.nudge.nudgeId := by
    refine (inv.settlement.called call.nudge.nudgeId).subset ?_
    simp [callsFor, made]
  unfold NudgeState.settlementOf at asked
  cases stored : s.nudges.queuedNudgeStore.get? call.nudge.nudgeId with
  | none => simp [stored] at asked
  | some nudge =>
      rw [stored] at asked
      have settles : call ∈ nudge.settlement := asked
      rw [FanNudge.nudge_of_mem_settlement settles]
      refine ⟨rfl, fun queued => ?_⟩
      rw [FanNudge.settlement_eq_nil.mpr queued] at settles
      exact absurd settles List.not_mem_nil

/-- A handler's stretch that neither enqueues nor publishes a nudge. -/
theorem other (inv : NudgeAuditInv s (before ++ task :: after) workers calls)
    (idle : task.releasesNudges = false) :
    NudgeAuditInv (resume deps task s).shared (resumed (system deps) before task after s)
      workers calls := by
  obtain ⟨nudges, audit⟩ := resume_nudges_other deps idle s
  refine inv.congr nudges audit (fun nudgeId => ?_) (inv.queued_resumed deps)
  unfold resumed
  rw [mem_unpublishedIds_resumed, mem_unpublishedIds_middle]
  refine or_congr Iff.rfl ?_
  show _ ∈ List.map _ (((resume deps task s).continued.toList ++
    (resume deps task s).started).flatMap PipelineTask.unpublished) ↔ _
  rw [unpublished_other deps idle]

include deps in
/-- A handler enqueues its nudge. -/
theorem enqueue {update : ScoreUpdate} {nudge : FanNudge} {rest : List FanContext}
    {generated : List FanNudge}
    (inv : NudgeAuditInv s (before ++ .enqueueingNudge update nudge rest generated :: after)
      workers calls) (own : s.nudges.ownsId nudge = true) :
    NudgeAuditInv { s with nudges := s.nudges.enqueue nudge }
      (before ++ [.nudgeEnqueued update rest (generated ++ [nudge])] ++ after) workers calls where
  settlement := by
    refine inv.settlement.enqueue ?_ own
    exact inv.queued (.enqueueingNudge update nudge rest generated) (by simp) nudge
      (by simp [PipelineTask.generated?])
  queued := by
    have kept := inv.queued_resumed deps
    simpa [resumed, system, resume, continueWith] using kept
  recorded := inv.recorded
  called := inv.called
  published := by
    intro nudgeId stored found queued
    rw [List.append_assoc, List.singleton_append, mem_unpublishedIds_middle]
    by_cases same : nudgeId = nudge.nudgeId
    · refine .inl (.inr ?_)
      simp [PipelineTask.unpublished, same]
    · have found : (s.nudges.queuedNudgeStore.set nudge.nudgeId nudge).get? nudgeId =
        some stored := found
      rw [OrderedMap.get?_set_ne _ _ same] at found
      have held := inv.published nudgeId stored found queued
      rw [mem_unpublishedIds_middle] at held
      refine held.imp_left (Or.imp_right fun listed => ?_)
      simp only [PipelineTask.unpublished, List.map_append, List.mem_append] at listed ⊢
      exact .inl listed
  enqueued := by
    intro nudgeId known
    show ((s.nudges.queuedNudgeStore.set nudge.nudgeId nudge).get? nudgeId).isSome
    rw [OrderedMap.get?_set]
    split
    · rfl
    · next apart =>
        refine inv.enqueued nudgeId (known.imp_left fun held => ?_)
        rw [List.append_assoc, List.singleton_append, mem_unpublishedIds_middle] at held
        rw [mem_unpublishedIds_middle]
        refine held.imp_right fun listed => ?_
        simp only [PipelineTask.unpublished, List.map_append, List.mem_append, List.map_cons,
          List.map_nil, List.mem_singleton] at listed ⊢
        exact listed.resolve_right apart

include deps in
/-- A handler publishes its batch, of which no outcome is recorded yet. -/
theorem publish {nudges : List FanNudge}
    (inv : NudgeAuditInv s (before ++ .publishingNudges nudges :: after) workers calls)
    (early : ∀ nudge ∈ nudges, s.audit.outcomeRecorded nudge.nudgeId = false) :
    NudgeAuditInv
      { s with
        audit := { s.audit with
          nudges := nudges.foldl (fun log nudge => log.set nudge.nudgeId nudge) s.audit.nudges } }
      (before ++ [] ++ after) workers calls where
  settlement := inv.settlement
  queued := by
    have kept := inv.queued_resumed deps
    simpa [resumed, system, resume, finish] using kept
  recorded := by
    intro call made
    rcases OrderedMap.get?_foldl_set_cases FanNudge.nudgeId nudges s.audit.nudges
      call.nudge.nudgeId with ⟨nudge, listed, same, -⟩ | ⟨-, kept⟩
    · have clear := early nudge listed
      simp [AuditState.outcomeRecorded, same, inv.recorded call made,
        (inv.stored_of_call made).2] at clear
    · exact kept.trans (inv.recorded call made)
  called := by
    intro nudgeId record found settled
    rcases OrderedMap.get?_foldl_set_cases FanNudge.nudgeId nudges s.audit.nudges nudgeId with
      ⟨nudge, listed, same, held⟩ | ⟨-, kept⟩
    · obtain rfl := Option.some.inj (held.symm.trans found)
      exact absurd (inv.queued (.publishingNudges nudges) (by simp) nudge
        (by simpa [PipelineTask.generated?, PipelineTask.unpublished] using listed)) settled
    · exact inv.called nudgeId record (kept.symm.trans found) settled
  published := by
    intro nudgeId stored found queued
    rw [List.append_nil]
    rcases OrderedMap.get?_foldl_set_cases FanNudge.nudgeId nudges s.audit.nudges nudgeId with
      ⟨nudge, -, -, held⟩ | ⟨absent, kept⟩
    · exact .inr (by simp [held])
    · simp only [kept]
      refine (inv.published nudgeId stored found queued).imp_left fun held => ?_
      exact (mem_unpublishedIds_middle.mp held).resolve_right absent
  enqueued := by
    intro nudgeId known
    rw [List.append_nil] at known
    refine inv.enqueued nudgeId ?_
    rw [mem_unpublishedIds_middle]
    rcases known with held | audited
    · exact .inl (.inl held)
    · rcases OrderedMap.get?_foldl_set_cases FanNudge.nudgeId nudges s.audit.nudges nudgeId with
        ⟨nudge, listed, same, -⟩ | ⟨-, kept⟩
      · exact .inl (.inr (List.mem_map.mpr ⟨nudge, listed, same⟩))
      · exact .inr (by simpa only [kept] using audited)

/-- A run of the worker stores a settlement. -/
theorem settle {before after : List DeliveryTask} {now : ℤ} {nudge updated : FanNudge}
    {deliveryRecord : Option DeliveryRecord} {rest : List FanNudge}
    (inv : NudgeAuditInv s handlers
      (before ++ .updatingNudge now nudge updated deliveryRecord rest :: after) calls)
    {workers : List DeliveryTask}
    (settlement : SettlementInv (fun _ => []) (s.nudges.updateNudge updated) workers calls) :
    NudgeAuditInv { s with nudges := s.nudges.updateNudge updated } handlers workers calls := by
  refine ⟨settlement, inv.queued, inv.recorded, inv.called, ?_, ?_⟩
  · intro nudgeId stored found queued
    have found : (s.nudges.queuedNudgeStore.set updated.nudgeId updated).get? nudgeId =
      some stored := found
    rw [OrderedMap.get?_set] at found
    split at found
    · have settles : updated.settlement = [outcomeCall updated deliveryRecord] :=
        (inv.settlement.settles (.updatingNudge now nudge updated deliveryRecord rest)
          (by simp)).2.2
      rw [Option.some.inj found, FanNudge.settlement_eq_nil.mpr queued] at settles
      cases settles
    · exact inv.published nudgeId stored found queued
  · intro nudgeId known
    show ((s.nudges.queuedNudgeStore.set updated.nudgeId updated).get? nudgeId).isSome
    rw [OrderedMap.get?_set]
    split
    · rfl
    · exact inv.enqueued nudgeId known

/-- The call a run is about to make is the one its nudge asks for, and the first
for it: the invariant of the settlement already counts it. -/
theorem due {before after : List DeliveryTask} {now : ℤ} {updated : FanNudge}
    {deliveryRecord : Option DeliveryRecord} {rest : List FanNudge}
    (inv : NudgeAuditInv s handlers
      (before ++ .recordingOutcome now updated deliveryRecord rest :: after) calls) :
    outcomeCall updated deliveryRecord ∈ s.nudges.settlementOf updated.nudgeId ∧
      callsFor updated.nudgeId calls = [] := by
  refine ⟨?_, ?_⟩
  · refine (inv.settlement.called updated.nudgeId).subset ?_
    simp [DeliveryTask.pending]
  · have total := (inv.settlement.called updated.nudgeId).length_eq
    have short := s.nudges.settlementOf_length updated.nudgeId
    simp only [filterMap_middle, DeliveryTask.pending, Option.toList_some, callsFor_append,
      callsFor_cons, nudge_outcomeCall, if_true, callsFor_nil, List.nil_append,
      List.length_append, List.length_cons, List.length_nil] at total
    apply List.eq_nil_of_length_eq_zero
    omega

/-- A run of the worker records the outcome of a nudge. -/
theorem record {before after : List DeliveryTask} {now : ℤ} {updated : FanNudge}
    {deliveryRecord : Option DeliveryRecord} {rest : List FanNudge}
    (inv : NudgeAuditInv s handlers
      (before ++ .recordingOutcome now updated deliveryRecord rest :: after) calls)
    {workers : List DeliveryTask} {t : PipelineState}
    (store : t.nudges.queuedNudgeStore = s.nudges.queuedNudgeStore)
    (audit : t.audit.nudges = s.audit.nudges.set updated.nudgeId updated)
    (settlement : SettlementInv (fun _ => []) t.nudges workers
      (calls ++ [outcomeCall updated deliveryRecord])) :
    NudgeAuditInv t handlers workers (calls ++ [outcomeCall updated deliveryRecord]) := by
  obtain ⟨due, alone⟩ := inv.due
  refine ⟨settlement, inv.queued, ?_, ?_, ?_, ?_⟩
  · intro other made
    rw [audit]
    rcases List.mem_append.mp made with earlier | now
    · have apart : other.nudge.nudgeId ≠ updated.nudgeId := by
        intro same
        have listed : other ∈ callsFor updated.nudgeId calls := by
          simp [callsFor, earlier, same]
        rw [alone] at listed
        exact absurd listed List.not_mem_nil
      rw [OrderedMap.get?_set_ne _ _ apart]
      exact inv.recorded other earlier
    · rw [List.mem_singleton.mp now, nudge_outcomeCall]
      exact OrderedMap.get?_set_self _ _ _
  · intro nudgeId record found settled
    rw [audit, OrderedMap.get?_set] at found
    rw [callsFor_append]
    split at found
    · next same => simp [same]
    · simp [inv.called nudgeId record found settled]
  · intro nudgeId nudge found queued
    rw [store] at found
    rw [audit, OrderedMap.get?_set]
    split
    · exact .inr rfl
    · exact inv.published nudgeId nudge found queued
  · intro nudgeId known
    rw [store]
    by_cases same : nudgeId = updated.nudgeId
    · subst same
      unfold NudgeState.settlementOf at due
      cases stored : s.nudges.queuedNudgeStore.get? updated.nudgeId with
      | none => simp [stored] at due
      | some nudge => rfl
    · refine inv.enqueued nudgeId (known.imp_right fun audited => ?_)
      rwa [audit, OrderedMap.get?_set_ne _ _ same] at audited

/-- A run of the worker takes a step that finds its nudge as in the
snapshot. -/
theorem worker {before after : List DeliveryTask} {task : DeliveryTask}
    (inv : NudgeAuditInv s handlers (before ++ task :: after) calls)
    (found : task.findsSnapshot s.nudges = true) :
    NudgeAuditInv (FanNudgeDeliveryWorker.resume task s).shared handlers
      (resumed FanNudgeDeliveryWorker.system before task after s)
      (calls ++ task.pending.toList) := by
  have settlement := FanNudgeDeliveryWorker.settlement_resume inv.settlement found
  cases task with
  | readingQueue now =>
      simp only [DeliveryTask.pending, Option.toList_none, List.append_nil] at settlement ⊢
      exact ⟨settlement, inv.queued, inv.recorded, inv.called, inv.published, inv.enqueued⟩
  | delivering now queued =>
      simp only [DeliveryTask.pending, Option.toList_none, List.append_nil] at settlement ⊢
      exact ⟨settlement, inv.queued, inv.recorded, inv.called, inv.published, inv.enqueued⟩
  | updatingNudge now nudge updated deliveryRecord rest =>
      simp only [DeliveryTask.pending, Option.toList_none, List.append_nil] at settlement ⊢
      exact inv.settle settlement
  | recordingOutcome now updated deliveryRecord rest =>
      exact inv.record rfl rfl settlement

/-- Where nothing is left to publish or to record of a nudge, its audit shows
the status it has in the queue. -/
theorem agrees (inv : NudgeAuditInv s handlers workers calls) {nudgeId : String}
    (published : nudgeId ∉ unpublishedIds handlers)
    (recorded : callsFor nudgeId (workers.filterMap DeliveryTask.pending) = []) :
    (s.audit.nudges.get? nudgeId).map (·.status) =
      (s.nudges.queuedNudgeStore.get? nudgeId).map (·.status) := by
  have called := inv.settlement.called nudgeId
  rw [List.nil_append, callsFor_append, recorded, List.append_nil] at called
  cases stored : s.nudges.queuedNudgeStore.get? nudgeId with
  | none =>
      cases audited : s.audit.nudges.get? nudgeId with
      | none => rfl
      | some record =>
          have known := inv.enqueued nudgeId (.inr (by simp [audited]))
          simp [stored] at known
  | some nudge =>
      have asked : s.nudges.settlementOf nudgeId = nudge.settlement := by
        simp [NudgeState.settlementOf, stored]
      rw [asked] at called
      by_cases queued : nudge.status = .queued
      · obtain ⟨record, audited⟩ := Option.isSome_iff_exists.mp
          ((inv.published nudgeId nudge stored queued).resolve_left published)
        rw [FanNudge.settlement_eq_nil.mpr queued, List.perm_nil] at called
        have waiting : record.status = .queued := by
          by_contra settled
          exact inv.called nudgeId record audited settled called
        rw [audited, Option.map_some, Option.map_some, waiting, queued]
      · obtain ⟨call, made⟩ := List.exists_mem_of_ne_nil nudge.settlement
          (fun none => queued (FanNudge.settlement_eq_nil.mp none))
        obtain ⟨listed, named⟩ := List.mem_filter.mp (called.symm.subset made)
        have audited := inv.recorded call listed
        rw [of_decide_eq_true named, FanNudge.nudge_of_mem_settlement made] at audited
        rw [audited]

end NudgeAuditInv

/-- The invariant holds after every schedule that keeps the outcomes. -/
theorem nudgeAuditInv_after (startedAt : ℤ) {schedule : WorkerSchedule}
    (guarded : (withWorker deps).Guarded (fun c choice => keepsOutcomes c choice)
      ⟨.wired startedAt, []⟩ schedule) :
    NudgeAuditInv (afterWorker deps startedAt schedule).shared
      (lefts (afterWorker deps startedAt schedule).suspended)
      (rights (afterWorker deps startedAt schedule).suspended)
      ([] ++ (withWorker deps).trace FanNudgeDeliveryWorker.outcomes ⟨.wired startedAt, []⟩
        schedule) := by
  refine sum_invariant _ _ FanNudgeDeliveryWorker.outcomes ?_ ?_ ?_ ?_
    (NudgeAuditInv.wired startedAt) guarded
  · intro s tasks calls stimulus inv _
    obtain ⟨nudges, audit, started⟩ := stimulate_nudges deps stimulus s
    rw [show FanNudgeDeliveryWorker.outcomes.onStimulus (.inl stimulus) s = [] from rfl,
      List.append_nil]
    refine inv.congr nudges audit (fun nudgeId => ?_) ?_
    · have silent : (stimulate deps stimulus s).2.flatMap PipelineTask.unpublished = [] := by
        rw [List.flatMap_eq_nil_iff]
        exact fun task member => (started task member).2
      simp only [unpublishedIds, List.flatMap_append, List.map_append]
      show nudgeId ∈ _ ++ List.map _ ((stimulate deps stimulus s).2.flatMap _) ↔ _
      rw [silent, List.map_nil, List.append_nil]
    · intro task member
      rcases List.mem_append.mp member with old | new
      · exact inv.queued task old
      · obtain ⟨fresh, empty⟩ := started task new
        simp [PipelineTask.CarriesQueued, fresh, empty]
  · intro s tasks calls stimulus inv _
    rw [show FanNudgeDeliveryWorker.outcomes.onStimulus (.inr stimulus) s = [] from rfl,
      List.append_nil]
    cases stimulus with
    | interval =>
        exact ⟨FanNudgeDeliveryWorker.settlement_interval inv.settlement s.intake.clock,
          inv.queued, inv.recorded, inv.called, inv.published, inv.enqueued⟩
  · intro s before task after calls inv now
    rw [show FanNudgeDeliveryWorker.outcomes.onResume (.inl task) s = [] from rfl,
      List.append_nil]
    have kept : task.keepsOutcomes s = true := by simpa [keepsOutcomes] using now
    cases task with
    | enqueueingNudge update nudge rest generated =>
        simpa [resumed, system, resume, continueWith] using
          inv.enqueue deps (by simpa [PipelineTask.keepsOutcomes] using kept)
    | publishingNudges nudges =>
        simpa [resumed, system, resume, finish] using
          inv.publish deps (by simpa [PipelineTask.keepsOutcomes] using kept)
    | _ => exact inv.other deps rfl
  · intro s before task after calls inv now
    exact inv.worker (by simpa [keepsOutcomes] using now)

/-- **The nudge audit never regresses.** Take a schedule along which an id
stands for one nudge, a nudge is published before its outcome is recorded, and
the store still holds the nudge of a run's snapshot whenever the run stores its
settlement, cut in two. An outcome in the audit at the cut is there at the end. At
the end the audit shows the status a nudge has in the queue, unless a handler has
still to publish it or a run has still to record its outcome. -/
theorem nudge_audit_kept (startedAt : ℤ) (first second : WorkerSchedule)
    (guarded : (withWorker deps).Guarded (fun c choice => keepsOutcomes c choice)
      ⟨.wired startedAt, []⟩ (first ++ second)) (nudgeId : String) :
    (∀ record,
      (afterWorker deps startedAt first).shared.audit.nudges.get? nudgeId = some record →
      record.status ≠ .queued →
      (afterWorker deps startedAt (first ++ second)).shared.audit.nudges.get? nudgeId =
        some record) ∧
    (nudgeId ∉ unpublishedIds (lefts (afterWorker deps startedAt (first ++ second)).suspended) →
      callsFor nudgeId ((rights (afterWorker deps startedAt (first ++ second)).suspended).filterMap
        DeliveryTask.pending) = [] →
      ((afterWorker deps startedAt (first ++ second)).shared.audit.nudges.get? nudgeId).map
          (·.status) =
        ((afterWorker deps startedAt
          (first ++ second)).shared.nudges.queuedNudgeStore.get? nudgeId).map (·.status)) := by
  have inv := nudgeAuditInv_after deps startedAt guarded
  refine ⟨?_, inv.agrees⟩
  intro record audited settled
  have cut := nudgeAuditInv_after deps startedAt ((guarded_append _).mp guarded).1
  obtain ⟨call, among⟩ := List.exists_mem_of_ne_nil _ (cut.called nudgeId record audited settled)
  obtain ⟨made, named⟩ := List.mem_filter.mp among
  have same := cut.recorded call made
  rw [of_decide_eq_true named, audited, Option.some.injEq] at same
  rw [trace_append, List.nil_append] at inv
  have kept := inv.recorded call (List.mem_append_left _ made)
  rw [of_decide_eq_true named] at kept
  rw [same]
  exact kept

/-- A fan heads for gate A, and once that is worked off the gate gets crowded. -/
def crowdedFan : Schedule :=
  ([.stimulus (.signalEvent (demoScan "scan" "fan-1" "1970-01-01T00:00:00.000Z"))] : Schedule) ++
    resumes 0 11 ++
    ([.stimulus (.signalEvent (demoReading "crowd" 400 "1970-01-01T00:00:00.000Z"))] : Schedule) ++
    resumes 0 13

/-- The score update has enqueued a nudge for the fan and is about to publish
it. -/
def nudgeEnqueued : WorkerSchedule := crowdedFan.map (Choice.map .inl)

/-- The score update publishes the nudge before the worker settles it. -/
def publishedFirst : WorkerSchedule :=
  nudgeEnqueued ++
    ([.resume 0, .stimulus (.inr .interval), .resume 0, .resume 0, .resume 0] : WorkerSchedule)

/-- The worker delivers the nudge and records the delivery first. -/
def deliveredFirst : WorkerSchedule :=
  nudgeEnqueued ++
    ([.stimulus (.inr .interval), .resume 1, .resume 1, .resume 1, .resume 1, .resume 1] :
      WorkerSchedule)

def demoNudgeId : String := "fan-1-gate-a-1970-01-01T00:00:00.000Z"

theorem nudge_audit_kept_demo :
    ((afterWorker demoDependencies 0 (publishedFirst ++
        [.resume 0, .resume 0])).shared.audit.nudges.get? demoNudgeId).map (·.status) =
      ((afterWorker demoDependencies 0 (publishedFirst ++
        [.resume 0, .resume 0])).shared.nudges.queuedNudgeStore.get? demoNudgeId).map (·.status) :=
  (nudge_audit_kept demoDependencies 0 publishedFirst [.resume 0, .resume 0] (by decide +kernel)
    demoNudgeId).2 (by decide +kernel) (by decide +kernel)

/-- The delivery is in the audit, then the score update publishes its QUEUED
nudge over it. Nothing is in flight any more, and the queue shows the nudge as
delivered. -/
theorem published_over_delivery :
    ((afterWorker demoDependencies 0 deliveredFirst).shared.audit.nudges.get?
      demoNudgeId).map (·.status) = some .simulatedDelivered ∧
    ((afterWorker demoDependencies 0 (deliveredFirst ++ [.resume 0])).shared.audit.nudges.get?
      demoNudgeId).map (·.status) = some .queued ∧
    ((afterWorker demoDependencies 0
      (deliveredFirst ++ [.resume 0])).shared.nudges.queuedNudgeStore.get?
        demoNudgeId).map (·.status) = some .simulatedDelivered ∧
    (afterWorker demoDependencies 0 (deliveredFirst ++ [.resume 0])).suspended.length = 0 := by
  decide +kernel

end Pipeline

end Stadium
