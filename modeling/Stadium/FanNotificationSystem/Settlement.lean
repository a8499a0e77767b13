import Stadium.FanNotificationSystem.Delivery

/-!
# Settling each nudge once

The delivery worker checks that a nudge is QUEUED in the snapshot it has
taken, not in the store it writes to. Two overlapping runs that hold the same
nudge in their snapshots both settle it. As long as the store still holds the
nudge of the snapshot when a run stores its settlement, and an id stands for
one nudge, the check is as good as one of the store: the calls of the audit
sink are those the stored nudges ask for, one for each settled nudge, and a
settled nudge stays as it is.
-/

namespace Stadium

open Interleaving TaskSystem

/-- A call of the audit sink. -/
inductive OutcomeCall where
  | recordDelivery (nudge : FanNudge)
  | recordCancellation (nudge : FanNudge)
  deriving DecidableEq

def OutcomeCall.nudge : OutcomeCall → FanNudge
  | .recordDelivery nudge => nudge
  | .recordCancellation nudge => nudge

/-- The call the worker makes of a settled nudge. -/
def outcomeCall (updated : FanNudge) : Option DeliveryRecord → OutcomeCall
  | some _ => .recordDelivery updated
  | none => .recordCancellation updated

@[simp] theorem nudge_outcomeCall (updated : FanNudge) (deliveryRecord : Option DeliveryRecord) :
    (outcomeCall updated deliveryRecord).nudge = updated := by
  cases deliveryRecord <;> rfl

/-- The calls made for the nudges of an id. -/
def callsFor (nudgeId : String) (calls : List OutcomeCall) : List OutcomeCall :=
  calls.filter (·.nudge.nudgeId = nudgeId)

@[simp] theorem callsFor_append (nudgeId : String) (first second : List OutcomeCall) :
    callsFor nudgeId (first ++ second) = callsFor nudgeId first ++ callsFor nudgeId second :=
  List.filter_append first second

@[simp] theorem callsFor_nil (nudgeId : String) : callsFor nudgeId [] = [] := rfl

@[simp] theorem callsFor_cons (nudgeId : String) (call : OutcomeCall) (rest : List OutcomeCall) :
    callsFor nudgeId (call :: rest) =
      if call.nudge.nudgeId = nudgeId then call :: callsFor nudgeId rest
      else callsFor nudgeId rest := by
  simp [callsFor, List.filter_cons]

/-- The calls the status of a nudge asks for. -/
def FanNudge.settlement (nudge : FanNudge) : List OutcomeCall :=
  match nudge.status with
  | .queued => []
  | .simulatedDelivered => [.recordDelivery nudge]
  | .cancelled => [.recordCancellation nudge]

theorem FanNudge.settlement_eq_nil {nudge : FanNudge} :
    nudge.settlement = [] ↔ nudge.status = .queued := by
  unfold settlement
  cases nudge.status <;> simp

theorem FanNudge.settlement_length (nudge : FanNudge) : nudge.settlement.length ≤ 1 := by
  unfold settlement
  cases nudge.status <;> simp

/-- The call that settles a nudge carries it. -/
theorem FanNudge.nudge_of_mem_settlement {nudge : FanNudge} {call : OutcomeCall}
    (member : call ∈ nudge.settlement) : call.nudge = nudge := by
  unfold settlement at member
  cases status : nudge.status <;> simp [status] at member <;> rw [member] <;> rfl

/-- `simulateDelivery` settles the nudge, with the call that goes with it. -/
theorem settlement_simulateDelivery (nudge : FanNudge)
    (forecastsByGate : OrderedMap GateId ForecastResult) (now : ℤ) :
    (simulateDelivery nudge forecastsByGate now).1.settlement =
      [outcomeCall (simulateDelivery nudge forecastsByGate now).1
        (simulateDelivery nudge forecastsByGate now).2] := by
  unfold simulateDelivery
  simp only
  split <;> rfl

/-- The calls the nudge stored under an id asks for. -/
def NudgeState.settlementOf (s : NudgeState) (nudgeId : String) : List OutcomeCall :=
  ((s.queuedNudgeStore.get? nudgeId).map FanNudge.settlement).getD []

/-- The nudge stored under an id is no longer QUEUED. -/
def NudgeState.settled (s : NudgeState) (nudgeId : String) : Bool :=
  (s.queuedNudgeStore.get? nudgeId).any (·.status ≠ .queued)

/-- The store holds the nudge as it is. -/
def NudgeState.finds (s : NudgeState) (nudge : FanNudge) : Bool :=
  s.queuedNudgeStore.get? nudge.nudgeId = some nudge

/-- The id of the nudge stands for no other nudge in the store. -/
def NudgeState.ownsId (s : NudgeState) (nudge : FanNudge) : Bool :=
  (s.queuedNudgeStore.get? nudge.nudgeId).all (· = nudge)

theorem NudgeState.settlementOf_eq_nil {s : NudgeState} {nudgeId : String} :
    s.settlementOf nudgeId = [] ↔ s.settled nudgeId = false := by
  unfold settlementOf settled
  cases s.queuedNudgeStore.get? nudgeId with
  | none => simp
  | some nudge => simp [FanNudge.settlement_eq_nil]

theorem NudgeState.settled_of_finds {s : NudgeState} {nudge : FanNudge}
    (queued : nudge.status = .queued) (found : s.finds nudge = true) :
    s.settled nudge.nudgeId = false := by
  have stored : s.queuedNudgeStore.get? nudge.nudgeId = some nudge := by
    simpa [NudgeState.finds] using found
  simp [settled, stored, queued]

theorem NudgeState.settled_of_ownsId {s : NudgeState} {nudge : FanNudge}
    (queued : nudge.status = .queued) (own : s.ownsId nudge = true) :
    s.settled nudge.nudgeId = false := by
  unfold ownsId at own
  unfold settled
  cases stored : s.queuedNudgeStore.get? nudge.nudgeId with
  | none => rfl
  | some other =>
      have same : other = nudge := by simpa [stored] using own
      simp [same, queued]

theorem NudgeState.settlementOf_length (s : NudgeState) (nudgeId : String) :
    (s.settlementOf nudgeId).length ≤ 1 := by
  unfold settlementOf
  cases s.queuedNudgeStore.get? nudgeId with
  | none => simp
  | some nudge => exact nudge.settlement_length

/-- After `updateNudge`, and after `enqueue`, the store asks for the calls of
the new nudge under its id. -/
theorem NudgeState.settlementOf_set {s t : NudgeState} {nudge : FanNudge}
    (stored : t.queuedNudgeStore = s.queuedNudgeStore.set nudge.nudgeId nudge) (nudgeId : String) :
    t.settlementOf nudgeId =
      if nudgeId = nudge.nudgeId then nudge.settlement else s.settlementOf nudgeId := by
  unfold settlementOf
  rw [stored, OrderedMap.get?_set]
  split <;> rfl

/-- The call of the audit sink a run has still to make for the nudge it has
just stored. -/
def DeliveryTask.pending : DeliveryTask → Option OutcomeCall
  | .recordingOutcome _ updated deliveryRecord _ => some (outcomeCall updated deliveryRecord)
  | _ => none

/-- What a run is about to store settles a nudge that its snapshot shows as
QUEUED. -/
def DeliveryTask.Settles : DeliveryTask → Prop
  | .updatingNudge _ nudge updated deliveryRecord _ =>
      nudge.status = .queued ∧ updated.nudgeId = nudge.nudgeId ∧
        updated.settlement = [outcomeCall updated deliveryRecord]
  | _ => True

/-- A run that stores a settlement finds the nudge in the store as it was in
its snapshot. -/
def DeliveryTask.findsSnapshot (s : NudgeState) : DeliveryTask → Bool
  | .updatingNudge _ nudge _ _ _ => s.finds nudge
  | _ => true

/-- The QUEUED check on the snapshot then holds of the store. -/
theorem DeliveryTask.Settles.free {s : NudgeState} {now : ℤ} {nudge updated : FanNudge}
    {deliveryRecord : Option DeliveryRecord} {rest : List FanNudge}
    (settles : (DeliveryTask.updatingNudge now nudge updated deliveryRecord rest).Settles)
    (found : s.finds nudge = true) : s.settled updated.nudgeId = false := by
  obtain ⟨queued, same, -⟩ := settles
  rw [same]
  exact NudgeState.settled_of_finds queued found

/-- The calls made so far, and those still to be made, are those the stored
nudges ask for. `past` are the calls for what was settled at the start. -/
structure SettlementInv (past : String → List OutcomeCall) (s : NudgeState)
    (workers : List DeliveryTask) (calls : List OutcomeCall) : Prop where
  settles : ∀ task ∈ workers, task.Settles
  called : ∀ nudgeId, (past nudgeId ++
    callsFor nudgeId (calls ++ workers.filterMap DeliveryTask.pending)).Perm
      (s.settlementOf nudgeId)

namespace SettlementInv

variable {past : String → List OutcomeCall} {s : NudgeState}
  {workers before after : List DeliveryTask} {task next : DeliveryTask} {calls : List OutcomeCall}

/-- Only the queued nudges of the state matter. -/
theorem congr (inv : SettlementInv past s workers calls) {t : NudgeState}
    (same : t.queuedNudgeStore = s.queuedNudgeStore) : SettlementInv past t workers calls := by
  refine ⟨inv.settles, fun nudgeId => ?_⟩
  have kept : t.settlementOf nudgeId = s.settlementOf nudgeId := by
    unfold NudgeState.settlementOf
    rw [same]
  rw [kept]
  exact inv.called nudgeId

/-- Enqueueing a QUEUED nudge under an id that stands for no other. -/
theorem enqueue (inv : SettlementInv past s workers calls) {nudge : FanNudge}
    (queued : nudge.status = .queued) (own : s.ownsId nudge = true) :
    SettlementInv past (s.enqueue nudge) workers calls := by
  have free := NudgeState.settled_of_ownsId queued own
  refine ⟨inv.settles, fun nudgeId => ?_⟩
  rw [NudgeState.settlementOf_set (s := s) rfl]
  split
  · next same =>
      have empty := inv.called nudgeId
      rw [same, NudgeState.settlementOf_eq_nil.mpr free] at empty
      rw [same, FanNudge.settlement_eq_nil.mpr queued]
      exact empty
  · exact inv.called nudgeId

/-- A run moves on without storing or recording anything. -/
theorem move (inv : SettlementInv past s (before ++ task :: after) calls)
    (idle : task.pending = none) {continued : List DeliveryTask}
    (settles : ∀ next ∈ continued, next.Settles)
    (nothing : continued.filterMap DeliveryTask.pending = []) :
    SettlementInv past s (before ++ continued ++ after) calls := by
  refine ⟨?_, fun nudgeId => ?_⟩
  · intro t member
    simp only [List.mem_append] at member
    rcases member with (earlier | now) | later
    · exact inv.settles t (by simp [earlier])
    · exact settles t now
    · exact inv.settles t (by simp [later])
  · have unchanged := inv.called nudgeId
    rw [filterMap_middle, idle, Option.toList_none, List.append_nil] at unchanged
    rw [List.filterMap_append, List.filterMap_append, nothing, List.append_nil]
    exact unchanged

/-- A run stores its settlement of a nudge that the store still holds as the
snapshot does. -/
theorem update (inv : SettlementInv past s (before ++ task :: after) calls)
    {now : ℤ} {nudge updated : FanNudge} {deliveryRecord : Option DeliveryRecord}
    {rest : List FanNudge}
    (storing : task = .updatingNudge now nudge updated deliveryRecord rest)
    (found : s.finds nudge = true) :
    SettlementInv past (s.updateNudge updated)
      (before ++ .recordingOutcome now updated deliveryRecord rest :: after) calls := by
  subst storing
  have own := inv.settles (.updatingNudge now nudge updated deliveryRecord rest) (by simp)
  have free : s.settled updated.nudgeId = false := own.free found
  have settles : updated.settlement = [outcomeCall updated deliveryRecord] := own.2.2
  refine ⟨forall_mem_replace inv.settles trivial, fun nudgeId => ?_⟩
  have earlier := inv.called nudgeId
  rw [filterMap_middle] at earlier
  rw [filterMap_middle, NudgeState.settlementOf_set (s := s) rfl]
  split
  · next same =>
      subst same
      rw [NudgeState.settlementOf_eq_nil.mpr free, List.perm_nil] at earlier
      rw [settles]
      simp only [DeliveryTask.pending, Option.toList_none, List.append_nil, callsFor_append,
        List.append_eq_nil_iff] at earlier
      obtain ⟨none, made, ahead, behind⟩ := earlier
      simp [DeliveryTask.pending, none, made, ahead, behind]
  · next other => simpa [DeliveryTask.pending, Ne.symm other] using earlier

/-- A run records the outcome it has stored. -/
theorem record (inv : SettlementInv past s (before ++ task :: after) calls)
    (stays : next.Settles) (idle : next.pending = none) :
    SettlementInv past s (before ++ next :: after) (calls ++ task.pending.toList) := by
  refine ⟨forall_mem_replace inv.settles stays, fun nudgeId => ?_⟩
  refine List.Perm.trans ?_ (inv.called nudgeId)
  refine List.Perm.append_left _ (List.Perm.filter _ ?_)
  rw [filterMap_middle, filterMap_middle, idle, Option.toList_none, List.append_nil,
    List.append_assoc, List.append_assoc]
  exact List.Perm.append_left _ (List.perm_append_comm_assoc _ _ _)

end SettlementInv

namespace FanNudgeDeliveryWorker

variable {past : String → List OutcomeCall}

/-- `simulateDelivery` keeps the id. -/
theorem nudgeId_simulateDelivery (nudge : FanNudge)
    (forecastsByGate : OrderedMap GateId ForecastResult) (now : ℤ) :
    (simulateDelivery nudge forecastsByGate now).1.nudgeId = nudge.nudgeId := by
  unfold simulateDelivery
  simp only
  split <;> rfl

/-- The loop of a run gets to `updateNudge` with QUEUED nudges only. -/
theorem settles_nextNudge (forecastsByGate : OrderedMap GateId ForecastResult) (now : ℤ)
    (queued : List FanNudge) :
    ∀ next ∈ nextNudge forecastsByGate now queued, next.Settles := by
  intro next member
  rcases nextNudge_cases forecastsByGate now queued with done | ⟨nudge, -, rest, waiting, found⟩
  · rw [done] at member
    cases member
  · rw [found] at member
    cases member
    exact ⟨waiting, nudgeId_simulateDelivery nudge forecastsByGate now,
      settlement_simulateDelivery nudge forecastsByGate now⟩

/-- Whatever its state, a run is about to store settlements of QUEUED nudges of
its snapshot only. -/
theorem settles_resume (task : DeliveryTask) (s : PipelineState) :
    ∀ next ∈ (resume task s).continued.toList ++ (resume task s).started, next.Settles := by
  intro next member
  cases task with
  | delivering now queued =>
      have member : next ∈ (nextNudge s.forecasts.forecastsByGate now queued).toList ++ [] := member
      rw [List.append_nil, Option.mem_toList] at member
      exact settles_nextNudge _ now queued next member
  | _ =>
      rw [List.mem_singleton.mp member]
      trivial

/-- **A step of a run** that finds its nudge as in the snapshot keeps the
invariant. -/
theorem settlement_resume {s : PipelineState} {before after : List DeliveryTask}
    {task : DeliveryTask} {calls : List OutcomeCall}
    (inv : SettlementInv past s.nudges (before ++ task :: after) calls)
    (found : task.findsSnapshot s.nudges = true) :
    SettlementInv past (resume task s).shared.nudges
      (before ++ (resume task s).continued.toList ++ after ++ (resume task s).started)
      (calls ++ task.pending.toList) := by
  cases task with
  | readingQueue now =>
      have read : SettlementInv past s.nudges
          (before ++ [.delivering now s.nudges.queuedNudgeStore.values] ++ after) calls :=
        inv.move rfl (by simp [DeliveryTask.Settles]) rfl
      simpa [resume, DeliveryTask.pending] using read
  | delivering now queued =>
      have looped : SettlementInv past s.nudges
          (before ++ (nextNudge s.forecasts.forecastsByGate now queued).toList ++ after) calls := by
        refine inv.move rfl ?_ ?_
        · intro t member
          exact settles_nextNudge _ now queued t (Option.mem_toList.mp member)
        · rcases nextNudge_cases s.forecasts.forecastsByGate now queued with
            done | ⟨nudge, -, rest, -, next⟩
          · rw [done]
            rfl
          · rw [next]
            rfl
      simpa [resume, DeliveryTask.pending] using looped
  | updatingNudge now nudge updated deliveryRecord rest =>
      simpa [resume, DeliveryTask.pending] using inv.update rfl found
  | recordingOutcome now updated deliveryRecord rest =>
      have recorded : SettlementInv past s.nudges (before ++ .delivering now rest :: after) _ :=
        inv.record trivial rfl
      simpa [resume] using recorded.congr (t := (recordOutcome s updated).nudges) rfl

/-- A new run has nothing to store or to record. -/
theorem settlement_interval {s : NudgeState} {workers : List DeliveryTask}
    {calls : List OutcomeCall} (inv : SettlementInv past s workers calls) (now : ℤ) :
    SettlementInv past s (workers ++ [.readingQueue now]) calls := by
  refine ⟨?_, fun nudgeId => ?_⟩
  · intro t member
    rcases List.mem_append.mp member with old | new
    · exact inv.settles t old
    · rw [List.mem_singleton.mp new]
      trivial
  · have idle : [DeliveryTask.readingQueue now].filterMap DeliveryTask.pending = [] := rfl
    rw [List.filterMap_append, idle, List.append_nil]
    exact inv.called nudgeId

/-- A step of a run that finds its nudge as in the snapshot leaves a settled
nudge as it is. -/
theorem stored_resume {s : PipelineState} {task : DeliveryTask} (own : task.Settles)
    (found : task.findsSnapshot s.nudges = true) {nudgeId : String} {nudge : FanNudge}
    (stored : s.nudges.queuedNudgeStore.get? nudgeId = some nudge)
    (settled : nudge.status ≠ .queued) :
    (resume task s).shared.nudges.queuedNudgeStore.get? nudgeId = some nudge := by
  cases task with
  | readingQueue => exact stored
  | delivering => exact stored
  | recordingOutcome => exact stored
  | updatingNudge now snapshot updated deliveryRecord rest =>
      have free : s.nudges.settled updated.nudgeId = false := own.free found
      show (s.nudges.queuedNudgeStore.set updated.nudgeId updated).get? nudgeId = _
      rw [OrderedMap.get?_set_ne]
      · exact stored
      · intro same
        subst same
        simp [NudgeState.settled, stored, settled] at free

/-! ## A queue that fills while forecasts change -/

/-- What happens around the worker. -/
inductive QueueStimulus where
  /-- Time passes. -/
  | advance (ms : ℕ)
  /-- A QUEUED nudge is enqueued. -/
  | enqueue (nudge : FanNudge) (queued : nudge.status = .queued)
  /-- The current forecast of a gate changes. -/
  | forecast (gateId : GateId) (result : ForecastResult)

def QueueStimulus.react : QueueStimulus → PipelineState → PipelineState
  | .advance ms, s => { s with intake := { s.intake with clock := s.intake.clock + ms } }
  | .enqueue nudge _, s => { s with nudges := s.nudges.enqueue nudge }
  | .forecast gateId result, s =>
      { s with
        forecasts := { s.forecasts with
          forecastsByGate := s.forecasts.forecastsByGate.set gateId result } }

/-- The worker's runs on a queue that fills and under forecasts that change. -/
def queueSystem :
    TaskSystem PipelineState (Empty ⊕ DeliveryTask) (QueueStimulus ⊕ DeliveryStimulus) :=
  (TaskSystem.passive QueueStimulus.react).sum system

abbrev QueueSchedule := List (Choice (QueueStimulus ⊕ DeliveryStimulus))

/-- Where a schedule leads from a queue no run is working on. -/
def after (start : PipelineState) (schedule : QueueSchedule) :
    Config PipelineState (Empty ⊕ DeliveryTask) :=
  queueSystem.run ⟨start, []⟩ schedule

/-- Where the step stores a settlement, the store still holds the nudge of the
run's snapshot; where it enqueues a nudge, its id stands for no other one. -/
def keepsSnapshots (c : Config PipelineState (Empty ⊕ DeliveryTask)) :
    Choice (QueueStimulus ⊕ DeliveryStimulus) → Bool
  | .stimulus (.inl (.enqueue nudge _)) => c.shared.nudges.ownsId nudge
  | .stimulus _ => true
  | .resume position =>
      (c.suspended[position]?.bind Sum.getRight?).all fun task => task.findsSnapshot c.shared.nudges

/-- Notes the calls of the audit sink, whatever runs beside the worker. -/
def outcomes {τ ε : Type} :
    Observer PipelineState (τ ⊕ DeliveryTask) (ε ⊕ DeliveryStimulus) OutcomeCall where
  onStimulus _ _ := []
  onResume
    | .inl _, _ => []
    | .inr task, _ => task.pending.toList

/-- The calls of the audit sink along a schedule. -/
def outcomesOf (start : PipelineState) (schedule : QueueSchedule) : List OutcomeCall :=
  queueSystem.trace outcomes ⟨start, []⟩ schedule

theorem settlement_after (start : PipelineState) {schedule : QueueSchedule}
    (guarded : queueSystem.Guarded (fun c choice => keepsSnapshots c choice) ⟨start, []⟩ schedule) :
    SettlementInv start.nudges.settlementOf (after start schedule).shared.nudges
      (rights (after start schedule).suspended) (outcomesOf start schedule) := by
  let Inv : PipelineState → List Empty → List DeliveryTask → List OutcomeCall → Prop :=
    fun s _ workers calls => SettlementInv start.nudges.settlementOf s.nudges workers calls
  suffices kept : Inv (after start schedule).shared (lefts (after start schedule).suspended)
      (rights (after start schedule).suspended) ([] ++ outcomesOf start schedule) from kept
  refine sum_invariant _ _ outcomes ?_ ?_ ?_ ?_ ?_ guarded
  · intro s tasks calls e inv now
    rw [show outcomes.onStimulus (.inl e) s = [] from rfl, List.append_nil]
    cases e with
    | advance ms => exact inv
    | enqueue nudge queued => exact inv.enqueue queued (by simpa [keepsSnapshots] using now)
    | forecast gateId result => exact inv
  · intro s tasks calls e inv _
    rw [show outcomes.onStimulus (.inr e) s = [] from rfl, List.append_nil]
    cases e with
    | interval => exact settlement_interval inv s.intake.clock
  · intro s before task
    exact nomatch task
  · intro s before task after calls inv now
    exact settlement_resume inv (by simpa [keepsSnapshots] using now)
  · exact ⟨by simp, fun _ => by simp⟩

/-- What is settled stays as it is. -/
theorem stored_run {c : Config PipelineState (Empty ⊕ DeliveryTask)} {schedule : QueueSchedule}
    (guarded : queueSystem.Guarded (fun c choice => keepsSnapshots c choice) c schedule)
    (own : ∀ task ∈ rights c.suspended, task.Settles) {nudgeId : String} {nudge : FanNudge}
    (stored : c.shared.nudges.queuedNudgeStore.get? nudgeId = some nudge)
    (settled : nudge.status ≠ .queued) :
    (queueSystem.run c schedule).shared.nudges.queuedNudgeStore.get? nudgeId = some nudge := by
  let Inv : PipelineState → List Empty → List DeliveryTask → List OutcomeCall → Prop :=
    fun s _ workers _ => (∀ task ∈ workers, task.Settles) ∧
      s.nudges.queuedNudgeStore.get? nudgeId = some nudge
  suffices kept : Inv (queueSystem.run c schedule).shared
      (lefts (queueSystem.run c schedule).suspended)
      (rights (queueSystem.run c schedule).suspended)
      ([] ++ queueSystem.trace outcomes c schedule) from kept.2
  refine sum_invariant _ _ outcomes ?_ ?_ ?_ ?_ ⟨own, stored⟩ guarded
  · rintro s tasks calls e ⟨own, stored⟩ now
    refine ⟨own, ?_⟩
    cases e with
    | advance ms => exact stored
    | enqueue other queued =>
        have free : s.nudges.settled other.nudgeId = false :=
          NudgeState.settled_of_ownsId queued (by simpa [keepsSnapshots] using now)
        show (s.nudges.queuedNudgeStore.set other.nudgeId other).get? nudgeId = _
        rw [OrderedMap.get?_set_ne]
        · exact stored
        · intro same
          subst same
          simp [NudgeState.settled, stored, settled] at free
    | forecast gateId result => exact stored
  · rintro s tasks calls e ⟨own, stored⟩ -
    cases e with
    | interval =>
        refine ⟨fun task member => ?_, stored⟩
        rcases List.mem_append.mp member with old | new
        · exact own task old
        · rw [List.mem_singleton.mp new]
          trivial
  · intro s before task
    exact nomatch task
  · rintro s before task after calls ⟨own, stored⟩ now
    exact ⟨forall_mem_resumed own fun _ => settles_resume task s,
      stored_resume (own task (by simp)) (by simpa [keepsSnapshots] using now) stored settled⟩

/-- **Each nudge is settled once.** Take a schedule along which the store still
holds the nudge of a run's snapshot whenever the run stores its settlement, and
an id stands for one nudge, cut in two. A nudge settled at the cut is the same
at the end. At most one call of the audit sink is made for it, and where no run
has still to record its outcome, the calls are those its stored status asks for:
one of the matching kind if it was settled since the start, and none otherwise. -/
theorem nudges_settled_once (start : PipelineState) (first second : QueueSchedule)
    (guarded : queueSystem.Guarded (fun c choice => keepsSnapshots c choice) ⟨start, []⟩
      (first ++ second)) (nudgeId : String) :
    (∀ nudge, (after start first).shared.nudges.queuedNudgeStore.get? nudgeId = some nudge →
      nudge.status ≠ .queued →
      (after start (first ++ second)).shared.nudges.queuedNudgeStore.get? nudgeId = some nudge) ∧
    (callsFor nudgeId (outcomesOf start (first ++ second))).length ≤ 1 ∧
    (callsFor nudgeId ((rights (after start (first ++ second)).suspended).filterMap
        DeliveryTask.pending) = [] →
      start.nudges.settlementOf nudgeId ++ callsFor nudgeId (outcomesOf start (first ++ second)) =
        (after start (first ++ second)).shared.nudges.settlementOf nudgeId) := by
  have inv := settlement_after start guarded
  have called := inv.called nudgeId
  have short := NudgeState.settlementOf_length
    (after start (first ++ second)).shared.nudges nudgeId
  refine ⟨?_, ?_, ?_⟩
  · intro nudge stored settled
    unfold after
    rw [run_append]
    obtain ⟨early, late⟩ := (guarded_append queueSystem).mp guarded
    exact stored_run late (settlement_after start early).settles stored settled
  · have total := called.length_eq
    rw [callsFor_append, List.length_append, List.length_append] at total
    omega
  · intro recorded
    rw [callsFor_append, recorded, List.append_nil] at called
    cases asked : (after start (first ++ second)).shared.nudges.settlementOf nudgeId with
    | nil =>
        rw [asked] at called
        exact called.eq_nil
    | cons call rest =>
        rw [asked] at called short
        have single : rest = [] := by
          apply List.eq_nil_of_length_eq_zero
          simpa using short
        subst single
        exact List.perm_singleton.mp called

def demoNudge : FanNudge where
  nudgeId := "fan-gate-a-1970-01-01T00:00:00.000Z"
  fanId := "fan"
  originGateId := "gate-a"
  alternativeGateId := none
  alternativeArrivalTime := some "1970-01-01T00:20:00.000Z"
  message := ""
  generatedAt := "1970-01-01T00:00:00.000Z"
  status := .queued

/-- The forecast of gate A is replaced by one of a single point. -/
def demoForecast (score : ℤ) (riskLevel : RiskLevel) : QueueStimulus :=
  .forecast "gate-a" ⟨[{
    gateId := "gate-a"
    forecastTime := "1970-01-01T00:00:00.000Z"
    offsetMinutes := 0
    score
    riskLevel
    lowConfidence := false
    outdated := false }], false⟩

/-- A nudge is enqueued at a HIGH gate; two runs start and both read the queue;
the first delivers the nudge. -/
def overlappingRuns : QueueSchedule :=
  [.stimulus (.inl (demoForecast 60 .high)), .stimulus (.inl (.enqueue demoNudge rfl)),
    .stimulus (.inr .interval), .stimulus (.inr .interval), .resume 0, .resume 1,
    .resume 0, .resume 0, .resume 0, .resume 0]

/-- The gate recovers, and the second run cancels the nudge. -/
def lateCancellation : QueueSchedule :=
  [.stimulus (.inl (demoForecast 10 .low)), .resume 0, .resume 0, .resume 0, .resume 0]

/-- A single run delivers the nudge and ends. -/
def completedRun : QueueSchedule :=
  [.stimulus (.inl (demoForecast 60 .high)), .stimulus (.inl (.enqueue demoNudge rfl)),
    .stimulus (.inr .interval), .resume 0, .resume 0, .resume 0, .resume 0, .resume 0]

/-- The delivery stands when a later run finds the gate recovered. -/
theorem nudges_settled_once_demo :
    callsFor demoNudge.nudgeId (outcomesOf (.wired 0) (completedRun ++
      [.stimulus (.inl (demoForecast 10 .low)), .stimulus (.inr .interval),
        .resume 0, .resume 0])) =
      (after (.wired 0) (completedRun ++
        [.stimulus (.inl (demoForecast 10 .low)), .stimulus (.inr .interval),
          .resume 0, .resume 0])).shared.nudges.settlementOf demoNudge.nudgeId :=
  (nudges_settled_once (.wired 0) completedRun _ (by decide +kernel) demoNudge.nudgeId).2.2
    (by decide +kernel)

/-- The delivered nudge becomes a cancelled one, and both outcomes are
recorded. -/
theorem nudge_settled_twice :
    ((after (.wired 0) overlappingRuns).shared.nudges.queuedNudgeStore.get?
      demoNudge.nudgeId).map (·.status) = some .simulatedDelivered ∧
    ((after (.wired 0) (overlappingRuns ++ lateCancellation)).shared.nudges.queuedNudgeStore.get?
      demoNudge.nudgeId).map (·.status) = some .cancelled ∧
    (callsFor demoNudge.nudgeId
      (outcomesOf (.wired 0) (overlappingRuns ++ lateCancellation))).length = 2 := by
  decide +kernel

end FanNudgeDeliveryWorker

end Stadium
