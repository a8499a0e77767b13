import Stadium.Pipeline.Containment

/-!
# Batches of nudges that stop halfway

`service.ts` of the notification system, with the subscriber that publishes what
it returns. For each fan in turn `onScoreUpdate` reads the cooldown, sets it and
enqueues the nudge; the subscriber publishes the nudges once all fans are done.
A call that rejects ends the batch: nothing is returned, so nothing is
published, and nothing is taken back.

A `FanTurn` is what one round of the loop meets. The loop is compared with the
server's own task in `batch_of_nextFan`: whatever happens between its steps, what it
gets done is a batch of turns.
-/

namespace Stadium

open Interleaving TaskSystem

/-- The calls `onScoreUpdate` awaits. -/
inductive NudgeCall where
  | getLastNudgeAt
  | setLastNudgeAt
  | enqueue
  deriving DecidableEq

/-- One round of the loop: the fan, what Redis answers, the forecasts as they stand,
and which of the calls for this fan rejects when it is made. -/
structure FanTurn where
  fan : FanContext
  lastNudgeAt : Option ℤ
  forecastsByGate : OrderedMap GateId ForecastResult
  rejects : Option NudgeCall := none

/-- The calls a batch gets done, and the nudges it returns; `none` when it rejects. -/
structure NudgeBatch where
  calls : List DependencyCall
  returned : Option (List FanNudge)

/-- A batch with calls before it. -/
def NudgeBatch.after (calls : List DependencyCall) (batch : NudgeBatch) : NudgeBatch :=
  { batch with calls := calls ++ batch.calls }

/-- The subscriber publishes what is returned on `fan-nudges`, and the audit
repository records it. -/
def NudgeBatch.published (batch : NudgeBatch) : List DependencyCall :=
  batch.calls ++ (batch.returned.getD []).map .writeNudgeAudit

variable (localeCompare : String → String → Ordering) (originGate : Gate) (now : ℤ)

/-- `onScoreUpdate` from some round on, with the nudges generated before. -/
def FanNotificationService.onScoreUpdate : List FanTurn → List FanNudge → NudgeBatch
  | [], generated => ⟨[], some generated⟩
  | turn :: rest, generated =>
      if turn.rejects = some .getLastNudgeAt then ⟨[], none⟩
      else
        let read := .getLastNudgeAt turn.fan.fanId originGate.gateId
        match generateFanNudge localeCompare turn.fan originGate turn.forecastsByGate
            turn.lastNudgeAt now with
        | none => (onScoreUpdate rest generated).after [read]
        | some nudge =>
            let set := .setLastNudgeAt turn.fan.fanId originGate.gateId now
            if turn.rejects = some .setLastNudgeAt then ⟨[read], none⟩
            else if turn.rejects = some .enqueue then ⟨[read, set], none⟩
            else (onScoreUpdate rest (generated ++ [nudge])).after [read, set, .enqueue nudge]

/-! ## One round -/

namespace FanTurn

variable (turn : FanTurn)

/-- The nudge that is generated for the fan. -/
def nudge? : Option FanNudge :=
  generateFanNudge localeCompare turn.fan originGate turn.forecastsByGate turn.lastNudgeAt now

/-- A call that is made for the fan rejects. -/
def fails : Bool :=
  match turn.rejects with
  | none => false
  | some .getLastNudgeAt => true
  | some _ => (turn.nudge? localeCompare originGate now).isSome

/-- What a round gets done when no call of it rejects. -/
def calls : List DependencyCall :=
  .getLastNudgeAt turn.fan.fanId originGate.gateId ::
    match turn.nudge? localeCompare originGate now with
    | none => []
    | some nudge => [.setLastNudgeAt turn.fan.fanId originGate.gateId now, .enqueue nudge]

/-- What a round gets done before a call of it rejects. -/
def callsBeforeRejection : List DependencyCall :=
  match turn.rejects with
  | some .setLastNudgeAt => [.getLastNudgeAt turn.fan.fanId originGate.gateId]
  | some .enqueue =>
      [.getLastNudgeAt turn.fan.fanId originGate.gateId,
        .setLastNudgeAt turn.fan.fanId originGate.gateId now]
  | _ => []

end FanTurn

variable {localeCompare originGate now}

theorem setLastNudgeAt_mem_calls {turn : FanTurn} {fanId : FanId} :
    .setLastNudgeAt fanId originGate.gateId now ∈ turn.calls localeCompare originGate now ↔
      turn.fan.fanId = fanId ∧ (turn.nudge? localeCompare originGate now).isSome := by
  unfold FanTurn.calls
  cases turn.nudge? localeCompare originGate now <;> simp [eq_comm]

theorem enqueue_mem_calls {turn : FanTurn} {nudge : FanNudge} :
    .enqueue nudge ∈ turn.calls localeCompare originGate now ↔
      turn.nudge? localeCompare originGate now = some nudge := by
  unfold FanTurn.calls
  cases turn.nudge? localeCompare originGate now <;> simp [eq_comm]

/-- The loop publishes nothing. -/
theorem writeNudgeAudit_notMem_calls {turn : FanTurn} {nudge : FanNudge} :
    .writeNudgeAudit nudge ∉ turn.calls localeCompare originGate now := by
  unfold FanTurn.calls
  cases turn.nudge? localeCompare originGate now <;> simp

theorem writeNudgeAudit_notMem_callsBeforeRejection {turn : FanTurn} {nudge : FanNudge} :
    .writeNudgeAudit nudge ∉ turn.callsBeforeRejection originGate now := by
  unfold FanTurn.callsBeforeRejection
  split <;> simp

/-- A nudge is for the fan of its round. -/
theorem fanId_of_nudge? {turn : FanTurn} {nudge : FanNudge}
    (generated : turn.nudge? localeCompare originGate now = some nudge) :
    nudge.fanId = turn.fan.fanId :=
  (generateFanNudge_spec generated).2.1

/-! ## The whole batch -/

/-- A round in which nothing rejects is followed by the rest. -/
theorem onScoreUpdate_cons {turn : FanTurn}
    (succeeds : turn.fails localeCompare originGate now = false) (rest : List FanTurn)
    (generated : List FanNudge) :
    FanNotificationService.onScoreUpdate localeCompare originGate now (turn :: rest) generated =
      (FanNotificationService.onScoreUpdate localeCompare originGate now rest
        (generated ++ (turn.nudge? localeCompare originGate now).toList)).after
          (turn.calls localeCompare originGate now) := by
  unfold FanTurn.fails at succeeds
  rw [FanNotificationService.onScoreUpdate]
  show (if _ then _ else match turn.nudge? localeCompare originGate now with
    | none => _ | some nudge => _) = _
  unfold FanTurn.calls
  cases rejects : turn.rejects with
  | none =>
      cases turn.nudge? localeCompare originGate now with
      | none => simp
      | some nudge => simp
  | some call =>
      rw [rejects] at succeeds
      cases call with
      | getLastNudgeAt => cases succeeds
      | setLastNudgeAt | enqueue =>
          rw [Option.isSome_eq_false_iff, Option.isNone_iff_eq_none] at succeeds
          simp [succeeds]

/-- A round in which a call rejects ends the batch. -/
theorem onScoreUpdate_cons_of_fails {turn : FanTurn}
    (fails : turn.fails localeCompare originGate now = true) (rest : List FanTurn)
    (generated : List FanNudge) :
    FanNotificationService.onScoreUpdate localeCompare originGate now (turn :: rest) generated =
      ⟨turn.callsBeforeRejection originGate now, none⟩ := by
  unfold FanTurn.fails at fails
  rw [FanNotificationService.onScoreUpdate]
  show (if _ then _ else match turn.nudge? localeCompare originGate now with
    | none => _ | some nudge => _) = _
  unfold FanTurn.callsBeforeRejection
  cases rejects : turn.rejects with
  | none =>
      rw [rejects] at fails
      cases fails
  | some call =>
      rw [rejects] at fails
      cases call with
      | getLastNudgeAt => rfl
      | setLastNudgeAt | enqueue =>
          obtain ⟨nudge, generated⟩ := Option.isSome_iff_exists.mp fails
          simp [generated]

/-- Rounds in which nothing rejects are followed by the rest of the batch. -/
theorem onScoreUpdate_append {done : List FanTurn}
    (succeed : ∀ turn ∈ done, turn.fails localeCompare originGate now = false)
    (rest : List FanTurn) (generated : List FanNudge) :
    FanNotificationService.onScoreUpdate localeCompare originGate now (done ++ rest) generated =
      (FanNotificationService.onScoreUpdate localeCompare originGate now rest
        (generated ++ done.filterMap (·.nudge? localeCompare originGate now))).after
          (done.flatMap (·.calls localeCompare originGate now)) := by
  induction done generalizing generated with
  | nil => simp [NudgeBatch.after]
  | cons turn more ih =>
      obtain ⟨own, others⟩ := List.forall_mem_cons.mp succeed
      rw [List.cons_append, onScoreUpdate_cons own, ih others, List.flatMap_cons]
      unfold NudgeBatch.after
      cases generates : turn.nudge? localeCompare originGate now with
      | none => simp [generates]
      | some nudge => simp [generates]

variable (localeCompare originGate now) in
/-- The rounds before the first one in which a call rejects. -/
def roundsDone (turns : List FanTurn) : List FanTurn :=
  turns.takeWhile fun turn => !turn.fails localeCompare originGate now

variable (localeCompare originGate now) in
/-- The first round in which a call rejects. -/
def firstFailure (turns : List FanTurn) : Option FanTurn :=
  turns.find? (·.fails localeCompare originGate now)

variable (localeCompare originGate now) in
/-- For every fan the cooldown is set if and only if a nudge is enqueued, and every
nudge enqueued is published. -/
structure NoHalfDoneNudge (turns : List FanTurn) (calls : List DependencyCall) : Prop where
  cooledDown : ∀ turn ∈ turns,
    .setLastNudgeAt turn.fan.fanId originGate.gateId now ∈ calls ↔
      ∃ nudge : FanNudge, nudge.fanId = turn.fan.fanId ∧ .enqueue nudge ∈ calls
  published : ∀ nudge, .enqueue nudge ∈ calls → .writeNudgeAudit nudge ∈ calls

variable (localeCompare originGate now) in
/-- If a call rejects it is no enqueue, and no fan was nudged before. -/
def StopsBeforeFirstNudge (turns : List FanTurn) : Prop :=
  ∀ turn, firstFailure localeCompare originGate now turns = some turn →
    turn.rejects ≠ some .enqueue ∧
      ∀ earlier ∈ roundsDone localeCompare originGate now turns,
        earlier.nudge? localeCompare originGate now = none

variable (localeCompare originGate now) in
theorem succeeds_of_mem_roundsDone (turns : List FanTurn) :
    ∀ turn ∈ roundsDone localeCompare originGate now turns,
      turn.fails localeCompare originGate now = false := by
  intro turn done
  simpa using List.mem_takeWhile_imp done

/-- Without a failure every round is done. -/
theorem roundsDone_of_no_failure {turns : List FanTurn}
    (none : firstFailure localeCompare originGate now turns = none) :
    roundsDone localeCompare originGate now turns = turns := by
  apply List.takeWhile_eq_self_iff.mpr
  intro turn member
  simpa using List.find?_eq_none.mp none turn member

/-- The first failure comes after the rounds that are done. -/
theorem turns_of_failure {turns : List FanTurn} {turn : FanTurn}
    (failed : firstFailure localeCompare originGate now turns = some turn) :
    turn.fails localeCompare originGate now = true ∧
      ∃ skipped, turns = roundsDone localeCompare originGate now turns ++ turn :: skipped := by
  obtain ⟨fails, done, skipped, split, succeed⟩ := List.find?_eq_some_iff_append.mp failed
  refine ⟨fails, skipped, ?_⟩
  have rounds : roundsDone localeCompare originGate now turns = done := by
    unfold roundsDone
    rw [split, List.takeWhile_append_of_pos succeed, List.takeWhile_cons_of_neg (by simp [fails]),
      List.append_nil]
  rw [rounds]
  exact split

theorem setLastNudgeAt_mem_flatMap {turns : List FanTurn} {fanId : FanId} :
    .setLastNudgeAt fanId originGate.gateId now ∈
        turns.flatMap (·.calls localeCompare originGate now) ↔
      ∃ turn ∈ turns, turn.fan.fanId = fanId ∧
        (turn.nudge? localeCompare originGate now).isSome := by
  simp only [List.mem_flatMap, setLastNudgeAt_mem_calls]

theorem enqueue_mem_flatMap {turns : List FanTurn} {nudge : FanNudge} :
    .enqueue nudge ∈ turns.flatMap (·.calls localeCompare originGate now) ↔
      ∃ turn ∈ turns, turn.nudge? localeCompare originGate now = some nudge := by
  simp only [List.mem_flatMap, enqueue_mem_calls]

/-- Of the rounds done, exactly the fans that are nudged have their cooldown set. -/
theorem cooledDown_iff_nudged {turns : List FanTurn} {fanId : FanId} :
    .setLastNudgeAt fanId originGate.gateId now ∈
        turns.flatMap (·.calls localeCompare originGate now) ↔
      ∃ nudge : FanNudge, nudge.fanId = fanId ∧
        .enqueue nudge ∈ turns.flatMap (·.calls localeCompare originGate now) := by
  simp only [setLastNudgeAt_mem_flatMap, enqueue_mem_flatMap]
  constructor
  · rintro ⟨turn, listed, rfl, generates⟩
    obtain ⟨nudge, generated⟩ := Option.isSome_iff_exists.mp generates
    exact ⟨nudge, fanId_of_nudge? generated, turn, listed, generated⟩
  · rintro ⟨nudge, rfl, turn, listed, generated⟩
    exact ⟨turn, listed, (fanId_of_nudge? generated).symm, by rw [generated]; rfl⟩

/-- Rounds that nudge nobody do nothing but read. -/
theorem reads_of_no_nudge {turns : List FanTurn}
    (none : ∀ turn ∈ turns, turn.nudge? localeCompare originGate now = none) {call : DependencyCall}
    (done : call ∈ turns.flatMap (·.calls localeCompare originGate now)) :
    ∃ fanId, call = .getLastNudgeAt fanId originGate.gateId := by
  obtain ⟨turn, listed, made⟩ := List.mem_flatMap.mp done
  unfold FanTurn.calls at made
  rw [none turn listed] at made
  exact ⟨_, List.mem_singleton.mp made⟩

/-- Before a read or a cooldown write rejects, its round has at most read. -/
theorem read_of_callsBeforeRejection {turn : FanTurn} (notEnqueue : turn.rejects ≠ some .enqueue)
    {call : DependencyCall} (made : call ∈ turn.callsBeforeRejection originGate now) :
    ∃ fanId, call = .getLastNudgeAt fanId originGate.gateId := by
  unfold FanTurn.callsBeforeRejection at made
  split at made
  · exact ⟨_, List.mem_singleton.mp made⟩
  · rename_i enqueue
    exact absurd enqueue notEnqueue
  · cases made

/-- A batch without a failure has done nothing by halves. -/
theorem noHalfDoneNudge_of_no_failure {turns : List FanTurn}
    (none : firstFailure localeCompare originGate now turns = none) :
    NoHalfDoneNudge originGate now turns (FanNotificationService.onScoreUpdate localeCompare
      originGate now turns []).published := by
  have succeed := succeeds_of_mem_roundsDone localeCompare originGate now turns
  rw [roundsDone_of_no_failure none] at succeed
  have batch := onScoreUpdate_append succeed [] []
  rw [List.append_nil] at batch
  rw [batch]
  unfold NudgeBatch.published NudgeBatch.after FanNotificationService.onScoreUpdate
  simp only [List.append_nil, List.nil_append, Option.getD_some]
  refine ⟨fun turn _ => ?_, fun nudge enqueued => ?_⟩
  · simp only [List.mem_append, List.mem_map, reduceCtorEq, and_false, exists_false, or_false]
    exact cooledDown_iff_nudged
  · simp only [List.mem_append, List.mem_map, reduceCtorEq, and_false, exists_false, or_false]
      at enqueued
    apply List.mem_append_right
    apply List.mem_map_of_mem
    obtain ⟨turn, listed, generated⟩ := enqueue_mem_flatMap.mp enqueued
    exact List.mem_filterMap.mpr ⟨turn, listed, generated⟩

/-- A batch with a failure gets done the rounds before it, and of its own round the
calls before the rejection. -/
theorem published_of_failure {turns : List FanTurn} {turn : FanTurn}
    (failed : firstFailure localeCompare originGate now turns = some turn) :
    (FanNotificationService.onScoreUpdate localeCompare originGate now turns []).published =
      (roundsDone localeCompare originGate now turns).flatMap
          (·.calls localeCompare originGate now) ++ turn.callsBeforeRejection originGate now := by
  obtain ⟨fails, skipped, split⟩ := turns_of_failure failed
  have batch := onScoreUpdate_append
    (succeeds_of_mem_roundsDone localeCompare originGate now turns) (turn :: skipped) []
  rw [← split, onScoreUpdate_cons_of_fails fails] at batch
  rw [batch]
  exact List.append_nil _

/-- A batch with a failure publishes nothing. -/
theorem unpublished_of_failure {turns : List FanTurn} {turn : FanTurn}
    (failed : firstFailure localeCompare originGate now turns = some turn) (nudge : FanNudge) :
    .writeNudgeAudit nudge ∉ (FanNotificationService.onScoreUpdate localeCompare originGate now
      turns []).published := by
  rw [published_of_failure failed]
  intro made
  rcases List.mem_append.mp made with done | last
  · obtain ⟨earlier, -, made⟩ := List.mem_flatMap.mp done
    exact writeNudgeAudit_notMem_calls made
  · exact writeNudgeAudit_notMem_callsBeforeRejection last

/-- A nudge that is generated before the failure is enqueued. -/
theorem enqueued_of_failure {turns : List FanTurn} {turn earlier : FanTurn} {nudge : FanNudge}
    (failed : firstFailure localeCompare originGate now turns = some turn)
    (done : earlier ∈ roundsDone localeCompare originGate now turns)
    (generated : earlier.nudge? localeCompare originGate now = some nudge) :
    .enqueue nudge ∈ (FanNotificationService.onScoreUpdate localeCompare originGate now
      turns []).published := by
  rw [published_of_failure failed]
  apply List.mem_append_left
  exact enqueue_mem_flatMap.mpr ⟨earlier, done, generated⟩

/-- When the queue rejects, the cooldown is already set. -/
theorem cooledDown_of_rejectedEnqueue {turns : List FanTurn} {turn : FanTurn}
    (failed : firstFailure localeCompare originGate now turns = some turn)
    (enqueue : turn.rejects = some .enqueue) :
    .setLastNudgeAt turn.fan.fanId originGate.gateId now ∈
      (FanNotificationService.onScoreUpdate localeCompare originGate now turns []).published := by
  rw [published_of_failure failed]
  apply List.mem_append_right
  unfold FanTurn.callsBeforeRejection
  rw [enqueue]
  simp

/-- A failed batch with nothing half done stopped before the first nudge. -/
theorem stopsBeforeFirstNudge_of_failure {turns : List FanTurn} {turn : FanTurn}
    (failed : firstFailure localeCompare originGate now turns = some turn)
    (whole : NoHalfDoneNudge originGate now turns (FanNotificationService.onScoreUpdate
      localeCompare originGate now turns []).published) :
    StopsBeforeFirstNudge localeCompare originGate now turns := by
  intro turn' same
  obtain rfl := Option.some.inj (failed.symm.trans same)
  -- nothing is published, so nothing may have been enqueued
  have unqueued : ∀ nudge : FanNudge, .enqueue nudge ∉
      (FanNotificationService.onScoreUpdate localeCompare originGate now turns []).published :=
    fun nudge enqueued => unpublished_of_failure failed nudge (whole.published nudge enqueued)
  refine ⟨?_, ?_⟩
  · intro enqueue
    obtain ⟨-, skipped, split⟩ := turns_of_failure failed
    have listed : turn ∈ turns := by
      rw [split]
      simp
    obtain ⟨nudge, -, enqueued⟩ :=
      (whole.cooledDown turn listed).mp (cooledDown_of_rejectedEnqueue failed enqueue)
    exact unqueued nudge enqueued
  · intro earlier done
    cases generated : earlier.nudge? localeCompare originGate now with
    | none => rfl
    | some nudge => exact absurd (enqueued_of_failure failed done generated) (unqueued nudge)

/-- A batch that has only read has done nothing by halves. -/
theorem noHalfDoneNudge_of_only_reads {turns : List FanTurn} {calls : List DependencyCall}
    (onlyReads : ∀ call ∈ calls, ∃ fanId, call = .getLastNudgeAt fanId originGate.gateId) :
    NoHalfDoneNudge originGate now turns calls := by
  have unqueued : ∀ nudge : FanNudge, .enqueue nudge ∉ calls := by
    intro nudge enqueued
    obtain ⟨fanId, same⟩ := onlyReads _ enqueued
    cases same
  refine ⟨fun turn _ => iff_of_false ?_ ?_, fun nudge enqueued => ?_⟩
  · intro set
    obtain ⟨fanId, same⟩ := onlyReads _ set
    cases same
  · rintro ⟨nudge, -, enqueued⟩
    exact unqueued nudge enqueued
  · exact absurd enqueued (unqueued nudge)

/-- A failed batch that stopped before the first nudge has only read. -/
theorem onlyReads_of_stopsBeforeFirstNudge {turns : List FanTurn} {turn : FanTurn}
    (failed : firstFailure localeCompare originGate now turns = some turn)
    (stops : StopsBeforeFirstNudge localeCompare originGate now turns) :
    ∀ call ∈ (FanNotificationService.onScoreUpdate localeCompare originGate now
      turns []).published, ∃ fanId, call = .getLastNudgeAt fanId originGate.gateId := by
  obtain ⟨notEnqueue, none⟩ := stops turn failed
  rw [published_of_failure failed]
  intro call made
  rcases List.mem_append.mp made with done | last
  · exact reads_of_no_nudge none done
  · exact read_of_callsBeforeRejection notEnqueue last

/-- **A batch leaves no half-done nudge exactly when it stops before the first one.** -/
theorem no_half_done_nudge_iff (localeCompare : String → String → Ordering) (originGate : Gate)
    (now : ℤ) (turns : List FanTurn) :
    NoHalfDoneNudge originGate now turns (FanNotificationService.onScoreUpdate localeCompare
        originGate now turns []).published ↔
      StopsBeforeFirstNudge localeCompare originGate now turns := by
  cases failed : firstFailure localeCompare originGate now turns with
  | none =>
      refine iff_of_true (noHalfDoneNudge_of_no_failure failed) ?_
      intro turn impossible
      rw [failed] at impossible
      cases impossible
  | some turn =>
      constructor
      · exact stopsBeforeFirstNudge_of_failure failed
      · intro stops
        exact noHalfDoneNudge_of_only_reads (onlyReads_of_stopsBeforeFirstNudge failed stops)

/-- Gate A is CRITICAL. -/
def criticalGateA : OrderedMap GateId ForecastResult :=
  .ofList [("gate-a", {
    scores := [{
      gateId := "gate-a"
      forecastTime := "1970-01-01T00:00:00.000Z"
      offsetMinutes := 0
      score := 95
      riskLevel := .critical
      lowConfidence := false
      outdated := false }]
    lowConfidence := false })]

/-- Two fans of gate A; the queue rejects the nudge of the second. -/
def rejectedEnqueue : List FanTurn :=
  [⟨⟨"fan-1"⟩, none, criticalGateA, none⟩, ⟨⟨"fan-2"⟩, none, criticalGateA, some .enqueue⟩]

/-- The first nudge is in the queue and is never published. -/
theorem queued_nudge_unpublished :
    ¬ NoHalfDoneNudge demoGateA 0 rejectedEnqueue
      (FanNotificationService.onScoreUpdate compare demoGateA 0 rejectedEnqueue []).published := by
  intro whole
  have failed : firstFailure compare demoGateA 0 rejectedEnqueue =
      some ⟨⟨"fan-2"⟩, none, criticalGateA, some .enqueue⟩ := rfl
  have done : roundsDone compare demoGateA 0 rejectedEnqueue =
      [⟨⟨"fan-1"⟩, none, criticalGateA, none⟩] := rfl
  have due : (FanTurn.nudge? compare demoGateA 0
      ⟨⟨"fan-1"⟩, none, criticalGateA, none⟩).isSome = true := rfl
  obtain ⟨nudge, generated⟩ := Option.isSome_iff_exists.mp due
  have listed : ⟨⟨"fan-1"⟩, none, criticalGateA, none⟩ ∈
      roundsDone compare demoGateA 0 rejectedEnqueue := by
    rw [done]
    exact List.mem_singleton_self _
  have queued := enqueued_of_failure failed listed generated
  exact unpublished_of_failure failed nudge (whole.published nudge queued)

/-! ## The server's task -/

section

variable {deps : PipelineDependencies}

/-- One resumption of a task of the pipeline. -/
theorem doneBy_cons (task : PipelineTask) (p : Process PipelineState DependencyCall)
    (later : List (Process PipelineState DependencyCall)) :
    (Pipeline.server deps).doneBy (Pipeline.callSites deps) (.inl task) (p :: later) =
      if p.rejects (Pipeline.awaitedCall task) then ([], true)
      else
        let own := (Pipeline.awaitedCall task).toList ++
          p.accepted (Pipeline.stretchWrites task p.shared)
        match (Pipeline.resume deps task p.shared).continued with
        | none => (own, true)
        | some next =>
            let rest := (Pipeline.server deps).doneBy (Pipeline.callSites deps) (.inl next) later
            (own ++ rest.1, rest.2) := by
  have continued : ((Pipeline.server deps).resume (.inl task) p.shared).continued =
      (Pipeline.resume deps task p.shared).continued.map Sum.inl := rfl
  rw [doneBy, continued]
  cases (Pipeline.resume deps task p.shared).continued <;> rfl

/-- The calls a task that has ended got done. -/
def EndsWith (deps : PipelineDependencies) (task : PipelineTask)
    (states : List (Process PipelineState DependencyCall)) (calls : List DependencyCall) : Prop :=
  (Pipeline.server deps).doneBy (Pipeline.callSites deps) (.inl task) states = (calls, true)

/-- A task that has ended was resumed; the call it waited for rejected, or it
returned, or it went on and ended later. -/
theorem EndsWith.resumed {task : PipelineTask}
    {states : List (Process PipelineState DependencyCall)} {calls : List DependencyCall}
    (ends : EndsWith deps task states calls) :
    ∃ p later, states = p :: later ∧
      (p.rejects (Pipeline.awaitedCall task) = true ∧ calls = [] ∨
        p.rejects (Pipeline.awaitedCall task) = false ∧
          let own := (Pipeline.awaitedCall task).toList ++
            p.accepted (Pipeline.stretchWrites task p.shared)
          ((Pipeline.resume deps task p.shared).continued = none ∧ calls = own ∨
            ∃ next calls', (Pipeline.resume deps task p.shared).continued = some next ∧
              EndsWith deps next later calls' ∧ calls = own ++ calls')) := by
  unfold EndsWith at ends
  cases states with
  | nil => cases ends
  | cons p later =>
      refine ⟨p, later, rfl, ?_⟩
      rw [doneBy_cons] at ends
      cases rejects : p.rejects (Pipeline.awaitedCall task) with
      | true =>
          rw [rejects, if_pos rfl] at ends
          exact .inl ⟨rfl, (Prod.mk.inj ends).1.symm⟩
      | false =>
          rw [rejects, if_neg Bool.false_ne_true] at ends
          refine .inr ⟨rfl, ?_⟩
          cases continued : (Pipeline.resume deps task p.shared).continued with
          | none =>
              rw [continued] at ends
              exact .inl ⟨rfl, (Prod.mk.inj ends).1.symm⟩
          | some next =>
              rw [continued] at ends
              obtain ⟨own, ended⟩ := Prod.mk.inj ends
              exact .inr ⟨next, _, rfl, Prod.ext rfl ended, own.symm⟩

/-- A task that goes on in every state and writes nothing to the audit. -/
theorem EndsWith.goesOn {task : PipelineTask}
    {states : List (Process PipelineState DependencyCall)} {calls : List DependencyCall}
    (ends : EndsWith deps task states calls) (next : PipelineState → PipelineTask)
    (continues : ∀ s, (Pipeline.resume deps task s).continued = some (next s))
    (silent : ∀ s, Pipeline.stretchWrites task s = []) :
    ∃ p later, states = p :: later ∧
      (p.rejects (Pipeline.awaitedCall task) = true ∧ calls = [] ∨
        ∃ calls', EndsWith deps (next p.shared) later calls' ∧
          calls = (Pipeline.awaitedCall task).toList ++ calls') := by
  obtain ⟨p, later, rfl, rejected | ⟨-, ⟨stopped, -⟩ | ⟨_, calls', same, ends, rfl⟩⟩⟩ :=
    ends.resumed
  · exact ⟨p, later, rfl, .inl rejected⟩
  · rw [continues] at stopped
    cases stopped
  · rw [continues, Option.some_inj] at same
    subst same
    refine ⟨p, later, rfl, .inr ⟨calls', ends, ?_⟩⟩
    rw [silent]
    exact congrArg (· ++ calls') (List.append_nil _)

/-- The audit repository takes the nudges that are published. -/
theorem accepted_nudges {p : Process PipelineState DependencyCall}
    (accepts : ∀ nudge, p.rejecting (.writeNudgeAudit nudge) = false) (nudges : List FanNudge) :
    p.accepted (Pipeline.stretchWrites (.publishingNudges nudges) p.shared) =
      nudges.map .writeNudgeAudit := by
  unfold Process.accepted Pipeline.stretchWrites
  rw [List.filter_eq_self.mpr, List.map_map]
  · rfl
  · intro call listed
    obtain ⟨nudge, -, rfl⟩ := List.mem_map.mp listed
    rw [accepts]
    rfl

/-- The task that sets a cooldown ends there, or enqueues the nudge, or ends there,
or goes on to the next fan. -/
theorem settingCooldown_ends {update : ScoreUpdate} {fan : FanContext} {nudge : FanNudge}
    {rest : List FanContext} {generated : List FanNudge}
    {states : List (Process PipelineState DependencyCall)} {calls : List DependencyCall}
    (ends : EndsWith deps (.settingCooldown update fan nudge rest generated) states calls) :
    calls = [] ∨ calls = [.setLastNudgeAt fan.fanId update.gate.gateId update.now] ∨
      ∃ later calls', (∀ p ∈ later, p ∈ states) ∧
        EndsWith deps (Pipeline.nextFan update rest (generated ++ [nudge])) later calls' ∧
        calls = [.setLastNudgeAt fan.fanId update.gate.gateId update.now, .enqueue nudge] ++
          calls' := by
  obtain ⟨p, later, rfl, ⟨-, rfl⟩ | ⟨calls₁, ends₁, rfl⟩⟩ := ends.goesOn
    (fun _ => .enqueueingNudge update nudge rest generated) (fun _ => rfl) fun _ => rfl
  · exact .inl rfl
  obtain ⟨q, later₁, rfl, ⟨-, rfl⟩ | ⟨calls₂, ends₂, rfl⟩⟩ := ends₁.goesOn
    (fun _ => .nudgeEnqueued update rest (generated ++ [nudge])) (fun _ => rfl) fun _ => rfl
  · exact .inr (.inl rfl)
  obtain ⟨r, later₂, rfl, ⟨impossible, -⟩ | ⟨calls₃, ends₃, rfl⟩⟩ := ends₂.goesOn
    (fun _ => Pipeline.nextFan update rest (generated ++ [nudge])) (fun _ => rfl) fun _ => rfl
  · cases impossible
  · refine .inr (.inr ⟨later₂, calls₂, ?_, ends₃, rfl⟩)
    intro p member
    simp [member]

/-- The task of one fan is a round of the loop. -/
theorem round_of_readingCooldown {update : ScoreUpdate} {fan : FanContext}
    {rest : List FanContext} {generated : List FanNudge}
    {states : List (Process PipelineState DependencyCall)} {calls : List DependencyCall}
    (ends : EndsWith deps (.readingCooldown update fan rest generated) states calls) :
    ∃ turn : FanTurn, turn.fan = fan ∧
      (turn.fails deps.localeCompare update.gate update.now = true ∧
          calls = turn.callsBeforeRejection update.gate update.now ∨
        turn.fails deps.localeCompare update.gate update.now = false ∧
          ∃ later calls', (∀ p ∈ later, p ∈ states) ∧
            EndsWith deps (Pipeline.nextFan update rest (generated ++
              (turn.nudge? deps.localeCompare update.gate update.now).toList)) later calls' ∧
            calls = turn.calls deps.localeCompare update.gate update.now ++ calls') := by
  let answer (s : PipelineState) : Option ℤ :=
    s.redis.getLastNudgeAt fan.fanId update.gate.gateId s.intake.clock
  obtain ⟨p, later, rfl, ⟨-, rfl⟩ | ⟨calls₁, ends₁, rfl⟩⟩ := ends.goesOn
    (fun s => .decidingNudge update fan (answer s) rest generated) (fun _ => rfl) fun _ => rfl
  · exact ⟨⟨fan, none, ∅, some .getLastNudgeAt⟩, rfl, .inl ⟨rfl, rfl⟩⟩
  obtain ⟨q, later₁, rfl, ⟨impossible, -⟩ | ⟨-, decided⟩⟩ := ends₁.resumed
  · cases impossible
  -- the round met the answer of the read and the forecasts of the decision
  let turn (rejects : Option NudgeCall) : FanTurn :=
    ⟨fan, answer p.shared, q.shared.forecasts.forecastsByGate, rejects⟩
  cases generates : (turn none).nudge? deps.localeCompare update.gate update.now with
  | none =>
      have next : (Pipeline.resume deps (.decidingNudge update fan (answer p.shared) rest generated)
          q.shared).continued = some (Pipeline.nextFan update rest generated) := by
        show (Pipeline.decideNudge deps _ _ _ _ _ _).continued = _
        unfold Pipeline.decideNudge
        rw [show generateFanNudge _ _ _ _ _ _ = none from generates]
        rfl
      rw [next] at decided
      obtain ⟨stopped, -⟩ | ⟨_, calls₂, same, ends₂, rfl⟩ := decided
      · cases stopped
      obtain rfl := Option.some.inj same
      refine ⟨turn none, rfl, .inr ⟨rfl, later₁, calls₁, fun p member => ?_, ?_, ?_⟩⟩
      · simp [member]
      · rw [generates, Option.toList_none, List.append_nil]
        exact ends₂
      · unfold FanTurn.calls
        rw [generates]
        rfl
  | some nudge =>
      have next : (Pipeline.resume deps (.decidingNudge update fan (answer p.shared) rest generated)
          q.shared).continued = some (.settingCooldown update fan nudge rest generated) := by
        show (Pipeline.decideNudge deps _ _ _ _ _ _).continued = _
        unfold Pipeline.decideNudge
        rw [show generateFanNudge _ _ _ _ _ _ = some nudge from generates]
        rfl
      rw [next] at decided
      obtain ⟨stopped, -⟩ | ⟨_, calls₂, same, ends₂, rfl⟩ := decided
      · cases stopped
      obtain rfl := Option.some.inj same
      have due : ∀ rejects, ((turn rejects).nudge? deps.localeCompare update.gate
          update.now).isSome = true := by
        intro rejects
        rw [show (turn rejects).nudge? _ _ _ = some nudge from generates]
        rfl
      rcases settingCooldown_ends ends₂ with rfl | rfl | ⟨later₂, calls₃, among, ends₃, rfl⟩
      · exact ⟨turn (some .setLastNudgeAt), rfl, .inl ⟨due _, rfl⟩⟩
      · exact ⟨turn (some .enqueue), rfl, .inl ⟨due _, rfl⟩⟩
      · refine ⟨turn none, rfl, .inr ⟨rfl, later₂, calls₃, fun p member => ?_, ?_, ?_⟩⟩
        · simp [among p member]
        · rw [generates]
          exact ends₃
        · unfold FanTurn.calls
          rw [generates]
          rfl

/-- **The server's task is a batch.** Whatever happens between its steps, what the
task of `onScoreUpdate` gets done is a batch over its fans, as long as the audit
repository takes what is published. -/
theorem batch_of_nextFan {update : ScoreUpdate} {fans : List FanContext}
    {generated : List FanNudge} {states : List (Process PipelineState DependencyCall)}
    {calls : List DependencyCall}
    (audited : ∀ p ∈ states, ∀ nudge, p.rejecting (.writeNudgeAudit nudge) = false)
    (ends : EndsWith deps (Pipeline.nextFan update fans generated) states calls) :
    ∃ turns : List FanTurn, turns.map (·.fan) = fans ∧
      calls = (FanNotificationService.onScoreUpdate deps.localeCompare update.gate update.now turns
        generated).published := by
  induction fans generalizing generated states calls with
  | nil =>
      refine ⟨[], rfl, ?_⟩
      obtain ⟨p, later, rfl, ⟨impossible, -⟩ | ⟨-, ⟨-, rfl⟩ | ⟨next, _, impossible, -⟩⟩⟩ :=
        ends.resumed
      · cases impossible
      · exact accepted_nudges (audited p List.mem_cons_self) generated
      · cases impossible
  | cons fan rest ih =>
      obtain ⟨turn, rfl, ⟨fails, rfl⟩ | ⟨succeeds, later, calls', among, ends', rfl⟩⟩ :=
        round_of_readingCooldown ends
      · -- the fans after a rejection are never reached
        refine ⟨turn :: rest.map fun fan => ⟨fan, none, ∅, none⟩, ?_, ?_⟩
        · simp [Function.comp_def]
        · rw [onScoreUpdate_cons_of_fails fails]
          exact (List.append_nil _).symm
      · obtain ⟨turns, same, rfl⟩ := ih (fun p member => audited p (among p member)) ends'
        refine ⟨turn :: turns, by rw [List.map_cons, same], ?_⟩
        rw [onScoreUpdate_cons succeeds]
        exact (List.append_assoc _ _ _).symm

end

end Stadium
