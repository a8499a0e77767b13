import Stadium.Pipeline.ActiveActions
import Stadium.Pipeline.Suppression
import Stadium.ShuttleRedirectionAdvisor.Decisions

/-!
# The trail of a decision

A generated action or recommendation is copied: into the store the operators
decide on, into the audit log, and, for actions, into the second store that
the dashboard reads. The copies are made when it is generated and at no other
time. Executing an action, accepting or rejecting a recommendation changes the
first copy only, so neither the audit nor the dashboard ever shows a decision
(`decisions_on_record_iff`, `execution_not_shown`).
-/

namespace Stadium

open Interleaving TaskSystem

/-- A decision whose call has returned a record. -/
inductive ReturnedDecision where
  | executed (action : RecommendedAction)
  | decided (decision : RedirectionDecision) (recommendation : ShuttleRedirectionRecommendation)

namespace RedirectionDecision

/-- The time of the decision on a recommendation. -/
def decidedAt (decision : RedirectionDecision) (r : ShuttleRedirectionRecommendation) :
    Option String :=
  match decision with
  | .accept => r.acceptedAt
  | .reject => r.rejectedAt

/-- Who took the decision on a recommendation. -/
def decidedBy (decision : RedirectionDecision) (r : ShuttleRedirectionRecommendation) :
    Option String :=
  match decision with
  | .accept => r.acceptedByDispatcherId
  | .reject => r.rejectedByDispatcherId

/-- Nobody has decided on an undecided recommendation. -/
theorem decidedAt_of_undecided (decision : RedirectionDecision)
    {r : ShuttleRedirectionRecommendation} (undecided : r.Undecided) :
    decision.decidedAt r = none := by
  cases decision with
  | accept => exact undecided.notAccepted.1
  | reject => exact undecided.notRejected.1

end RedirectionDecision

/-- The time the returned record carries. -/
def ReturnedDecision.decidedAt : ReturnedDecision → Option String
  | .executed action => action.executedAt
  | .decided decision r => decision.decidedAt r

/-- The audit holds a record of the same id that carries the decision's time
and somebody who took it. -/
def AuditState.Holds (s : AuditState) : ReturnedDecision → Prop
  | .executed action =>
      ∃ record ∈ s.actions.values, record.actionId = action.actionId ∧
        record.executedAt = action.executedAt ∧
          record.executedByUserId.any (· ≠ "") = true
  | .decided decision r =>
      ∃ record ∈ s.shuttleRecommendations, record.recommendationId = r.recommendationId ∧
        decision.decidedAt record = decision.decidedAt r ∧
          (decision.decidedBy record).any (· ≠ "") = true

instance (s : AuditState) : ∀ decision, Decidable (s.Holds decision)
  | .executed _ => inferInstanceAs (Decidable (∃ _ ∈ (_ : List _), _))
  | .decided _ _ => inferInstanceAs (Decidable (∃ _ ∈ (_ : List _), _))

/-- `activeActions` of a gate in `getSnapshot`. -/
def ActionState.snapshotActions (s : ActionState) (gateId : GateId) : List RecommendedAction :=
  (s.activeActionsSource.get? gateId).getD []

/-- While an executed action is in the active list of its gate, the dashboard
lists it with its execution. -/
def ActionState.OnDashboard (s : ActionState) : ReturnedDecision → Prop
  | .executed action =>
      (∃ active ∈ s.getActiveActions action.gateId, active.actionId = action.actionId) →
        ∃ shown ∈ s.snapshotActions action.gateId,
          shown.actionId = action.actionId ∧ shown.Shows action
  | .decided .. => True

instance (s : ActionState) : ∀ decision, Decidable (s.OnDashboard decision)
  | .executed _ => inferInstanceAs (Decidable ((∃ _ ∈ (_ : List _), _) → ∃ _ ∈ (_ : List _), _))
  | .decided _ _ => isTrue trivial

/-- Every returned decision is in the audit and on the dashboard. -/
def DecisionsOnRecord (s : PipelineState) (returned : List ReturnedDecision) : Prop :=
  ∀ decision ∈ returned, s.audit.Holds decision ∧ s.actions.OnDashboard decision

instance (s : PipelineState) (returned : List ReturnedDecision) :
    Decidable (DecisionsOnRecord s returned) :=
  inferInstanceAs (Decidable (∀ _ ∈ returned, _ ∧ _))

namespace PipelineTask

/-- What is generated carries no decision, and what an `executeAction` call is
about to store or to return carries its time. -/
def TimesItsDecision : PipelineTask → Prop
  | .storingActions _ actions => ∀ action ∈ actions, action.executedAt = none
  | .publishingActions _ actions => ∀ action ∈ actions, action.executedAt = none
  | .storingRedirection _ redirection rest => ∀ r ∈ redirection :: rest, r.Undecided
  | .publishingRedirection _ redirection rest => ∀ r ∈ redirection :: rest, r.Undecided
  | .writingActions _ _ _ updated => updated.executedAt.isSome = true
  | .returningAction updated => updated.executedAt.isSome = true
  | _ => True

/-- The stretches that copy what was generated. -/
def copies : PipelineTask → Bool
  | .publishingActions .. | .publishingRedirection .. => true
  | _ => false

end PipelineTask

/-- What a call is about to store or to return carries the time of its
decision. -/
def DecisionTask.TimesItsDecision : DecisionTask → Prop
  | .storing decision updated => (decision.decidedAt updated).isSome = true
  | .recordingRejection updated => updated.rejectedAt.isSome = true
  | .returning decision updated => (decision.decidedAt updated).isSome = true
  | _ => True

namespace Pipeline

variable (deps : PipelineDependencies)

/-- Notes the decisions whose calls return a record. -/
def returnedDecisions : Observer PipelineState (PipelineTask ⊕ DecisionTask)
    (PipelineStimulus ⊕ DecisionStimulus) ReturnedDecision where
  onStimulus _ _ := []
  onResume
    | .inl (.returningAction updated), _ => [.executed updated]
    | .inr (.returning decision updated), _ => [.decided decision updated]
    | _, _ => []

/-- The decisions returned along a schedule. -/
def returnedAlong (startedAt : ℤ) (schedule : DecisionSchedule) : List ReturnedDecision :=
  (withDecisions deps).trace returnedDecisions ⟨.wired startedAt, []⟩ schedule

/-- A generated recommendation is undecided. -/
theorem undecided_of_generated {localeCompare : String → String → Ordering} {originGate : Gate}
    {forecastsByGate : OrderedMap GateId ForecastResult} {assignedRoutes : List ShuttleRoute}
    {recentRejections : List RejectionRecord} {now : ℤ}
    {recommendation : ShuttleRedirectionRecommendation}
    (generated : recommendation ∈ generateRedirections localeCompare originGate forecastsByGate
      assignedRoutes recentRejections now) : recommendation.Undecided := by
  obtain ⟨-, route, -, -, alternativeGateId, -, -, -, rfl⟩ := mem_generateRedirections.mp generated
  exact ⟨rfl, ⟨rfl, rfl⟩, rfl, rfl⟩

theorem timesItsDecision_nextFan (update : ScoreUpdate) (fans : List FanContext)
    (generated : List FanNudge) : (nextFan update fans generated).TimesItsDecision := by
  rcases nextFan_cases update fans generated with done | ⟨fan, rest, more⟩
  · rw [done]
    trivial
  · rw [more]
    trivial

theorem timesItsDecision_resume {task : PipelineTask} (timed : task.TimesItsDecision)
    (s : PipelineState) :
    ∀ next ∈ (resume deps task s).continued.toList ++ (resume deps task s).started,
      next.TimesItsDecision := by
  intro next member
  have redirections (update : ScoreUpdate) (list : List ShuttleRedirectionRecommendation)
      (undecided : ∀ r ∈ list, r.Undecided) :
      (nextRedirection s update list).TimesItsDecision := by
    cases list with
    | nil => exact timesItsDecision_nextFan update _ []
    | cons redirection rest => exact undecided
  cases task with
  | recommending update window =>
      rw [List.mem_singleton.mp member]
      exact fun action generated => (mem_generateRecommendations generated).2
  | storingActions update actions =>
      rw [List.mem_singleton.mp member]
      exact timed
  | advising update =>
      rw [List.mem_singleton.mp member]
      exact redirections update _ fun r generated => undecided_of_generated generated
  | storingRedirection update redirection rest =>
      rw [List.mem_singleton.mp member]
      exact timed
  | publishingRedirection update redirection rest =>
      rw [List.mem_singleton.mp member]
      have later : (nextRedirection s update rest).TimesItsDecision :=
        redirections update rest fun r among => timed r (List.mem_cons_of_mem redirection among)
      cases rest with
      | nil => exact later
      | cons first more => exact later
  | locatingAction gateId actionId userId now actions =>
      rw [show resume deps (.locatingAction gateId actionId userId now actions) s =
        locateAction gateId actionId userId now actions s from rfl] at member
      unfold locateAction at member
      split at member
      · exact absurd member List.not_mem_nil
      · rw [List.mem_singleton.mp member]
        rfl
  | writingActions gateId actions index updated =>
      rw [List.mem_singleton.mp member]
      exact timed
  | _ =>
      have follows := resume_follows deps _ s next member
      cases follows <;> trivial

/-- A stretch that copies nothing leaves the copies alone. -/
theorem resume_copies_other {task : PipelineTask} (other : task.copies = false)
    (s : PipelineState) :
    (resume deps task s).shared.audit.actions = s.audit.actions ∧
      (resume deps task s).shared.audit.shuttleRecommendations = s.audit.shuttleRecommendations ∧
      (resume deps task s).shared.actions.activeActionsSource = s.actions.activeActionsSource := by
  cases task with
  | computing gate window =>
      rw [resume_computing]
      exact ⟨rfl, rfl, rfl⟩
  | publishingForecast computation =>
      simp [resume, publishForecast, onCongestionScore]
  | decidingNudge update fan lastNudgeAt rest generated => simp [resume]
  | locatingAction gateId actionId userId now actions => simp [resume]
  | publishingActions => cases other
  | publishingRedirection => cases other
  | _ => exact ⟨rfl, rfl, rfl⟩

theorem stimulate_copies (stimulus : PipelineStimulus) (s : PipelineState) :
    (stimulate deps stimulus s).1.audit.actions = s.audit.actions ∧
      (stimulate deps stimulus s).1.audit.shuttleRecommendations =
        s.audit.shuttleRecommendations ∧
      (stimulate deps stimulus s).1.actions = s.actions ∧
      ∀ task ∈ (stimulate deps stimulus s).2, task.TimesItsDecision := by
  refine ⟨?_, ?_, ?_, ?_⟩
  · cases stimulus <;> simp [stimulate, onCongestionScore]
  · cases stimulus <;> simp [stimulate, onCongestionScore]
  · cases stimulus <;> simp [stimulate, onCongestionScore]
  · intro task member
    cases stimulate_starts deps stimulus s task member <;> trivial

/-! ## No copy shows a decision -/

/-- The copies carry no decision, and whatever a call has returned does. -/
structure TrailInv (s : PipelineState) (handlers : List PipelineTask)
    (decisions : List DecisionTask) (returned : List ReturnedDecision) : Prop where
  audited : ∀ actionId action, s.audit.actions.get? actionId = some action →
    action.executedAt = none
  recommended : ∀ r ∈ s.audit.shuttleRecommendations, r.Undecided
  shown : ∀ gateId, ∀ action ∈ s.actions.snapshotActions gateId, action.executedAt = none
  handlers : ∀ task ∈ handlers, task.TimesItsDecision
  decisions : ∀ task ∈ decisions, task.TimesItsDecision
  returned : ∀ decision ∈ returned, decision.decidedAt.isSome = true

namespace TrailInv

variable {s : PipelineState} {handlers : List PipelineTask} {decisions : List DecisionTask}
  {returned : List ReturnedDecision}

theorem wired (startedAt : ℤ) : TrailInv (.wired startedAt) [] [] [] where
  audited := by simp [PipelineState.wired]
  recommended := by simp [PipelineState.wired]
  shown := by simp [PipelineState.wired, ActionState.snapshotActions]
  handlers := by simp
  decisions := by simp
  returned := by simp

/-- A step that leaves the copies alone. -/
theorem congr (inv : TrailInv s handlers decisions returned) {t : PipelineState}
    {handlers' : List PipelineTask} {decisions' : List DecisionTask}
    {notes : List ReturnedDecision}
    (copies : t.audit.actions = s.audit.actions ∧
      t.audit.shuttleRecommendations = s.audit.shuttleRecommendations ∧
      t.actions.activeActionsSource = s.actions.activeActionsSource)
    (timed : ∀ task ∈ handlers', task.TimesItsDecision)
    (timed' : ∀ task ∈ decisions', task.TimesItsDecision)
    (noted : ∀ decision ∈ notes, decision.decidedAt.isSome = true) :
    TrailInv t handlers' decisions' (returned ++ notes) where
  audited := by rw [copies.1]; exact inv.audited
  recommended := by rw [copies.2.1]; exact inv.recommended
  shown := by
    unfold ActionState.snapshotActions
    rw [copies.2.2]
    exact inv.shown
  handlers := timed
  decisions := timed'
  returned := by
    intro decision member
    rcases List.mem_append.mp member with earlier | now
    · exact inv.returned decision earlier
    · exact noted decision now

/-- A list of actions without executions goes to the dashboard and into the
audit. -/
theorem publishActions (inv : TrailInv s handlers decisions returned) (gateId : GateId)
    {actions : List RecommendedAction} (fresh : ∀ action ∈ actions, action.executedAt = none) :
    TrailInv
      { s with
        actions := { s.actions with
          activeActionsSource := s.actions.activeActionsSource.set gateId actions }
        audit := { s.audit with
          actions := actions.foldl (fun log action => log.set action.actionId action)
            s.audit.actions } } handlers decisions returned where
  audited := by
    intro actionId action found
    rw [OrderedMap.get?_foldl_set RecommendedAction.actionId, Option.or_eq_some_iff] at found
    rcases found with last | ⟨-, before⟩
    · exact fresh action (List.mem_filter.mp (List.mem_of_getLast? last)).1
    · exact inv.audited actionId action before
  recommended := inv.recommended
  shown := by
    intro other action listed
    unfold ActionState.snapshotActions at listed
    rw [OrderedMap.get?_set] at listed
    split at listed
    · exact fresh action listed
    · exact inv.shown other action listed
  handlers := inv.handlers
  decisions := inv.decisions
  returned := inv.returned

/-- An undecided recommendation goes into the audit. -/
theorem publishRedirection (inv : TrailInv s handlers decisions returned)
    {redirection : ShuttleRedirectionRecommendation} (undecided : redirection.Undecided) :
    TrailInv
      { s with
        audit := { s.audit with
          shuttleRecommendations := s.audit.shuttleRecommendations ++ [redirection] } }
      handlers decisions returned where
  audited := inv.audited
  recommended := by
    intro r member
    rcases List.mem_append.mp member with earlier | now
    · exact inv.recommended r earlier
    · rw [List.mem_singleton.mp now]
      exact undecided
  shown := inv.shown
  handlers := inv.handlers
  decisions := inv.decisions
  returned := inv.returned

/-- A step of the pipeline. -/
theorem pipeline {before after : List PipelineTask} {task : PipelineTask}
    (inv : TrailInv s (before ++ task :: after) decisions returned) :
    TrailInv (resume deps task s).shared (resumed (system deps) before task after s) decisions
      (returned ++ returnedDecisions.onResume (.inl task) s) := by
  have own := inv.handlers task (by simp)
  have timed : ∀ next ∈ resumed (system deps) before task after s, next.TimesItsDecision :=
    forall_mem_resumed inv.handlers fun own => timesItsDecision_resume deps own s
  have unchanged := inv.congr ⟨rfl, rfl, rfl⟩ timed inv.decisions
    (List.forall_mem_nil fun decision : ReturnedDecision => decision.decidedAt.isSome = true)
  cases task with
  | publishingActions update actions =>
      exact unchanged.publishActions update.gate.gateId own
  | publishingRedirection update redirection rest =>
      exact unchanged.publishRedirection (own redirection List.mem_cons_self)
  | returningAction updated =>
      refine inv.congr (resume_copies_other deps rfl s) timed inv.decisions ?_
      intro decision noted
      rw [List.mem_singleton.mp noted]
      exact own
  | _ => exact inv.congr (resume_copies_other deps rfl s) timed inv.decisions (by
      simp [returnedDecisions])

/-- A step of a dispatcher's call. -/
theorem decide {before after : List DecisionTask} {task : DecisionTask}
    (inv : TrailInv s handlers (before ++ task :: after) returned) :
    TrailInv (ShuttleRedirectionApi.resume task s).shared handlers
      (resumed ShuttleRedirectionApi.system before task after s)
      (returned ++ returnedDecisions.onResume (.inr task) s) := by
  have own := inv.decisions task (by simp)
  have copies : (ShuttleRedirectionApi.resume task s).shared.audit = s.audit ∧
      (ShuttleRedirectionApi.resume task s).shared.actions = s.actions := by
    cases task with
    | finding decision routeId recommendationId dispatcherId now =>
        simp only [ShuttleRedirectionApi.resume]
        split <;> exact ⟨rfl, rfl⟩
    | storing decision updated => cases decision <;> exact ⟨rfl, rfl⟩
    | returning decision updated => cases decision <;> exact ⟨rfl, rfl⟩
    | _ => exact ⟨rfl, rfl⟩
  have next : ∀ next ∈ (ShuttleRedirectionApi.resume task s).continued.toList ++
      (ShuttleRedirectionApi.resume task s).started, next.TimesItsDecision := by
    intro next member
    cases task with
    | finding decision routeId recommendationId dispatcherId now =>
        simp only [ShuttleRedirectionApi.resume] at member
        split at member
        · exact absurd member List.not_mem_nil
        · rw [List.mem_singleton.mp member]
          trivial
    | found decision recommendation dispatcherId now =>
        rw [List.mem_singleton.mp member]
        cases decision <;> rfl
    | storing decision updated =>
        cases decision with
        | accept =>
            rw [List.mem_singleton.mp member]
            exact own
        | reject =>
            rw [List.mem_singleton.mp member]
            exact own
    | recordingRejection updated =>
        rw [List.mem_singleton.mp member]
        exact own
    | returning decision updated =>
        cases decision <;> exact absurd member List.not_mem_nil
  refine inv.congr ⟨?_, ?_, ?_⟩ inv.handlers ?_ ?_
  · rw [copies.1]
  · rw [copies.1]
  · rw [copies.2]
  · exact forall_mem_resumed inv.decisions fun _ => next
  · intro decision noted
    cases task with
    | returning _ updated =>
        rw [List.mem_singleton.mp noted]
        exact own
    | _ => exact absurd noted List.not_mem_nil

end TrailInv

theorem trailInv_after (startedAt : ℤ) (schedule : DecisionSchedule) :
    TrailInv (afterDecisions deps startedAt schedule).shared
      (lefts (afterDecisions deps startedAt schedule).suspended)
      (rights (afterDecisions deps startedAt schedule).suspended)
      ([] ++ returnedAlong deps startedAt schedule) := by
  refine sum_invariant _ _ returnedDecisions ?_ ?_ ?_ ?_ (TrailInv.wired startedAt)
    ((withDecisions deps).guarded_trivial _ schedule)
  · intro s tasks returned stimulus inv _
    obtain ⟨actions, recommendations, source, started⟩ := stimulate_copies deps stimulus s
    refine inv.congr ⟨actions, recommendations, congrArg _ source⟩ ?_ inv.decisions
      (by simp [returnedDecisions])
    intro task member
    rcases List.mem_append.mp member with old | new
    · exact inv.handlers task old
    · exact started task new
  · intro s tasks returned stimulus inv _
    cases stimulus with
    | advance ms =>
        refine inv.congr ⟨rfl, rfl, rfl⟩ inv.handlers ?_ (by simp [returnedDecisions])
        simpa [ShuttleRedirectionApi.system, ShuttleRedirectionApi.stimulate] using inv.decisions
    | decide decision routeId recommendationId dispatcherId =>
        refine inv.congr ⟨rfl, rfl, rfl⟩ inv.handlers ?_ (by simp [returnedDecisions])
        intro task member
        rcases List.mem_append.mp member with old | new
        · exact inv.decisions task old
        · rw [List.mem_singleton.mp new]
          trivial
  · intro s before task after returned inv _
    exact inv.pipeline deps
  · intro s before task after returned inv _
    exact inv.decide

/-- No returned decision is in the audit. -/
theorem decision_not_audited (startedAt : ℤ) (schedule : DecisionSchedule)
    {decision : ReturnedDecision} (returned : decision ∈ returnedAlong deps startedAt schedule) :
    ¬ (afterDecisions deps startedAt schedule).shared.audit.Holds decision := by
  have inv := trailInv_after deps startedAt schedule
  have timed := inv.returned decision (by simpa using returned)
  intro held
  cases decision with
  | executed action =>
      obtain ⟨record, listed, -, same, -⟩ := held
      obtain ⟨⟨actionId, value⟩, entry, rfl⟩ := List.mem_map.mp listed
      have unexecuted := inv.audited actionId value (OrderedMap.mem_entries.mp entry)
      simp only [ReturnedDecision.decidedAt] at timed
      rw [← same, unexecuted] at timed
      cases timed
  | decided decision r =>
      obtain ⟨record, listed, -, same, -⟩ := held
      have undecided := decision.decidedAt_of_undecided (inv.recommended record listed)
      simp only [ReturnedDecision.decidedAt] at timed
      rw [← same, undecided] at timed
      cases timed

/-- The dashboard shows no returned execution at any gate. -/
theorem execution_not_shown (startedAt : ℤ) (schedule : DecisionSchedule)
    {action : RecommendedAction}
    (returned : ReturnedDecision.executed action ∈ returnedAlong deps startedAt schedule)
    (gateId : GateId) :
    ∀ shown ∈ (afterDecisions deps startedAt schedule).shared.actions.snapshotActions gateId,
      ¬ shown.Shows action := by
  have inv := trailInv_after deps startedAt schedule
  have timed := inv.returned (.executed action) (by simpa using returned)
  rintro shown listed ⟨same, -⟩
  simp only [ReturnedDecision.decidedAt] at timed
  rw [← same, inv.shown gateId shown listed] at timed
  cases timed

/-- **Decisions leave no trail.** After any schedule of the pipeline and of the
operators' calls, the returned decisions are all on record exactly if none has
been returned yet. -/
theorem decisions_on_record_iff (startedAt : ℤ) (schedule : DecisionSchedule) :
    DecisionsOnRecord (afterDecisions deps startedAt schedule).shared
        (returnedAlong deps startedAt schedule) ↔
      returnedAlong deps startedAt schedule = [] := by
  constructor
  · intro onRecord
    rw [List.eq_nil_iff_forall_not_mem]
    intro decision returned
    exact decision_not_audited deps startedAt schedule returned (onRecord decision returned).1
  · intro none decision returned
    rw [none] at returned
    exact absurd returned List.not_mem_nil

/-- A gate manager executes the first action for the crowded gate A, and a
dispatcher accepts its redirection. -/
def decidedCrowd : DecisionSchedule :=
  redirectedCrowd.map (Choice.map .inl) ++
    ([.stimulus (.inl (.executeAction "gate-a" "gate-a-1970-01-01T00:00:00.000Z-OPEN_GATE_LANE"
      "dana"))] : DecisionSchedule) ++ List.replicate 4 (Choice.resume 0) ++
    ([.stimulus (.inr (.decide .accept "route-1" "route-1-gate-a-1970-01-01T00:00:00.000Z"
      "anna"))] : DecisionSchedule) ++ List.replicate 4 (Choice.resume 0)

/-- Both calls have returned; the audit holds neither decision, and the
dashboard does not show the execution although the action is active. -/
theorem decisions_left_no_trail :
    (returnedAlong demoDependencies 0 decidedCrowd).length = 2 ∧
      (∀ decision ∈ returnedAlong demoDependencies 0 decidedCrowd,
        ¬ (afterDecisions demoDependencies 0 decidedCrowd).shared.audit.Holds decision) ∧
      ∃ decision ∈ returnedAlong demoDependencies 0 decidedCrowd,
        ¬ (afterDecisions demoDependencies 0 decidedCrowd).shared.actions.OnDashboard decision := by
  decide +kernel

end Pipeline

end Stadium
