import Stadium.Lib.Parts
import Stadium.Pipeline.DashboardStream
import Stadium.Pipeline.Flow
import Stadium.Pipeline.ScoreAudit
import Stadium.RecommendationEngine.ActionIds
import Stadium.ShuttleRedirectionAdvisor.Api
import Stadium.ShuttleRedirectionAdvisor.Decisions

/-!
# What stays on record

The audited scores, the audited actions up to a later one of the same gate, type and
time, the audited redirections and the ids in the redirection store only become more,
whatever the process does next (`RecordsLast`). An action may be overwritten only by one
of the same id, and ids tell gate, type and time apart as long as the audit holds nothing
but generated actions under their own ids (`AuditState.ActionsOwn`). The subscriber of a
score audits what it has for the dashboards before it comes to broadcast it
(`PipelineTask.OnRecord`).
-/

namespace Stadium

open Interleaving TaskSystem

/-- The score of the point is audited. -/
def AuditState.HasScore (s : AuditState) (point : CongestionScorePoint) : Prop :=
  ∃ record ∈ s.scores, record.gateId = point.gateId ∧ record.timestamp = point.forecastTime ∧
    record.score = point.score ∧ record.riskLevel = point.riskLevel

/-- An action of the same gate, type and time is audited under the action's id. -/
def AuditState.HasAction (s : AuditState) (action : RecommendedAction) : Prop :=
  ∃ record, s.actions.get? action.actionId = some record ∧ record.subject = action.subject

/-- Every audited action is under its own id. -/
def AuditState.ActionsOwn (s : AuditState) : Prop :=
  ∀ actionId record, s.actions.get? actionId = some record →
    record.actionId = actionId ∧ record.OwnId

/-- The store has the recommendation, decided or not. -/
def RedirectionState.Lists (s : RedirectionState)
    (recommendation : ShuttleRedirectionRecommendation) : Prop :=
  recommendation.recommendationId ∈
    (s.getActiveRecommendations recommendation.routeId).map (·.recommendationId)

/-- Nothing is taken off the record. -/
structure RecordsLast (s t : PipelineState) : Prop where
  scores : ∀ record ∈ s.audit.scores, record ∈ t.audit.scores
  actions : ∀ action, s.audit.HasAction action → t.audit.HasAction action
  redirections : ∀ redirection ∈ s.audit.shuttleRecommendations,
    redirection ∈ t.audit.shuttleRecommendations
  lists : ∀ redirection, s.redirections.Lists redirection → t.redirections.Lists redirection

namespace RecordsLast

variable {s t u : PipelineState}

theorem refl (s : PipelineState) : RecordsLast s s :=
  ⟨fun _ => id, fun _ => id, fun _ => id, fun _ => id⟩

theorem trans (first : RecordsLast s t) (second : RecordsLast t u) : RecordsLast s u where
  scores record listed := second.scores record (first.scores record listed)
  actions action has := second.actions action (first.actions action has)
  redirections r listed := second.redirections r (first.redirections r listed)
  lists r listed := second.lists r (first.lists r listed)

/-- Where the records are left alone. -/
theorem of_records (scores : t.audit.scores = s.audit.scores)
    (actions : t.audit.actions = s.audit.actions)
    (audited : t.audit.shuttleRecommendations = s.audit.shuttleRecommendations)
    (redirections : t.redirections = s.redirections) : RecordsLast s t where
  scores record listed := by rwa [scores]
  actions action has := by
    unfold AuditState.HasAction at has ⊢
    rwa [actions]
  redirections r listed := by rwa [audited]
  lists r listed := by rwa [redirections]

/-- Where the audit and the redirection store are left alone. -/
theorem of_eq (audit : t.audit = s.audit) (redirections : t.redirections = s.redirections) :
    RecordsLast s t := by
  refine of_records ?_ ?_ ?_ redirections
  all_goals rw [audit]

theorem hasScore (last : RecordsLast s t) {point : CongestionScorePoint}
    (audited : s.audit.HasScore point) : t.audit.HasScore point := by
  obtain ⟨record, listed, same⟩ := audited
  exact ⟨record, last.scores record listed, same⟩

end RecordsLast

/-- An update takes no id out of the store, and its own is in it. -/
theorem RedirectionState.lists_update (s : RedirectionState)
    (updated : ShuttleRedirectionRecommendation) :
    (s.updateRecommendation updated).Lists updated ∧
      ∀ r, s.Lists r → (s.updateRecommendation updated).Lists r := by
  unfold Lists
  constructor
  · rw [getActiveRecommendations_update, if_pos rfl, updateRecommendation_ids]
    split
    · next listed => exact listed
    · exact List.mem_append_right _ List.mem_cons_self
  · intro r listed
    rw [getActiveRecommendations_update]
    split
    · next same =>
        rw [updateRecommendation_ids]
        split
        · exact same ▸ listed
        · exact List.mem_append_left _ (same ▸ listed)
    · exact listed

/-- What a task is going to broadcast and does not carry as a variable. -/
def PipelineTask.OnRecord (s : PipelineState) : PipelineTask → Prop
  | .raisingAlert update => update.result.Dated ∧
      ∀ point, update.result.scores.head? = some point → s.audit.HasScore point
  | .recommending update _ => update.result.Dated
  | .storingActions update actions | .publishingActions update actions =>
      ∀ action ∈ actions, action.gateId = update.gate.gateId ∧ action.OwnId
  | .publishingRedirection _ redirection _ => s.redirections.Lists redirection
  | _ => True

theorem PipelineTask.OnRecord.mono {s t : PipelineState} {task : PipelineTask}
    (last : RecordsLast s t) (fine : task.OnRecord s) : task.OnRecord t := by
  cases task with
  | raisingAlert update =>
      exact ⟨fine.1, fun point current => last.hasScore (fine.2 point current)⟩
  | recommending update window => exact fine
  | storingActions update actions => exact fine
  | publishingActions update actions => exact fine
  | publishingRedirection update redirection rest => exact last.lists redirection fine
  | _ => trivial

/-- Writing a list of actions under their own ids: each is on record then, and so is
what was, each id with its gate, type and time. -/
theorem AuditState.ActionsOwn.write {s : AuditState} (own : s.ActionsOwn)
    {actions : List RecommendedAction} (fine : ∀ action ∈ actions, action.OwnId) :
    let t := { s with
      actions := actions.foldl (fun log (action : RecommendedAction) =>
        log.set action.actionId action) s.actions }
    t.ActionsOwn ∧ (∀ action ∈ actions, t.HasAction action) ∧
      ∀ action, s.HasAction action → t.HasAction action := by
  refine ⟨fun actionId record held => ?_, fun action listed => ?_, fun action has => ?_⟩
  · rcases OrderedMap.get?_foldl_set_cases RecommendedAction.actionId actions s.actions actionId
      with ⟨newest, listed, named, now⟩ | ⟨-, kept⟩
    · obtain rfl := Option.some.inj (now.symm.trans held)
      exact ⟨named, fine newest listed⟩
    · exact own actionId record (kept.symm.trans held)
  · rcases OrderedMap.get?_foldl_set_cases RecommendedAction.actionId actions s.actions
      action.actionId with ⟨newest, listed', named, now⟩ | ⟨absent, -⟩
    · exact ⟨newest, now, (fine newest listed').inj (fine action listed) named⟩
    · exact absurd (List.mem_map_of_mem listed) absent
  · obtain ⟨record, held, same⟩ := has
    obtain ⟨named, named'⟩ := own action.actionId record held
    rcases OrderedMap.get?_foldl_set_cases RecommendedAction.actionId actions s.actions
      action.actionId with ⟨newest, listed, newName, now⟩ | ⟨-, kept⟩
    · have alike := (fine newest listed).inj named' (newName.trans named.symm)
      exact ⟨newest, now, alike.trans same⟩
    · exact ⟨record, kept.trans held, same⟩

namespace Pipeline

variable (deps : PipelineDependencies)

theorem recordsLast_stimulate {stimulus : PipelineStimulus} (own : stimulus.Own)
    (s : PipelineState) : RecordsLast s (stimulate deps stimulus s).1 := by
  have event : ∀ event, RecordsLast s (onSignalEvent deps s event).1 := by
    intro event
    rw [onSignalEvent_shared]
    exact .of_records rfl rfl rfl rfl
  cases stimulus with
  | congestionScore message => exact absurd own id
  | handleSignal signal => exact event _
  | signalEvent delivered => exact event delivered
  | tick gateId =>
      have same : (stimulate deps (.tick gateId) s).1 = s := onTick_shared deps s gateId
      exact same.symm ▸ .refl s
  | _ => exact .of_eq rfl rfl

theorem recordsLast_publish {computation : Computation}
    (genuine : PipelineTask.CarriesOwnResult (.publishingForecast computation))
    (s : PipelineState) :
    RecordsLast s (resume deps (.publishingForecast computation) s).shared where
  scores record listed := by
    rw [resume_scores_publishing deps genuine s]
    exact List.mem_append_left _ listed
  actions action has := by
    have same : (resume deps (.publishingForecast computation) s).shared.audit.actions =
        s.audit.actions := auditScore_actions _ _ _
    unfold AuditState.HasAction at has ⊢
    rwa [same]
  redirections r listed := by
    have same : (resume deps (.publishingForecast computation)
        s).shared.audit.shuttleRecommendations = s.audit.shuttleRecommendations :=
      auditScore_shuttleRecommendations _ _ _
    rwa [same]
  lists _ := id

theorem recordsLast_resume {task : PipelineTask} {s : PipelineState}
    (own : s.audit.ActionsOwn) (genuine : task.CarriesOwnResult) (fine : task.OnRecord s) :
    RecordsLast s (resume deps task s).shared := by
  cases task with
  | computing gate window =>
      rw [resume_computing]
      exact .of_eq rfl rfl
  | publishingForecast computation => exact recordsLast_publish deps genuine s
  | publishingActions update actions =>
      -- an action audited before may be overwritten, but by one of its gate, type and time
      have written := own.write fun action listed => (fine action listed).2
      exact ⟨fun _ => id, written.2.2, fun _ => id, fun _ => id⟩
  | storingRedirection update redirection rest =>
      exact ⟨fun _ => id, fun _ => id, fun _ => id,
        (s.redirections.lists_update redirection).2⟩
  | publishingRedirection update redirection rest =>
      exact ⟨fun _ => id, fun _ => id, fun _ listed => List.mem_append_left _ listed, fun _ => id⟩
  | publishingNudges nudges => exact .of_records rfl rfl rfl rfl
  | decidingNudge update fan lastNudgeAt rest generated =>
      have same : (resume deps (.decidingNudge update fan lastNudgeAt rest generated) s).shared =
        s := decideNudge_shared deps update fan lastNudgeAt rest generated s
      exact same.symm ▸ .refl s
  | locatingAction gateId actionId userId now actions =>
      have same : (resume deps (.locatingAction gateId actionId userId now actions) s).shared =
        s := locateAction_shared gateId actionId userId now actions s
      exact same.symm ▸ .refl s
  | _ => exact .of_eq rfl rfl

theorem actionsOwn_stimulate (stimulus : PipelineStimulus) {s : PipelineState}
    (own : s.audit.ActionsOwn) : (stimulate deps stimulus s).1.audit.ActionsOwn := by
  have event : ∀ event, (onSignalEvent deps s event).1.audit.ActionsOwn := by
    intro event
    rw [onSignalEvent_shared]
    exact own
  cases stimulus with
  | congestionScore message =>
      have same : (stimulate deps (.congestionScore message) s).1.audit.actions =
          s.audit.actions := auditScore_actions _ _ _
      unfold AuditState.ActionsOwn
      rwa [same]
  | handleSignal signal => exact event _
  | signalEvent delivered => exact event delivered
  | tick gateId =>
      have same : (stimulate deps (.tick gateId) s).1 = s := onTick_shared deps s gateId
      rwa [same]
  | _ => exact own

/-- Only the stretch that audits a list of actions writes actions to the audit. -/
theorem actionsOwn_resume {task : PipelineTask} {s : PipelineState} (own : s.audit.ActionsOwn)
    (fine : task.OnRecord s) : (resume deps task s).shared.audit.ActionsOwn := by
  cases task with
  | computing gate window =>
      rw [resume_computing]
      exact own
  | publishingForecast computation =>
      have same : (resume deps (.publishingForecast computation) s).shared.audit.actions =
          s.audit.actions := auditScore_actions _ _ _
      unfold AuditState.ActionsOwn
      rwa [same]
  | publishingActions update actions =>
      exact (own.write fun action listed => (fine action listed).2).1
  | decidingNudge update fan lastNudgeAt rest generated =>
      have same : (resume deps (.decidingNudge update fan lastNudgeAt rest generated) s).shared =
        s := decideNudge_shared deps update fan lastNudgeAt rest generated s
      rwa [same]
  | locatingAction gateId actionId userId now actions =>
      have same : (resume deps (.locatingAction gateId actionId userId now actions) s).shared =
        s := locateAction_shared gateId actionId userId now actions s
      rwa [same]
  | _ => exact own

/-- What comes next to be broadcast is on record by then. -/
theorem onRecord_resume {task next : PipelineTask} {s : PipelineState}
    (genuine : task.CarriesOwnResult) (fine : task.OnRecord s)
    (left : next ∈ (resume deps task s).successors) :
    next.OnRecord (resume deps task s).shared := by
  cases task with
  | publishingForecast computation =>
      -- the score is audited in this stretch and broadcast in the next
      rw [List.mem_singleton.mp left]
      refine ⟨?_, fun point current => ?_⟩
      · show computation.result.Dated
        rw [show computation.result = _ from genuine]
        exact forecastOf_dated _ _ _
      · have current : computation.result.scores.head? = some point := current
        rw [show computation.result = _ from genuine, forecastOf_head] at current
        cases current
        unfold AuditState.HasScore
        rw [resume_scores_publishing deps genuine s]
        exact ⟨_, List.mem_append_right _ List.mem_cons_self, rfl, rfl, rfl, rfl⟩
  | raisingAlert update =>
      rw [List.mem_singleton.mp left]
      exact fine.1
  | recommending update window =>
      rw [List.mem_singleton.mp left]
      exact fun action listed => ⟨(mem_generateRecommendations listed).1,
        RecommendedAction.ownId_of_generated fine listed⟩
  | storingActions update actions =>
      rw [List.mem_singleton.mp left]
      exact fine
  | storingRedirection update redirection rest =>
      rw [List.mem_singleton.mp left]
      exact (s.redirections.lists_update redirection).1
  | _ => cases resume_follows deps _ s next left <;> trivial

theorem onRecord : (system deps).Guarantee PipelineStimulus.Own (·.audit.ActionsOwn) RecordsLast
    (fun s task => task.CarriesOwnResult ∧ task.OnRecord s) where
  stimulate stimulus s own kept := by
    refine ⟨actionsOwn_stimulate deps stimulus kept, recordsLast_stimulate deps own s,
      fun task started =>
      ⟨(stimulate_scores deps own.ne s).2 task started, ?_⟩⟩
    cases stimulus with
    | congestionScore message => exact absurd own id
    | _ => cases stimulate_starts deps _ s task started <;> trivial
  resume task s own fine :=
    ⟨actionsOwn_resume deps own fine.2, recordsLast_resume deps own fine.1 fine.2,
      fun next left =>
      ⟨genuine_inherited deps fine.1 s next left, onRecord_resume deps fine.1 fine.2 left⟩⟩
  lasts _ _ _ last fine := ⟨fine.1, fine.2.mono last⟩

end Pipeline

/-! ## What is broadcast -/

namespace Pipeline

variable {deps : PipelineDependencies} {actions : List RecommendedAction} {task : ServerTask}
  {s : PipelineState} {site : Broadcast DashboardStreamEvent}

/-- What a task broadcasts. -/
inductive Broadcasts (actions : List RecommendedAction) :
    ServerTask → DashboardStreamEvent → Prop where
  | raised (task alert) : Broadcasts actions task (.alert alert)
  | scored (update point) (current : update.result.scores.head? = some point) :
      Broadcasts actions (.inl (.raisingAlert update)) (.scoreUpdate point)
  | listed (update) : Broadcasts actions (.inl (.advising update))
      (.actionListUpdate update.gate.gateId actions)
  | redirected (update redirection rest) :
      Broadcasts actions (.inl (.publishingRedirection update redirection rest))
        (.redirectionUpdate redirection)

theorem broadcasts_of_onResume
    (broadcasts : (broadcastSites deps).onResume actions task s = some site) :
    Broadcasts actions task site.event := by
  rcases task with task | task | task
  · cases task with
    | publishingForecast computation =>
        obtain ⟨alert, rfl, -⟩ := riskLevelAlert_stored broadcasts
        exact .raised _ alert
    | raisingAlert update =>
        obtain ⟨point, current, rfl⟩ := Option.map_eq_some_iff.mp broadcasts
        exact .scored update point current
    | advising update =>
        obtain rfl := Option.some.inj broadcasts
        exact .listed update
    | publishingRedirection update redirection rest =>
        obtain rfl := Option.some.inj broadcasts
        exact .redirected update redirection rest
    | _ => cases broadcasts
  · cases broadcasts
  · rcases task with ⟨gateId, left, statuses⟩ | ⟨gateId, _ | ⟨sourceType, left⟩, statuses, again⟩
    · cases broadcasts
    · obtain ⟨alert, rfl, -⟩ := dataQualityAlert_stored broadcasts
      exact .raised _ alert
    · cases broadcasts

end Pipeline

/-! ## The other tasks -/

theorem FanNudgeDeliveryWorker.recordsLast :
    system.Guarantee (fun _ => True) (·.audit.ActionsOwn) RecordsLast (fun _ _ => True) where
  stimulate stimulus s _ own := by
    cases stimulus
    exact ⟨own, .refl s, fun _ _ => trivial⟩
  resume task s own _ := by
    cases task <;> exact ⟨own, .of_records rfl rfl rfl rfl, fun _ _ => trivial⟩
  lasts _ _ _ _ _ := trivial

theorem DataQualityCheck.recordsLast (gates : List Gate) :
    (system gates).Guarantee (fun _ => True) (·.audit.ActionsOwn) RecordsLast
      (fun _ _ => True) where
  stimulate stimulus s _ own := by
    cases stimulus <;> exact ⟨own, .of_eq rfl rfl, fun _ _ => trivial⟩
  resume task s own _ := by
    cases task with
    | readingStatus gateId sources statuses =>
        cases sources <;> exact ⟨own, .of_eq rfl rfl, fun _ _ => trivial⟩
    | readingAgain gateId sources statuses again =>
        cases sources <;> exact ⟨own, .of_eq rfl rfl, fun _ _ => trivial⟩
  lasts _ _ _ _ _ := trivial

theorem ShuttleRedirectionApi.recordsLast :
    system.Guarantee (fun _ => True) (·.audit.ActionsOwn) RecordsLast (fun _ _ => True) where
  stimulate stimulus s _ own := by
    cases stimulus <;> exact ⟨own, .of_eq rfl rfl, fun _ _ => trivial⟩
  resume task s own _ := by
    cases task with
    | finding decision routeId recommendationId dispatcherId now =>
        simp only [system, resume]
        split <;> exact ⟨own, .of_eq rfl rfl, fun _ _ => trivial⟩
    | storing decision updated =>
        have kept := (s.redirections.lists_update updated).2
        cases decision <;>
          exact ⟨own, ⟨fun _ => id, fun _ => id, fun _ => id, kept⟩, fun _ _ => trivial⟩
    | returning decision updated =>
        -- a rejection is remembered beside the recommendations
        cases decision <;>
          exact ⟨own, ⟨fun _ => id, fun _ => id, fun _ => id, fun _ => id⟩, fun _ _ => trivial⟩
    | _ => exact ⟨own, .of_eq rfl rfl, fun _ _ => trivial⟩
  lasts _ _ _ _ _ := trivial

end Stadium
