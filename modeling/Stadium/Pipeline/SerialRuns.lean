import Stadium.Pipeline.NudgeAudit
import Stadium.Pipeline.StraightLine
import Stadium.RecommendationEngine.ActionIds

/-!
# What the stores agree on between requests

The result of a forecast is kept in half a dozen places: the store of the
forecast API, the score source of the dashboard, the last-known score in
Redis, the map the pipeline consults, the previous risk level and the audit.
Actions are kept in two stores, nudges in the queue, the audit and the
operators' list. Interleaved updates can leave them apart; where requests
come one by one, they all say the same between two requests
(`views_agree_between_requests`).
-/

namespace Stadium

open Interleaving TaskSystem

/-- The map the pipeline consults has the forecast last published for a gate, and the
other views of the gate's score show it. -/
structure ScoreViews (s : PipelineState) : Prop where
  published : ∀ gateId, s.forecasts.forecastsByGate.get? gateId =
    ((s.forecasts.published.filter (·.gate.gateId = gateId)).getLast?).map (·.result)
  forecastStore : ∀ gateId, s.forecasts.forecastStore.get? gateId =
    (s.forecasts.forecastsByGate.get? gateId).map (·.scores)
  gateScoreSource : ∀ gateId, s.forecasts.gateScoreSource.get? gateId =
    (s.forecasts.forecastsByGate.get? gateId).bind (·.scores.head?)
  lastKnownScore : ∀ gateId, s.redis.getLastKnownScore gateId =
    (s.forecasts.forecastsByGate.get? gateId).bind (·.scores.head?)
  previousRiskLevel : ∀ gateId, s.alerts.previousRiskLevel gateId =
    currentRiskLevel (s.forecasts.forecastsByGate.get? gateId)
  audited : ∀ gateId,
    ((s.audit.scores.filter (·.gateId = gateId)).getLast?.map fun record =>
      (record.timestamp, record.score, record.riskLevel)) =
    ((s.forecasts.forecastsByGate.get? gateId).bind (·.scores.head?)).map fun point =>
      (point.forecastTime, point.score, point.riskLevel)

/-- Both stores list the actions of the forecast last published; the executions
are marked in one of them, and the audit has the actions of the other. -/
structure ActionViews (s : PipelineState) : Prop where
  generated : ∀ gateId result, s.forecasts.forecastsByGate.get? gateId = some result →
    (((s.actions.activeActionsSource.get? gateId).getD []).map (·.actionId)).Perm
      (generatedIds gateId result)
  marked : ∀ gateId, (s.actions.getActiveActions gateId).map (·.unmarked) =
    (s.actions.activeActionsSource.get? gateId).getD []
  own : ∀ gateId, ∀ action ∈ (s.actions.activeActionsSource.get? gateId).getD [],
    action.gateId = gateId ∧ action.OwnId
  audited : ∀ gateId, ∀ action ∈ (s.actions.activeActionsSource.get? gateId).getD [],
    s.audit.actions.get? action.actionId = some action

/-- The audit is the queue, but for the `pending` nudges still to be published, and
every settled nudge is on the operators' list. -/
structure NudgeViews (pending : List FanNudge) (s : PipelineState) : Prop where
  audited : s.nudges.queuedNudgeStore =
    pending.foldl (fun log nudge => log.set nudge.nudgeId nudge) s.audit.nudges
  listed : ∀ nudgeId nudge, s.nudges.queuedNudgeStore.get? nudgeId = some nudge →
    nudge.status ≠ .queued → nudge ∈ s.nudges.nudgeAuditQuery

/-- Between two requests everything agrees. -/
structure ViewsAgree (s : PipelineState) : Prop where
  scores : ScoreViews s
  actions : ActionViews s
  nudges : NudgeViews [] s

namespace StraightLine

variable (deps : PipelineDependencies)

/-! ## What redirections and nudges leave alone -/

/-- Nothing of a score, of an alert or of an action has changed. -/
structure Aside (s t : PipelineState) : Prop where
  intake : t.intake = s.intake
  forecasts : t.forecasts = s.forecasts
  alerts : t.alerts = s.alerts
  actions : t.actions = s.actions
  scores : t.audit.scores = s.audit.scores
  auditedActions : t.audit.actions = s.audit.actions
  lastKnownScores : t.redis.lastKnownScores = s.redis.lastKnownScores

namespace Aside

theorem refl (s : PipelineState) : Aside s s := ⟨rfl, rfl, rfl, rfl, rfl, rfl, rfl⟩

theorem trans {s t u : PipelineState} (first : Aside s t) (second : Aside t u) : Aside s u :=
  ⟨second.intake.trans first.intake, second.forecasts.trans first.forecasts,
    second.alerts.trans first.alerts, second.actions.trans first.actions,
    second.scores.trans first.scores, second.auditedActions.trans first.auditedActions,
    second.lastKnownScores.trans first.lastKnownScores⟩

theorem foldl {α : Type*} {step : PipelineState → α → PipelineState}
    (each : ∀ s a, Aside s (step s a)) (items : List α) (s : PipelineState) :
    Aside s (items.foldl step s) := by
  induction items generalizing s with
  | nil => exact refl s
  | cons first rest ih => exact (each s first).trans (ih _)

end Aside

theorem notifyFan_aside (update : ScoreUpdate) (state : PipelineState × List FanNudge)
    (fan : FanContext) : Aside state.1 (notifyFan deps update state fan).1 := by
  unfold notifyFan nudgeFan
  split
  · exact Aside.refl state.1
  · exact ⟨rfl, rfl, rfl, rfl, rfl, rfl, rfl⟩

theorem notifyFans_aside (update : ScoreUpdate) (fans : List FanContext)
    (state : PipelineState × List FanNudge) :
    Aside state.1 (notifyFans deps update fans state) := by
  have loop : Aside state.1 (fans.foldl (notifyFan deps update) state).1 := by
    induction fans generalizing state with
    | nil => exact Aside.refl state.1
    | cons fan rest ih => exact (notifyFan_aside deps update state fan).trans (ih _)
  exact loop.trans ⟨rfl, rfl, rfl, rfl, rfl, rfl, rfl⟩

theorem storeRedirection_aside (s : PipelineState)
    (redirection : ShuttleRedirectionRecommendation) :
    Aside s (storeRedirection s redirection) := ⟨rfl, rfl, rfl, rfl, rfl, rfl, rfl⟩

theorem advise_aside (update : ScoreUpdate) (s : PipelineState) :
    Aside s (advise deps update s) :=
  (Aside.foldl storeRedirection_aside (redirectionsFor deps update s) s).trans
    (notifyFans_aside deps update _ (_, []))

theorem deliver_aside (now : ℤ) (s : PipelineState) (nudge : FanNudge) :
    Aside s (deliver now s nudge) := by
  unfold deliver
  split
  · exact Aside.refl s
  · exact ⟨rfl, rfl, rfl, rfl, rfl, rfl, rfl⟩

theorem processQueue_aside (now : ℤ) (s : PipelineState) : Aside s (processQueue now s) :=
  Aside.foldl (deliver_aside now) _ s

theorem decideOn_aside (decision : RedirectionDecision) (routeId : RouteId)
    (recommendationId dispatcherId : String) (now : ℤ) (s : PipelineState) :
    Aside s (decideOn decision routeId recommendationId dispatcherId now s) := by
  unfold decideOn
  split
  · exact Aside.refl s
  · cases decision <;> exact ⟨rfl, rfl, rfl, rfl, rfl, rfl, rfl⟩

end StraightLine

open StraightLine

/-! ## Scores -/

namespace ScoreViews

variable {s t : PipelineState}

theorem wired (startedAt : ℤ) : ScoreViews (.wired startedAt) := by
  constructor <;> intro gateId <;> rfl

theorem congr (views : ScoreViews s) (forecasts : t.forecasts = s.forecasts)
    (lastKnownScores : t.redis.lastKnownScores = s.redis.lastKnownScores)
    (previous : t.alerts.previousRiskLevelByGate = s.alerts.previousRiskLevelByGate)
    (scores : t.audit.scores = s.audit.scores) : ScoreViews t where
  published := by rw [forecasts]; exact views.published
  forecastStore := by rw [forecasts]; exact views.forecastStore
  gateScoreSource := by rw [forecasts]; exact views.gateScoreSource
  lastKnownScore := by
    unfold RedisState.getLastKnownScore
    rw [forecasts, lastKnownScores]
    exact views.lastKnownScore
  previousRiskLevel := by
    unfold AlertState.previousRiskLevel
    rw [forecasts, previous]
    exact views.previousRiskLevel
  audited := by rw [forecasts, scores]; exact views.audited

theorem aside (views : ScoreViews s) (aside : Aside s t) : ScoreViews t :=
  views.congr aside.forecasts aside.lastKnownScores (by rw [aside.alerts]) aside.scores

/-- All views of the gate's score are replaced, and those of the other gates kept. -/
theorem update (views : ScoreViews s) {gate : Gate} {result : ForecastResult}
    {point : CongestionScorePoint} {window : List SignalEvent}
    (current : result.scores.head? = some point)
    (published : t.forecasts.published = s.forecasts.published ++ [⟨gate, result⟩])
    (forecastStore : t.forecasts.forecastStore =
      s.forecasts.forecastStore.set gate.gateId result.scores)
    (gateScoreSource : t.forecasts.gateScoreSource =
      s.forecasts.gateScoreSource.set gate.gateId point)
    (forecastsByGate : t.forecasts.forecastsByGate =
      s.forecasts.forecastsByGate.set gate.gateId result)
    (lastKnownScore : ∀ gateId, t.redis.getLastKnownScore gateId =
      if gateId = gate.gateId then some point else s.redis.getLastKnownScore gateId)
    (previous : t.alerts.previousRiskLevelByGate =
      s.alerts.previousRiskLevelByGate.set gate.gateId result.currentRiskLevel)
    (scores : t.audit.scores = s.audit.scores ++ [scoreAuditOf gate point window]) :
    ScoreViews t where
  published gateId := by
    rw [published, forecastsByGate, OrderedMap.get?_set, List.filter_append]
    by_cases own : gateId = gate.gateId
    · rw [if_pos own, List.filter_cons_of_pos (by simp [own]), List.filter_nil,
        List.getLast?_concat]
      rfl
    · rw [if_neg own, List.filter_cons_of_neg (by simp [Ne.symm own]), List.filter_nil,
        List.append_nil]
      exact views.published gateId
  forecastStore gateId := by
    rw [forecastStore, forecastsByGate, OrderedMap.get?_set, OrderedMap.get?_set]
    split
    · rfl
    · exact views.forecastStore gateId
  gateScoreSource gateId := by
    rw [gateScoreSource, forecastsByGate, OrderedMap.get?_set, OrderedMap.get?_set]
    split
    · exact current.symm
    · exact views.gateScoreSource gateId
  lastKnownScore gateId := by
    rw [lastKnownScore, forecastsByGate, OrderedMap.get?_set]
    split
    · exact current.symm
    · exact views.lastKnownScore gateId
  previousRiskLevel gateId := by
    unfold AlertState.previousRiskLevel
    rw [previous, forecastsByGate, OrderedMap.get?_set, OrderedMap.get?_set]
    split
    · rfl
    · exact views.previousRiskLevel gateId
  audited gateId := by
    have before := views.audited gateId
    rw [scores, forecastsByGate, OrderedMap.get?_set, List.filter_append]
    by_cases own : gateId = gate.gateId
    · rw [if_pos own, List.filter_cons_of_pos (by simp [scoreAuditOf, own]), List.filter_nil,
        List.getLast?_concat, Option.bind_some, current]
      rfl
    · rw [if_neg own, List.filter_cons_of_neg (by simp [scoreAuditOf, Ne.symm own]),
        List.filter_nil, List.append_nil]
      exact before

end ScoreViews

/-! ## Actions -/

theorem unmarked_generated {gate : Gate} {forecast : ForecastResult} {window : List SignalEvent} :
    (generateRecommendations gate forecast window).map (·.unmarked) =
      generateRecommendations gate forecast window := by
  refine (List.map_congr_left fun action generated => ?_).trans (List.map_id _)
  exact unmarked_of_generated generated

/-- Marking an action does not show in the unmarked list. -/
theorem map_unmarked_set {actions : List RecommendedAction} {index : ℕ}
    {found updated : RecommendedAction} (here : actions[index]? = some found)
    (same : updated.unmarked = found.unmarked) :
    (actions.set index updated).map (·.unmarked) = actions.map (·.unmarked) := by
  induction actions generalizing index with
  | nil => rfl
  | cons first rest ih =>
      cases index with
      | zero =>
          rw [List.getElem?_cons_zero, Option.some.injEq] at here
          rw [List.set_cons_zero, List.map_cons, List.map_cons, same, here]
      | succ index =>
          rw [List.getElem?_cons_succ] at here
          rw [List.set_cons_succ, List.map_cons, List.map_cons, ih here]

namespace ActionViews

variable {s t : PipelineState}

theorem wired (startedAt : ℤ) : ActionViews (.wired startedAt) where
  generated gateId result impossible := by cases impossible
  marked gateId := rfl
  own gateId action impossible := absurd impossible List.not_mem_nil
  audited gateId action impossible := absurd impossible List.not_mem_nil

theorem congr (views : ActionViews s)
    (forecastsByGate : t.forecasts.forecastsByGate = s.forecasts.forecastsByGate)
    (actions : t.actions = s.actions) (audit : t.audit.actions = s.audit.actions) :
    ActionViews t where
  generated := by rw [forecastsByGate, actions]; exact views.generated
  marked := by rw [actions]; exact views.marked
  own := by rw [actions]; exact views.own
  audited := by rw [actions, audit]; exact views.audited

theorem aside (views : ActionViews s) (aside : Aside s t) : ActionViews t :=
  views.congr (by rw [aside.forecasts]) aside.actions aside.auditedActions

/-- Both lists of the gate are replaced, together with its forecast, and audited. -/
theorem update (views : ActionViews s) {gate : Gate} {result : ForecastResult}
    {window : List SignalEvent} (dated : result.Dated)
    (forecastsByGate : t.forecasts.forecastsByGate =
      s.forecasts.forecastsByGate.set gate.gateId result)
    (store : t.actions.activeActionsStore = s.actions.activeActionsStore.set gate.gateId
      (generateRecommendations gate result window))
    (source : t.actions.activeActionsSource = s.actions.activeActionsSource.set gate.gateId
      (generateRecommendations gate result window))
    (audit : t.audit.actions = (generateRecommendations gate result window).foldl
      (fun log action => log.set action.actionId action) s.audit.actions) : ActionViews t where
  generated gateId shown published := by
    rw [forecastsByGate, OrderedMap.get?_set] at published
    rw [source, OrderedMap.get?_set]
    by_cases own : gateId = gate.gateId
    · rw [if_pos own] at published ⊢
      cases published
      rw [own]
      exact generateRecommendations_ids gate result window
    · rw [if_neg own] at published ⊢
      exact views.generated gateId shown published
  marked gateId := by
    have before := views.marked gateId
    unfold ActionState.getActiveActions at before ⊢
    rw [store, source, OrderedMap.get?_set, OrderedMap.get?_set]
    by_cases own : gateId = gate.gateId
    · rw [if_pos own, if_pos own]
      exact unmarked_generated
    · rw [if_neg own, if_neg own]
      exact before
  own gateId action listed := by
    rw [source, OrderedMap.get?_set] at listed
    split at listed
    · next own =>
        have generated : action ∈ generateRecommendations gate result window := listed
        exact ⟨(mem_generateRecommendations generated).1.trans own.symm,
          RecommendedAction.ownId_of_generated dated generated⟩
    · exact views.own gateId action listed
  audited gateId action listed := by
    rw [source, OrderedMap.get?_set] at listed
    rw [audit]
    rcases OrderedMap.get?_foldl_set_cases RecommendedAction.actionId
      (generateRecommendations gate result window) s.audit.actions action.actionId with
      ⟨newest, written, named, now⟩ | ⟨absent, kept⟩
    · rw [now]
      split at listed
      · -- the ids of one list differ
        have distinct := (generateRecommendations_ids gate result window).nodup_iff.mpr
          (generatedIds_nodup gate.gateId result)
        exact congrArg some (List.inj_on_of_nodup_map distinct written listed named)
      · -- and tell its gate from the others
        next other =>
          obtain ⟨gates, ownId⟩ := views.own gateId action listed
          have alike := (RecommendedAction.ownId_of_generated dated written).inj ownId named
          have same : newest.gateId = action.gateId := congrArg Prod.fst alike
          rw [(mem_generateRecommendations written).1, gates] at same
          exact absurd same.symm other
    · rw [kept]
      split at listed
      · exact absurd (List.mem_map_of_mem listed) absent
      · exact views.audited gateId action listed

/-- An execution marks one action of one list. -/
theorem executeAction (views : ActionViews s) (gateId : GateId) (actionId userId : String)
    (now : ℤ) :
    ActionViews (StraightLine.executeAction gateId actionId userId now
      (s.actions.getActiveActions gateId) s) := by
  unfold StraightLine.executeAction
  cases found : (s.actions.getActiveActions gateId).find? (·.actionId = actionId) with
  | none => exact views
  | some action =>
      refine ⟨views.generated, fun other => ?_, views.own, views.audited⟩
      show ((s.actions.setActiveActions gateId _).getActiveActions other).map _ = _
      rw [ActionState.getActiveActions_set]
      split
      · next own =>
          rw [List.find?_eq_getElem?_findIdx] at found
          rw [own]
          refine Eq.trans ?_ (views.marked gateId)
          apply map_unmarked_set found
          rfl
      · exact views.marked other

end ActionViews

/-! ## Nudges -/

namespace NudgeViews

variable {s t : PipelineState} {pending : List FanNudge}

theorem wired (startedAt : ℤ) : NudgeViews [] (.wired startedAt) where
  audited := rfl
  listed nudgeId nudge impossible := by cases impossible

theorem congr (views : NudgeViews pending s) (nudges : t.nudges = s.nudges)
    (audit : t.audit.nudges = s.audit.nudges) : NudgeViews pending t where
  audited := by rw [nudges, audit]; exact views.audited
  listed := by rw [nudges]; exact views.listed

/-- A nudge is sent, and published later. -/
theorem sendNudge (views : NudgeViews pending s) (update : ScoreUpdate) (fan : FanContext)
    {nudge : FanNudge} (queued : nudge.status = .queued) :
    NudgeViews (pending ++ [nudge]) (StraightLine.sendNudge update fan nudge s) where
  audited := by
    rw [List.foldl_append]
    show s.nudges.queuedNudgeStore.set nudge.nudgeId nudge = _
    rw [views.audited]
    rfl
  listed nudgeId stored found settled := by
    have found : (s.nudges.queuedNudgeStore.set nudge.nudgeId nudge).get? nudgeId = some stored :=
      found
    rw [OrderedMap.get?_set] at found
    split at found
    · cases found
      exact absurd queued settled
    · exact views.listed nudgeId stored found settled

theorem notifyFan (deps : PipelineDependencies) (views : NudgeViews pending s)
    (update : ScoreUpdate) (fan : FanContext) :
    NudgeViews (StraightLine.notifyFan deps update (s, pending) fan).2
      (StraightLine.notifyFan deps update (s, pending) fan).1 := by
  unfold StraightLine.notifyFan nudgeFan
  split
  · exact views
  · next nudge generated =>
      exact views.sendNudge update fan (Pipeline.generateFanNudge_queued deps generated)

theorem notifyFans (deps : PipelineDependencies) (views : NudgeViews pending s)
    (update : ScoreUpdate) (fans : List FanContext) :
    NudgeViews [] (StraightLine.notifyFans deps update fans (s, pending)) := by
  induction fans generalizing s pending with
  | nil => exact ⟨views.audited, views.listed⟩
  | cons fan rest ih => exact ih (views.notifyFan deps update fan)

theorem advise (deps : PipelineDependencies) (views : NudgeViews [] s) (update : ScoreUpdate) :
    NudgeViews [] (StraightLine.advise deps update s) := by
  have redirected : NudgeViews [] ((redirectionsFor deps update s).foldl storeRedirection s) := by
    generalize redirectionsFor deps update s = redirections
    induction redirections generalizing s with
    | nil => exact views
    | cons first rest ih => exact ih (views.congr rfl rfl)
  exact redirected.notifyFans deps update _

/-- A settlement goes to the queue, the list and the audit. -/
theorem deliver (views : NudgeViews [] s) (now : ℤ) (nudge : FanNudge) :
    NudgeViews [] (StraightLine.deliver now s nudge) := by
  unfold StraightLine.deliver
  split
  · exact views
  · refine ⟨?_, fun nudgeId stored found settled => ?_⟩
    · show s.nudges.queuedNudgeStore.set _ _ = s.audit.nudges.set _ _
      rw [views.audited]
      rfl
    · have found : (s.nudges.queuedNudgeStore.set
          (simulateDelivery nudge s.forecasts.forecastsByGate now).1.nudgeId
          (simulateDelivery nudge s.forecasts.forecastsByGate now).1).get? nudgeId =
            some stored := found
      show stored ∈ s.nudges.nudgeAuditQuery ++
        [(simulateDelivery nudge s.forecasts.forecastsByGate now).1]
      rw [OrderedMap.get?_set] at found
      split at found
      · cases found
        exact List.mem_append_right _ List.mem_cons_self
      · exact List.mem_append_left _ (views.listed nudgeId stored found settled)

theorem processQueue (views : NudgeViews [] s) (now : ℤ) :
    NudgeViews [] (StraightLine.processQueue now s) := by
  unfold StraightLine.processQueue
  generalize s.nudges.queuedNudgeStore.values = queued
  induction queued generalizing s with
  | nil => exact views
  | cons nudge rest ih => exact ih (views.deliver now nudge)

theorem decideOn (views : NudgeViews [] s) (decision : RedirectionDecision) (routeId : RouteId)
    (recommendationId dispatcherId : String) (now : ℤ) :
    NudgeViews [] (StraightLine.decideOn decision routeId recommendationId dispatcherId now s) := by
  unfold StraightLine.decideOn
  split
  · exact views
  · cases decision <;> exact views.congr rfl rfl

end NudgeViews

/-! ## All of them -/

namespace ViewsAgree

variable {s : PipelineState} (deps : PipelineDependencies)

theorem wired (startedAt : ℤ) : ViewsAgree (.wired startedAt) :=
  ⟨.wired startedAt, .wired startedAt, .wired startedAt⟩

/-- A recompute replaces all views of its gate. -/
theorem compute (views : ViewsAgree s) (gate : Gate) (window : List SignalEvent) :
    ViewsAgree (StraightLine.compute deps gate window s) := by
  let result := forecastOf gate window s.intake.clock
  let update : ScoreUpdate := { gate, result, now := s.intake.clock }
  let computation : Computation := ⟨gate, window, s.intake.clock, result⟩
  let stored : PipelineState :=
    { saveScore computation (currentPointOf gate window s.intake.clock) s with
      forecasts := Pipeline.storeForecast
        { s.forecasts with computed := s.forecasts.computed ++ [computation] } gate result }
  let scored := recommend update (s.intake.getWindowForGate gate.gateId)
    (rememberRiskLevel update (Pipeline.onCongestionScore stored ⟨gate, result⟩).1)
  have split : StraightLine.compute deps gate window s = StraightLine.advise deps update scored :=
    rfl
  have current : result.scores.head? = some (currentPointOf gate window s.intake.clock) := rfl
  have aside := advise_aside deps update scored
  rw [split]
  refine ⟨?_, ?_, ?_⟩
  · refine ScoreViews.aside ?_ aside
    refine views.scores.update current rfl rfl rfl rfl
      (fun gateId => RedisState.getLastKnownScore_set s.redis gate.gateId gateId _) ?_ rfl
    show (AlertState.raiseRiskLevelAlertIfTransitioned _ _ _ _ _).previousRiskLevelByGate.set
      _ _ = _
    unfold AlertState.raiseRiskLevelAlertIfTransitioned
    split <;> rfl
  · exact ActionViews.aside
      (views.actions.update (forecastOf_dated _ _ _) rfl rfl rfl rfl) aside
  · have kept : NudgeViews [] scored := views.nudges.congr rfl (Pipeline.auditScore_nudges _ _ _)
    exact kept.advise deps update

theorem onSignalEvent (views : ViewsAgree s) (event : SignalEvent) :
    ViewsAgree (StraightLine.onSignalEvent deps s event) := by
  have received : ViewsAgree { s with
      intake := s.intake.onSignalEvent event
      audit := { s.audit with signalEvents := s.audit.signalEvents ++ [event] } } :=
    ⟨views.scores.congr rfl rfl rfl rfl, views.actions.congr rfl rfl rfl,
      views.nudges.congr rfl rfl⟩
  unfold StraightLine.onSignalEvent
  simp only
  split
  · exact received
  · exact received.compute deps _ _

/-- A request whose score, if any, comes from this process keeps the views in
agreement. -/
theorem serve (views : ViewsAgree s)
    {request : PipelineStimulus ⊕ (DeliveryStimulus ⊕ DecisionStimulus)}
    (own : ∀ message, request ≠ .inl (.congestionScore message)) :
    ViewsAgree (StraightLine.serve deps s request) := by
  rcases request with stimulus | stimulus | stimulus
  · cases stimulus with
    | advance ms =>
        exact ⟨views.scores.congr rfl rfl rfl rfl, views.actions.congr rfl rfl rfl,
          views.nudges.congr rfl rfl⟩
    | handleSignal signal => exact views.onSignalEvent deps _
    | signalEvent event => exact views.onSignalEvent deps event
    | tick gateId =>
        show ViewsAgree (StraightLine.onTick deps s gateId)
        unfold StraightLine.onTick
        split
        · exact views
        · exact views.compute deps _ _
    | congestionScore message => exact absurd rfl (own message)
    | executeAction gateId actionId userId =>
        have marked := views.actions.executeAction gateId actionId userId s.intake.clock
        refine ⟨?_, marked, ?_⟩
        · show ScoreViews (StraightLine.executeAction gateId actionId userId s.intake.clock _ s)
          unfold StraightLine.executeAction
          split
          · exact views.scores
          · exact views.scores.congr rfl rfl rfl rfl
        · show NudgeViews [] (StraightLine.executeAction gateId actionId userId s.intake.clock _ s)
          unfold StraightLine.executeAction
          split
          · exact views.nudges
          · exact views.nudges.congr rfl rfl
  · cases stimulus
    have aside := processQueue_aside s.intake.clock s
    exact ⟨views.scores.aside aside, views.actions.aside aside,
      views.nudges.processQueue s.intake.clock⟩
  · cases stimulus with
    | advance ms =>
        exact ⟨views.scores.congr rfl rfl rfl rfl, views.actions.congr rfl rfl rfl,
          views.nudges.congr rfl rfl⟩
    | decide decision routeId recommendationId dispatcherId =>
        have aside := decideOn_aside decision routeId recommendationId dispatcherId
          s.intake.clock s
        exact ⟨views.scores.aside aside, views.actions.aside aside,
          views.nudges.decideOn decision routeId recommendationId dispatcherId _⟩

end ViewsAgree

/-- **Between requests everything agrees.** When requests come one by one and every
score comes from this process, then whenever nothing is suspended, all views of a
gate's score show the forecast last published for it, both action stores list its
actions up to the marks of executions, the audit has them, each under its id and as it
was generated, and the queue of nudges is the audit's, with every settled nudge on the
operators' list. -/
theorem views_agree_between_requests (deps : PipelineDependencies) (startedAt : ℤ)
    (schedule : List (Choice (PipelineStimulus ⊕ (DeliveryStimulus ⊕ DecisionStimulus))))
    (serial : (serving deps).Guarded Serial ⟨.wired startedAt, []⟩ schedule)
    (quiet : ((serving deps).run ⟨.wired startedAt, []⟩ schedule).suspended = [])
    (own : ∀ message, .inl (.congestionScore message) ∉ stimuli schedule) :
    ViewsAgree ((serving deps).run ⟨.wired startedAt, []⟩ schedule).shared := by
  rw [serial_run deps serial quiet]
  suffices kept : ∀ (requests : List (PipelineStimulus ⊕ (DeliveryStimulus ⊕ DecisionStimulus)))
      (s : PipelineState), ViewsAgree s → (∀ message, .inl (.congestionScore message) ∉ requests) →
      ViewsAgree (requests.foldl (serve deps) s) from kept _ _ (.wired startedAt) own
  intro requests
  induction requests with
  | nil => exact fun s views _ => views
  | cons request rest ih =>
      intro s views own
      refine ih _ (views.serve deps ?_) fun message later => own message (by simp [later])
      rintro message rfl
      exact own message List.mem_cons_self

/-- A fan scans a ticket at gate A, a crowd gathers there, a lane is opened, and the
worker delivers the nudge; each request is run to its end. -/
def crowdServed : List (Choice (PipelineStimulus ⊕ (DeliveryStimulus ⊕ DecisionStimulus))) :=
  .stimulus (.inl (.signalEvent (demoScan "scan" "fan-1" "1970-01-01T00:00:00.000Z"))) ::
    List.replicate 11 (.resume 0) ++
  .stimulus (.inl (.signalEvent (demoReading "crowd" 400 "1970-01-01T00:00:00.000Z"))) ::
    List.replicate 14 (.resume 0) ++
  .stimulus (.inl (.executeAction "gate-a" "gate-a-1970-01-01T00:00:00.000Z-OPEN_GATE_LANE"
    "staff-1")) :: List.replicate 4 (.resume 0) ++
  .stimulus (.inr (.inl .interval)) :: List.replicate 5 (.resume 0)

theorem views_agree_between_requests_demo :
    let s := ((serving demoDependencies).run ⟨.wired 0, []⟩ crowdServed).shared
    ViewsAgree s ∧ (s.audit.actions.entries.length, s.actions.executed.length,
      s.nudges.nudgeAuditQuery.length) = (4, 1, 1) :=
  ⟨views_agree_between_requests demoDependencies 0 crowdServed (by decide +kernel)
    (List.length_eq_zero_iff.mp (by decide +kernel))
    (fun message listed => by simp [crowdServed, stimuli] at listed), by decide +kernel⟩

end Stadium
