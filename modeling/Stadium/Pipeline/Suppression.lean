import Stadium.Infra.Topology
import Stadium.Pipeline.Machine
import Stadium.ShuttleRedirectionAdvisor.Api

/-!
# Rejections and later recommendations

A rejection is meant to keep its route and alternative gate from being
recommended again for five minutes. What the generation consults is the
server's list of recent rejections, which the reject route extends when the
call has returned, after the rejection was stored and put into Redis; and the
server drops an entry by the clock, while the generation works with the time
its score update has captured. Between the store and the list a rejection is
not seen (`rejected_pair_recommended`), and one that was dropped between the
captured time and the clock is not either. Where neither happens, every stored
rejection holds.
-/

namespace Stadium

open Interleaving TaskSystem

/-- What becomes of recommendations, in the order in which it happens. -/
inductive RedirectionEvent where
  -- a rejection is stored
  | rejected (recommendation : ShuttleRedirectionRecommendation)
  | generated (recommendation : ShuttleRedirectionRecommendation)

/-- Rejected at `rejectedAt`, the pair is not to be recommended at `now`. -/
def withinSuppression (rejectedAt : String) (now : ℤ) : Bool :=
  (IsoDate.parse rejectedAt).any fun rejectedAtMs =>
    decide (rejectedAtMs ≤ now ∧ now < rejectedAtMs + rejectionSuppressionMs)

/-- The recommendation repeats the rejected one within five minutes. -/
def Repeats (rejection recommendation : ShuttleRedirectionRecommendation) : Prop :=
  rejection.routeId = recommendation.routeId ∧
    rejection.alternativeGateId = recommendation.alternativeGateId ∧
    ∃ rejectedAt ∈ rejection.rejectedAt, ∃ generatedAt ∈ IsoDate.parse recommendation.generatedAt,
      withinSuppression rejectedAt generatedAt = true

instance (rejection recommendation : ShuttleRedirectionRecommendation) :
    Decidable (Repeats rejection recommendation) :=
  inferInstanceAs (Decidable (_ ∧ _ ∧ ∃ _ ∈ (_ : Option _), ∃ _ ∈ (_ : Option _), _))

/-- A rejection and what comes later: no recommendation repeats it. -/
def Suppresses : RedirectionEvent → RedirectionEvent → Prop
  | .rejected rejection, .generated recommendation => ¬ Repeats rejection recommendation
  | _, _ => True

instance : ∀ earlier later, Decidable (Suppresses earlier later)
  | .rejected rejection, .generated recommendation =>
      inferInstanceAs (Decidable (¬ Repeats rejection recommendation))
  | .generated _, _ => isTrue trivial
  | .rejected _, .rejected _ => isTrue trivial

/-- The stored rejection a request has still to put into the server's list. -/
def DecisionTask.unlisted? : DecisionTask → Option ShuttleRedirectionRecommendation
  | .recordingRejection updated => some updated
  | .returning .reject updated => some updated
  | _ => none

/-- The rejection a request is about to store, or has stored. -/
def DecisionTask.rejection? : DecisionTask → Option ShuttleRedirectionRecommendation
  | .storing .reject updated => some updated
  | .recordingRejection updated => some updated
  | .returning .reject updated => some updated
  | _ => none

namespace Pipeline

variable (deps : PipelineDependencies)

/-- The pipeline beside the dispatchers' calls. -/
def withDecisions :
    TaskSystem PipelineState (PipelineTask ⊕ DecisionTask) (PipelineStimulus ⊕ DecisionStimulus) :=
  (system deps).sum ShuttleRedirectionApi.system

abbrev DecisionSchedule := List (Choice (PipelineStimulus ⊕ DecisionStimulus))

def afterDecisions (startedAt : ℤ) (schedule : DecisionSchedule) :
    Config PipelineState (PipelineTask ⊕ DecisionTask) :=
  (withDecisions deps).run ⟨.wired startedAt, []⟩ schedule

/-- What a score update is about to recommend. -/
def advice (update : ScoreUpdate) (s : PipelineState) : List ShuttleRedirectionRecommendation :=
  generateRedirections deps.localeCompare update.gate s.forecasts.forecastsByGate deps.routes
    (s.redirections.getRecentRejections s.intake.clock) update.now

/-- Notes stored rejections and generated recommendations. -/
def redirectionEvents : Observer PipelineState (PipelineTask ⊕ DecisionTask)
    (PipelineStimulus ⊕ DecisionStimulus) RedirectionEvent where
  onStimulus _ _ := []
  onResume
    | .inl (.advising update), s => (advice deps update s).map .generated
    | .inr (.storing .reject updated), _ => [.rejected updated]
    | _, _ => []

/-- A rejection of this route and gate at that time bears on what a score
update recommends: its gate is crowded, the route is one of the gate's, the
rejected gate is the alternative it picks, and its captured time is within the
five minutes. -/
def bearsOn (update : ScoreUpdate) (s : PipelineState) (routeId : RouteId)
    (alternativeGateId : GateId) (rejectedAt : String) : Bool :=
  let originRiskLevel := currentRiskLevel (s.forecasts.forecastsByGate.get? update.gate.gateId)
  originRiskLevel.highOrCritical &&
    (deps.routes.any (·.routeId == routeId) && update.gate.assignedRouteIds.contains routeId) &&
    pickAlternativeGate deps.localeCompare update.gate.gateId originRiskLevel
      s.forecasts.forecastsByGate == some alternativeGateId &&
    withinSuppression rejectedAt update.now

/-- The server still hands out an entry at `clock`. -/
def retainedAt (clock : ℤ) (rejection : RejectionRecord) : Bool :=
  (IsoDate.parse rejection.rejectedAt).any fun rejectedAtMs =>
    decide (clock - rejectionSuppressionMs ≤ rejectedAtMs)

/-- Of the rejections that bear on what a score update is about to recommend,
none is between the store and the list, and none was dropped already. -/
def seesRejections (c : Config PipelineState (PipelineTask ⊕ DecisionTask)) :
    Choice (PipelineStimulus ⊕ DecisionStimulus) → Bool
  | .stimulus _ => true
  | .resume position =>
      match c.suspended[position]? with
      | some (.inl (.advising update)) =>
          (((rights c.suspended).filterMap DecisionTask.unlisted?).all fun rejection =>
            !(rejection.rejectedAt.any
              (bearsOn deps update c.shared rejection.routeId rejection.alternativeGateId))) &&
          c.shared.redirections.recentRejections.all fun rejection =>
            !(bearsOn deps update c.shared rejection.routeId rejection.alternativeGateId
              rejection.rejectedAt) || retainedAt c.shared.intake.clock rejection
      | _ => true

/-- A stored rejection is on its way into the list, or in it. -/
structure SuppressionInv (s : PipelineState) (decisions : List DecisionTask)
    (events : List RedirectionEvent) : Prop where
  dated : ∀ task ∈ decisions, ∀ rejection ∈ task.rejection?, rejection.rejectedAt.isSome = true
  listed : ∀ rejection, RedirectionEvent.rejected rejection ∈ events →
    (∃ task ∈ decisions, task.unlisted? = some rejection) ∨
      ∃ rejectedAt, rejection.rejectedAt = some rejectedAt ∧
        ⟨rejection.routeId, rejection.alternativeGateId, rejectedAt⟩ ∈
          s.redirections.recentRejections
  suppressed : events.Pairwise Suppresses

/-- The pipeline itself never touches the list of rejections. -/
theorem resume_recentRejections (task : PipelineTask) (s : PipelineState) :
    (resume deps task s).shared.redirections.recentRejections =
      s.redirections.recentRejections := by
  cases task with
  | computing gate window =>
      rw [resume_computing]
      rfl
  | decidingNudge update fan lastNudgeAt rest generated => simp [resume]
  | locatingAction gateId actionId userId now actions => simp [resume]
  | _ => rfl

theorem stimulate_recentRejections (stimulus : PipelineStimulus) (s : PipelineState) :
    (stimulate deps stimulus s).1.redirections.recentRejections =
      s.redirections.recentRejections := by
  cases stimulus <;> simp [stimulate, onCongestionScore]

/-- An entry of the list that bears on the advice and is still handed out keeps
its pair from being recommended. -/
theorem suppressed_of_retained {update : ScoreUpdate} {s : PipelineState}
    {rejection : RejectionRecord} (listed : rejection ∈ s.redirections.recentRejections)
    (recent : withinSuppression rejection.rejectedAt update.now = true)
    (retained : retainedAt s.intake.clock rejection = true) :
    isSuppressed rejection.routeId rejection.alternativeGateId
      (s.redirections.getRecentRejections s.intake.clock) update.now = true := by
  unfold isSuppressed
  rw [List.any_eq_true]
  refine ⟨rejection, List.mem_filter.mpr ⟨listed, retained⟩, ?_⟩
  unfold withinSuppression at recent
  cases time : IsoDate.parse rejection.rejectedAt with
  | none => simp [time] at recent
  | some rejectedAtMs =>
      simp only [time, Option.any_some, decide_eq_true_iff] at recent
      simp only [beq_self_eq_true, Bool.and_self, Option.any_some, Bool.true_and,
        decide_eq_true_iff]
      omega

/-- **The advice respects a rejection** that is handed to the generation if it
bears on it. -/
theorem not_repeats_of_advice {update : ScoreUpdate} {s : PipelineState}
    {rejection recommendation : ShuttleRedirectionRecommendation}
    (generated : recommendation ∈ advice deps update s)
    (seen : ∀ rejectedAt, rejection.rejectedAt = some rejectedAt →
      bearsOn deps update s rejection.routeId rejection.alternativeGateId rejectedAt = true →
        isSuppressed rejection.routeId rejection.alternativeGateId
          (s.redirections.getRecentRejections s.intake.clock) update.now = true) :
    ¬ Repeats rejection recommendation := by
  rintro ⟨sameRoute, sameGate, rejectedAt, dated, generatedAt, time, recent⟩
  obtain ⟨crowded, route, listed, assigned, alternativeGateId, picked, -, free, rfl⟩ :=
    mem_generateRedirections.mp generated
  have now : generatedAt = update.now := by
    have parsed : IsoDate.parse (IsoDate.toISOString update.now) = some generatedAt := time
    rw [IsoDate.parse_toISOString] at parsed
    exact (Option.some.inj parsed).symm
  subst now
  have sameRoute : rejection.routeId = route.routeId := sameRoute
  have sameGate : rejection.alternativeGateId = alternativeGateId := sameGate
  have bears : bearsOn deps update s rejection.routeId rejection.alternativeGateId
      rejectedAt = true := by
    have known : deps.routes.any (·.routeId == route.routeId) = true :=
      List.any_eq_true.mpr ⟨route, listed, by simp⟩
    simp [bearsOn, sameRoute, sameGate, crowded, known, assigned, picked, recent]
  have suppressed := seen rejectedAt dated bears
  rw [sameRoute, sameGate, free] at suppressed
  cases suppressed

namespace SuppressionInv

variable {s : PipelineState} {before after decisions : List DecisionTask} {task : DecisionTask}
  {events : List RedirectionEvent}

/-- A score update generates recommendations that repeat no stored
rejection. -/
theorem generate (inv : SuppressionInv s decisions events)
    {recommendations : List ShuttleRedirectionRecommendation}
    (fresh : ∀ recommendation ∈ recommendations, ∀ rejection,
      RedirectionEvent.rejected rejection ∈ events → ¬ Repeats rejection recommendation) :
    SuppressionInv s decisions (events ++ recommendations.map .generated) where
  dated := inv.dated
  listed := by
    intro rejection member
    refine inv.listed rejection ((List.mem_append.mp member).resolve_right ?_)
    simp
  suppressed := by
    refine List.pairwise_append.mpr ⟨inv.suppressed, ?_, ?_⟩
    · exact List.pairwise_map.mpr (List.pairwise_of_forall fun _ _ => trivial)
    · intro event earlier later among
      obtain ⟨recommendation, generated, rfl⟩ := List.mem_map.mp among
      cases event with
      | generated => trivial
      | rejected rejection => exact fresh recommendation generated rejection earlier

/-- The rejections the pipeline hands to its generation are all that matters of
the shared state. -/
theorem congr (inv : SuppressionInv s decisions events) {t : PipelineState}
    (same : t.redirections.recentRejections = s.redirections.recentRejections) :
    SuppressionInv t decisions events := by
  refine ⟨inv.dated, ?_, inv.suppressed⟩
  rw [same]
  exact inv.listed

/-- A call moves on, keeping its rejection off the list. -/
theorem move (inv : SuppressionInv s (before ++ task :: after) events)
    {continued : List DecisionTask}
    (dated : ∀ next ∈ continued, ∀ rejection ∈ next.rejection?, rejection.rejectedAt.isSome = true)
    (kept : ∀ rejection, task.unlisted? = some rejection →
      ∃ next ∈ continued, next.unlisted? = some rejection) :
    SuppressionInv s (before ++ continued ++ after) events where
  dated := by
    intro next member
    simp only [List.mem_append] at member
    rcases member with (earlier | now) | later
    · exact inv.dated next (by simp [earlier])
    · exact dated next now
    · exact inv.dated next (by simp [later])
  listed := by
    intro rejection stored
    rcases inv.listed rejection stored with ⟨holder, member, holds⟩ | listed
    · refine .inl ?_
      rcases List.mem_append.mp member with earlier | later
      · exact ⟨holder, by simp [earlier], holds⟩
      · rcases List.mem_cons.mp later with rfl | later
        · obtain ⟨next, now, held⟩ := kept rejection holds
          exact ⟨next, by simp [now], held⟩
        · exact ⟨holder, by simp [later], holds⟩
    · exact .inr listed
  suppressed := inv.suppressed

/-- A rejection is stored, and its request goes on to put it into Redis. -/
theorem store {updated : ShuttleRedirectionRecommendation}
    (inv : SuppressionInv s (before ++ .storing .reject updated :: after) events) :
    SuppressionInv s (before ++ [.recordingRejection updated] ++ after)
      (events ++ [.rejected updated]) where
  dated := by
    have moved : SuppressionInv s (before ++ [.recordingRejection updated] ++ after) events := by
      refine inv.move ?_ ?_
      · intro next member rejection held
        rw [List.mem_singleton.mp member] at held
        exact inv.dated (.storing .reject updated) (by simp) rejection held
      · intro rejection held
        cases held
    exact moved.dated
  listed := by
    intro rejection stored
    rcases List.mem_append.mp stored with earlier | now
    · rcases inv.listed rejection earlier with ⟨holder, member, holds⟩ | listed
      · refine .inl ⟨holder, ?_, holds⟩
        rcases List.mem_append.mp member with earlier | later
        · simp [earlier]
        · rcases List.mem_cons.mp later with rfl | later
          · cases holds
          · simp [later]
      · exact .inr listed
    · cases List.mem_singleton.mp now
      exact .inl ⟨.recordingRejection updated, by simp, rfl⟩
  suppressed := by
    refine List.pairwise_append.mpr ⟨inv.suppressed, List.pairwise_singleton _ _, ?_⟩
    intro event _ later now
    rw [List.mem_singleton.mp now]
    cases event <;> trivial

/-- The reject route puts its rejection into the list. -/
theorem list {updated : ShuttleRedirectionRecommendation}
    (inv : SuppressionInv s (before ++ .returning .reject updated :: after) events) :
    SuppressionInv (ShuttleRedirectionApi.resume (.returning .reject updated) s).shared
      (before ++ [] ++ after) events where
  dated := by
    intro next member
    simp only [List.append_nil, List.mem_append] at member
    rcases member with earlier | later
    · exact inv.dated next (by simp [earlier])
    · exact inv.dated next (by simp [later])
  listed := by
    intro rejection stored
    rcases inv.listed rejection stored with ⟨holder, member, holds⟩ | ⟨rejectedAt, dated, listed⟩
    · rcases List.mem_append.mp member with earlier | later
      · exact .inl ⟨holder, by simp [earlier], holds⟩
      · rcases List.mem_cons.mp later with rfl | later
        · cases holds
          have dated := inv.dated (.returning .reject updated) (by simp) updated rfl
          obtain ⟨rejectedAt, dated⟩ := Option.isSome_iff_exists.mp dated
          refine .inr ⟨rejectedAt, dated, List.mem_append_right _ ?_⟩
          simp [rejectionRecordOf, dated]
        · exact .inl ⟨holder, by simp [later], holds⟩
    · exact .inr ⟨rejectedAt, dated, List.mem_append_left _ listed⟩
  suppressed := inv.suppressed

/-- **A step of a call.** -/
theorem decide (inv : SuppressionInv s (before ++ task :: after) events) :
    SuppressionInv (ShuttleRedirectionApi.resume task s).shared
      (resumed ShuttleRedirectionApi.system before task after s)
      (events ++ (redirectionEvents deps).onResume (.inr task) s) := by
  have moves : ∀ {t : PipelineState} {continued : List DecisionTask},
      t.redirections.recentRejections = s.redirections.recentRejections →
      (∀ next ∈ continued, ∀ rejection ∈ next.rejection?, rejection.rejectedAt.isSome = true) →
      (∀ rejection, task.unlisted? = some rejection →
        ∃ next ∈ continued, next.unlisted? = some rejection) →
      SuppressionInv t (before ++ continued ++ after ++ []) (events ++ []) := by
    intro t continued same dated kept
    rw [List.append_nil, List.append_nil]
    exact (inv.move dated kept).congr same
  cases task with
  | finding decision routeId recommendationId dispatcherId now =>
      unfold resumed
      simp only [ShuttleRedirectionApi.system, ShuttleRedirectionApi.resume]
      cases s.redirections.findRecommendation routeId recommendationId with
      | none => exact moves rfl (by simp) (by simp [DecisionTask.unlisted?])
      | some recommendation =>
          exact moves rfl (by simp [DecisionTask.rejection?]) (by simp [DecisionTask.unlisted?])
  | found decision recommendation dispatcherId now =>
      refine moves rfl ?_ (by simp [DecisionTask.unlisted?])
      intro next member rejection held
      rw [List.mem_singleton.mp member] at held
      cases decision with
      | accept => cases held
      | reject =>
          cases held
          rfl
  | storing decision updated =>
      cases decision with
      | accept =>
          exact moves rfl (by simp [DecisionTask.rejection?, ShuttleRedirectionApi.system,
            ShuttleRedirectionApi.resume]) (by simp [DecisionTask.unlisted?])
      | reject =>
          have stored := inv.store.congr (t := (ShuttleRedirectionApi.resume
            (.storing .reject updated) s).shared) rfl
          rw [← List.append_nil (before ++ _ ++ after)] at stored
          exact stored
  | recordingRejection updated =>
      refine moves rfl ?_ ?_
      · intro next member rejection held
        rw [List.mem_singleton.mp member] at held
        exact inv.dated (.recordingRejection updated) (by simp) rejection held
      · intro rejection held
        exact ⟨.returning .reject updated, by simp [ShuttleRedirectionApi.system,
          ShuttleRedirectionApi.resume], held⟩
  | returning decision updated =>
      cases decision with
      | accept => exact moves rfl (by simp [ShuttleRedirectionApi.system,
          ShuttleRedirectionApi.resume]) (by simp [DecisionTask.unlisted?])
      | reject =>
          have listed := inv.list
          rw [← List.append_nil (before ++ _ ++ after), ← List.append_nil events] at listed
          exact listed

end SuppressionInv

/-- A score update that sees the rejections that bear on its advice repeats no
stored rejection. -/
theorem advice_fresh {s : PipelineState} {before after : List (PipelineTask ⊕ DecisionTask)}
    {update : ScoreUpdate} {events : List RedirectionEvent}
    (inv : SuppressionInv s (rights before ++ rights after) events)
    (sees : seesRejections deps ⟨s, before ++ .inl (.advising update) :: after⟩
      (.resume before.length) = true)
    {recommendation : ShuttleRedirectionRecommendation}
    (generated : recommendation ∈ advice deps update s)
    {rejection : ShuttleRedirectionRecommendation}
    (stored : RedirectionEvent.rejected rejection ∈ events) :
    ¬ Repeats rejection recommendation := by
  simp only [seesRejections, List.getElem?_append_right le_rfl,
    Nat.sub_self, List.getElem?_cons_zero, Bool.and_eq_true, List.all_eq_true, rights_append,
    rights_cons_inl] at sees
  obtain ⟨flying, kept⟩ := sees
  refine not_repeats_of_advice deps generated fun rejectedAt dated bears => ?_
  rcases inv.listed rejection stored with ⟨task, member, holds⟩ | ⟨listedAt, same, listed⟩
  · have clear := flying rejection (List.mem_filterMap.mpr ⟨task, member, holds⟩)
    simp [dated, bears] at clear
  · obtain rfl := Option.some.inj (same.symm.trans dated)
    have held := kept _ listed
    simp only [bears, Bool.not_true, Bool.false_or] at held
    refine suppressed_of_retained listed ?_ held
    simp only [bearsOn, Bool.and_eq_true] at bears
    exact bears.2

theorem suppressionInv_after (startedAt : ℤ) {schedule : DecisionSchedule}
    (sees : (withDecisions deps).Guarded (fun c choice => seesRejections deps c choice)
      ⟨.wired startedAt, []⟩ schedule) :
    SuppressionInv (afterDecisions deps startedAt schedule).shared
      (rights (afterDecisions deps startedAt schedule).suspended)
      ([] ++ (withDecisions deps).trace (redirectionEvents deps) ⟨.wired startedAt, []⟩
        schedule) := by
  let Inv : PipelineState → List PipelineTask → List DecisionTask → List RedirectionEvent → Prop :=
    fun s _ decisions events => SuppressionInv s decisions events
  suffices kept : Inv (afterDecisions deps startedAt schedule).shared
    (lefts (afterDecisions deps startedAt schedule).suspended) _ _ from kept
  refine sum_invariant _ _ (redirectionEvents deps) ?_ ?_ ?_ ?_ ?_ sees
  · intro s tasks events stimulus inv _
    rw [show (redirectionEvents deps).onStimulus (.inl stimulus) s = [] from rfl, List.append_nil]
    exact SuppressionInv.congr inv (stimulate_recentRejections deps stimulus s)
  · intro s tasks events stimulus inv _
    rw [show (redirectionEvents deps).onStimulus (.inr stimulus) s = [] from rfl, List.append_nil]
    cases stimulus with
    | advance ms =>
        show SuppressionInv _ (_ ++ []) _
        rw [List.append_nil]
        exact SuppressionInv.congr inv rfl
    | decide decision routeId recommendationId dispatcherId =>
        refine ⟨?_, ?_, inv.suppressed⟩
        · intro task member
          rcases List.mem_append.mp member with old | new
          · exact inv.dated task old
          · rw [List.mem_singleton.mp new]
            intro rejection held
            cases held
        · intro rejection stored
          refine (inv.listed rejection stored).imp_left fun ⟨task, member, holds⟩ => ?_
          exact ⟨task, List.mem_append_left _ member, holds⟩
  · intro s before task after events inv now
    have same := resume_recentRejections deps task s
    cases task with
    | advising update =>
        have advised := SuppressionInv.generate inv
          (fun recommendation generated rejection stored =>
            advice_fresh deps inv now generated stored)
        exact advised.congr same
    | _ =>
        simp only [redirectionEvents, List.append_nil]
        exact SuppressionInv.congr inv same
  · intro s before task after events inv _
    exact SuppressionInv.decide deps inv
  · exact ⟨by simp, by simp, List.Pairwise.nil⟩

/-- **Rejections suppress recommendations.** Along every schedule of the
pipeline and of the dispatchers' calls in which each score update sees the
rejections that bear on its advice, no recommendation repeats a rejection that
was stored before it. -/
theorem rejections_suppress (startedAt : ℤ) (schedule : DecisionSchedule)
    (sees : (withDecisions deps).Guarded (fun c choice => seesRejections deps c choice)
      ⟨.wired startedAt, []⟩ schedule) :
    ((withDecisions deps).trace (redirectionEvents deps) ⟨.wired startedAt, []⟩
      schedule).Pairwise Suppresses :=
  (suppressionInv_after deps startedAt sees).suppressed

/-- Gate B gets a LOW forecast; then gate A gets crowded, and its route 1 is
recommended to leave for gate B. -/
def redirectedCrowd : Schedule :=
  ([.stimulus (.tick "gate-b")] : Schedule) ++ resumes 0 11 ++
    ([.stimulus (.signalEvent (demoReading "crowd" 400 "1970-01-01T00:00:00.000Z"))] : Schedule) ++
    resumes 0 13

/-- A dispatcher's rejection of the recommendation is resumed so many times. -/
def rejectedAfter (steps : ℕ) : DecisionSchedule :=
  redirectedCrowd.map (Choice.map .inl) ++
    ([.stimulus (.inr (.decide .reject "route-1" "route-1-gate-a-1970-01-01T00:00:00.000Z"
      "ben"))] : DecisionSchedule) ++ List.replicate steps (Choice.resume 0)

/-- A minute after that, another reading of gate A arrives; its recompute and
score update hold the given position. -/
def crowdedAgain (position : ℕ) : DecisionSchedule :=
  ([.stimulus (.inl (.advance 60000)),
    .stimulus (.inl (.signalEvent (demoReading "crowd-2" 450 "1970-01-01T00:01:00.000Z")))] :
      DecisionSchedule) ++
    List.replicate 9 (Choice.resume position)

theorem rejections_suppress_demo :
    ((withDecisions demoDependencies).trace (redirectionEvents demoDependencies) ⟨.wired 0, []⟩
      (rejectedAfter 5 ++ crowdedAgain 0)).Pairwise Suppresses :=
  rejections_suppress demoDependencies 0 _ (by decide +kernel)

/-- The rejection is stored and not in the list yet, and its pair is
recommended again a minute later. -/
theorem rejected_pair_recommended :
    ¬ ((withDecisions demoDependencies).trace (redirectionEvents demoDependencies)
      ⟨.wired 0, []⟩ (rejectedAfter 3 ++ crowdedAgain 1)).Pairwise Suppresses := by
  decide +kernel

end Pipeline

end Stadium
