import Stadium.Lib.Draining
import Stadium.Pipeline.Containment
import Stadium.Pipeline.Intake
import Stadium.ShuttleRedirectionAdvisor.Api
import Stadium.ShuttleRedirectionAdvisor.Permitted

/-!
# Everything that is started ends

While no request arrives and no timer fires, the fans of a gate and the
configured routes bound what a score update still has to do, so the pipeline
alone is done after a number of resumptions that can be read off
(`pipeline_done_within`). A run of the delivery worker works off a queue that
other tasks still fill while it waits for its snapshot; whoever is resumed
next, the whole process comes to rest all the same (`server_comes_to_rest`).
-/

namespace Stadium

open Interleaving TaskSystem

/-- The fans a score update of the gate loops over. -/
def fansOf (fansByGate : OrderedMap GateId (OrderedMap FanId FanContext)) (gateId : GateId) :
    List FanContext :=
  ((fansByGate.get? gateId).map (·.values)).getD []

/-- Two calls for each redirection of the gate, and five for each of its fans. -/
def updateWork (routes : List ShuttleRoute)
    (fansByGate : OrderedMap GateId (OrderedMap FanId FanContext)) (gate : Gate) : ℕ :=
  2 * (routesOf gate routes).length + 5 * (fansOf fansByGate gate.gateId).length

/-- How many resumptions of the task and of what follows from it there can be. -/
def PipelineTask.left (routes : List ShuttleRoute)
    (fansByGate : OrderedMap GateId (OrderedMap FanId FanContext)) : PipelineTask → ℕ
  | .computing gate _ => 9 + updateWork routes fansByGate gate
  | .savingScore computation _ => 8 + updateWork routes fansByGate computation.gate
  | .publishingForecast computation => 7 + updateWork routes fansByGate computation.gate
  | .raisingAlert update => 6 + updateWork routes fansByGate update.gate
  | .recommending update _ => 5 + updateWork routes fansByGate update.gate
  | .storingActions update _ => 4 + updateWork routes fansByGate update.gate
  | .publishingActions update _ => 3 + updateWork routes fansByGate update.gate
  | .advising update => 2 + updateWork routes fansByGate update.gate
  | .storingRedirection update _ rest =>
      3 + 2 * rest.length + 5 * (fansOf fansByGate update.gate.gateId).length
  | .publishingRedirection update _ rest =>
      2 + 2 * rest.length + 5 * (fansOf fansByGate update.gate.gateId).length
  | .readingCooldown _ _ rest _ => 6 + 5 * rest.length
  | .decidingNudge _ _ _ rest _ => 5 + 5 * rest.length
  | .settingCooldown _ _ _ rest _ => 4 + 5 * rest.length
  | .enqueueingNudge _ _ rest _ => 3 + 5 * rest.length
  | .nudgeEnqueued _ rest _ => 2 + 5 * rest.length
  | .publishingNudges _ => 1
  | .readingActions .. => 4
  | .locatingAction .. => 3
  | .writingActions .. => 2
  | .returningAction _ => 1

namespace Pipeline

variable (deps : PipelineDependencies)

section

variable (routes : List ShuttleRoute)
  (fansByGate : OrderedMap GateId (OrderedMap FanId FanContext))

@[simp] theorem left_nextFan (update : ScoreUpdate) (fans : List FanContext)
    (generated : List FanNudge) :
    (nextFan update fans generated).left routes fansByGate = 1 + 5 * fans.length := by
  cases fans with
  | nil => rfl
  | cons fan rest =>
      simp only [nextFan, PipelineTask.left, List.length_cons]
      omega

theorem left_nextRedirection (s : PipelineState) (update : ScoreUpdate)
    (redirections : List ShuttleRedirectionRecommendation) :
    (nextRedirection s update redirections).left routes s.intake.fansByGate =
      1 + 2 * redirections.length +
        5 * (fansOf s.intake.fansByGate update.gate.gateId).length := by
  cases redirections with
  | nil =>
      show (nextFan update (fansOf s.intake.fansByGate update.gate.gateId) []).left _ _ = _
      rw [left_nextFan]
      simp
  | cons redirection rest =>
      simp only [nextRedirection, PipelineTask.left, List.length_cons]
      omega

end

/-- There is at most one redirection for each route of the gate. -/
theorem generateRedirections_length (localeCompare : String → String → Ordering)
    (originGate : Gate) (forecastsByGate : OrderedMap GateId ForecastResult)
    (routes : List ShuttleRoute) (rejections : List RejectionRecord) (now : ℤ) :
    (generateRedirections localeCompare originGate forecastsByGate routes rejections now).length ≤
      (routesOf originGate routes).length := by
  have sub : ((generateRedirections localeCompare originGate forecastsByGate routes rejections
      now).map (·.routeId)).Sublist ((routesOf originGate routes).map (·.routeId)) :=
    generateRedirections_sublist
  have shorter := sub.length_le
  rwa [List.length_map, List.length_map] at shorter

/-- A resumption takes one off what is left, or more. -/
theorem left_resume (task : PipelineTask) (s : PipelineState) :
    ((resume deps task s).successors.map
      (PipelineTask.left deps.routes s.intake.fansByGate)).sum <
        task.left deps.routes s.intake.fansByGate := by
  have one (t : PipelineState) (next : PipelineTask) :
      ((continueWith t next).successors.map
        (PipelineTask.left deps.routes s.intake.fansByGate)).sum =
          next.left deps.routes s.intake.fansByGate := by
    simp [continueWith, Stretch.successors]
  cases task with
  | computing gate window =>
      rw [resume_computing, one]
      simp only [PipelineTask.left]
      omega
  | publishingForecast computation =>
      simp [resume, publishForecast, onCongestionScore, Stretch.successors, PipelineTask.left]
  | advising update =>
      have few := generateRedirections_length deps.localeCompare update.gate
        s.forecasts.forecastsByGate deps.routes
        (s.redirections.getRecentRejections s.intake.clock) update.now
      have next := left_nextRedirection deps.routes s update
        (generateRedirections deps.localeCompare update.gate s.forecasts.forecastsByGate
          deps.routes (s.redirections.getRecentRejections s.intake.clock) update.now)
      rw [show resume deps (.advising update) s = continueWith s _ from rfl, one, next]
      simp only [PipelineTask.left, updateWork]
      omega
  | publishingRedirection update redirection rest =>
      rw [show resume deps (.publishingRedirection update redirection rest) s =
        continueWith _ (nextRedirection _ update rest) from rfl, one]
      refine (left_nextRedirection deps.routes _ update rest).trans_lt ?_
      simp only [PipelineTask.left]
      omega
  | decidingNudge update fan lastNudgeAt rest generated =>
      simp only [resume, decideNudge]
      split
      · rw [one, left_nextFan]
        simp only [PipelineTask.left]
        omega
      · rw [one]
        simp only [PipelineTask.left]
        omega
  | nudgeEnqueued update rest generated =>
      rw [show resume deps (.nudgeEnqueued update rest generated) s =
        continueWith s (nextFan update rest generated) from rfl, one, left_nextFan]
      simp only [PipelineTask.left]
      omega
  | publishingNudges nudges => simp [resume, finish, Stretch.successors, PipelineTask.left]
  | locatingAction gateId actionId userId now actions =>
      simp only [resume, locateAction]
      split
      · simp [finish, Stretch.successors, PipelineTask.left]
      · rw [one]
        simp [PipelineTask.left]
  | returningAction updated => simp [resume, finish, Stretch.successors, PipelineTask.left]
  | _ =>
      simp only [resume, one, PipelineTask.left]
      omega

/-- What is left for the pipeline's tasks. -/
def cost : Cost (system deps) (·.intake.fansByGate) where
  cost fansByGate task := task.left deps.routes fansByGate
  kept task s := congrArg _ (resume_intake deps task s)
  spends := left_resume deps

/-- **Done within a bound.** While nothing arrives, the pipeline makes at most as
many resumptions as are left for its suspended tasks, and whoever is resumed next,
after that many nothing is suspended. A recompute has nine of its own, two for
each of the gate's routes and five for each of its fans. -/
theorem pipeline_done_within (c : Config PipelineState PipelineTask) :
    (∀ schedule : Schedule, (system deps).Guarded Resumes c schedule →
      schedule.length ≤
        (c.suspended.map (PipelineTask.left deps.routes c.shared.intake.fansByGate)).sum) ∧
    ∀ pick : Config PipelineState PipelineTask → ℕ,
      (∀ c, c.suspended ≠ [] → pick c < c.suspended.length) →
      ∃ n ≤ (c.suspended.map (PipelineTask.left deps.routes c.shared.intake.fansByGate)).sum,
        ((fun c => (system deps).step c (.resume (pick c)))^[n] c).suspended = [] := by
  refine ⟨fun schedule guarded => ?_, fun pick suspended =>
    (cost deps).rank.drains_within pick suspended c⟩
  have within := (cost deps).rank.length_add_rank_le guarded
  exact (Nat.le_add_right _ _).trans within

end Pipeline

/-! ## The other tasks of the process -/

namespace FanNudgeDeliveryWorker

/-- What a run has left once it has its snapshot; before that it may be anything. -/
def left : DeliveryTask → ℕ
  | .readingQueue _ => 0
  | .delivering _ queued => 1 + 3 * queued.length
  | .updatingNudge _ _ _ _ rest => 3 + 3 * rest.length
  | .recordingOutcome _ _ _ rest => 2 + 3 * rest.length

/-- A run without its snapshot. -/
def unread : DeliveryTask → ℕ
  | .readingQueue _ => 1
  | _ => 0

/-- The loop goes on with a part of what it has. -/
theorem left_nextNudge (forecastsByGate : OrderedMap GateId ForecastResult) (now : ℤ)
    (queued : List FanNudge) :
    ∀ next ∈ nextNudge forecastsByGate now queued,
      unread next = 0 ∧ left next ≤ 3 * queued.length := by
  induction queued with
  | nil => simp [nextNudge]
  | cons nudge rest ih =>
      intro next found
      unfold nextNudge at found
      split at found
      · obtain ⟨read, fewer⟩ := ih next found
        refine ⟨read, ?_⟩
        rw [List.length_cons]
        omega
      · cases found
        refine ⟨rfl, ?_⟩
        simp only [left, List.length_cons]
        omega

/-- A run reads the queue, and then it works it off. -/
def staged {ν : Type*} (view : PipelineState → ν)
    (kept : ∀ task s, view (resume task s).shared = view s) : Staged system view where
  stage := unread
  cost _ := left
  kept := kept
  descends task s := by
    cases task with
    | readingQueue now => left; simp [system, resume, Stretch.successors, unread]
    | delivering now queued =>
        right
        have bounded := left_nextNudge s.forecasts.forecastsByGate now queued
        cases next : nextNudge s.forecasts.forecastsByGate now queued with
        | none => simp [system, resume, Stretch.successors, next, unread, left]
        | some task =>
            obtain ⟨read, fewer⟩ := bounded task next
            have spent : left task < left (.delivering now queued) := by
              show left task < 1 + 3 * queued.length
              omega
            have idle : unread (.delivering now queued) = 0 := rfl
            simpa [system, resume, Stretch.successors, next, read, idle] using spent
    | updatingNudge now nudge updated deliveryRecord rest =>
        right
        simp [system, resume, Stretch.successors, unread, left]
    | recordingOutcome now updated deliveryRecord rest =>
        right
        simp [system, resume, Stretch.successors, unread, left]

end FanNudgeDeliveryWorker

namespace DataQualityCheck

/-- The sources that are still to be asked, and the steps between. -/
def left : DataQualityTask → ℕ
  | .readingStatus _ sources _ => sources.length + 5
  | .readingAgain _ sources _ _ => sources.length + 1

def cost {ν : Type*} (gates : List Gate) (view : PipelineState → ν)
    (kept : ∀ task s, view (resume task s).shared = view s) : Cost (system gates) view where
  cost _ := left
  kept := kept
  spends task s := by
    cases task with
    | readingStatus gateId sources statuses =>
        cases sources <;> simp [system, resume, Stretch.successors, left, allSourceTypes]
    | readingAgain gateId sources statuses again =>
        cases sources <;> simp [system, resume, Stretch.successors, left]

end DataQualityCheck

namespace ShuttleRedirectionApi

/-- The suspensions a decision still comes to. -/
def left : DecisionTask → ℕ
  | .finding .. => 5
  | .found .. => 4
  | .storing .. => 3
  | .recordingRejection _ => 2
  | .returning .. => 1

def cost {ν : Type*} (view : PipelineState → ν)
    (kept : ∀ task s, view (resume task s).shared = view s) : Cost system view where
  cost _ := left
  kept := kept
  spends task s := by
    cases task with
    | finding decision routeId recommendationId dispatcherId now =>
        cases found : s.redirections.findRecommendation routeId recommendationId <;>
          simp [system, resume, Stretch.successors, found, left]
    | found decision recommendation dispatcherId now =>
        simp [system, resume, Stretch.successors, left]
    | storing decision updated =>
        cases decision <;> simp [system, resume, Stretch.successors, left]
    | recordingRejection updated => simp [system, resume, Stretch.successors, left]
    | returning decision updated =>
        cases decision <;> simp [system, resume, Stretch.successors, left]

end ShuttleRedirectionApi

namespace Pipeline

variable (deps : PipelineDependencies)

/-- The pipeline, its timers' tasks and the calls of the dispatchers. -/
def withDispatchers : TaskSystem PipelineState (ServerTask ⊕ DecisionTask)
    (ServerStimulus ⊕ DecisionStimulus) :=
  (server deps).sum ShuttleRedirectionApi.system

theorem resume_fansByGate_delivery (task : DeliveryTask) (s : PipelineState) :
    (FanNudgeDeliveryWorker.resume task s).shared.intake.fansByGate = s.intake.fansByGate := by
  cases task <;> rfl

theorem resume_fansByGate_check (task : DataQualityTask) (s : PipelineState) :
    (DataQualityCheck.resume task s).shared.intake.fansByGate = s.intake.fansByGate := by
  cases task with
  | readingStatus gateId sources statuses => cases sources <;> rfl
  | readingAgain gateId sources statuses again => cases sources <;> rfl

theorem resume_fansByGate_decision (task : DecisionTask) (s : PipelineState) :
    (ShuttleRedirectionApi.resume task s).shared.intake.fansByGate = s.intake.fansByGate := by
  cases task with
  | finding decision routeId recommendationId dispatcherId now =>
      simp only [ShuttleRedirectionApi.resume]
      split <;> rfl
  | found decision recommendation dispatcherId now => rfl
  | storing decision updated => cases decision <;> rfl
  | recordingRejection updated => rfl
  | returning decision updated => cases decision <;> rfl

def staged : Staged (withDispatchers deps) (·.intake.fansByGate) :=
  ((cost deps).staged.sum
    ((FanNudgeDeliveryWorker.staged _ resume_fansByGate_delivery).sum
      (DataQualityCheck.cost deps.gates _ resume_fansByGate_check).staged)).sum
    (ShuttleRedirectionApi.cost _ resume_fansByGate_decision).staged

/-- **The process comes to rest.** While no request arrives and no timer fires,
whoever is resumed next, nothing is suspended in the end, and the number of
resumptions is bounded over all schedules. -/
theorem server_comes_to_rest (c : Config PipelineState (ServerTask ⊕ DecisionTask)) :
    (∀ pick : Config PipelineState (ServerTask ⊕ DecisionTask) → ℕ,
      (∀ c, c.suspended ≠ [] → pick c < c.suspended.length) →
      ∃ n, ((fun c => (withDispatchers deps).step c (.resume (pick c)))^[n] c).suspended = []) ∧
    ∃ bound, ∀ schedule : List (Choice (ServerStimulus ⊕ DecisionStimulus)),
      (withDispatchers deps).Guarded Resumes c schedule → schedule.length ≤ bound :=
  ⟨fun pick suspended => (staged deps).rank.drains_under pick suspended c,
    (staged deps).rank.exists_bound c⟩

end Pipeline

end Stadium
