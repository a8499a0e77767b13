import Stadium.Lib.RecordStore
import Stadium.Pipeline.DecisionTrail
import Stadium.Pipeline.NudgeAudit
import Stadium.RecommendationEngine.ActionIds

/-!
# The records of generated actions

Two score updates share their action ids exactly if gate and time of one read like
gate and time of the other with a hyphen in between, which they always do when a gate
gets two updates of one forecast time. The audit stores an action under its id: where no two
updates read alike, it holds each published action as it was generated.
-/

namespace Stadium

open Interleaving TaskSystem

/-- What happens to the actions of a score update. -/
inductive ActionEvent where
  | generated (update : ScoreUpdate) (window : List SignalEvent)
  | published (actions : List RecommendedAction)

namespace ActionEvent

/-- The score update, if it is above LOW and generates actions. -/
def recommends? : ActionEvent → Option ScoreUpdate
  | .generated update _ => if update.result.currentRiskLevel = .low then none else some update
  | .published _ => none

def generatedActions : ActionEvent → List RecommendedAction
  | .generated update window => generateRecommendations update.gate update.result window
  | .published _ => []

def publishedActions : ActionEvent → List RecommendedAction
  | .generated .. => []
  | .published actions => actions

end ActionEvent

/-- The score updates above LOW. -/
def recommendingUpdates (events : List ActionEvent) : List ScoreUpdate :=
  events.filterMap ActionEvent.recommends?

def generatedActions (events : List ActionEvent) : List RecommendedAction :=
  events.flatMap ActionEvent.generatedActions

def publishedActions (events : List ActionEvent) : List RecommendedAction :=
  events.flatMap ActionEvent.publishedActions

theorem generatedActions_append (first second : List ActionEvent) :
    generatedActions (first ++ second) = generatedActions first ++ generatedActions second :=
  List.flatMap_append

theorem publishedActions_append (first second : List ActionEvent) :
    publishedActions (first ++ second) = publishedActions first ++ publishedActions second :=
  List.flatMap_append

/-- Gate and time of one update do not read like gate and time of the other. -/
def ScoreUpdate.Apart (a b : ScoreUpdate) : Prop :=
  ¬ Text.ReadsLike '-' a.gate.gateId a.result.generatedAt b.gate.gateId b.result.generatedAt

/-! ## The ids -/

/-- Times that are texts of instants leave no room for confusion, whatever the
gates are called. -/
theorem ScoreUpdate.apart_iff_of_toISOString {a b : ScoreUpdate} {instant instant' : ℤ}
    (first : a.result.generatedAt = IsoDate.toISOString instant)
    (second : b.result.generatedAt = IsoDate.toISOString instant') :
    a.Apart b ↔ ¬ (a.gate.gateId = b.gate.gateId ∧ instant = instant') := by
  unfold Apart
  rw [first, second, ← Text.join_eq_join_iff, IsoDate.join_toISOString_inj]

/-- The ids a score update above LOW gives its actions. -/
def ScoreUpdate.actionIds (update : ScoreUpdate) : List String :=
  candidateActionTypes.map (actionIdOf update.gate.gateId update.result.generatedAt)

theorem ScoreUpdate.disjoint_actionIds (a b : ScoreUpdate) :
    a.actionIds.Disjoint b.actionIds ↔ a.Apart b := by
  constructor
  · intro disjoint alike
    have shared := actionIdOf_eq_iff.mpr ⟨alike, Eq.refl ActionType.openGateLane⟩
    refine disjoint (List.mem_map_of_mem (List.mem_cons_self)) ?_
    rw [shared]
    exact List.mem_map_of_mem List.mem_cons_self
  · intro apart id mine yours
    obtain ⟨actionType, -, rfl⟩ := List.mem_map.mp mine
    obtain ⟨other, -, same⟩ := List.mem_map.mp yours
    exact apart (actionIdOf_eq_iff.mp same.symm).1

theorem generatedActions_ids (events : List ActionEvent) :
    ((generatedActions events).map (·.actionId)).Perm
      ((recommendingUpdates events).flatMap ScoreUpdate.actionIds) := by
  induction events with
  | nil => exact .refl _
  | cons event rest ih =>
      cases event with
      | published actions => exact ih
      | generated update window =>
          have first := generateRecommendations_ids update.gate update.result window
          show ((generateRecommendations update.gate update.result window ++
            generatedActions rest).map (·.actionId)).Perm _
          rw [List.map_append]
          refine (first.append ih).trans (.of_eq ?_)
          unfold generatedIds
          by_cases low : update.result.currentRiskLevel = .low
          · simp [recommendingUpdates, ActionEvent.recommends?, low]
          · simp [recommendingUpdates, ActionEvent.recommends?, low, ScoreUpdate.actionIds]

/-- Generated actions have different ids exactly if their updates are pairwise
apart. -/
theorem nodup_actionIds_iff (events : List ActionEvent) :
    ((generatedActions events).map (·.actionId)).Nodup ↔
      (recommendingUpdates events).Pairwise ScoreUpdate.Apart := by
  rw [(generatedActions_ids events).nodup_iff, List.nodup_flatMap]
  have own : ∀ update ∈ recommendingUpdates events, update.actionIds.Nodup := by
    intro update _
    exact List.Nodup.map (actionIdOf_injective _ _) (by decide)
  rw [and_iff_right own]
  exact List.Pairwise.iff ScoreUpdate.disjoint_actionIds

/-! ## The audit -/

namespace PipelineTask

/-- The generated actions the task carries. -/
def carriedActions : PipelineTask → List RecommendedAction
  | .storingActions _ actions => actions
  | .publishingActions _ actions => actions
  | _ => []

end PipelineTask

namespace Pipeline

variable (deps : PipelineDependencies)

/-- Notes when actions are generated and when they are published. -/
def actionEvents : Observer PipelineState (PipelineTask ⊕ DeliveryTask)
    (PipelineStimulus ⊕ DeliveryStimulus) ActionEvent where
  onStimulus _ _ := []
  onResume
    | .inl (.recommending update window), _ => [.generated update window]
    | .inl (.publishingActions _ actions), _ => [.published actions]
    | _, _ => []

/-- What happens to actions along a schedule. -/
def actionEventsAlong (startedAt : ℤ) (schedule : WorkerSchedule) : List ActionEvent :=
  (withWorker deps).trace actionEvents ⟨.wired startedAt, []⟩ schedule

/-- A score update hands its actions on, and carries only what it has
generated. -/
theorem carriedActions_resume (task : PipelineTask) (s : PipelineState) :
    ∀ next ∈ (resume deps task s).continued.toList ++ (resume deps task s).started,
      ∀ action ∈ next.carriedActions, action ∈ task.carriedActions ∨
        action ∈ generatedActions (actionEvents.onResume (.inl task) s) := by
  intro next member action carried
  have follows := resume_follows deps task s next member
  cases task with
  | recommending update window =>
      rw [List.mem_singleton.mp member] at carried
      refine .inr ?_
      simpa [actionEvents, generatedActions, ActionEvent.generatedActions,
        PipelineTask.carriedActions] using carried
  | storingActions update actions =>
      rw [List.mem_singleton.mp member] at carried
      exact .inl carried
  | _ => cases follows <;> exact absurd carried List.not_mem_nil

/-- The handlers carry generated actions only, and the audit keeps the published
ones. -/
structure ActionRecordsInv (s : PipelineState) (handlers : List PipelineTask)
    (events : List ActionEvent) : Prop where
  carried : ∀ task ∈ handlers, ∀ action ∈ task.carriedActions, action ∈ generatedActions events
  audit : s.audit.actions.Keeps (·.actionId) id (generatedActions events) (publishedActions events)

namespace ActionRecordsInv

variable {s : PipelineState} {handlers before after : List PipelineTask} {task : PipelineTask}
  {events : List ActionEvent}

theorem wired (startedAt : ℤ) : ActionRecordsInv (.wired startedAt) [] [] where
  carried := by simp
  audit := .empty

/-- A step that leaves the audited actions alone and publishes none. -/
theorem congr (inv : ActionRecordsInv s handlers events) {t : PipelineState}
    {handlers' : List PipelineTask} {notes : List ActionEvent}
    (audit : t.audit.actions = s.audit.actions) (silent : publishedActions notes = [])
    (carried : ∀ task ∈ handlers', ∀ action ∈ task.carriedActions,
      action ∈ generatedActions (events ++ notes)) :
    ActionRecordsInv t handlers' (events ++ notes) where
  carried := carried
  audit := by
    rw [audit, publishedActions_append, generatedActions_append, silent, List.append_nil]
    exact inv.audit.grow (List.subset_append_left _ _)

theorem carried_resumed (inv : ActionRecordsInv s (before ++ task :: after) events) :
    ∀ next ∈ resumed (system deps) before task after s, ∀ action ∈ next.carriedActions,
      action ∈ generatedActions (events ++ actionEvents.onResume (.inl task) s) := by
  rw [generatedActions_append]
  exact carried_mem_resumed inv.carried (carriedActions_resume deps task s)

/-- A step of the pipeline. -/
theorem pipeline (inv : ActionRecordsInv s (before ++ task :: after) events) :
    ActionRecordsInv (resume deps task s).shared (resumed (system deps) before task after s)
      (events ++ actionEvents.onResume (.inl task) s) := by
  have carried := inv.carried_resumed deps
  cases task with
  | publishingActions update actions =>
      have own : ∀ action ∈ actions, action ∈ generatedActions events ∧ id action = action :=
        fun action member => ⟨inv.carried (.publishingActions update actions) (by simp) action
          member, rfl⟩
      have written := inv.audit.writeAll own
      refine ⟨carried, ?_⟩
      rw [generatedActions_append, publishedActions_append]
      simpa [actionEvents, generatedActions, publishedActions, ActionEvent.generatedActions,
        ActionEvent.publishedActions, resume, continueWith] using written
  -- copies a recommendation, not an action
  | publishingRedirection => exact inv.congr rfl rfl carried
  | _ => exact inv.congr (resume_copies_other deps rfl s).1 rfl carried

end ActionRecordsInv

theorem actionRecordsInv_after (startedAt : ℤ) (schedule : WorkerSchedule) :
    ActionRecordsInv (afterWorker deps startedAt schedule).shared
      (lefts (afterWorker deps startedAt schedule).suspended)
      ([] ++ actionEventsAlong deps startedAt schedule) := by
  let Kept : PipelineState → List PipelineTask → List DeliveryTask → List ActionEvent → Prop :=
    fun s handlers _ events => ActionRecordsInv s handlers events
  suffices kept : Kept (afterWorker deps startedAt schedule).shared
      (lefts (afterWorker deps startedAt schedule).suspended)
      (rights (afterWorker deps startedAt schedule).suspended)
      ([] ++ actionEventsAlong deps startedAt schedule) from kept
  refine sum_invariant _ _ actionEvents ?_ ?_ ?_ ?_ (ActionRecordsInv.wired startedAt)
    ((withWorker deps).guarded_trivial _ schedule)
  · intro s tasks events stimulus inv _
    refine inv.congr (stimulate_copies deps stimulus s).1 rfl ?_
    intro task member action carried
    rcases List.mem_append.mp member with old | new
    · rw [generatedActions_append]
      exact List.mem_append_left _ (inv.carried task old action carried)
    · cases stimulate_starts deps stimulus s task new <;> exact absurd carried List.not_mem_nil
  · intro s tasks events stimulus inv _
    cases stimulus with
    | interval => exact inv.congr rfl rfl (by simpa [actionEvents] using inv.carried)
  · intro s before task after events inv _
    exact inv.pipeline deps
  · intro s before task after events inv _
    have audit : (FanNudgeDeliveryWorker.resume task s).shared.audit.actions =
        s.audit.actions := by
      cases task <;> rfl
    refine inv.congr audit ?_ ?_
    · rfl
    · simpa [actionEvents] using inv.carried

/-- Where the updates are apart, the audit holds every published action. -/
theorem publishedActions_kept (startedAt : ℤ) (schedule : WorkerSchedule)
    (apart : (recommendingUpdates (actionEventsAlong deps startedAt schedule)).Pairwise
      ScoreUpdate.Apart) :
    ∀ action ∈ publishedActions (actionEventsAlong deps startedAt schedule),
      (afterWorker deps startedAt schedule).shared.audit.actions.get? action.actionId =
        some action := by
  have inv := actionRecordsInv_after deps startedAt schedule
  rw [List.nil_append] at inv
  intro action published
  have shown := inv.audit.shows (fun _ => rfl) ((nodup_actionIds_iff _).mpr apart) action published
  rwa [Option.map_id_apply] at shown

end Pipeline

end Stadium
