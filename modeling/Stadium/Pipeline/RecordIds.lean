import Stadium.Pipeline.ActionRecords
import Stadium.Pipeline.NudgeRecords

/-!
# Records that never collide

Two generations are two records: they should have different ids, and the
stores keyed by the ids should show each of them. That is so in a run exactly
if its score updates are apart (`records_apart_iff`). They are not when a gate
gets two updates in one millisecond, however its name is spelled: the actions
of the second take the place of those of the first in the audit.
-/

namespace Stadium

open Interleaving TaskSystem

/-- No two generated records share an id, and each stays in the stores it was
written to. -/
structure RecordsApart (s : PipelineState) (actions : List ActionEvent)
    (nudges : List NudgeEvent) : Prop where
  nudgeIds : ((generatedNudges nudges).map (·.nudgeId)).Nodup
  actionIds : ((generatedActions actions).map (·.actionId)).Nodup
  queued : ∀ nudge ∈ enqueuedNudges nudges,
    (s.nudges.queuedNudgeStore.get? nudge.nudgeId).map FanNudge.asGenerated = some nudge
  nudgesAudited : ∀ nudge ∈ publishedNudges nudges,
    (s.audit.nudges.get? nudge.nudgeId).map FanNudge.asGenerated = some nudge
  actionsAudited : ∀ action ∈ publishedActions actions,
    s.audit.actions.get? action.actionId = some action

namespace Pipeline

variable (deps : PipelineDependencies)

/-- **When records never collide.** After any schedule of the pipeline and of
the delivery worker, the generated records have different ids and are all in
place exactly if no two nudges are for one instant with fan and gate that read
alike, and no two score updates above LOW have gate and time that read
alike. -/
theorem records_apart_iff (startedAt : ℤ) (schedule : WorkerSchedule) :
    RecordsApart (afterWorker deps startedAt schedule).shared
        (actionEventsAlong deps startedAt schedule) (nudgeEventsAlong deps startedAt schedule) ↔
      (nudgeOrigins (nudgeEventsAlong deps startedAt schedule)).Pairwise NudgeOrigin.Apart ∧
        (recommendingUpdates (actionEventsAlong deps startedAt schedule)).Pairwise
          ScoreUpdate.Apart := by
  have inv := nudgeRecordsInv_after deps startedAt schedule
  rw [List.nil_append] at inv
  constructor
  · intro apart
    exact ⟨(nodup_nudgeIds_iff inv.faithful).mp apart.nudgeIds,
      (nodup_actionIds_iff _).mp apart.actionIds⟩
  · rintro ⟨origins, updates⟩
    have distinct := (nodup_nudgeIds_iff inv.faithful).mpr origins
    exact {
      nudgeIds := distinct
      actionIds := (nodup_actionIds_iff _).mpr updates
      queued := inv.queue.shows (fun _ => rfl) distinct
      nudgesAudited := inv.audit.shows (fun _ => rfl) distinct
      actionsAudited := publishedActions_kept deps startedAt schedule updates }

/-- Gate A gets crowded, and a second count arrives in the same
millisecond. -/
def countedTwice : WorkerSchedule :=
  (([.stimulus (.signalEvent (demoReading "crowd" 400 "1970-01-01T00:00:00.000Z"))] : Schedule) ++
    resumes 0 9 ++
    ([.stimulus (.signalEvent (demoReading "again" 400 "1970-01-01T00:00:00.000Z"))] : Schedule) ++
    resumes 0 9).map (Choice.map .inl)

/-- Both updates generate actions of the same ids, and the audit no longer holds
what the first one published. Nor can a nudge for the fan `fan-1-gate` at gate
`a` be told from one for `fan-1` at `gate-a`. -/
theorem records_collide :
    (recommendingUpdates (actionEventsAlong demoDependencies 0 countedTwice)).length = 2 ∧
      ¬ ((generatedActions (actionEventsAlong demoDependencies 0 countedTwice)).map
        (·.actionId)).Nodup ∧
      (∃ action ∈ publishedActions (actionEventsAlong demoDependencies 0 countedTwice),
        (afterWorker demoDependencies 0 countedTwice).shared.audit.actions.get?
          action.actionId ≠ some action) ∧
      (NudgeOrigin.mk "fan-1-gate" "a" 0).nudgeId =
        (NudgeOrigin.mk "fan-1" "gate-a" 0).nudgeId := by
  decide +kernel

end Pipeline

end Stadium
