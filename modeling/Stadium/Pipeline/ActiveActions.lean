import Stadium.Infra.Topology
import Stadium.Pipeline.Machine

/-!
# No update of an action list is lost, when updates do not overlap

`executeAction` reads a gate's action list, waits, and writes the whole list
back with one action marked; a regeneration overwrites the list. A write-back
that started from an older list undoes what happened in between, such as
another execution (`overlapping_executions_lose_a_mark`). Where every
write-back meets the list it was made from, no action is executed twice, and
the regeneration of the newest score comes last, the list is that of the
newest score and shows every execution (`no_update_lost`).
-/

namespace Stadium

open Interleaving TaskSystem

/-- `action` shows the execution that `executed` records. -/
def RecommendedAction.Shows (action executed : RecommendedAction) : Prop :=
  action.executedAt = executed.executedAt ∧
    action.executedByUserId = executed.executedByUserId

instance (action executed : RecommendedAction) : Decidable (action.Shows executed) :=
  inferInstanceAs (Decidable (_ ∧ _))

/-- The result published last for a gate. -/
def ForecastState.lastPublished (s : ForecastState) (gateId : GateId) : Option ForecastResult :=
  (s.published.filter fun message => message.gate.gateId = gateId).getLast?.map (·.result)

/-- A list of actions about to be stored for a score. -/
structure ActionsToStore where
  gateId : GateId
  actions : List RecommendedAction

/-- A list about to be written back with one action marked. -/
structure ActionsToWrite where
  gateId : GateId
  actions : List RecommendedAction
  updated : RecommendedAction

namespace PipelineTask

def stores? : PipelineTask → Option ActionsToStore
  | .storingActions update actions => some ⟨update.gate.gateId, actions⟩
  | _ => none

def writesBack? : PipelineTask → Option ActionsToWrite
  | .writingActions gateId actions _ updated => some ⟨gateId, actions, updated⟩
  | _ => none

/-- The result of a score of the gate whose list is still to be stored. -/
def regenerates? (gateId : GateId) : PipelineTask → Option ForecastResult
  | .raisingAlert update | .recommending update _ | .storingActions update _ =>
      if update.gate.gateId = gateId then some update.result else none
  | _ => none

/-- The record an `executeAction` call is about to return. -/
def returns? : PipelineTask → Option RecommendedAction
  | .returningAction updated => some updated
  | _ => none

/-- What is known of the lists a task carries. -/
def CarriesOwnActions : PipelineTask → Prop
  | .storingActions update actions =>
      ∃ window, actions = generateRecommendations update.gate update.result window
  | .locatingAction gateId _ _ _ actions => ∀ action ∈ actions, action.gateId = gateId
  | .writingActions gateId actions index updated =>
      (∀ action ∈ actions, action.gateId = gateId) ∧ updated.gateId = gateId ∧
        ∃ found, actions[index]? = some found ∧ found.actionId = updated.actionId
  | _ => True

end PipelineTask

namespace Pipeline

variable (deps : PipelineDependencies) {gateId : GateId}

/-- The scores of a gate whose lists are still to be stored, oldest first. -/
def regenerations (gateId : GateId) (tasks : List PipelineTask) : List ForecastResult :=
  tasks.filterMap (·.regenerates? gateId)

/-- The executions of a gate's actions, returned or about to be. -/
def executions (gateId : GateId) (c : Config PipelineState PipelineTask) :
    List RecommendedAction :=
  (c.shared.actions.executed ++ c.suspended.filterMap PipelineTask.returns?).filter
    fun record => record.gateId = gateId

/-- The list of the newest score of the gate is stored last, over no executed
action of its own; and an execution is written over the list it was made from,
in which its action was not executed before. -/
def ActionsUndisturbed (gateId : GateId) (c : Config PipelineState PipelineTask) :
    Choice PipelineStimulus → Prop
  | .stimulus _ => True
  | .resume position =>
      (∀ store ∈ (c.suspended[position]?).bind PipelineTask.stores?, store.gateId = gateId →
        (regenerations gateId (c.suspended.take position) = [] ∨
          regenerations gateId (c.suspended.drop (position + 1)) ≠ []) ∧
        ∀ action ∈ store.actions, ∀ record ∈ executions gateId c,
          record.actionId ≠ action.actionId) ∧
      ∀ write ∈ (c.suspended[position]?).bind PipelineTask.writesBack?, write.gateId = gateId →
        c.shared.actions.getActiveActions gateId = write.actions ∧
          ∀ record ∈ executions gateId c, record.actionId ≠ write.updated.actionId

instance (gateId : GateId) (c : Config PipelineState PipelineTask) :
    ∀ choice, Decidable (ActionsUndisturbed gateId c choice)
  | .stimulus _ => isTrue trivial
  | .resume _ => inferInstanceAs (Decidable ((∀ store ∈ _, _ → (_ ∨ _) ∧ _) ∧
      ∀ write ∈ _, _ → _ ∧ _))

/-- The list of a gate has the ids of its newest score, and its actions show
the executions that returned a record. -/
structure NoUpdateLost (gateId : GateId) (s : PipelineState) : Prop where
  listed : ((s.actions.getActiveActions gateId).map (·.actionId)).Perm
    (((s.forecasts.lastPublished gateId).map (generatedIds gateId)).getD [])
  shown : ∀ action ∈ s.actions.getActiveActions gateId, ∀ record ∈ s.actions.executed,
    record.gateId = gateId → record.actionId = action.actionId → action.Shows record

/-- Every list holds actions of its own gate. -/
structure ListsOwned (c : Config PipelineState PipelineTask) : Prop where
  lists : ∀ gateId, ∀ action ∈ c.shared.actions.getActiveActions gateId, action.gateId = gateId
  tasks : ∀ task ∈ c.suspended, task.CarriesOwnActions

structure ActionInv (gateId : GateId) (c : Config PipelineState PipelineTask) : Prop
    extends ListsOwned c where
  newest : ∀ result, (regenerations gateId c.suspended).getLast? = some result →
    c.shared.forecasts.lastPublished gateId = some result
  listed : regenerations gateId c.suspended = [] →
    ((c.shared.actions.getActiveActions gateId).map (·.actionId)).Perm
      (((c.shared.forecasts.lastPublished gateId).map (generatedIds gateId)).getD [])
  distinct : ((c.shared.actions.getActiveActions gateId).map (·.actionId)).Nodup
  shown : ∀ action ∈ c.shared.actions.getActiveActions gateId,
    ∀ record ∈ executions gateId c, record.actionId = action.actionId → action.Shows record

/-! ## What a stretch has to preserve -/

theorem mem_executions {c : Config PipelineState PipelineTask} {record : RecommendedAction} :
    record ∈ executions gateId c ↔
      record.gateId = gateId ∧ (record ∈ c.shared.actions.executed ∨
        record ∈ c.suspended.filterMap PipelineTask.returns?) := by
  unfold executions
  rw [List.mem_filter, List.mem_append, decide_eq_true_iff, and_comm]

theorem actionInv_wired (startedAt : ℤ) : ActionInv gateId ⟨.wired startedAt, []⟩ where
  lists := by simp [PipelineState.wired, ActionState.getActiveActions]
  tasks := by simp
  newest := by simp [regenerations]
  listed := fun _ => List.Perm.refl _
  distinct := List.nodup_nil
  shown := by simp [PipelineState.wired, ActionState.getActiveActions]

/-- The invariant depends on the stored lists, the scores published, the
regenerations to come and the executions. -/
theorem ActionInv.congr {c c' : Config PipelineState PipelineTask} (inv : ActionInv gateId c)
    (stored : c'.shared.actions.activeActionsStore = c.shared.actions.activeActionsStore)
    (last : c'.shared.forecasts.lastPublished gateId = c.shared.forecasts.lastPublished gateId)
    (regenerated : regenerations gateId c'.suspended = regenerations gateId c.suspended)
    (executed : ∀ record ∈ executions gateId c', record ∈ executions gateId c)
    (tasks : ∀ task ∈ c'.suspended, task.CarriesOwnActions) : ActionInv gateId c' := by
  have lists : ∀ g, c'.shared.actions.getActiveActions g =
      c.shared.actions.getActiveActions g := by
    intro g
    unfold ActionState.getActiveActions
    rw [stored]
  refine ⟨⟨?_, tasks⟩, ?_, ?_, ?_, ?_⟩
  · intro g
    rw [lists]
    exact inv.lists g
  · rw [regenerated, last]
    exact inv.newest
  · rw [regenerated, last, lists]
    exact inv.listed
  · rw [lists]
    exact inv.distinct
  · rw [lists]
    exact fun action member record known => inv.shown action member record (executed record known)

theorem lastPublished_congr {s s' : ForecastState} (published : s'.published = s.published) :
    s'.lastPublished gateId = s.lastPublished gateId := by
  unfold ForecastState.lastPublished
  rw [published]

theorem lastPublished_onCongestionScore (gateId : GateId) (s : PipelineState)
    (message : CongestionScoreMessage) :
    (onCongestionScore s message).1.forecasts.lastPublished gateId =
      if message.gate.gateId = gateId then some message.result
      else s.forecasts.lastPublished gateId := by
  unfold onCongestionScore recordScore ForecastState.lastPublished
  dsimp only
  rw [List.filter_append, List.filter_singleton]
  by_cases mine : message.gate.gateId = gateId <;> simp [mine]

theorem regenerations_onCongestionScore (gateId : GateId) (s : PipelineState)
    (message : CongestionScoreMessage) :
    regenerations gateId (onCongestionScore s message).2 =
      if message.gate.gateId = gateId then [message.result] else [] := by
  unfold onCongestionScore regenerations
  by_cases mine : message.gate.gateId = gateId <;> simp [PipelineTask.regenerates?, mine]

section Stretches

variable {s s' : PipelineState} {before after : List PipelineTask} {task next : PipelineTask}

/-- A task moves on without touching lists, publications or executions. -/
theorem ActionInv.move (inv : ActionInv gateId ⟨s, before ++ task :: after⟩)
    (actions : s'.actions = s.actions) (forecasts : s'.forecasts = s.forecasts)
    (regenerates : next.regenerates? gateId = task.regenerates? gateId)
    (returns : next.returns? = task.returns?) (own : next.CarriesOwnActions) :
    ActionInv gateId ⟨s', before ++ next :: after⟩ := by
  refine inv.congr (congrArg (·.activeActionsStore) actions)
    (congrArg (·.lastPublished gateId) forecasts) ?_ ?_ (forall_mem_replace inv.tasks own)
  · unfold regenerations
    rw [filterMap_middle, filterMap_middle, regenerates]
  · intro record
    rw [mem_executions, mem_executions, filterMap_middle, filterMap_middle, returns]
    dsimp only
    rw [actions]
    exact id

/-- A score is published: its list is now the one to come last. -/
theorem ActionInv.publish {tasks : List PipelineTask} {message : CongestionScoreMessage}
    (inv : ActionInv gateId ⟨s, tasks⟩) (actions : s'.actions = s.actions)
    (published : s'.forecasts.published = s.forecasts.published) :
    ActionInv gateId
      ⟨(onCongestionScore s' message).1, tasks ++ (onCongestionScore s' message).2⟩ := by
  have same : (onCongestionScore s' message).1.actions = s.actions := actions
  have last := lastPublished_onCongestionScore gateId s' message
  rw [lastPublished_congr published] at last
  have regenerated : regenerations gateId (tasks ++ (onCongestionScore s' message).2) = _ :=
    List.filterMap_append.trans
      (congrArg (_ ++ ·) (regenerations_onCongestionScore gateId s' message))
  have executed : ∀ record, record ∈ executions gateId ⟨(onCongestionScore s' message).1,
      tasks ++ (onCongestionScore s' message).2⟩ → record ∈ executions gateId ⟨s, tasks⟩ := by
    intro record
    have none : (onCongestionScore s' message).2.filterMap PipelineTask.returns? = [] := rfl
    rw [mem_executions, mem_executions]
    dsimp only
    rw [same, List.filterMap_append, none, List.append_nil]
    exact id
  have own : ∀ task ∈ tasks ++ (onCongestionScore s' message).2, task.CarriesOwnActions := by
    intro task member
    rcases List.mem_append.mp member with old | new
    · exact inv.tasks task old
    · rw [List.mem_singleton.mp new]
      trivial
  by_cases mine : message.gate.gateId = gateId
  · rw [if_pos mine] at last regenerated
    refine ⟨⟨?_, own⟩, ?_, ?_, ?_, ?_⟩ <;> dsimp only
    · rw [same]
      exact inv.lists
    · rw [regenerated, last, List.getLast?_concat]
      exact fun _ => id
    · rw [regenerated]
      exact fun empty => absurd empty (by simp)
    · rw [same]
      exact inv.distinct
    · rw [same]
      exact fun action member record known =>
        inv.shown action member record (executed record known)
  · rw [if_neg mine] at last regenerated
    rw [List.append_nil] at regenerated
    exact inv.congr (congrArg (·.activeActionsStore) same) last regenerated executed own

/-- `getActiveActions` answers. -/
theorem ActionInv.readList {actionId userId : String} {now : ℤ} {target : GateId}
    (inv : ActionInv gateId ⟨s, before ++ .readingActions target actionId userId now :: after⟩) :
    ActionInv gateId ⟨s, before ++
      .locatingAction target actionId userId now (s.actions.getActiveActions target) :: after⟩ :=
  inv.move rfl rfl rfl rfl (inv.lists target)

/-- The call has found its action and marks it. -/
theorem ActionInv.locate {actionId userId : String} {now : ℤ} {target : GateId}
    {actions : List RecommendedAction} {found : RecommendedAction}
    (inv : ActionInv gateId
      ⟨s, before ++ .locatingAction target actionId userId now actions :: after⟩)
    (located : actions.find? (·.actionId = actionId) = some found) :
    ActionInv gateId ⟨s, before ++
      .writingActions target actions (actions.findIdx (·.actionId = actionId))
        { found with
          executedAt := some (IsoDate.toISOString now)
          executedByUserId := some userId } :: after⟩ := by
  have owned : ∀ action ∈ actions, action.gateId = target :=
    inv.tasks (.locatingAction target actionId userId now actions) (by simp)
  refine inv.move rfl rfl rfl rfl
    ⟨owned, owned found (List.mem_of_find?_eq_some located), found, ?_, rfl⟩
  rw [← List.find?_eq_getElem?_findIdx]
  exact located

/-- The call has not found its action. -/
theorem ActionInv.drop (inv : ActionInv gateId ⟨s, before ++ task :: after⟩)
    (idle : task.regenerates? gateId = none) (silent : task.returns? = none) :
    ActionInv gateId ⟨s, before ++ after⟩ := by
  refine inv.congr rfl rfl ?_ ?_ ?_
  · unfold regenerations
    rw [filterMap_middle, List.filterMap_append, idle]
    exact congrArg (· ++ _) (List.append_nil _).symm
  · intro record
    rw [mem_executions, mem_executions, filterMap_middle, List.filterMap_append, silent,
      Option.toList_none, List.append_nil]
    exact id
  · exact forall_mem_others inv.tasks

/-- The call returns the record it was about to return. -/
theorem ActionInv.record {updated : RecommendedAction}
    (inv : ActionInv gateId ⟨s, before ++ .returningAction updated :: after⟩) :
    ActionInv gateId
      ⟨{ s with actions := { s.actions with executed := s.actions.executed ++ [updated] } },
        before ++ after⟩ := by
  refine inv.congr rfl rfl ?_ ?_ ?_
  · unfold regenerations
    rw [filterMap_middle, List.filterMap_append]
    exact congrArg (· ++ _) (List.append_nil _).symm
  · intro record
    rw [mem_executions, mem_executions, filterMap_middle, List.filterMap_append]
    simp only [List.mem_append, PipelineTask.returns?, Option.toList_some]
    tauto
  · exact forall_mem_others inv.tasks

/-- Storing a list of the gate's own actions. -/
theorem lists_set {target : GateId} {actions : List RecommendedAction}
    (lists : ∀ g, ∀ action ∈ s.actions.getActiveActions g, action.gateId = g)
    (owned : ∀ action ∈ actions, action.gateId = target) :
    ∀ g, ∀ action ∈ (s.actions.setActiveActions target actions).getActiveActions g,
      action.gateId = g := by
  intro g
  rw [ActionState.getActiveActions_set]
  split
  · rename_i same
    rw [same]
    exact owned
  · exact lists g

/-- A store of another gate's list. -/
theorem ActionInv.setOther {target : GateId} {actions : List RecommendedAction}
    (inv : ActionInv gateId ⟨s, before ++ task :: after⟩) (other : target ≠ gateId)
    (owned : ∀ action ∈ actions, action.gateId = target)
    (regenerates : next.regenerates? gateId = task.regenerates? gateId)
    (returns : ∀ record, next.returns? = some record → record.gateId ≠ gateId)
    (own : next.CarriesOwnActions) :
    ActionInv gateId
      ⟨{ s with actions := s.actions.setActiveActions target actions },
        before ++ next :: after⟩ := by
  have unchanged : (s.actions.setActiveActions target actions).getActiveActions gateId =
      s.actions.getActiveActions gateId := by
    rw [ActionState.getActiveActions_set, if_neg (Ne.symm other)]
  have regenerated : regenerations gateId (before ++ next :: after) =
      regenerations gateId (before ++ task :: after) := by
    unfold regenerations
    rw [filterMap_middle, filterMap_middle, regenerates]
  have executed : ∀ record, record ∈ executions gateId
      ⟨{ s with actions := s.actions.setActiveActions target actions }, before ++ next :: after⟩ →
      record ∈ executions gateId ⟨s, before ++ task :: after⟩ := by
    intro record
    rw [mem_executions, mem_executions, filterMap_middle, filterMap_middle]
    simp only [List.mem_append, Option.mem_toList]
    rintro ⟨mine, known | ((earlier | new) | later)⟩
    · exact ⟨mine, .inl known⟩
    · exact ⟨mine, .inr (.inl (.inl earlier))⟩
    · exact absurd mine (returns record new)
    · exact ⟨mine, .inr (.inr later)⟩
  refine ⟨⟨?_, forall_mem_replace inv.tasks own⟩, ?_, ?_, ?_, ?_⟩ <;> dsimp only
  · exact lists_set inv.lists owned
  · rw [regenerated]
    exact inv.newest
  · rw [regenerated, unchanged]
    exact inv.listed
  · rw [unchanged]
    exact inv.distinct
  · rw [unchanged]
    exact fun action member record known => inv.shown action member record (executed record known)

/-- A regeneration stores the list of its score. -/
theorem ActionInv.store {update : ScoreUpdate} {actions : List RecommendedAction}
    (inv : ActionInv gateId ⟨s, before ++ .storingActions update actions :: after⟩)
    (own : update.gate.gateId = gateId)
    (last : regenerations gateId before = [] ∨ regenerations gateId after ≠ [])
    (unexecuted : ∀ action ∈ actions, ∀ record ∈ executions gateId
      ⟨s, before ++ .storingActions update actions :: after⟩, record.actionId ≠ action.actionId) :
    ActionInv gateId
      ⟨{ s with actions := s.actions.setActiveActions update.gate.gateId actions },
        before ++ .publishingActions update actions :: after⟩ := by
  obtain ⟨window, generated⟩ := inv.tasks (.storingActions update actions) (by simp)
  have ids : (actions.map (·.actionId)).Perm (generatedIds gateId update.result) := by
    rw [generated, ← own]
    exact generateRecommendations_ids update.gate update.result window
  have stored : (s.actions.setActiveActions update.gate.gateId actions).getActiveActions gateId =
      actions := by
    rw [ActionState.getActiveActions_set, if_pos own.symm]
  have regenerated : regenerations gateId (before ++ .storingActions update actions :: after) =
      regenerations gateId before ++ update.result :: regenerations gateId after := by
    unfold regenerations
    rw [List.filterMap_append]
    exact congrArg (_ ++ ·) (List.filterMap_cons_some (if_pos own))
  have left : regenerations gateId (before ++ .publishingActions update actions :: after) =
      regenerations gateId before ++ regenerations gateId after := List.filterMap_append
  have newest := inv.newest
  dsimp only at newest
  rw [regenerated, List.getLast?_append, List.getLast?_cons, Option.some_or] at newest
  refine ⟨⟨?_, forall_mem_replace inv.tasks trivial⟩, ?_, ?_, ?_, ?_⟩ <;> dsimp only
  · refine lists_set inv.lists ?_
    rw [generated]
    exact fun action member => (mem_generateRecommendations member).1
  · intro result head
    rw [left, List.getLast?_append] at head
    cases behind : (regenerations gateId after).getLast? with
    | none =>
        -- nothing comes later, so nothing came earlier
        have noneAfter := List.getLast?_eq_none_iff.mp behind
        rcases last with noneBefore | waiting
        · rw [behind, noneBefore] at head
          cases head
        · exact absurd noneAfter waiting
    | some other =>
        rw [behind, Option.some_or, Option.some.injEq] at head
        rw [behind, Option.getD_some] at newest
        exact newest result (congrArg some head)
  · intro none
    rw [left, List.append_eq_nil_iff] at none
    rw [none.2, List.getLast?_nil, Option.getD_none] at newest
    rw [stored, newest update.result rfl]
    exact ids
  · rw [stored]
    exact ids.nodup_iff.mpr (generatedIds_nodup gateId update.result)
  · rw [stored]
    intro action member record known same
    refine absurd same (unexecuted action member record ?_)
    rw [mem_executions, filterMap_middle] at known ⊢
    exact known

/-- An execution writes its list back over the one it read. -/
theorem ActionInv.writeBack {target : GateId} {actions : List RecommendedAction} {index : ℕ}
    {updated : RecommendedAction}
    (inv : ActionInv gateId ⟨s, before ++ .writingActions target actions index updated :: after⟩)
    (own : target = gateId) (unchanged : s.actions.getActiveActions gateId = actions)
    (unexecuted : ∀ record ∈ executions gateId
      ⟨s, before ++ .writingActions target actions index updated :: after⟩,
        record.actionId ≠ updated.actionId) :
    ActionInv gateId
      ⟨{ s with actions := s.actions.setActiveActions target (actions.set index updated) },
        before ++ .returningAction updated :: after⟩ := by
  obtain ⟨owned, mine, found, located, same⟩ :=
    inv.tasks (.writingActions target actions index updated) (by simp)
  have stored : (s.actions.setActiveActions target (actions.set index updated)).getActiveActions
      gateId = actions.set index updated := by
    rw [ActionState.getActiveActions_set, if_pos own.symm]
  obtain ⟨inside, rfl⟩ := List.getElem?_eq_some_iff.mp located
  have ids : (actions.set index updated).map (·.actionId) = actions.map (·.actionId) := by
    have self : (actions.set index actions[index]).map (·.actionId) =
        actions.map (·.actionId) := by rw [List.set_getElem_self]
    rw [List.map_set] at self ⊢
    rw [← same]
    exact self
  have regenerated : regenerations gateId (before ++ .returningAction updated :: after) =
      regenerations gateId
        (before ++ .writingActions target actions index updated :: after) := by
    unfold regenerations
    rw [filterMap_middle, filterMap_middle]
    rfl
  have distinct : ((actions.set index updated).map (·.actionId)).Nodup := by
    rw [ids, ← unchanged]
    exact inv.distinct
  refine ⟨⟨?_, forall_mem_replace inv.tasks trivial⟩, ?_, ?_, ?_, ?_⟩ <;> dsimp only
  · refine lists_set inv.lists ?_
    intro action member
    rcases List.mem_or_eq_of_mem_set member with old | rfl
    · exact owned action old
    · exact mine
  · rw [regenerated]
    exact inv.newest
  · have listed := inv.listed
    dsimp only at listed
    rw [unchanged] at listed
    rw [regenerated, stored, ids]
    exact listed
  · rw [stored]
    exact distinct
  · rw [stored]
    intro action member record known named
    have fromBefore : record = updated ∨ record ∈ executions gateId
        ⟨s, before ++ .writingActions target actions index updated :: after⟩ := by
      rw [mem_executions, filterMap_middle] at known ⊢
      simp only [List.mem_append, PipelineTask.returns?, Option.toList_some,
        List.mem_singleton, Option.toList_none, List.not_mem_nil, or_false] at known ⊢
      tauto
    rcases fromBefore with rfl | earlier
    · -- the ids are distinct, so this is the marked action itself
      have marked := List.inj_on_of_nodup_map distinct (List.mem_set inside record) member named
      rw [← marked]
      exact ⟨rfl, rfl⟩
    · rcases List.mem_or_eq_of_mem_set member with old | rfl
      · rw [← unchanged] at old
        exact inv.shown action old record earlier named
      · exact absurd named (unexecuted record earlier)

end Stretches

/-! ## Everything else -/

/-- The stretches that handle action lists. -/
def handlesActions : PipelineTask → Bool
  | .publishingForecast _ | .raisingAlert _ | .recommending .. | .storingActions ..
  | .readingActions .. | .locatingAction .. | .writingActions .. | .returningAction _ => true
  | _ => false

/-- Nothing to do with the action list of the gate. -/
structure LeavesActions (gateId : GateId) (task : PipelineTask) : Prop where
  idle : task.regenerates? gateId = none
  silent : task.returns? = none
  own : task.CarriesOwnActions

theorem leavesActions_of_follows {task next : PipelineTask} (follows : Follows task next)
    (other : handlesActions task = false) : LeavesActions gateId next := by
  cases follows with
  | published => cases other
  | alerted => cases other
  | recommended => cases other
  | stored => cases other
  | read => cases other
  | located => cases other
  | written => cases other
  | _ => exact ⟨rfl, rfl, trivial⟩

theorem resume_actions {task : PipelineTask} (other : handlesActions task = false)
    (s : PipelineState) :
    (resume deps task s).shared.actions.activeActionsStore = s.actions.activeActionsStore ∧
      (resume deps task s).shared.actions.executed = s.actions.executed ∧
      (resume deps task s).shared.forecasts.published = s.forecasts.published := by
  cases task with
  | computing gate window =>
      rw [resume_computing]
      exact ⟨rfl, rfl, rfl⟩
  | decidingNudge update fan lastNudgeAt rest generated =>
      have unchanged := decideNudge_shared deps update fan lastNudgeAt rest generated s
      exact ⟨congrArg (·.actions.activeActionsStore) unchanged,
        congrArg (·.actions.executed) unchanged, congrArg (·.forecasts.published) unchanged⟩
  | publishingForecast => cases other
  | raisingAlert => cases other
  | recommending => cases other
  | storingActions => cases other
  | readingActions => cases other
  | locatingAction => cases other
  | writingActions => cases other
  | returningAction => cases other
  | _ => exact ⟨rfl, rfl, rfl⟩

/-- A stretch that handles no action lists. -/
theorem actionInv_other {s : PipelineState} {before after : List PipelineTask}
    {task : PipelineTask} (inv : ActionInv gateId ⟨s, before ++ task :: after⟩)
    (other : handlesActions task = false) :
    ActionInv gateId ⟨(resume deps task s).shared,
      before ++ (resume deps task s).continued.toList ++ after ++
        (resume deps task s).started⟩ := by
  obtain ⟨stored, executed, published⟩ := resume_actions deps other s
  have idle : task.regenerates? gateId = none ∧ task.returns? = none := by
    cases task with
    | raisingAlert => cases other
    | recommending => cases other
    | storingActions => cases other
    | returningAction => cases other
    | _ => exact ⟨rfl, rfl⟩
  have left := inv.drop idle.1 idle.2
  have leaves : ∀ next ∈ (resume deps task s).continued.toList ++ (resume deps task s).started,
      LeavesActions gateId next := fun next member =>
    leavesActions_of_follows (resume_follows deps task s next member) other
  have idleViews : ∀ next : List PipelineTask, (∀ t ∈ next, LeavesActions gateId t) →
      next.filterMap (·.regenerates? gateId) = [] ∧
        next.filterMap PipelineTask.returns? = [] := fun next h =>
    ⟨List.filterMap_eq_nil_iff.mpr fun t member => (h t member).idle,
      List.filterMap_eq_nil_iff.mpr fun t member => (h t member).silent⟩
  obtain ⟨noneContinued, silentContinued⟩ :=
    idleViews _ fun next member => leaves next (List.mem_append_left _ member)
  obtain ⟨noneStarted, silentStarted⟩ :=
    idleViews _ fun next member => leaves next (List.mem_append_right _ member)
  refine left.congr stored (lastPublished_congr published) ?_ ?_ ?_
  · unfold regenerations
    simp only [List.filterMap_append, noneContinued, noneStarted, List.append_nil]
  · intro record
    rw [mem_executions, mem_executions]
    simp only [List.filterMap_append, silentContinued, silentStarted, List.append_nil, executed]
    exact id
  · intro next member
    rcases mem_resumed.mp member with old | new
    · exact left.tasks next old
    · exact (leaves next new).own

theorem stimulate_actions (stimulus : PipelineStimulus) (s : PipelineState)
    (silent : ∀ message, stimulus ≠ .congestionScore message) :
    (stimulate deps stimulus s).1.actions = s.actions ∧
      (stimulate deps stimulus s).1.forecasts = s.forecasts ∧
      ∀ task ∈ (stimulate deps stimulus s).2, LeavesActions gateId task := by
  refine ⟨?_, ?_, ?_⟩
  · cases stimulus <;> simp [stimulate, onCongestionScore]
  · cases stimulus with
    | congestionScore message => exact absurd rfl (silent message)
    | _ => simp [stimulate]
  · intro task member
    cases stimulate_starts deps stimulus s task member with
    | scored message => exact absurd rfl (silent message)
    | _ => exact ⟨rfl, rfl, trivial⟩

theorem actionInv_stimulate {s : PipelineState} {tasks : List PipelineTask}
    {stimulus : PipelineStimulus} (inv : ActionInv gateId ⟨s, tasks⟩)
    (silent : ∀ message, stimulus ≠ .congestionScore message) :
    ActionInv gateId
      ⟨(stimulate deps stimulus s).1, tasks ++ (stimulate deps stimulus s).2⟩ := by
  obtain ⟨actions, forecasts, leaves⟩ := stimulate_actions deps stimulus s silent
  refine inv.congr (congrArg (·.activeActionsStore) actions)
    (congrArg (·.lastPublished gateId) forecasts) ?_ ?_ ?_
  · unfold regenerations
    rw [List.filterMap_append,
      List.filterMap_eq_nil_iff.mpr fun task member => (leaves task member).idle,
      List.append_nil]
  · intro record
    rw [mem_executions, mem_executions, List.filterMap_append,
      List.filterMap_eq_nil_iff.mpr fun task member => (leaves task member).silent,
      List.append_nil]
    dsimp only
    rw [actions]
    exact id
  · intro task member
    rcases List.mem_append.mp member with old | new
    · exact inv.tasks task old
    · exact (leaves task new).own

/-! ## Runs -/

theorem actionInv_after {startedAt : ℤ} {schedule : Schedule}
    (undisturbed : (system deps).Guarded (ActionsUndisturbed gateId) ⟨.wired startedAt, []⟩
      schedule) :
    ActionInv gateId (after deps startedAt schedule) := by
  refine (system deps).run_invariant ?_ ?_ (actionInv_wired startedAt) undisturbed
  · intro s tasks stimulus inv _
    cases stimulus with
    | congestionScore message => exact inv.publish rfl rfl
    | _ => exact actionInv_stimulate deps inv (by simp)
  · intro s before task after inv guard
    obtain ⟨storing, writing⟩ := guard
    have rest : (before ++ task :: after).drop (before.length + 1) = after := by simp
    rw [List.getElem?_append_right le_rfl, Nat.sub_self, List.getElem?_cons_zero,
      Option.bind_some] at storing writing
    rw [List.take_left' rfl, rest] at storing
    cases task with
    | publishingForecast computation =>
        have left := inv.drop rfl rfl
        show ActionInv gateId ⟨(publishForecast s computation.gate computation.result).1,
          before ++ [] ++ after ++ (publishForecast s computation.gate computation.result).2⟩
        rw [List.append_nil]
        exact left.publish rfl rfl
    | raisingAlert update =>
        have step : ActionInv gateId ⟨(resume deps (.raisingAlert update) s).shared, before ++
            .recommending update (s.intake.getWindowForGate update.gate.gateId) :: after⟩ :=
          inv.move rfl rfl rfl rfl trivial
        simpa [system, resume, continueWith] using step
    | recommending update window =>
        have step : ActionInv gateId ⟨s, before ++ .storingActions update
            (generateRecommendations update.gate update.result window) :: after⟩ :=
          inv.move rfl rfl rfl rfl ⟨window, rfl⟩
        simpa [system, resume, continueWith] using step
    | storingActions update actions =>
        by_cases own : update.gate.gateId = gateId
        · obtain ⟨last, unexecuted⟩ := storing ⟨update.gate.gateId, actions⟩ rfl own
          simpa [system, resume, continueWith] using inv.store own last unexecuted
        · obtain ⟨window, generated⟩ := inv.tasks (.storingActions update actions) (by simp)
          have owned : ∀ action ∈ actions, action.gateId = update.gate.gateId := by
            rw [generated]
            exact fun action member => (mem_generateRecommendations member).1
          have step : ActionInv gateId
              ⟨{ s with actions := s.actions.setActiveActions update.gate.gateId actions },
                before ++ .publishingActions update actions :: after⟩ :=
            inv.setOther own owned (if_neg own).symm (by simp [PipelineTask.returns?]) trivial
          simpa [system, resume, continueWith] using step
    | readingActions target actionId userId now =>
        simpa [system, resume, continueWith] using inv.readList
    | locatingAction target actionId userId now actions =>
        show ActionInv gateId ⟨(locateAction target actionId userId now actions s).shared,
          before ++ (locateAction target actionId userId now actions s).continued.toList ++
            after ++ (locateAction target actionId userId now actions s).started⟩
        unfold locateAction
        cases located : actions.find? (·.actionId = actionId) with
        | none => simpa [finish] using inv.drop rfl rfl
        | some found => simpa [continueWith] using inv.locate located
    | writingActions target actions index updated =>
        by_cases own : target = gateId
        · obtain ⟨unchanged, unexecuted⟩ := writing ⟨target, actions, updated⟩ rfl own
          simpa [system, resume, continueWith] using inv.writeBack own unchanged unexecuted
        · obtain ⟨owned, mine, -⟩ :=
            inv.tasks (.writingActions target actions index updated) (by simp)
          have marked : ∀ action ∈ actions.set index updated, action.gateId = target := by
            intro action member
            rcases List.mem_or_eq_of_mem_set member with old | rfl
            · exact owned action old
            · exact mine
          have others : ∀ record, PipelineTask.returns? (.returningAction updated) = some record →
              record.gateId ≠ gateId := by
            intro record returned same
            cases returned
            exact own (mine.symm.trans same)
          have step : ActionInv gateId
              ⟨{ s with
                  actions := s.actions.setActiveActions target (actions.set index updated) },
                before ++ .returningAction updated :: after⟩ :=
            inv.setOther own marked rfl others trivial
          simpa [system, resume, continueWith] using step
    | returningAction updated =>
        simpa [system, resume, finish] using inv.record
    | _ => exact actionInv_other deps inv rfl

/-- **No update is lost** while write-backs meet the list they were made from
and the list of the newest score comes last: once no list of the gate is still
to be stored, it has that score's ids and shows every execution. -/
theorem no_update_lost (startedAt : ℤ) (schedule : Schedule)
    (undisturbed : (system deps).Guarded (ActionsUndisturbed gateId) ⟨.wired startedAt, []⟩
      schedule)
    (stored : regenerations gateId (after deps startedAt schedule).suspended = []) :
    NoUpdateLost gateId (after deps startedAt schedule).shared := by
  have inv := actionInv_after deps undisturbed
  refine ⟨inv.listed stored, ?_⟩
  intro action member record returned own named
  exact inv.shown action member record (mem_executions.mpr ⟨own, .inl returned⟩) named

/-- Two actions of the crowded gate A, by their ids. -/
def openLaneId : String := actionIdOf "gate-a" "1970-01-01T00:00:00.000Z" .openGateLane

def holdTransitId : String := actionIdOf "gate-a" "1970-01-01T00:00:00.000Z" .holdTransitArrival

/-- Gate A becomes crowded and its actions are stored. -/
def actionsStored : Schedule :=
  .stimulus (.signalEvent (demoReading "crowd" 400 "1970-01-01T00:00:00.000Z")) ::
    List.replicate 6 (.resume 0)

/-- Two actions are executed, one after the other. -/
def executionsApart : Schedule :=
  actionsStored ++
    ([.stimulus (.executeAction "gate-a" openLaneId "anna")] : Schedule) ++
    List.replicate 4 (Choice.resume 1) ++
    ([.stimulus (.executeAction "gate-a" holdTransitId "ben")] : Schedule) ++
    List.replicate 4 (Choice.resume 1)

/-- The list shows both executions. -/
theorem no_update_lost_demo :
    (after demoDependencies 0 executionsApart).shared.actions.executed.length = 2 ∧
      NoUpdateLost "gate-a" (after demoDependencies 0 executionsApart).shared :=
  ⟨by decide +kernel,
    no_update_lost demoDependencies 0 executionsApart (by decide +kernel) (by decide +kernel)⟩

/-- Two actions are executed, and the second call reads the list before the
first has written it back. -/
def executionsOverlapping : Schedule :=
  actionsStored ++
    ([.stimulus (.executeAction "gate-a" openLaneId "anna"),
      .stimulus (.executeAction "gate-a" holdTransitId "ben"),
      -- both read the list
      .resume 1, .resume 2,
      -- both mark their action, and write the list back
      .resume 1, .resume 2, .resume 1, .resume 2,
      -- and return their records
      .resume 1, .resume 1,
      -- the handler of the score completes
      .resume 0, .resume 0, .resume 0] : Schedule)

/-- All have completed, and the list does not show the first execution. -/
theorem overlapping_executions_lose_a_mark :
    (after demoDependencies 0 executionsOverlapping).suspended = [] ∧
      ¬ NoUpdateLost "gate-a" (after demoDependencies 0 executionsOverlapping).shared := by
  refine ⟨List.isEmpty_iff.mp (by decide +kernel), fun kept => ?_⟩
  have shown := kept.shown
  revert shown
  decide +kernel

end Pipeline

end Stadium
