import Stadium.Lib.Composition

/-!
# Leaving out stimuli that change nothing

A stimulus that leaves the shared state as it is, and starts only tasks that do the same
and leave only such tasks, makes no difference to anything else. To say so, every task is
marked with whether it goes back to a stimulus that is left out (`marked`). The marks
change nothing (`unmark_run`), and where the marked tasks are idle, the run without them
and their stimuli does with the others what the whole run does (`run_leavingOut`).
-/

namespace Interleaving

variable {σ τ ε : Type*}

namespace TaskSystem

/-- The configuration with no task marked. -/
def unmarked (c : Config σ τ) : Config σ (Bool × τ) :=
  ⟨c.shared, c.suspended.map (Prod.mk false)⟩

/-- The configuration without the marks. -/
def unmark (c : Config σ (Bool × τ)) : Config σ τ := ⟨c.shared, c.suspended.map Prod.snd⟩

/-- The tasks that are not marked. -/
def otherTasks (tasks : List (Bool × τ)) : List τ := (tasks.filter (!·.1)).map Prod.snd

/-- The configuration without the marked tasks. -/
def others (c : Config σ (Bool × τ)) : Config σ τ := ⟨c.shared, otherTasks c.suspended⟩

@[simp] theorem unmark_unmarked (c : Config σ τ) : unmark (unmarked c) = c := by
  simp [unmark, unmarked, Function.comp_def]

@[simp] theorem otherTasks_append (first second : List (Bool × τ)) :
    otherTasks (first ++ second) = otherTasks first ++ otherTasks second := by
  simp [otherTasks]

theorem otherTasks_map (mark : Bool) (tasks : List τ) :
    otherTasks (tasks.map (Prod.mk mark)) = if mark then [] else tasks := by
  cases mark <;> simp [otherTasks, List.filter_map, Function.comp_def]

theorem otherTasks_cons (task : Bool × τ) (rest : List (Bool × τ)) :
    otherTasks (task :: rest) = (if task.1 then [] else [task.2]) ++ otherTasks rest :=
  (otherTasks_append [task] rest).trans (congrArg (· ++ _) (otherTasks_map task.1 [task.2]))

@[simp] theorem others_unmarked (c : Config σ τ) : others (unmarked c) = c :=
  congrArg (Config.mk c.shared) (otherTasks_map false c.suspended)

variable (S : TaskSystem σ τ ε) (leftOut : ε → Bool)

/-- The system with each task marked if it goes back to a left-out stimulus. -/
def marked : TaskSystem σ (Bool × τ) ε where
  stimulate e s := ((S.stimulate e s).1, (S.stimulate e s).2.map (Prod.mk (leftOut e)))
  resume task s := (S.resume task.2 s).map (Prod.mk task.1)

/-- A schedule without the left-out stimuli and without the resumptions of the tasks that
go back to them. -/
def leavingOut : Config σ (Bool × τ) → List (Choice ε) → List (Choice ε)
  | _, [] => []
  | c, .stimulus e :: rest =>
      let later := leavingOut ((S.marked leftOut).step c (.stimulus e)) rest
      if leftOut e then later else .stimulus e :: later
  | c, .resume position :: rest =>
      let later := leavingOut ((S.marked leftOut).step c (.resume position)) rest
      -- the others move up
      if (c.suspended[position]?).all (·.1) then later
      else .resume (otherTasks (c.suspended.take position)).length :: later

theorem leavingOut_stimulus (c : Config σ (Bool × τ)) (e : ε) (rest : List (Choice ε)) :
    S.leavingOut leftOut c (.stimulus e :: rest) =
      if leftOut e then S.leavingOut leftOut ((S.marked leftOut).step c (.stimulus e)) rest
      else .stimulus e :: S.leavingOut leftOut ((S.marked leftOut).step c (.stimulus e)) rest :=
  rfl

theorem leavingOut_resume (c : Config σ (Bool × τ)) (position : ℕ) (rest : List (Choice ε)) :
    S.leavingOut leftOut c (.resume position :: rest) =
      if (c.suspended[position]?).all (·.1) then
        S.leavingOut leftOut ((S.marked leftOut).step c (.resume position)) rest
      else .resume (otherTasks (c.suspended.take position)).length ::
        S.leavingOut leftOut ((S.marked leftOut).step c (.resume position)) rest :=
  rfl

/-- The left-out stimuli and the tasks that go back to them leave the state as it is. -/
structure Idles (idle : τ → Prop) : Prop where
  stimulate : ∀ e s, leftOut e = true →
    (S.stimulate e s).1 = s ∧ ∀ task ∈ (S.stimulate e s).2, idle task
  resume : ∀ task s, idle task →
    (S.resume task s).shared = s ∧ ∀ next ∈ (S.resume task s).successors, idle next

variable {leftOut} {idle : τ → Prop}

/-! ## The marks -/

theorem unmark_step (c : Config σ (Bool × τ)) (choice : Choice ε) :
    unmark ((S.marked leftOut).step c choice) = S.step (unmark c) choice := by
  obtain ⟨s, tasks⟩ := c
  cases choice with
  | stimulus e => simp [unmark, step, marked, Function.comp_def]
  | resume position =>
      cases found : tasks[position]? with
      | none => simp [unmark, step, found]
      | some task =>
          obtain ⟨before, after, rfl, rfl⟩ := split_at found
          rw [(S.marked leftOut).step_resume]
          have moved := S.step_resume s (before.map Prod.snd) (after.map Prod.snd) task.2
          rw [List.length_map] at moved
          simp only [unmark, List.map_append, List.map_cons]
          rw [moved]
          simp [marked, Stretch.map, Function.comp_def, Option.toList_map]

/-- **Marks change nothing.** -/
theorem unmark_run (c : Config σ (Bool × τ)) (schedule : List (Choice ε)) :
    unmark ((S.marked leftOut).run c schedule) = S.run (unmark c) schedule := by
  induction schedule generalizing c with
  | nil => rfl
  | cons choice rest ih => rw [run_cons, run_cons, ih, S.unmark_step]

/-! ## The others -/

/-- Every marked task is idle. -/
def MarkedIdle (idle : τ → Prop) (c : Config σ (Bool × τ)) : Prop :=
  ∀ task ∈ c.suspended, task.1 = true → idle task.2

theorem markedIdle_unmarked (idle : τ → Prop) (c : Config σ τ) :
    MarkedIdle idle (unmarked c) := by
  intro task member marked
  obtain ⟨own, -, rfl⟩ := List.mem_map.mp member
  cases marked

variable {S}

namespace Idles

/-- Marked tasks stay idle. -/
theorem step (I : S.Idles leftOut idle) {c : Config σ (Bool × τ)} (fine : MarkedIdle idle c)
    (choice : Choice ε) : MarkedIdle idle ((S.marked leftOut).step c choice) := by
  obtain ⟨s, tasks⟩ := c
  cases choice with
  | stimulus e =>
      intro task member out
      rcases List.mem_append.mp member with old | new
      · exact fine task old out
      · obtain ⟨own, listed, rfl⟩ := List.mem_map.mp new
        exact (I.stimulate e s out).2 own listed
  | resume position =>
      rcases (S.marked leftOut).resume_cases ⟨s, tasks⟩ position with
        unchanged | ⟨before, task, after, rfl, rfl⟩
      · rw [unchanged]
        exact fine
      · rw [(S.marked leftOut).step_resume]
        refine forall_mem_resumed (P := fun task : Bool × τ => task.1 = true → idle task.2)
          fine fun own next left out => ?_
        have left : next ∈ ((S.resume task.2 s).map (Prod.mk task.1)).successors := left
        rw [Stretch.successors_map] at left
        obtain ⟨successor, listed, rfl⟩ := List.mem_map.mp left
        exact (I.resume task.2 s (own out)).2 successor listed

theorem run (I : S.Idles leftOut idle) {c : Config σ (Bool × τ)} (fine : MarkedIdle idle c)
    (schedule : List (Choice ε)) : MarkedIdle idle ((S.marked leftOut).run c schedule) := by
  induction schedule generalizing c with
  | nil => exact fine
  | cons choice rest ih => exact ih (I.step fine choice)

/-- A left-out stimulus is nothing to the others, and any other one is as without it. -/
theorem others_stimulus (I : S.Idles leftOut idle) (c : Config σ (Bool × τ)) (e : ε) :
    others ((S.marked leftOut).step c (.stimulus e)) =
      if leftOut e then others c else S.step (others c) (.stimulus e) := by
  unfold others
  cases out : leftOut e with
  | true =>
      have same := (I.stimulate e c.shared out).1
      simp [TaskSystem.step, marked, otherTasks_map, out, same]
  | false => simp [TaskSystem.step, marked, otherTasks_map, out]

/-- So is the resumption of a marked task, and of any other one. -/
theorem others_resume (I : S.Idles leftOut idle) {s : σ} {before after : List (Bool × τ)}
    {task : Bool × τ} (fine : task.1 = true → idle task.2) :
    others ((S.marked leftOut).step ⟨s, before ++ task :: after⟩ (.resume before.length)) =
      if task.1 then others ⟨s, before ++ task :: after⟩
      else S.step (others ⟨s, before ++ task :: after⟩) (.resume (otherTasks before).length) := by
  obtain ⟨mark, task⟩ := task
  rw [(S.marked leftOut).step_resume]
  have continued : otherTasks ((S.resume task s).continued.map (Prod.mk mark)).toList =
      if mark then [] else (S.resume task s).continued.toList := by
    rw [← otherTasks_map, Option.toList_map]
  cases mark with
  | true =>
      have same := (I.resume task s (fine rfl)).1
      simp [others, marked, Stretch.map, otherTasks_map, otherTasks_cons, continued, same]
  | false =>
      simp only [others, otherTasks_append, otherTasks_cons, Bool.false_eq_true, if_false,
        List.singleton_append]
      rw [S.step_resume]
      simp [marked, Stretch.map, otherTasks_map, continued]

/-- **Idle tasks nobody misses.** The run without the left-out stimuli and the tasks that
go back to them does with the others what the whole run does. -/
theorem run_leavingOut (I : S.Idles leftOut idle) {c : Config σ (Bool × τ)}
    (fine : MarkedIdle idle c) (schedule : List (Choice ε)) :
    S.run (others c) (S.leavingOut leftOut c schedule) =
      others ((S.marked leftOut).run c schedule) := by
  induction schedule generalizing c with
  | nil => rfl
  | cons choice rest ih =>
      rw [run_cons, ← ih (I.step fine choice)]
      cases choice with
      | stimulus e =>
          rw [I.others_stimulus c e, leavingOut_stimulus]
          cases leftOut e <;> rfl
      | resume position =>
          obtain ⟨s, tasks⟩ := c
          rw [leavingOut_resume]
          cases found : tasks[position]? with
          | none => simp only [TaskSystem.step, found, Option.all_none, if_true]
          | some task =>
              obtain ⟨before, after, rfl, rfl⟩ := split_at found
              rw [I.others_resume (fine task (by simp)), Option.all_some, List.take_left]
              cases task.1 <;> rfl

end Idles

variable (S) (leftOut)

/-- Of the stimuli, exactly the left-out ones are gone. -/
theorem stimuli_leavingOut (c : Config σ (Bool × τ)) (schedule : List (Choice ε)) :
    stimuli (S.leavingOut leftOut c schedule) = (stimuli schedule).filter (!leftOut ·) := by
  induction schedule generalizing c with
  | nil => rfl
  | cons choice rest ih =>
      cases choice with
      | stimulus e =>
          rw [leavingOut_stimulus]
          show _ = (e :: stimuli rest).filter _
          cases out : leftOut e with
          | true =>
              rw [List.filter_cons_of_neg (by simp [out])]
              exact ih _
          | false =>
              rw [List.filter_cons_of_pos (by simp [out])]
              exact congrArg (e :: ·) (ih _)
      | resume position =>
          rw [leavingOut_resume]
          split <;> exact ih _

end TaskSystem

end Interleaving
