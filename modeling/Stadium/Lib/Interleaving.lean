import Mathlib

/-!
# Cooperative tasks

A task system in the style of a single-threaded event loop: a stimulus, or
the resumption of a suspended task, runs without interruption to the next
suspension point. Between two such steps any suspended task may be picked, so
a schedule (a list of choices) stands for one interleaving.

A resumed task either completes or suspends again, and it may start further
tasks. A continued task keeps its place among the suspended ones and started
tasks queue up behind them, so the position of a suspended task reflects the
order in which the tasks were started.

`run_invariant` is the induction rule: it reduces an invariant of every run
to one obligation for stimuli and one for resumptions, the latter with the
suspended tasks already split at the resumed one. Assumptions about a run
enter as a guard every step has to meet (`Guarded`).
-/

namespace Interleaving

/-- What one uninterrupted stretch of a task leaves behind. -/
structure Stretch (σ τ : Type*) where
  shared : σ
  /-- The task at its next suspension point; nothing when it completed. -/
  continued : Option τ
  /-- Tasks started during the stretch. -/
  started : List τ

/-- A system of cooperative tasks `τ` over a shared state `σ`, driven by
stimuli `ε`. -/
structure TaskSystem (σ τ ε : Type*) where
  /-- A stimulus updates the shared state and starts tasks. -/
  stimulate : ε → σ → σ × List τ
  /-- A suspended task runs to its next suspension point. -/
  resume : τ → σ → Stretch σ τ

/-- The shared state and the suspended tasks, in the order they were started. -/
structure Config (σ τ : Type*) where
  shared : σ
  suspended : List τ

/-- One scheduling choice. -/
inductive Choice (ε : Type*) where
  /-- A stimulus arrives. -/
  | stimulus (e : ε)
  /-- The suspended task at this position is resumed. -/
  | resume (position : ℕ)

variable {σ τ ε : Type*}

/-- The choice with its stimulus tagged. -/
def Choice.map {ε' : Type*} (tag : ε → ε') : Choice ε → Choice ε'
  | .stimulus e => .stimulus (tag e)
  | .resume position => .resume position

namespace TaskSystem

/-- One step; resuming a position that holds no task changes nothing. -/
def step (S : TaskSystem σ τ ε) (c : Config σ τ) : Choice ε → Config σ τ
  | .stimulus e =>
      ⟨(S.stimulate e c.shared).1, c.suspended ++ (S.stimulate e c.shared).2⟩
  | .resume position =>
      match c.suspended[position]? with
      | none => c
      | some task =>
          ⟨(S.resume task c.shared).shared,
            c.suspended.take position ++ (S.resume task c.shared).continued.toList ++
              c.suspended.drop (position + 1) ++ (S.resume task c.shared).started⟩

/-- The configuration a schedule leads to. -/
def run (S : TaskSystem σ τ ε) (c : Config σ τ) (schedule : List (Choice ε)) : Config σ τ :=
  schedule.foldl S.step c

/-- Every step of the schedule meets the guard in the configuration it is
taken in. -/
def Guarded (S : TaskSystem σ τ ε) (guard : Config σ τ → Choice ε → Prop) :
    Config σ τ → List (Choice ε) → Prop
  | _, [] => True
  | c, choice :: rest => guard c choice ∧ Guarded S guard (S.step c choice) rest

/-- Where the guard can be decided, so can its holding along a schedule. -/
instance decidableGuarded (S : TaskSystem σ τ ε) (guard : Config σ τ → Choice ε → Prop)
    [∀ c choice, Decidable (guard c choice)] :
    ∀ c schedule, Decidable (S.Guarded guard c schedule)
  | _, [] => isTrue trivial
  | c, choice :: rest =>
      have := decidableGuarded S guard (S.step c choice) rest
      inferInstanceAs (Decidable (guard c choice ∧ S.Guarded guard (S.step c choice) rest))

variable (S : TaskSystem σ τ ε)

@[simp] theorem run_nil (c : Config σ τ) : S.run c [] = c := rfl

@[simp] theorem run_cons (c : Config σ τ) (choice : Choice ε) (rest : List (Choice ε)) :
    S.run c (choice :: rest) = S.run (S.step c choice) rest := rfl

theorem run_append (c : Config σ τ) (first second : List (Choice ε)) :
    S.run c (first ++ second) = S.run (S.run c first) second :=
  List.foldl_append

/-- Resuming the task in the middle of the suspended ones. -/
theorem step_resume (shared : σ) (before after : List τ) (task : τ) :
    S.step ⟨shared, before ++ task :: after⟩ (.resume before.length) =
      ⟨(S.resume task shared).shared,
        before ++ (S.resume task shared).continued.toList ++ after ++
          (S.resume task shared).started⟩ := by
  simp [step]

/-- A position that holds a task splits the suspended ones there. -/
theorem split_at {tasks : List τ} {position : ℕ} {task : τ} (found : tasks[position]? = some task) :
    ∃ before after, tasks = before ++ task :: after ∧ position = before.length := by
  obtain ⟨inside, rfl⟩ := List.getElem?_eq_some_iff.mp found
  refine ⟨tasks.take position, tasks.drop (position + 1), ?_, ?_⟩
  · rw [List.cons_getElem_drop_succ, List.take_append_drop]
  · simp [Nat.min_eq_left (Nat.le_of_lt inside)]

/-- A resumption either names no task or splits the suspended tasks. -/
theorem resume_cases (c : Config σ τ) (position : ℕ) :
    S.step c (.resume position) = c ∨
      ∃ before task after, c.suspended = before ++ task :: after ∧
        position = before.length := by
  cases found : c.suspended[position]? with
  | none => exact .inl (by simp [step, found])
  | some task =>
      obtain ⟨before, after, split⟩ := split_at found
      exact .inr ⟨before, task, after, split⟩

/-- After a resumption a task was suspended before, elsewhere, or is left or
started by the resumed one. -/
theorem mem_resumed {before after continued started : List τ} {next : τ} :
    next ∈ before ++ continued ++ after ++ started ↔
      next ∈ before ++ after ∨ next ∈ continued ++ started := by
  simp only [List.mem_append]
  tauto

/-- What holds of all suspended tasks still does when one of them moves on to a
task of which it holds. -/
theorem forall_mem_replace {P : τ → Prop} {before after : List τ} {task next : τ}
    (h : ∀ t ∈ before ++ task :: after, P t) (moved : P next) :
    ∀ t ∈ before ++ next :: after, P t := by
  intro t member
  rcases List.mem_append.mp member with earlier | later
  · exact h t (List.mem_append_left _ earlier)
  · rcases List.mem_cons.mp later with rfl | later
    · exact moved
    · exact h t (List.mem_append_right _ (List.mem_cons_of_mem task later))

theorem forall_mem_others {P : τ → Prop} {before after : List τ} {task : τ}
    (h : ∀ t ∈ before ++ task :: after, P t) : ∀ t ∈ before ++ after, P t := by
  intro t member
  rcases List.mem_append.mp member with earlier | later
  · exact h t (List.mem_append_left _ earlier)
  · exact h t (List.mem_append_right _ (List.mem_cons_of_mem task later))

/-- What holds of all suspended tasks holds of all of them after a resumption, if
the resumed one hands it down to what it leaves and starts. -/
theorem forall_mem_resumed {P : τ → Prop} {before after continued started : List τ} {task : τ}
    (h : ∀ t ∈ before ++ task :: after, P t)
    (inherited : P task → ∀ next ∈ continued ++ started, P next) :
    ∀ t ∈ before ++ continued ++ after ++ started, P t := by
  intro next member
  rcases mem_resumed.mp member with old | new
  · exact forall_mem_others h next old
  · exact inherited (h task (List.mem_append_right _ List.mem_cons_self)) next new

/-- What the suspended tasks carry was made earlier, or is made by the resumed one
and carried by what it leaves and starts. -/
theorem carried_mem_resumed {υ : Type*} {carries : τ → List υ} {made fresh : List υ}
    {before after continued started : List τ} {task : τ}
    (h : ∀ t ∈ before ++ task :: after, ∀ v ∈ carries t, v ∈ made)
    (handed : ∀ next ∈ continued ++ started, ∀ v ∈ carries next, v ∈ carries task ∨ v ∈ fresh) :
    ∀ t ∈ before ++ continued ++ after ++ started, ∀ v ∈ carries t, v ∈ made ++ fresh := by
  have earlier : ∀ t ∈ before ++ task :: after, ∀ v ∈ carries t, v ∈ made ++ fresh := by
    intro t member v carried
    exact List.mem_append_left fresh (h t member v carried)
  refine forall_mem_resumed earlier ?_
  intro own next member v carried
  rcases handed next member v carried with old | new
  · exact own v old
  · exact List.mem_append_right made new

/-- A view of the suspended tasks, split at one of them. -/
theorem filterMap_middle {υ : Type*} (view : τ → Option υ) (before after : List τ) (task : τ) :
    (before ++ task :: after).filterMap view =
      before.filterMap view ++ (view task).toList ++ after.filterMap view := by
  rw [List.filterMap_append, List.append_assoc]
  cases seen : view task with
  | none => rw [List.filterMap_cons_none seen, Option.toList_none, List.nil_append]
  | some v => rw [List.filterMap_cons_some seen, Option.toList_some, List.singleton_append]

/-- **Invariant rule.** A predicate kept by every stimulus and by every
resumption that meets the guard holds after every guarded schedule. -/
theorem run_invariant {guard : Config σ τ → Choice ε → Prop} {Inv : Config σ τ → Prop}
    (onStimulus : ∀ shared suspended e, Inv ⟨shared, suspended⟩ →
      guard ⟨shared, suspended⟩ (.stimulus e) →
      Inv ⟨(S.stimulate e shared).1, suspended ++ (S.stimulate e shared).2⟩)
    (onResume : ∀ shared before task after, Inv ⟨shared, before ++ task :: after⟩ →
      guard ⟨shared, before ++ task :: after⟩ (.resume before.length) →
      Inv ⟨(S.resume task shared).shared,
        before ++ (S.resume task shared).continued.toList ++ after ++
          (S.resume task shared).started⟩)
    {c : Config σ τ} {schedule : List (Choice ε)} (start : Inv c)
    (guarded : S.Guarded guard c schedule) : Inv (S.run c schedule) := by
  induction schedule generalizing c with
  | nil => exact start
  | cons choice rest ih =>
      obtain ⟨now, later⟩ := guarded
      refine ih ?_ later
      obtain ⟨shared, suspended⟩ := c
      cases choice with
      | stimulus e => exact onStimulus shared suspended e start now
      | resume position =>
          rcases S.resume_cases ⟨shared, suspended⟩ position with unchanged | split
          · rw [unchanged]
            exact start
          · obtain ⟨before, task, after, parts, rfl⟩ := split
            simp only at parts
            subst parts
            rw [S.step_resume]
            exact onResume shared before task after start now

/-- The guard that asks for nothing is met by every schedule. -/
theorem guarded_trivial (c : Config σ τ) (schedule : List (Choice ε)) :
    S.Guarded (fun _ _ => True) c schedule := by
  induction schedule generalizing c with
  | nil => trivial
  | cons choice rest ih => exact ⟨trivial, ih _⟩

theorem guarded_append {guard : Config σ τ → Choice ε → Prop} {c : Config σ τ}
    {first second : List (Choice ε)} :
    S.Guarded guard c (first ++ second) ↔
      S.Guarded guard c first ∧ S.Guarded guard (S.run c first) second := by
  induction first generalizing c with
  | nil => exact ⟨fun later => ⟨trivial, later⟩, fun both => both.2⟩
  | cons choice rest ih =>
      show guard c choice ∧ S.Guarded guard (S.step c choice) (rest ++ second) ↔
        (guard c choice ∧ S.Guarded guard (S.step c choice) rest) ∧ _
      rw [ih, and_assoc]
      rfl

/-- Every step of a schedule is taken where some beginning of it leads. -/
theorem guarded_reached (c : Config σ τ) (schedule : List (Choice ε)) :
    S.Guarded (fun c' _ => ∃ before, before <+: schedule ∧ S.run c before = c') c schedule := by
  suffices later : ∀ rest before, before ++ rest = schedule →
      S.Guarded (fun c' _ => ∃ before, before <+: schedule ∧ S.run c before = c')
        (S.run c before) rest from later schedule [] rfl
  intro rest
  induction rest with
  | nil =>
      intro before _
      trivial
  | cons choice rest ih =>
      intro before split
      refine ⟨⟨before, ⟨_, split⟩, rfl⟩, ?_⟩
      have next := ih (before ++ [choice]) (by rw [List.append_assoc]; exact split)
      rw [run_append] at next
      exact next

/-- Two guards that agree wherever an invariant holds are met by the same
schedules. -/
theorem guarded_iff {guard guard' : Config σ τ → Choice ε → Prop} {Inv : Config σ τ → Prop}
    (kept : ∀ c choice, Inv c → Inv (S.step c choice))
    (agree : ∀ c choice, Inv c → (guard c choice ↔ guard' c choice)) {c : Config σ τ}
    (start : Inv c) (schedule : List (Choice ε)) :
    S.Guarded guard c schedule ↔ S.Guarded guard' c schedule := by
  induction schedule generalizing c with
  | nil => exact Iff.rfl
  | cons choice rest ih => exact and_congr (agree c choice start) (ih (kept c choice start))

/-- The stimuli of a schedule, in order. -/
def stimuli (schedule : List (Choice ε)) : List ε :=
  schedule.filterMap fun
    | .stimulus e => some e
    | .resume _ => none

@[simp] theorem stimuli_map_stimulus (stimulus : List ε) :
    stimuli (stimulus.map Choice.stimulus) = stimulus := by
  unfold stimuli
  rw [List.filterMap_map]
  exact List.filterMap_some

theorem stimuli_append (first second : List (Choice ε)) :
    stimuli (first ++ second) = stimuli first ++ stimuli second :=
  List.filterMap_append

/-- **View rule.** A part of the shared state that no resumption touches is
determined by the stimuli alone, whatever the interleaving. -/
theorem run_view {υ : Type*} (view : σ → υ) (react : υ → ε → υ)
    (onStimulus : ∀ e shared, view (S.stimulate e shared).1 = react (view shared) e)
    (onResume : ∀ task shared, view (S.resume task shared).shared = view shared)
    (c : Config σ τ) (schedule : List (Choice ε)) :
    view (S.run c schedule).shared = (stimuli schedule).foldl react (view c.shared) := by
  induction schedule generalizing c with
  | nil => rfl
  | cons choice rest ih =>
      rw [run_cons, ih]
      cases choice with
      | stimulus e =>
          show _ = (stimuli rest).foldl react (react (view c.shared) e)
          rw [← onStimulus]
          rfl
      | resume position =>
          show _ = (stimuli rest).foldl react (view c.shared)
          obtain ⟨shared, suspended⟩ := c
          rcases S.resume_cases ⟨shared, suspended⟩ position with unchanged | split
          · rw [unchanged]
          · obtain ⟨before, task, after, parts, rfl⟩ := split
            simp only at parts
            subst parts
            rw [S.step_resume, onResume]

end TaskSystem

end Interleaving
