import Stadium.Lib.Interleaving

/-!
# Runs by families of tasks

The tasks that go back to one stimulus are its family. In a family run each
resumption names a family and a place in it, instead of a place among all
suspended tasks; so a stimulus can be left out of a run and the later steps
still name the tasks they named before.

Family runs are the runs of the system: every schedule is a family run, named
step by step (`familyRun_familySteps`), and every family run, with or without
gaps, is a schedule (`exists_schedule`). Both go through the system whose tasks
are labelled by their families.
-/

namespace Interleaving

variable {σ τ ε : Type*}

/-- One step of a family run. -/
inductive FamilyStep (ε : Type*) where
  /-- A stimulus arrives and founds the next family. -/
  | stimulus (e : ε)
  /-- A stimulus is left out; its family stays empty. -/
  | omitted
  /-- The task at a position of a family is resumed. -/
  | resume (family position : ℕ)

/-- The shared state and the families, numbered in the order of their
stimuli. -/
structure FamilyConfig (σ τ : Type*) where
  shared : σ
  /-- The number of families founded so far. -/
  founded : ℕ
  families : ℕ → List τ

/-- The tasks of one family among labelled tasks. -/
def familyOf (family : ℕ) (tasks : List (ℕ × τ)) : List τ :=
  tasks.filterMap fun task => if task.1 = family then some task.2 else none

@[simp] theorem familyOf_nil (family : ℕ) : familyOf family ([] : List (ℕ × τ)) = [] := rfl

@[simp] theorem familyOf_append (family : ℕ) (first second : List (ℕ × τ)) :
    familyOf family (first ++ second) = familyOf family first ++ familyOf family second :=
  List.filterMap_append

theorem familyOf_map (family label : ℕ) (tasks : List τ) :
    familyOf family (tasks.map (Prod.mk label)) = if label = family then tasks else [] := by
  unfold familyOf
  rw [List.filterMap_map]
  by_cases own : label = family <;> simp [own]

theorem familyOf_toList (family label : ℕ) (task : Option τ) :
    familyOf family (task.map (Prod.mk label)).toList =
      if label = family then task.toList else [] := by
  rw [← familyOf_map]
  cases task <;> rfl

theorem familyOf_cons (family : ℕ) (task : ℕ × τ) (rest : List (ℕ × τ)) :
    familyOf family (task :: rest) =
      (if task.1 = family then [task.2] else []) ++ familyOf family rest :=
  (familyOf_append family [task] rest).trans
    (congrArg (· ++ _) (familyOf_map family task.1 [task.2]))

/-- A task of a family stands somewhere among the labelled tasks. -/
theorem split_familyOf {family : ℕ} {tasks : List (ℕ × τ)} {before after : List τ} {task : τ}
    (split : familyOf family tasks = before ++ task :: after) :
    ∃ first second, tasks = first ++ (family, task) :: second ∧ familyOf family first = before := by
  obtain ⟨first, rest, rfl, own, here⟩ := List.filterMap_eq_append_iff.mp split
  obtain ⟨skipped, found, second, rfl, others, named, -⟩ := List.filterMap_eq_cons_iff.mp here
  have same : found = (family, task) := by
    split at named
    · rename_i label
      exact Prod.ext label (Option.some.inj named)
    · cases named
  refine ⟨first ++ skipped, second, by rw [same, List.append_assoc], ?_⟩
  rw [familyOf_append, show familyOf family first = before from own,
    show familyOf family skipped = [] from List.filterMap_eq_nil_iff.mpr others, List.append_nil]

/-- A family that is not founded yet has no tasks. -/
theorem familyOf_unfounded {founded : ℕ} {tasks : List (ℕ × τ)}
    (labels : ∀ task ∈ tasks, task.1 < founded) : familyOf founded tasks = [] := by
  apply List.filterMap_eq_nil_iff.mpr
  intro task member
  exact if_neg (labels task member).ne

namespace TaskSystem

variable (S : TaskSystem σ τ ε)

/-- One step; naming a task that is not there changes nothing. -/
def familyStep (c : FamilyConfig σ τ) : FamilyStep ε → FamilyConfig σ τ
  | .stimulus e =>
      { shared := (S.stimulate e c.shared).1
        founded := c.founded + 1
        families := Function.update c.families c.founded (S.stimulate e c.shared).2 }
  | .omitted =>
      { c with
        founded := c.founded + 1
        families := Function.update c.families c.founded [] }
  | .resume family position =>
      match (c.families family)[position]? with
      | none => c
      | some task =>
          { c with
            shared := (S.resume task c.shared).shared
            families := Function.update c.families family
              ((c.families family).take position ++ (S.resume task c.shared).continued.toList ++
                (c.families family).drop (position + 1) ++ (S.resume task c.shared).started) }

def familyRun (c : FamilyConfig σ τ) (steps : List (FamilyStep ε)) : FamilyConfig σ τ :=
  steps.foldl S.familyStep c

@[simp] theorem familyRun_nil (c : FamilyConfig σ τ) : S.familyRun c [] = c := rfl

@[simp] theorem familyRun_cons (c : FamilyConfig σ τ) (step : FamilyStep ε)
    (rest : List (FamilyStep ε)) :
    S.familyRun c (step :: rest) = S.familyRun (S.familyStep c step) rest := rfl

/-- Resuming the task in the middle of a family. -/
theorem familyStep_resume {c : FamilyConfig σ τ} {family : ℕ} {before after : List τ} {task : τ}
    (split : c.families family = before ++ task :: after) :
    S.familyStep c (.resume family before.length) =
      { c with
        shared := (S.resume task c.shared).shared
        families := Function.update c.families family
          (before ++ (S.resume task c.shared).continued.toList ++ after ++
            (S.resume task c.shared).started) } := by
  simp [familyStep, split]

/-- Naming a task that is not there. -/
theorem familyStep_absent {c : FamilyConfig σ τ} {family position : ℕ}
    (absent : (c.families family)[position]? = none) :
    S.familyStep c (.resume family position) = c := by
  simp [familyStep, absent]

/-- A resumption founds no family. -/
theorem founded_resume (c : FamilyConfig σ τ) (family position : ℕ) :
    (S.familyStep c (.resume family position)).founded = c.founded := by
  simp only [familyStep]
  split <;> rfl

/-! ## Labelled tasks -/

/-- The system with its stimuli numbered, and its tasks labelled by the stimulus
they go back to. -/
def labelled : TaskSystem σ (ℕ × τ) (ℕ × ε) where
  stimulate e s := ((S.stimulate e.2 s).1, (S.stimulate e.2 s).2.map (Prod.mk e.1))
  resume task s :=
    { shared := (S.resume task.2 s).shared
      continued := (S.resume task.2 s).continued.map (Prod.mk task.1)
      started := (S.resume task.2 s).started.map (Prod.mk task.1) }

/-- The configuration without its labels. -/
def unlabel (c : Config σ (ℕ × τ)) : Config σ τ := ⟨c.shared, c.suspended.map Prod.snd⟩

theorem unlabel_stimulus (c : Config σ (ℕ × τ)) (label : ℕ) (e : ε) :
    unlabel (S.labelled.step c (.stimulus (label, e))) = S.step (unlabel c) (.stimulus e) := by
  simp [unlabel, step, labelled, Function.comp_def]

theorem unlabel_resume (c : Config σ (ℕ × τ)) (position : ℕ) :
    unlabel (S.labelled.step c (.resume position)) = S.step (unlabel c) (.resume position) := by
  obtain ⟨s, tasks⟩ := c
  cases found : tasks[position]? with
  | none => simp [unlabel, step, found]
  | some task =>
      obtain ⟨before, after, rfl, rfl⟩ := split_at found
      rw [S.labelled.step_resume]
      have moved := S.step_resume s (before.map Prod.snd) (after.map Prod.snd) task.2
      rw [List.length_map] at moved
      simp only [unlabel, List.map_append, List.map_cons]
      rw [moved]
      simp [labelled, Function.comp_def, Option.toList_map]

/-- The families of a labelled configuration. -/
structure Sorted (c : Config σ (ℕ × τ)) (d : FamilyConfig σ τ) : Prop where
  shared : c.shared = d.shared
  families : ∀ family, familyOf family c.suspended = d.families family
  founded : ∀ task ∈ c.suspended, task.1 < d.founded

variable {S} {c : Config σ (ℕ × τ)} {d : FamilyConfig σ τ}

theorem Sorted.stimulus (sorted : Sorted c d) (e : ε) :
    Sorted (S.labelled.step c (.stimulus (d.founded, e))) (S.familyStep d (.stimulus e)) where
  shared := by
    show (S.stimulate e c.shared).1 = (S.stimulate e d.shared).1
    rw [sorted.shared]
  families family := by
    show familyOf family (c.suspended ++ (S.stimulate e c.shared).2.map (Prod.mk d.founded)) =
      Function.update d.families d.founded (S.stimulate e d.shared).2 family
    rw [familyOf_append, familyOf_map, sorted.shared]
    by_cases own : d.founded = family
    · subst own
      rw [if_pos rfl, Function.update_self, familyOf_unfounded sorted.founded, List.nil_append]
    · rw [if_neg own, Function.update_of_ne (Ne.symm own), List.append_nil, sorted.families]
  founded task member := by
    rcases List.mem_append.mp member with old | new
    · exact Nat.lt_succ_of_lt (sorted.founded task old)
    · obtain ⟨started, -, rfl⟩ := List.mem_map.mp new
      exact Nat.lt_succ_self d.founded

theorem Sorted.omitted (sorted : Sorted c d) : Sorted c (S.familyStep d .omitted) where
  shared := sorted.shared
  families family := by
    show _ = Function.update d.families d.founded [] family
    by_cases own : family = d.founded
    · rw [own, Function.update_self, familyOf_unfounded sorted.founded]
    · rw [Function.update_of_ne own, sorted.families]
  founded task member := Nat.lt_succ_of_lt (sorted.founded task member)

/-- Resuming a labelled task resumes the task of its family. -/
theorem Sorted.resume {s : σ} {before after : List (ℕ × τ)} {family : ℕ} {task : τ}
    (sorted : Sorted ⟨s, before ++ (family, task) :: after⟩ d) :
    Sorted (S.labelled.step ⟨s, before ++ (family, task) :: after⟩ (.resume before.length))
      (S.familyStep d (.resume family (familyOf family before).length)) := by
  have own := (sorted.families family).symm
  simp only [familyOf_append, familyOf_cons, if_true, List.singleton_append] at own
  have shared : s = d.shared := sorted.shared
  subst shared
  rw [S.labelled.step_resume, S.familyStep_resume own]
  refine ⟨rfl, fun other => ?_, ?_⟩
  · show familyOf other (before ++ ((S.resume task d.shared).continued.map (Prod.mk family)).toList
      ++ after ++ (S.resume task d.shared).started.map (Prod.mk family)) =
        Function.update d.families family _ other
    simp only [familyOf_append, familyOf_toList, familyOf_map]
    by_cases same : family = other
    · subst same
      simp only [if_true, Function.update_self]
    · rw [Function.update_of_ne (Ne.symm same), ← sorted.families other]
      simp only [if_neg same, List.append_nil, familyOf_append, familyOf_cons, List.nil_append]
  · apply forall_mem_resumed sorted.founded
    intro label next member
    rcases List.mem_append.mp member with continued | started
    · obtain ⟨following, -, rfl⟩ := Option.map_eq_some_iff.mp (Option.mem_toList.mp continued)
      exact label
    · obtain ⟨following, -, rfl⟩ := List.mem_map.mp started
      exact label

/-! ## Schedules and family runs -/

variable (S)

/-- The name of the task at a position; a position without a task is named as the
first task of a family that is not founded yet. -/
def nameOf (tasks : List (ℕ × τ)) (founded position : ℕ) : FamilyStep ε :=
  match tasks[position]? with
  | none => .resume founded 0
  | some task => .resume task.1 (familyOf task.1 (tasks.take position)).length

/-- The steps of a schedule, named as it goes. -/
def familySteps : Config σ (ℕ × τ) → ℕ → List (Choice ε) → List (FamilyStep ε)
  | _, _, [] => []
  | c, founded, .stimulus e :: rest =>
      .stimulus e :: familySteps (S.labelled.step c (.stimulus (founded, e))) (founded + 1) rest
  | c, founded, .resume position :: rest =>
      nameOf c.suspended founded position ::
        familySteps (S.labelled.step c (.resume position)) founded rest

theorem familySteps_take (c : Config σ (ℕ × τ)) (founded : ℕ) (schedule : List (Choice ε))
    (n : ℕ) :
    S.familySteps c founded (schedule.take n) = (S.familySteps c founded schedule).take n := by
  induction schedule generalizing c founded n with
  | nil => simp [familySteps]
  | cons choice rest ih =>
      cases n with
      | zero => rfl
      | succ n => cases choice <;> exact congrArg _ (ih _ _ n)

variable {S}

theorem Sorted.named (sorted : Sorted c d) (position : ℕ) :
    Sorted (S.labelled.step c (.resume position))
      (S.familyStep d (nameOf c.suspended d.founded position)) := by
  obtain ⟨s, tasks⟩ := c
  unfold nameOf
  cases found : tasks[position]? with
  | none =>
      have unchanged : S.labelled.step ⟨s, tasks⟩ (.resume position) = ⟨s, tasks⟩ := by
        simp [step, found]
      have empty : d.families d.founded = [] := by
        rw [← sorted.families]
        exact familyOf_unfounded sorted.founded
      rw [unchanged]
      show Sorted _ (S.familyStep d (.resume d.founded 0))
      rw [S.familyStep_absent (by rw [empty]; rfl)]
      exact sorted
  | some task =>
      obtain ⟨before, after, rfl, rfl⟩ := split_at found
      show Sorted _ (S.familyStep d (.resume task.1 (familyOf task.1 (_ : List _)).length))
      rw [List.take_left]
      exact sorted.resume

/-- **Every schedule is a family run**, with the same states. -/
theorem familyRun_familySteps (sorted : Sorted c d) (schedule : List (Choice ε)) :
    (S.familyRun d (S.familySteps c d.founded schedule)).shared =
      (S.run (unlabel c) schedule).shared := by
  induction schedule generalizing c d with
  | nil => exact sorted.shared.symm
  | cons choice rest ih =>
      cases choice with
      | stimulus e =>
          rw [run_cons, ← S.unlabel_stimulus c d.founded e]
          exact ih (sorted.stimulus e)
      | resume position =>
          have next := sorted.named (S := S) position
          have founded : (S.familyStep d (nameOf c.suspended d.founded position)).founded =
              d.founded := by
            unfold nameOf
            split <;> exact S.founded_resume d _ _
          rw [run_cons, ← S.unlabel_resume c position]
          have later := ih next
          rw [founded] at later
          exact later

/-- The stimuli of a family run, in order. -/
def keptStimuli (steps : List (FamilyStep ε)) : List ε :=
  steps.filterMap fun
    | .stimulus e => some e
    | _ => none

theorem keptStimuli_familySteps (c : Config σ (ℕ × τ)) (founded : ℕ)
    (schedule : List (Choice ε)) :
    keptStimuli (S.familySteps c founded schedule) = stimuli schedule := by
  induction schedule generalizing c founded with
  | nil => rfl
  | cons choice rest ih =>
      cases choice with
      | stimulus e => exact congrArg (e :: ·) (ih _ _)
      | resume position =>
          refine Eq.trans ?_ (ih (S.labelled.step c (.resume position)) founded)
          rw [familySteps]
          unfold nameOf
          split <;> rfl

/-- **Every family run is a schedule**: one with its stimuli, and with the same
state at its end. -/
theorem exists_schedule (sorted : Sorted c d) (steps : List (FamilyStep ε)) :
    ∃ schedule : List (Choice ε), stimuli schedule = keptStimuli steps ∧
      (S.run (unlabel c) schedule).shared = (S.familyRun d steps).shared := by
  induction steps generalizing c d with
  | nil => exact ⟨[], rfl, sorted.shared⟩
  | cons first rest ih =>
      cases first with
      | stimulus e =>
          obtain ⟨schedule, same, reached⟩ := ih (sorted.stimulus (S := S) e)
          refine ⟨.stimulus e :: schedule, congrArg (e :: ·) same, ?_⟩
          rw [run_cons, ← S.unlabel_stimulus c d.founded e]
          exact reached
      | omitted => exact ih sorted.omitted
      | resume family position =>
          cases found : (d.families family)[position]? with
          | none =>
              obtain ⟨schedule, same, reached⟩ := ih sorted
              refine ⟨schedule, same, ?_⟩
              rw [familyRun_cons, S.familyStep_absent found]
              exact reached
          | some task =>
              obtain ⟨s, tasks⟩ := c
              obtain ⟨before, after, split, rfl⟩ := split_at found
              obtain ⟨first, second, rfl, rfl⟩ :=
                split_familyOf ((sorted.families family).trans split)
              obtain ⟨schedule, same, reached⟩ := ih (sorted.resume (S := S))
              refine ⟨.resume first.length :: schedule, same, ?_⟩
              rw [run_cons, ← S.unlabel_resume]
              exact reached

end TaskSystem

end Interleaving
