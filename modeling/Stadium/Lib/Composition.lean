import Stadium.Lib.Trace

/-!
# Systems side by side

Two task systems over one shared state run side by side in `sum`: a schedule
of the sum is an interleaving of their stimuli and of the resumptions of their
tasks. An environment that only changes the shared state is a system without
tasks (`passive`).

The suspended tasks of a sum are a shuffle of those of its parts, and no step
of one part touches the tasks of the other. `sum_invariant` therefore asks
for an invariant over the shared state and the two lists of tasks, one
obligation for each kind of step of each part.
-/

namespace Interleaving

variable {σ τ τ' ε ε' υ : Type*}

/-- The stretch with its tasks tagged. -/
def Stretch.map (tag : τ → τ') (stretch : Stretch σ τ) : Stretch σ τ' where
  shared := stretch.shared
  continued := stretch.continued.map tag
  started := stretch.started.map tag

/-- The successors of a task. -/
def Stretch.successors (stretch : Stretch σ τ) : List τ :=
  stretch.continued.toList ++ stretch.started

theorem Stretch.successors_map (tag : τ → τ') (stretch : Stretch σ τ) :
    (stretch.map tag).successors = stretch.successors.map tag := by
  unfold successors Stretch.map
  rw [List.map_append]
  cases stretch.continued <;> rfl

namespace TaskSystem

/-- Both systems at once. -/
def sum (S : TaskSystem σ τ ε) (T : TaskSystem σ τ' ε') : TaskSystem σ (τ ⊕ τ') (ε ⊕ ε') where
  stimulate
    | .inl e, s => ((S.stimulate e s).1, (S.stimulate e s).2.map .inl)
    | .inr e, s => ((T.stimulate e s).1, (T.stimulate e s).2.map .inr)
  resume
    | .inl task, s => (S.resume task s).map .inl
    | .inr task, s => (T.resume task s).map .inr

/-- Stimuli that start no task. -/
def passive (react : ε → σ → σ) : TaskSystem σ Empty ε where
  stimulate e s := (react e s, [])
  resume task _ := nomatch task

/-- The tasks of the first part, in order. -/
def lefts (tasks : List (τ ⊕ τ')) : List τ := tasks.filterMap Sum.getLeft?

/-- The tasks of the second part, in order. -/
def rights (tasks : List (τ ⊕ τ')) : List τ' := tasks.filterMap Sum.getRight?

@[simp] theorem lefts_append (first second : List (τ ⊕ τ')) :
    lefts (first ++ second) = lefts first ++ lefts second := List.filterMap_append

@[simp] theorem rights_append (first second : List (τ ⊕ τ')) :
    rights (first ++ second) = rights first ++ rights second := List.filterMap_append

@[simp] theorem lefts_cons_inl (task : τ) (rest : List (τ ⊕ τ')) :
    lefts (.inl task :: rest) = task :: lefts rest := rfl

@[simp] theorem lefts_cons_inr (task : τ') (rest : List (τ ⊕ τ')) :
    lefts (.inr task :: rest) = lefts rest := rfl

@[simp] theorem rights_cons_inl (task : τ) (rest : List (τ ⊕ τ')) :
    rights (.inl task :: rest) = rights rest := rfl

@[simp] theorem rights_cons_inr (task : τ') (rest : List (τ ⊕ τ')) :
    rights (.inr task :: rest) = task :: rights rest := rfl

@[simp] theorem lefts_nil : lefts ([] : List (τ ⊕ τ')) = [] := rfl

@[simp] theorem rights_nil : rights ([] : List (τ ⊕ τ')) = [] := rfl

@[simp] theorem lefts_map_inl (tasks : List τ) :
    lefts (tasks.map (Sum.inl : τ → τ ⊕ τ')) = tasks := by
  induction tasks with
  | nil => rfl
  | cons task rest ih => simp [ih]

@[simp] theorem rights_map_inl (tasks : List τ) :
    rights (tasks.map (Sum.inl : τ → τ ⊕ τ')) = [] := by
  induction tasks with
  | nil => rfl
  | cons task rest ih => simp [ih]

@[simp] theorem lefts_map_inr (tasks : List τ') :
    lefts (tasks.map (Sum.inr : τ' → τ ⊕ τ')) = [] := by
  induction tasks with
  | nil => rfl
  | cons task rest ih => simp [ih]

@[simp] theorem rights_map_inr (tasks : List τ') :
    rights (tasks.map (Sum.inr : τ' → τ ⊕ τ')) = tasks := by
  induction tasks with
  | nil => rfl
  | cons task rest ih => simp [ih]

section

variable (S : TaskSystem σ τ ε) (T : TaskSystem σ τ' ε') (O : Observer σ (τ ⊕ τ') (ε ⊕ ε') υ)

/-- What a step of the first part makes of its own tasks: as in a run of that
part alone. -/
def resumed (R : TaskSystem σ τ ε) (before : List τ) (task : τ) (after : List τ) (s : σ) :
    List τ :=
  before ++ (R.resume task s).continued.toList ++ after ++ (R.resume task s).started

/-- **Invariant rule for two systems.** A relation between the shared state,
the tasks of either part and the notes taken so far holds after every guarded
schedule if every stimulus and every resumption of either part keeps it. -/
theorem sum_invariant {guard : Config σ (τ ⊕ τ') → Choice (ε ⊕ ε') → Prop}
    {Inv : σ → List τ → List τ' → List υ → Prop}
    (leftStimulus : ∀ s tasks notes e, Inv s (lefts tasks) (rights tasks) notes →
      guard ⟨s, tasks⟩ (.stimulus (.inl e)) →
      Inv (S.stimulate e s).1 (lefts tasks ++ (S.stimulate e s).2) (rights tasks)
        (notes ++ O.onStimulus (.inl e) s))
    (rightStimulus : ∀ s tasks notes e, Inv s (lefts tasks) (rights tasks) notes →
      guard ⟨s, tasks⟩ (.stimulus (.inr e)) →
      Inv (T.stimulate e s).1 (lefts tasks) (rights tasks ++ (T.stimulate e s).2)
        (notes ++ O.onStimulus (.inr e) s))
    (leftResume : ∀ s before task after notes,
      Inv s (lefts before ++ task :: lefts after) (rights before ++ rights after) notes →
      guard ⟨s, before ++ .inl task :: after⟩ (.resume before.length) →
      Inv (S.resume task s).shared (resumed S (lefts before) task (lefts after) s)
        (rights before ++ rights after) (notes ++ O.onResume (.inl task) s))
    (rightResume : ∀ s before task after notes,
      Inv s (lefts before ++ lefts after) (rights before ++ task :: rights after) notes →
      guard ⟨s, before ++ .inr task :: after⟩ (.resume before.length) →
      Inv (T.resume task s).shared (lefts before ++ lefts after)
        (resumed T (rights before) task (rights after) s)
        (notes ++ O.onResume (.inr task) s))
    {c : Config σ (τ ⊕ τ')} {notes : List υ} {schedule : List (Choice (ε ⊕ ε'))}
    (start : Inv c.shared (lefts c.suspended) (rights c.suspended) notes)
    (guarded : (S.sum T).Guarded guard c schedule) :
    Inv ((S.sum T).run c schedule).shared (lefts ((S.sum T).run c schedule).suspended)
      (rights ((S.sum T).run c schedule).suspended)
      (notes ++ (S.sum T).trace O c schedule) := by
  let Kept : Config σ (τ ⊕ τ') → List υ → Prop := fun c notes =>
    Inv c.shared (lefts c.suspended) (rights c.suspended) notes
  suffices kept : Kept ((S.sum T).run c schedule) (notes ++ (S.sum T).trace O c schedule) from kept
  refine (S.sum T).run_invariant_traced O ?_ ?_ start guarded
  · intro s tasks notes e inv now
    cases e with
    | inl e =>
        show Inv _ (lefts (tasks ++ (S.stimulate e s).2.map .inl))
          (rights (tasks ++ (S.stimulate e s).2.map .inl)) _
        rw [lefts_append, rights_append, lefts_map_inl, rights_map_inl, List.append_nil]
        exact leftStimulus s tasks notes e inv now
    | inr e =>
        show Inv _ (lefts (tasks ++ (T.stimulate e s).2.map .inr))
          (rights (tasks ++ (T.stimulate e s).2.map .inr)) _
        rw [lefts_append, rights_append, lefts_map_inr, rights_map_inr, List.append_nil]
        exact rightStimulus s tasks notes e inv now
  · intro s before task after notes inv now
    have inv : Inv s (lefts (before ++ task :: after)) (rights (before ++ task :: after)) notes :=
      inv
    cases task with
    | inl task =>
        rw [lefts_append, rights_append, lefts_cons_inl, rights_cons_inl] at inv
        have step := leftResume s before task after notes inv now
        show Inv (S.resume task s).shared
          (lefts (before ++ ((S.resume task s).continued.map Sum.inl).toList ++ after ++
            (S.resume task s).started.map .inl))
          (rights (before ++ ((S.resume task s).continued.map Sum.inl).toList ++ after ++
            (S.resume task s).started.map .inl)) _
        cases next : (S.resume task s).continued <;>
          simpa [resumed, next] using step
    | inr task =>
        rw [lefts_append, rights_append, lefts_cons_inr, rights_cons_inr] at inv
        have step := rightResume s before task after notes inv now
        show Inv (T.resume task s).shared
          (lefts (before ++ ((T.resume task s).continued.map Sum.inr).toList ++ after ++
            (T.resume task s).started.map .inr))
          (rights (before ++ ((T.resume task s).continued.map Sum.inr).toList ++ after ++
            (T.resume task s).started.map .inr)) _
        cases next : (T.resume task s).continued <;>
          simpa [resumed, next] using step

end

end TaskSystem

end Interleaving
