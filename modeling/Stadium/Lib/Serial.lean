import Stadium.Lib.Draining

/-!
# One stimulus after the other

The meaning of a suspended task in direct style is the function of the shared
state that runs it to its end without interruption. In a serial run no stimulus
arrives while a task is suspended. If a stimulus starts one task at most and a
task goes on as one, nothing interferes with it in such a run, and the run is a
fold of the direct-style functions over its stimuli (`settle_run`). Where tasks
come to an end, every list of stimuli has a serial run (`exists_serial`).
-/

namespace Interleaving

variable {σ τ τ' ε ε' : Type*}

namespace TaskSystem

/-- Stimuli arrive while nothing is suspended. -/
def Serial (c : Config σ τ) : Choice ε → Prop
  | .stimulus _ => c.suspended = []
  | .resume _ => True

instance (c : Config σ τ) : ∀ choice : Choice ε, Decidable (Serial c choice)
  | .stimulus _ =>
      match tasks : c.suspended with
      | [] => isTrue tasks
      | _ :: _ => isFalse fun quiet => by
          rw [show c.suspended = [] from quiet] at tasks
          cases tasks
  | .resume _ => isTrue trivial

/-- The tasks of a system in direct style. -/
structure DirectStyle (S : TaskSystem σ τ ε) where
  /-- The task runs to its end. -/
  complete : τ → σ → σ
  starts_one : ∀ e s, (S.stimulate e s).2.length ≤ 1
  stays_one : ∀ task s, (S.resume task s).successors.length ≤ 1
  /-- A stretch, and then the rest. -/
  resumes : ∀ task s, complete task s =
    (S.resume task s).successors.foldl (fun t next => complete next t) (S.resume task s).shared

namespace DirectStyle

variable {S : TaskSystem σ τ ε} {T : TaskSystem σ τ' ε'} (D : DirectStyle S)

/-- The tasks are run to their ends, one after the other. -/
def settle (c : Config σ τ) : σ := c.suspended.foldl (fun s task => D.complete task s) c.shared

/-- A stimulus arrives, and what it starts is run to its end. -/
def handle (s : σ) (e : ε) : σ := D.settle ⟨(S.stimulate e s).1, (S.stimulate e s).2⟩

@[simp] theorem settle_nil (s : σ) : D.settle ⟨s, []⟩ = s := rfl

@[simp] theorem settle_singleton (s : σ) (task : τ) :
    D.settle ⟨s, [task]⟩ = D.complete task s := rfl

theorem settle_of_quiet {c : Config σ τ} (quiet : c.suspended = []) : D.settle c = c.shared := by
  unfold settle
  rw [quiet]
  rfl

/-- Resuming the one suspended task does not change what is reached in the
end. -/
theorem settle_resume {c : Config σ τ} (one : c.suspended.length ≤ 1) (position : ℕ) :
    D.settle (S.step c (.resume position)) = D.settle c ∧
      (S.step c (.resume position)).suspended.length ≤ 1 := by
  obtain ⟨s, tasks⟩ := c
  rcases S.resume_cases ⟨s, tasks⟩ position with unchanged | ⟨before, task, after, split, rfl⟩
  · rw [unchanged]
    exact ⟨rfl, one⟩
  · simp only at split one
    subst split
    simp only [List.length_append, List.length_cons] at one
    have front : before = [] := List.length_eq_zero_iff.mp (by omega)
    have back : after = [] := List.length_eq_zero_iff.mp (by omega)
    subst front back
    rw [S.step_resume]
    simp only [List.nil_append, List.append_nil]
    refine ⟨?_, D.stays_one task s⟩
    rw [settle_singleton, D.resumes]
    rfl

/-- **Serial runs.** What a serial run reaches, once it has run to its end, is the
fold of its stimuli. -/
theorem settle_run {c : Config σ τ} {schedule : List (Choice ε)} (one : c.suspended.length ≤ 1)
    (serial : S.Guarded Serial c schedule) :
    D.settle (S.run c schedule) = (stimuli schedule).foldl D.handle (D.settle c) := by
  induction schedule generalizing c with
  | nil => rfl
  | cons choice rest ih =>
      obtain ⟨now, later⟩ := serial
      rw [run_cons]
      cases choice with
      | stimulus e =>
          have quiet : c.suspended = [] := now
          have started : S.step c (.stimulus e) =
              ⟨(S.stimulate e c.shared).1, (S.stimulate e c.shared).2⟩ := by
            simp [step, quiet]
          rw [started] at later ⊢
          rw [ih (D.starts_one e c.shared) later, D.settle_of_quiet quiet]
          rfl
      | resume position =>
          obtain ⟨same, stays⟩ := D.settle_resume one position
          rw [ih stays later, same]
          rfl

/-- A serial run that ends with nothing suspended. -/
theorem run_serial {s : σ} {schedule : List (Choice ε)} (serial : S.Guarded Serial ⟨s, []⟩ schedule)
    (quiet : (S.run ⟨s, []⟩ schedule).suspended = []) :
    (S.run ⟨s, []⟩ schedule).shared = (stimuli schedule).foldl D.handle s := by
  rw [← D.settle_of_quiet quiet]
  exact D.settle_run (Nat.zero_le _) serial

/-- Direct style side by side. -/
def sum (E : DirectStyle T) : DirectStyle (S.sum T) where
  complete
    | .inl task, s => D.complete task s
    | .inr task, s => E.complete task s
  starts_one
    | .inl e, s => by
        show ((S.stimulate e s).2.map Sum.inl).length ≤ 1
        rw [List.length_map]
        exact D.starts_one e s
    | .inr e, s => by
        show ((T.stimulate e s).2.map Sum.inr).length ≤ 1
        rw [List.length_map]
        exact E.starts_one e s
  stays_one
    | .inl task, s => by
        show ((S.resume task s).map Sum.inl).successors.length ≤ 1
        rw [Stretch.successors_map, List.length_map]
        exact D.stays_one task s
    | .inr task, s => by
        show ((T.resume task s).map Sum.inr).successors.length ≤ 1
        rw [Stretch.successors_map, List.length_map]
        exact E.stays_one task s
  resumes
    | .inl task, s => by
        show D.complete task s = ((S.resume task s).map Sum.inl).successors.foldl _ _
        rw [Stretch.successors_map, List.foldl_map]
        exact D.resumes task s
    | .inr task, s => by
        show E.complete task s = ((T.resume task s).map Sum.inr).successors.foldl _ _
        rw [Stretch.successors_map, List.foldl_map]
        exact E.resumes task s

end DirectStyle

/-! ## Serial runs exist -/

variable {S : TaskSystem σ τ ε}

theorem serial_of_resumes {c : Config σ τ} {schedule : List (Choice ε)}
    (guarded : S.Guarded Resumes c schedule) :
    S.Guarded Serial c schedule ∧ stimuli schedule = [] := by
  induction schedule generalizing c with
  | nil => exact ⟨trivial, rfl⟩
  | cons choice rest ih =>
      obtain ⟨now, later⟩ := guarded
      obtain ⟨serial, none⟩ := ih later
      cases choice with
      | stimulus e => exact absurd now id
      | resume position => exact ⟨⟨trivial, serial⟩, none⟩

theorem eq_of_quiet {c : Config σ τ} (quiet : c.suspended = []) : c = ⟨c.shared, []⟩ := by
  obtain ⟨s, tasks⟩ := c
  simp only at quiet
  rw [quiet]

/-- Where tasks come to an end, any stimuli can arrive one after the other. -/
theorem exists_serial {α : Type*} [LT α] [WellFoundedLT α] (R : Rank S α) (stimulus : List ε)
    (s : σ) :
    ∃ schedule : List (Choice ε), S.Guarded Serial ⟨s, []⟩ schedule ∧
      stimuli schedule = stimulus ∧ (S.run ⟨s, []⟩ schedule).suspended = [] := by
  induction stimulus generalizing s with
  | nil => exact ⟨[], trivial, rfl, rfl⟩
  | cons e rest ih =>
      obtain ⟨drain, guarded, drained⟩ := R.exists_drained (S.step ⟨s, []⟩ (.stimulus e))
      obtain ⟨serial, none⟩ := serial_of_resumes guarded
      obtain ⟨later, serialLater, named, quiet⟩ :=
        ih (S.run (S.step ⟨s, []⟩ (.stimulus e)) drain).shared
      have reached : S.run (S.step ⟨s, []⟩ (.stimulus e)) drain =
          ⟨(S.run (S.step ⟨s, []⟩ (.stimulus e)) drain).shared, []⟩ := eq_of_quiet drained
      refine ⟨.stimulus e :: (drain ++ later), ⟨rfl, S.guarded_append.mpr ⟨serial, ?_⟩⟩, ?_, ?_⟩
      · rw [reached]
        exact serialLater
      · show e :: stimuli (drain ++ later) = e :: rest
        rw [stimuli_append, none, named]
        rfl
      · rw [run_cons, run_append, reached]
        exact quiet

end TaskSystem

end Interleaving
