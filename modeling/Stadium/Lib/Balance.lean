import Stadium.Lib.Parts

/-!
# Books that balance

What a stimulus brings is owed, what is settled is paid, and in between a task has it
under way. Books kept in a commutative monoid balance over every run if they balance
over every step (`Balance.run`): nothing gets lost and nothing is settled twice,
whatever the interleaving. Systems side by side have one balance if each has its own.
-/

namespace Interleaving

variable {σ τ τ' ε ε' ω M : Type*} [AddCancelCommMonoid M]

namespace TaskSystem

/-- A step pays, owes and has under way as much more as it brings. -/
structure Balance (S : TaskSystem σ τ ε) (paid owed : σ → M) (due : τ → M) (brings : ε → M) :
    Prop where
  stimulate : ∀ e s, paid (S.stimulate e s).1 + ((S.stimulate e s).2.map due).sum + owed s =
    paid s + owed (S.stimulate e s).1 + brings e
  resume : ∀ task s,
    paid (S.resume task s).shared + ((S.resume task s).successors.map due).sum + owed s =
      paid s + due task + owed (S.resume task s).shared

/-- What the suspended tasks have under way. -/
def underWay (due : τ → M) (c : Config σ τ) : M := (c.suspended.map due).sum

theorem underWay_resumed (S : TaskSystem σ τ ε) (due : τ → M) (s : σ) (before after : List τ)
    (task : τ) :
    underWay due ⟨(S.resume task s).shared,
        before ++ (S.resume task s).continued.toList ++ after ++ (S.resume task s).started⟩ +
          due task =
      underWay due ⟨s, before ++ task :: after⟩ +
        ((S.resume task s).successors.map due).sum := by
  unfold underWay Stretch.successors
  simp only [List.map_append, List.map_cons, List.sum_append, List.sum_cons]
  abel

namespace Balance

variable {S : TaskSystem σ τ ε} {T : TaskSystem σ τ' ε'} {paid owed : σ → M} {due : τ → M}
  {due' : τ' → M} {brings : ε → M} {brings' : ε' → M}

/-- A system that touches neither account. -/
theorem of_unchanged (started : ∀ e s, paid (S.stimulate e s).1 = paid s ∧
      owed (S.stimulate e s).1 = owed s)
    (resumed : ∀ task s, paid (S.resume task s).shared = paid s ∧
      owed (S.resume task s).shared = owed s) :
    S.Balance paid owed (fun _ => 0) (fun _ => 0) where
  stimulate e s := by
    obtain ⟨samePaid, sameOwed⟩ := started e s
    rw [samePaid, sameOwed]
    simp
  resume task s := by
    obtain ⟨samePaid, sameOwed⟩ := resumed task s
    rw [samePaid, sameOwed]
    simp

theorem congr (B : S.Balance paid owed due brings) {due₁ : τ → M} {brings₁ : ε → M}
    (sameDue : ∀ task, due₁ task = due task) (sameBrings : ∀ e, brings₁ e = brings e) :
    S.Balance paid owed due₁ brings₁ := by
  obtain rfl : due₁ = due := funext sameDue
  obtain rfl : brings₁ = brings := funext sameBrings
  exact B

theorem sum (B : S.Balance paid owed due brings) (C : T.Balance paid owed due' brings') :
    (S.sum T).Balance paid owed (Sum.elim due due') (Sum.elim brings brings') where
  stimulate e s := by
    cases e with
    | inl e =>
        have own := B.stimulate e s
        simpa [TaskSystem.sum, Function.comp_def] using own
    | inr e =>
        have own := C.stimulate e s
        simpa [TaskSystem.sum, Function.comp_def] using own
  resume task s := by
    cases task with
    | inl task =>
        have own := B.resume task s
        rw [show ((S.sum T).resume (.inl task) s).successors = _ from
          Stretch.successors_map Sum.inl _]
        simpa [TaskSystem.sum, Function.comp_def, Stretch.map] using own
    | inr task =>
        have own := C.resume task s
        rw [show ((S.sum T).resume (.inr task) s).successors = _ from
          Stretch.successors_map Sum.inr _]
        simpa [TaskSystem.sum, Function.comp_def, Stretch.map] using own

/-- The books of a part are books of the whole, if the whole has them nowhere else. -/
theorem onPart (B : S.Balance paid owed due brings) (get : ω → σ) (put : σ → ω → ω)
    (get_put : ∀ s w, get (put s w) = s) :
    (S.onPart get put).Balance (fun w => paid (get w)) (fun w => owed (get w)) due brings where
  stimulate e w := by
    have own := B.stimulate e (get w)
    simpa [TaskSystem.onPart, get_put] using own
  resume task w := by
    have own := B.resume task (get w)
    simpa [TaskSystem.onPart, get_put, Stretch.successors] using own

theorem heeding (B : S.Balance paid owed due brings) (read : ε' → Option ε) :
    (S.heeding read).Balance paid owed due (fun e => ((read e).map brings).getD 0) where
  stimulate e s := by
    cases own : read e with
    | none => simp [TaskSystem.heeding, own]
    | some own' => simpa [TaskSystem.heeding, own] using B.stimulate own' s
  resume task s := B.resume task s

theorem step (B : S.Balance paid owed due brings) (c : Config σ τ) (choice : Choice ε) :
    paid (S.step c choice).shared + underWay due (S.step c choice) + owed c.shared =
      paid c.shared + underWay due c + owed (S.step c choice).shared +
        ((stimuli [choice]).map brings).sum := by
  obtain ⟨s, tasks⟩ := c
  cases choice with
  | stimulus e =>
      have now := B.stimulate e s
      have joined : underWay due ⟨(S.stimulate e s).1, tasks ++ (S.stimulate e s).2⟩ =
          underWay due ⟨s, tasks⟩ + ((S.stimulate e s).2.map due).sum := by
        simp [underWay]
      show paid (S.stimulate e s).1 + underWay due ⟨_, tasks ++ (S.stimulate e s).2⟩ + owed s = _
      rw [joined]
      calc paid (S.stimulate e s).1 + (underWay due ⟨s, tasks⟩ + _) + owed s
          = (paid (S.stimulate e s).1 + ((S.stimulate e s).2.map due).sum + owed s) +
              underWay due ⟨s, tasks⟩ := by abel
        _ = (paid s + owed (S.stimulate e s).1 + brings e) + underWay due ⟨s, tasks⟩ := by rw [now]
        _ = paid s + underWay due ⟨s, tasks⟩ + owed (S.stimulate e s).1 + brings e := by abel
        _ = _ := by simp [stimuli, TaskSystem.step]
  | resume position =>
      have silent : ((stimuli [Choice.resume (ε := ε) position]).map brings).sum = 0 := rfl
      rw [silent, add_zero]
      rcases S.resume_cases ⟨s, tasks⟩ position with unchanged | ⟨before, task, after, parts, rfl⟩
      · rw [unchanged]
      · simp only at parts
        subst parts
        rw [S.step_resume]
        have now := B.resume task s
        have moved := underWay_resumed S due s before after task
        apply add_right_cancel (b := due task)
        calc _ = paid (S.resume task s).shared + (underWay due ⟨(S.resume task s).shared, _⟩ +
                due task) + owed s := by abel
          _ = (paid (S.resume task s).shared + ((S.resume task s).successors.map due).sum +
                owed s) + underWay due ⟨s, before ++ task :: after⟩ := by rw [moved]; abel
          _ = _ := by rw [now]; abel

/-- **The books balance over every run.** -/
theorem run (B : S.Balance paid owed due brings) (c : Config σ τ) (schedule : List (Choice ε)) :
    paid (S.run c schedule).shared + underWay due (S.run c schedule) + owed c.shared =
      paid c.shared + underWay due c + owed (S.run c schedule).shared +
        ((stimuli schedule).map brings).sum := by
  induction schedule generalizing c with
  | nil => simp [stimuli]
  | cons choice rest ih =>
      have first := B.step c choice
      have later := ih (S.step c choice)
      have all : stimuli (choice :: rest) = stimuli [choice] ++ stimuli rest :=
        stimuli_append [choice] rest
      rw [run_cons, all, List.map_append, List.sum_append]
      generalize S.step c choice = d at first later ⊢
      apply add_right_cancel (b := paid d.shared + underWay due d + owed d.shared)
      calc _ = (paid (S.run d rest).shared + underWay due (S.run d rest) + owed d.shared) +
              (paid d.shared + underWay due d + owed c.shared) := by abel
        _ = _ := by rw [first, later]; abel

end Balance

end TaskSystem

end Interleaving
