import Stadium.Lib.Composition
import Stadium.Lib.Families

/-!
# Isolation

A view of the shared state is isolated from some stimuli if these leave it
alone, with all that follows from them. The tasks that may touch the view are
the relevant ones. `Isolated` asks of every single step that an irrelevant one
leaves the view alone and starts nothing relevant, and that a relevant one does
the same to any two states with the same view. It follows that the stimuli can
be left out of any run, and the view is the same after every step
(`Isolated.view_familyRun`). A system that never touches the view can run
beside an isolated one (`Isolated.sum`).
-/

namespace Interleaving

variable {σ τ τ' ε ε' υ : Type*}

/-- Leave out the stimuli that are deleted. -/
def FamilyStep.omitting (deleted : ε → Bool) : FamilyStep ε → FamilyStep ε
  | .stimulus e => if deleted e then .omitted else .stimulus e
  | .omitted => .omitted
  | .resume family position => .resume family position

/-- Two families in two runs are the same relevant task, or have no relevant
task at all. -/
inductive Alike (relevant : τ → Prop) : List τ → List τ → Prop
  | same (task : τ) : relevant task → Alike relevant [task] [task]
  | unseen {tasks tasks' : List τ} : (∀ task ∈ tasks, ¬ relevant task) →
      (∀ task ∈ tasks', ¬ relevant task) → Alike relevant tasks tasks'

theorem Alike.nil (relevant : τ → Prop) : Alike relevant [] [] :=
  .unseen (fun _ impossible => absurd impossible List.not_mem_nil)
    (fun _ impossible => absurd impossible List.not_mem_nil)

/-- One task is like itself, relevant or not. -/
theorem Alike.refl_singleton (relevant : τ → Prop) (task : τ) : Alike relevant [task] [task] := by
  by_cases seen : relevant task
  · exact .same task seen
  · have unseen : ∀ next ∈ [task], ¬ relevant next := by
      intro next member
      rw [List.mem_singleton.mp member]
      exact seen
    exact .unseen unseen unseen

/-- The tasks of the first of two systems, tagged. -/
theorem Alike.inl {relevant : τ → Prop} {tasks tasks' : List τ}
    (alike : Alike relevant tasks tasks') :
    Alike (Sum.elim relevant fun _ : τ' => False) (tasks.map .inl) (tasks'.map .inl) := by
  have irrelevant : ∀ {list : List τ}, (∀ task ∈ list, ¬ relevant task) →
      ∀ task ∈ list.map Sum.inl, ¬ Sum.elim relevant (fun _ : τ' => False) task := by
    intro list unseen task member
    obtain ⟨own, listed, rfl⟩ := List.mem_map.mp member
    exact unseen own listed
  cases alike with
  | same task seen => exact .same _ seen
  | unseen here there => exact .unseen (irrelevant here) (irrelevant there)

namespace TaskSystem

/-- The view is isolated from the deleted stimuli, in states with the
invariant. -/
structure Isolated (S : TaskSystem σ τ ε) (view : σ → υ) (Inv : σ → Prop) (relevant : τ → Prop)
    (deleted : ε → Bool) : Prop where
  inv_stimulate : ∀ e s, Inv s → Inv (S.stimulate e s).1
  inv_resume : ∀ task s, Inv s → Inv (S.resume task s).shared
  unseen_stimulus : ∀ e s, deleted e = true → Inv s →
    view (S.stimulate e s).1 = view s ∧ ∀ task ∈ (S.stimulate e s).2, ¬ relevant task
  same_stimulus : ∀ e s s', deleted e = false → Inv s → Inv s' → view s = view s' →
    view (S.stimulate e s).1 = view (S.stimulate e s').1 ∧
      Alike relevant (S.stimulate e s).2 (S.stimulate e s').2
  unseen_resume : ∀ task s, ¬ relevant task → Inv s →
    view (S.resume task s).shared = view s ∧
      ∀ next ∈ (S.resume task s).successors, ¬ relevant next
  same_resume : ∀ task s s', relevant task → Inv s → Inv s' → view s = view s' →
    view (S.resume task s).shared = view (S.resume task s').shared ∧
      Alike relevant (S.resume task s).successors (S.resume task s').successors

/-- Nothing the system does is seen in the view. -/
structure Unseen (T : TaskSystem σ τ ε) (view : σ → υ) (Inv : σ → Prop) : Prop where
  stimulus : ∀ e s, Inv s → Inv (T.stimulate e s).1 ∧ view (T.stimulate e s).1 = view s
  resume : ∀ task s, Inv s →
    Inv (T.resume task s).shared ∧ view (T.resume task s).shared = view s

/-- Two configurations with the same view, and with families that are alike. -/
structure SameView (view : σ → υ) (Inv : σ → Prop) (relevant : τ → Prop)
    (c d : FamilyConfig σ τ) : Prop where
  view : view c.shared = view d.shared
  left : Inv c.shared
  right : Inv d.shared
  founded : c.founded = d.founded
  families : ∀ family, Alike relevant (c.families family) (d.families family)

variable {S : TaskSystem σ τ ε} {view : σ → υ} {Inv : σ → Prop} {relevant : τ → Prop}
  {deleted : ε → Bool}

/-! ## Side by side -/

theorem Unseen.sum {T : TaskSystem σ τ ε} {U : TaskSystem σ τ' ε'} (first : T.Unseen view Inv)
    (second : U.Unseen view Inv) : (T.sum U).Unseen view Inv where
  stimulus
    | .inl e, s, inv => first.stimulus e s inv
    | .inr e, s, inv => second.stimulus e s inv
  resume
    | .inl task, s, inv => first.resume task s inv
    | .inr task, s, inv => second.resume task s inv

/-- The tasks of an unseen system are not relevant. -/
theorem not_relevant_inr (relevant : τ → Prop) (tasks : List τ') :
    ∀ task ∈ tasks.map Sum.inr, ¬ Sum.elim relevant (fun _ => False) task := by
  intro task member
  obtain ⟨own, -, rfl⟩ := List.mem_map.mp member
  exact id

/-- An unseen system can run beside an isolated one. -/
theorem Isolated.sum {T : TaskSystem σ τ' ε'} (isolated : S.Isolated view Inv relevant deleted)
    (beside : T.Unseen view Inv) :
    (S.sum T).Isolated view Inv (Sum.elim relevant fun _ => False)
      (Sum.elim deleted fun _ => false) where
  inv_stimulate
    | .inl e, s, inv => isolated.inv_stimulate e s inv
    | .inr e, s, inv => (beside.stimulus e s inv).1
  inv_resume
    | .inl task, s, inv => isolated.inv_resume task s inv
    | .inr task, s, inv => (beside.resume task s inv).1
  unseen_stimulus
    | .inl e, s, left, inv => by
        obtain ⟨same, started⟩ := isolated.unseen_stimulus e s left inv
        refine ⟨same, fun task member => ?_⟩
        obtain ⟨own, listed, rfl⟩ := List.mem_map.mp member
        exact started own listed
  same_stimulus
    | .inl e, s, s', kept, inv, inv', same => by
        obtain ⟨views, alike⟩ := isolated.same_stimulus e s s' kept inv inv' same
        exact ⟨views, alike.inl⟩
    | .inr e, s, s', _, inv, inv', same =>
        ⟨(beside.stimulus e s inv).2.trans (same.trans (beside.stimulus e s' inv').2.symm),
          .unseen (not_relevant_inr relevant _) (not_relevant_inr relevant _)⟩
  unseen_resume
    | .inl task, s, other, inv => by
        obtain ⟨same, successors⟩ := isolated.unseen_resume task s other inv
        refine ⟨same, fun next member => ?_⟩
        rw [show ((S.sum T).resume (.inl task) s).successors = _ from
          Stretch.successors_map Sum.inl _] at member
        obtain ⟨own, listed, rfl⟩ := List.mem_map.mp member
        exact successors own listed
    | .inr task, s, _, inv => by
        refine ⟨(beside.resume task s inv).2, fun next member => ?_⟩
        rw [show ((S.sum T).resume (.inr task) s).successors = _ from
          Stretch.successors_map Sum.inr _] at member
        exact not_relevant_inr relevant _ next member
  same_resume
    | .inl task, s, s', own, inv, inv', same => by
        obtain ⟨views, alike⟩ := isolated.same_resume task s s' own inv inv' same
        refine ⟨views, ?_⟩
        rw [show ((S.sum T).resume (.inl task) s).successors = _ from
          Stretch.successors_map Sum.inl _, show ((S.sum T).resume (.inl task) s').successors = _
          from Stretch.successors_map Sum.inl _]
        exact alike.inl

/-! ## Runs -/

/-- Resuming a task of a family without relevant tasks is not seen. -/
theorem Isolated.unseen_step (isolated : S.Isolated view Inv relevant deleted)
    {c : FamilyConfig σ τ} (inv : Inv c.shared) {family : ℕ}
    (unseen : ∀ task ∈ c.families family, ¬ relevant task) (position : ℕ) :
    view (S.familyStep c (.resume family position)).shared = view c.shared ∧
      Inv (S.familyStep c (.resume family position)).shared ∧
      (∀ task ∈ (S.familyStep c (.resume family position)).families family, ¬ relevant task) ∧
      ∀ other, other ≠ family →
        (S.familyStep c (.resume family position)).families other = c.families other := by
  cases found : (c.families family)[position]? with
  | none =>
      rw [S.familyStep_absent found]
      exact ⟨rfl, inv, unseen, fun _ _ => rfl⟩
  | some task =>
      obtain ⟨before, after, split, rfl⟩ := split_at found
      rw [S.familyStep_resume split]
      rw [split] at unseen
      have irrelevant := unseen task (List.mem_append_right before List.mem_cons_self)
      obtain ⟨same, successors⟩ := isolated.unseen_resume task c.shared irrelevant inv
      refine ⟨same, isolated.inv_resume task c.shared inv, ?_, fun other differs =>
        Function.update_of_ne differs _ _⟩
      show ∀ task ∈ Function.update c.families family _ family, _
      rw [Function.update_self]
      exact forall_mem_resumed unseen fun _ => successors

theorem alike_update {families families' : ℕ → List τ}
    (alike : ∀ family, Alike relevant (families family) (families' family)) (family : ℕ)
    {tasks tasks' : List τ} (here : Alike relevant tasks tasks') (other : ℕ) :
    Alike relevant (Function.update families family tasks other)
      (Function.update families' family tasks' other) := by
  by_cases own : other = family
  · subst own
    rw [Function.update_self, Function.update_self]
    exact here
  · rw [Function.update_of_ne own, Function.update_of_ne own]
    exact alike other

/-- Both sides found a family, and the two are alike. -/
theorem SameView.found {c d : FamilyConfig σ τ} (same : SameView view Inv relevant c d) {s s' : σ}
    (views : view s = view s') (left : Inv s) (right : Inv s') {tasks tasks' : List τ}
    (alike : Alike relevant tasks tasks') :
    SameView view Inv relevant
      ⟨s, c.founded + 1, Function.update c.families c.founded tasks⟩
      ⟨s', d.founded + 1, Function.update d.families d.founded tasks'⟩ := by
  refine ⟨views, left, right, congrArg (· + 1) same.founded, ?_⟩
  intro family
  show Alike relevant (Function.update c.families c.founded tasks family) _
  rw [same.founded]
  exact alike_update same.families _ alike family

/-- A stimulus founds families that are alike, whether or not it is left out. -/
theorem Isolated.step_stimulus (isolated : S.Isolated view Inv relevant deleted)
    {c d : FamilyConfig σ τ} (same : SameView view Inv relevant c d) (e : ε) :
    SameView view Inv relevant (S.familyStep c (.stimulus e))
      (S.familyStep d ((FamilyStep.stimulus e).omitting deleted)) := by
  have left := isolated.inv_stimulate e _ same.left
  cases goes : deleted e with
  | true =>
      obtain ⟨seen, started⟩ := isolated.unseen_stimulus e c.shared goes same.left
      simp only [FamilyStep.omitting, goes, if_true]
      exact same.found (seen.trans same.view) left same.right
        (.unseen started fun _ impossible => absurd impossible List.not_mem_nil)
  | false =>
      obtain ⟨seen, alike⟩ := isolated.same_stimulus e _ _ goes same.left same.right same.view
      simp only [FamilyStep.omitting, goes, Bool.false_eq_true, if_false]
      exact same.found seen left (isolated.inv_stimulate e _ same.right) alike

/-- A resumption is seen on both sides in the same way, or on neither. -/
theorem Isolated.step_resume (isolated : S.Isolated view Inv relevant deleted)
    {c d : FamilyConfig σ τ} (same : SameView view Inv relevant c d) (family position : ℕ) :
    SameView view Inv relevant (S.familyStep c (.resume family position))
      (S.familyStep d (.resume family position)) := by
  have founded : (S.familyStep c (.resume family position)).founded =
      (S.familyStep d (.resume family position)).founded := by
    rw [S.founded_resume, S.founded_resume, same.founded]
  generalize left : c.families family = tasks
  generalize right : d.families family = tasks'
  have alike := same.families family
  rw [left, right] at alike
  cases alike with
  | same task seen =>
      cases position with
      | zero =>
          obtain ⟨view', successors⟩ :=
            isolated.same_resume task _ _ seen same.left same.right same.view
          have here := S.familyStep_resume (show c.families family = [] ++ task :: [] from left)
          have there := S.familyStep_resume (show d.families family = [] ++ task :: [] from right)
          simp only [List.length_nil, List.nil_append, List.append_nil] at here there
          rw [here, there]
          exact ⟨view', isolated.inv_resume _ _ same.left, isolated.inv_resume _ _ same.right,
            same.founded, alike_update same.families family successors⟩
      | succ position =>
          rw [S.familyStep_absent (by rw [left]; rfl), S.familyStep_absent (by rw [right]; rfl)]
          exact same
  | unseen here there =>
      rw [← left] at here
      rw [← right] at there
      obtain ⟨leftView, leftInv, leftUnseen, leftOthers⟩ :=
        isolated.unseen_step same.left here position
      obtain ⟨rightView, rightInv, rightUnseen, rightOthers⟩ :=
        isolated.unseen_step same.right there position
      refine ⟨leftView.trans (same.view.trans rightView.symm), leftInv, rightInv, founded, ?_⟩
      intro other
      by_cases own : other = family
      · subst own
        exact .unseen leftUnseen rightUnseen
      · rw [leftOthers other own, rightOthers other own]
        exact same.families other

/-- **Step rule.** A step keeps the views the same if its stimulus is left out on
one side when it is deleted. -/
theorem Isolated.step (isolated : S.Isolated view Inv relevant deleted)
    {c d : FamilyConfig σ τ} (same : SameView view Inv relevant c d) (next : FamilyStep ε) :
    SameView view Inv relevant (S.familyStep c next)
      (S.familyStep d (next.omitting deleted)) := by
  cases next with
  | stimulus e => exact isolated.step_stimulus same e
  | omitted => exact same.found same.view same.left same.right (Alike.nil relevant)
  | resume family position => exact isolated.step_resume same family position

theorem keptStimuli_omitting (deleted : ε → Bool) (steps : List (FamilyStep ε)) :
    keptStimuli (steps.map (·.omitting deleted)) =
      (keptStimuli steps).filter (!deleted ·) := by
  induction steps with
  | nil => rfl
  | cons step rest ih =>
      cases step with
      | stimulus e =>
          have tail : keptStimuli (.stimulus e :: rest) = e :: keptStimuli rest := rfl
          rw [List.map_cons, tail]
          cases left : deleted e with
          | true =>
              rw [List.filter_cons_of_neg (by simp [left]), ← ih]
              simp [FamilyStep.omitting, left, keptStimuli]
          | false =>
              rw [List.filter_cons_of_pos (by simp [left]), ← ih]
              simp [FamilyStep.omitting, left, keptStimuli]
      | omitted => exact ih
      | resume => exact ih

/-- **Isolation.** Leaving out the deleted stimuli leaves the view unchanged, step
for step. -/
theorem Isolated.view_familyRun (isolated : S.Isolated view Inv relevant deleted)
    {c d : FamilyConfig σ τ} (same : SameView view Inv relevant c d)
    (steps : List (FamilyStep ε)) :
    view (S.familyRun c steps).shared =
      view (S.familyRun d (steps.map (·.omitting deleted))).shared := by
  induction steps generalizing c d with
  | nil => exact same.view
  | cons next rest ih => exact ih (isolated.step same next)

end TaskSystem

end Interleaving
