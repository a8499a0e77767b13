import Stadium.Lib.Composition

/-!
# Tasks that come to an end

A rank is a value of a well-founded order that every resumption of a suspended
task takes down. A system that has one drains: with no stimulus arriving,
whoever picks the next task to resume, nothing is suspended in the end
(`drains_under`). How long that takes is bounded for each configuration
(`exists_bound`); a rank in the natural numbers is such a bound
(`length_add_rank_le`).

Ranks are made of costs of single tasks. A cost may depend on a view of the
shared state that no resumption changes (`Cost`). A task that is to read
something of any size has no cost before it has read; what counts then is that
such readings become fewer (`Staged`). Either kind adds up over systems that
run side by side.
-/

namespace Interleaving

variable {σ τ ε α : Type*}

namespace TaskSystem

/-- The choice resumes a task that is suspended. -/
def Resumes (c : Config σ τ) : Choice ε → Prop
  | .stimulus _ => False
  | .resume position => position < c.suspended.length

/-- What a resumption makes of the configuration. -/
def afterResume (S : TaskSystem σ τ ε) (s : σ) (before : List τ) (task : τ) (after : List τ) :
    Config σ τ :=
  ⟨(S.resume task s).shared, resumed S before task after s⟩

/-- A rank that every resumption takes down. -/
structure Rank (S : TaskSystem σ τ ε) (α : Type*) [LT α] where
  rank : Config σ τ → α
  descends : ∀ s before task after,
    rank (S.afterResume s before task after) < rank ⟨s, before ++ task :: after⟩

variable {S : TaskSystem σ τ ε} [LT α]

theorem Rank.step_lt (R : Rank S α) {c : Config σ τ} {position : ℕ}
    (suspended : position < c.suspended.length) :
    R.rank (S.step c (.resume position)) < R.rank c := by
  obtain ⟨s, tasks⟩ := c
  have found : tasks[position]? = some (tasks.get ⟨position, suspended⟩) :=
    List.getElem?_eq_getElem suspended
  obtain ⟨before, after, split, rfl⟩ := split_at found
  rw [split, S.step_resume]
  exact R.descends s before _ after

section WellFounded

variable [WellFoundedLT α]

/-- **Whoever schedules**, nothing is suspended in the end. -/
theorem Rank.drains_under (R : Rank S α) (pick : Config σ τ → ℕ)
    (suspended : ∀ c, c.suspended ≠ [] → pick c < c.suspended.length) (c : Config σ τ) :
    ∃ n, ((fun c => S.step c (.resume (pick c)))^[n] c).suspended = [] := by
  induction ranked : R.rank c using WellFoundedLT.induction generalizing c with
  | ind rank ih =>
      by_cases done : c.suspended = []
      · exact ⟨0, done⟩
      · have down := R.step_lt (suspended c done)
        rw [ranked] at down
        obtain ⟨n, drained⟩ := ih _ down _ rfl
        exact ⟨n + 1, drained⟩

/-- Schedules that resume suspended tasks only are of bounded length. -/
theorem Rank.exists_bound (R : Rank S α) (c : Config σ τ) :
    ∃ n, ∀ schedule : List (Choice ε), S.Guarded Resumes c schedule → schedule.length ≤ n := by
  induction ranked : R.rank c using WellFoundedLT.induction generalizing c with
  | ind rank ih =>
      have later : ∀ position, ∃ n, position < c.suspended.length →
          ∀ schedule : List (Choice ε),
            S.Guarded Resumes (S.step c (.resume position)) schedule → schedule.length ≤ n := by
        intro position
        by_cases inside : position < c.suspended.length
        · have down := R.step_lt inside
          rw [ranked] at down
          obtain ⟨n, bound⟩ := ih _ down _ rfl
          exact ⟨n, fun _ => bound⟩
        · exact ⟨0, fun impossible => absurd impossible inside⟩
      choose bound bounded using later
      refine ⟨(Finset.range c.suspended.length).sup bound + 1, ?_⟩
      intro schedule guarded
      cases schedule with
      | nil => simp
      | cons choice rest =>
          obtain ⟨now, later⟩ := guarded
          cases choice with
          | stimulus e => exact absurd now id
          | resume position =>
              have inside : position < c.suspended.length := now
              have short := bounded position inside rest later
              have below : bound position ≤ (Finset.range c.suspended.length).sup bound :=
                Finset.le_sup (Finset.mem_range.mpr inside)
              simp only [List.length_cons]
              omega

/-- Some schedule leaves nothing suspended. -/
theorem Rank.exists_drained (R : Rank S α) (c : Config σ τ) :
    ∃ schedule : List (Choice ε), S.Guarded Resumes c schedule ∧
      (S.run c schedule).suspended = [] := by
  induction ranked : R.rank c using WellFoundedLT.induction generalizing c with
  | ind rank ih =>
      by_cases done : c.suspended = []
      · exact ⟨[], trivial, done⟩
      · have inside : 0 < c.suspended.length := List.length_pos_of_ne_nil done
        have down := R.step_lt inside
        rw [ranked] at down
        obtain ⟨schedule, guarded, drained⟩ := ih _ down _ rfl
        exact ⟨.resume 0 :: schedule, ⟨inside, guarded⟩, drained⟩

end WellFounded

/-- A rank in the natural numbers bounds the resumptions that are left. -/
theorem Rank.length_add_rank_le (R : Rank S ℕ) {c : Config σ τ} {schedule : List (Choice ε)}
    (guarded : S.Guarded Resumes c schedule) :
    schedule.length + R.rank (S.run c schedule) ≤ R.rank c := by
  induction schedule generalizing c with
  | nil => simp
  | cons choice rest ih =>
      obtain ⟨now, later⟩ := guarded
      cases choice with
      | stimulus e => exact absurd now id
      | resume position =>
          have down := R.step_lt (show position < c.suspended.length from now)
          have rest := ih later
          simp only [List.length_cons, run_cons]
          omega

/-- Whoever schedules, nothing is suspended after as many resumptions. -/
theorem Rank.drains_within (R : Rank S ℕ) (pick : Config σ τ → ℕ)
    (suspended : ∀ c, c.suspended ≠ [] → pick c < c.suspended.length) (c : Config σ τ) :
    ∃ n ≤ R.rank c, ((fun c => S.step c (.resume (pick c)))^[n] c).suspended = [] := by
  induction ranked : R.rank c using Nat.strong_induction_on generalizing c with
  | h rank ih =>
      by_cases done : c.suspended = []
      · exact ⟨0, Nat.zero_le _, done⟩
      · have down := R.step_lt (suspended c done)
        rw [ranked] at down
        obtain ⟨n, within, drained⟩ := ih _ down _ rfl
        exact ⟨n + 1, by omega, drained⟩

/-! ## Costs of single tasks -/

variable {τ' ε' ν : Type*}

/-- Costs of single tasks: a task costs more than its successors together. -/
structure Cost (S : TaskSystem σ τ ε) (view : σ → ν) where
  cost : ν → τ → ℕ
  kept : ∀ task s, view (S.resume task s).shared = view s
  spends : ∀ task s,
    ((S.resume task s).successors.map (cost (view s))).sum < cost (view s) task

/-- Costs in stages: a task that enters a later stage may become more costly. -/
structure Staged (S : TaskSystem σ τ ε) (view : σ → ν) where
  stage : τ → ℕ
  cost : ν → τ → ℕ
  kept : ∀ task s, view (S.resume task s).shared = view s
  descends : ∀ task s,
    ((S.resume task s).successors.map stage).sum < stage task ∨
      ((S.resume task s).successors.map stage).sum = stage task ∧
        ((S.resume task s).successors.map (cost (view s))).sum < cost (view s) task

/-- The sum over all tasks after a resumption, next to the sum before. -/
theorem sum_resumed (S : TaskSystem σ τ ε) (weight : τ → ℕ) (s : σ) (before after : List τ)
    (task : τ) :
    ((resumed S before task after s).map weight).sum + weight task =
      ((before ++ task :: after).map weight).sum +
        ((S.resume task s).successors.map weight).sum := by
  unfold resumed Stretch.successors
  simp only [List.map_append, List.map_cons, List.sum_append, List.sum_cons]
  omega

/-- The successors of a tagged task weigh what they weigh untagged. -/
theorem sum_successors_map (stretch : Stretch σ τ) (tag : τ → τ') (weight : τ' → ℕ) :
    ((stretch.map tag).successors.map weight).sum =
      (stretch.successors.map fun task => weight (tag task)).sum := by
  rw [Stretch.successors_map, List.map_map]
  rfl

namespace Cost

variable {S : TaskSystem σ τ ε} {T : TaskSystem σ τ' ε'} {view : σ → ν}

/-- What is left to do for all tasks. -/
def total (K : Cost S view) (c : Config σ τ) : ℕ :=
  (c.suspended.map (K.cost (view c.shared))).sum

/-- The total cost is a rank. -/
def rank (K : Cost S view) : Rank S ℕ where
  rank := K.total
  descends s before task after := by
    have spent := K.spends task s
    have balance := sum_resumed S (K.cost (view s)) s before after task
    show ((resumed S before task after s).map (K.cost (view (S.resume task s).shared))).sum <
      ((before ++ task :: after).map (K.cost (view s))).sum
    rw [K.kept]
    omega

/-- Costs in one stage. -/
def staged (K : Cost S view) : Staged S view where
  stage _ := 0
  cost := K.cost
  kept := K.kept
  descends task s := .inr ⟨by simp, K.spends task s⟩

/-- The costs of two systems side by side. -/
def sum (K : Cost S view) (L : Cost T view) : Cost (S.sum T) view where
  cost v := Sum.elim (K.cost v) (L.cost v)
  kept
    | .inl task, s => K.kept task s
    | .inr task, s => L.kept task s
  spends
    | .inl task, s => by
        show (((S.resume task s).map Sum.inl).successors.map _).sum < K.cost (view s) task
        rw [sum_successors_map]
        exact K.spends task s
    | .inr task, s => by
        show (((T.resume task s).map Sum.inr).successors.map _).sum < L.cost (view s) task
        rw [sum_successors_map]
        exact L.spends task s

end Cost

namespace Staged

variable {S : TaskSystem σ τ ε} {T : TaskSystem σ τ' ε'} {view : σ → ν}

/-- The sum of the stages, then the sum of the costs. -/
def rank (K : Staged S view) : Rank S (ℕ ×ₗ ℕ) where
  rank c := toLex ((c.suspended.map K.stage).sum, (c.suspended.map (K.cost (view c.shared))).sum)
  descends s before task after := by
    have stages := sum_resumed S K.stage s before after task
    have costs := sum_resumed S (K.cost (view s)) s before after task
    rw [Prod.Lex.toLex_lt_toLex]
    show ((resumed S before task after s).map K.stage).sum <
        ((before ++ task :: after).map K.stage).sum ∨
      ((resumed S before task after s).map K.stage).sum =
        ((before ++ task :: after).map K.stage).sum ∧
        ((resumed S before task after s).map (K.cost (view (S.resume task s).shared))).sum <
          ((before ++ task :: after).map (K.cost (view s))).sum
    rw [K.kept]
    rcases K.descends task s with later | ⟨same, spent⟩
    · left
      omega
    · right
      constructor <;> omega

/-- The stages and costs of two systems side by side. -/
def sum (K : Staged S view) (L : Staged T view) : Staged (S.sum T) view where
  stage := Sum.elim K.stage L.stage
  cost v := Sum.elim (K.cost v) (L.cost v)
  kept
    | .inl task, s => K.kept task s
    | .inr task, s => L.kept task s
  descends
    | .inl task, s => by
        show (((S.resume task s).map Sum.inl).successors.map _).sum < K.stage task ∨
          (((S.resume task s).map Sum.inl).successors.map _).sum = K.stage task ∧
            (((S.resume task s).map Sum.inl).successors.map _).sum < K.cost (view s) task
        rw [sum_successors_map, sum_successors_map]
        exact K.descends task s
    | .inr task, s => by
        show (((T.resume task s).map Sum.inr).successors.map _).sum < L.stage task ∨
          (((T.resume task s).map Sum.inr).successors.map _).sum = L.stage task ∧
            (((T.resume task s).map Sum.inr).successors.map _).sum < L.cost (view s) task
        rw [sum_successors_map, sum_successors_map]
        exact L.descends task s

end Staged

end TaskSystem

end Interleaving
