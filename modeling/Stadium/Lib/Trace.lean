import Stadium.Lib.Interleaving

/-!
# What an observer notes along a run

An observer looks at every step from the state it is taken in and may note
something. The notes of a whole schedule are a history that no code keeps;
`run_invariant_traced` is the induction rule for invariants that relate the
configuration to this history. `run_tasks` is the rule for facts about single
tasks that their successors inherit.
-/

namespace Interleaving

variable {σ τ ε υ : Type*}

/-- What is noted of a stimulus and of a resumption. -/
structure Observer (σ τ ε υ : Type*) where
  onStimulus : ε → σ → List υ
  onResume : τ → σ → List υ

/-- The notes on one step; resuming a position that holds no task gives none. -/
def Observer.notes (O : Observer σ τ ε υ) (c : Config σ τ) : Choice ε → List υ
  | .stimulus e => O.onStimulus e c.shared
  | .resume position =>
      match c.suspended[position]? with
      | none => []
      | some task => O.onResume task c.shared

theorem Observer.notes_resume (O : Observer σ τ ε υ) (shared : σ) (before after : List τ)
    (task : τ) :
    O.notes ⟨shared, before ++ task :: after⟩ (.resume before.length) = O.onResume task shared := by
  simp [notes]

namespace TaskSystem

variable (S : TaskSystem σ τ ε) (O : Observer σ τ ε υ)

/-- The notes on a schedule, in order. -/
def trace (c : Config σ τ) : List (Choice ε) → List υ
  | [] => []
  | choice :: rest => O.notes c choice ++ trace (S.step c choice) rest

@[simp] theorem trace_nil (c : Config σ τ) : S.trace O c [] = [] := rfl

@[simp] theorem trace_cons (c : Config σ τ) (choice : Choice ε) (rest : List (Choice ε)) :
    S.trace O c (choice :: rest) = O.notes c choice ++ S.trace O (S.step c choice) rest := rfl

theorem trace_append (c : Config σ τ) (first second : List (Choice ε)) :
    S.trace O c (first ++ second) = S.trace O c first ++ S.trace O (S.run c first) second := by
  induction first generalizing c with
  | nil => rfl
  | cons choice rest ih => rw [List.cons_append, trace_cons, trace_cons, ih, run_cons,
      List.append_assoc]

/-- Every note was taken at one of the steps. -/
theorem mem_trace {c : Config σ τ} {schedule : List (Choice ε)} {note : υ}
    (noted : note ∈ S.trace O c schedule) :
    ∃ before choice rest, schedule = before ++ choice :: rest ∧
      note ∈ O.notes (S.run c before) choice := by
  induction schedule generalizing c with
  | nil => cases noted
  | cons first later ih =>
      rcases List.mem_append.mp noted with here | there
      · exact ⟨[], first, later, rfl, here⟩
      · obtain ⟨before, choice, rest, split, noted⟩ := ih there
        exact ⟨first :: before, choice, rest, congrArg _ split, noted⟩

/-- **Traced invariant rule.** A relation between the configuration and the
notes taken so far that every guarded step keeps holds after every guarded
schedule. -/
theorem run_invariant_traced {guard : Config σ τ → Choice ε → Prop}
    {Inv : Config σ τ → List υ → Prop}
    (onStimulus : ∀ shared suspended notes e, Inv ⟨shared, suspended⟩ notes →
      guard ⟨shared, suspended⟩ (.stimulus e) →
      Inv ⟨(S.stimulate e shared).1, suspended ++ (S.stimulate e shared).2⟩
        (notes ++ O.onStimulus e shared))
    (onResume : ∀ shared before task after notes, Inv ⟨shared, before ++ task :: after⟩ notes →
      guard ⟨shared, before ++ task :: after⟩ (.resume before.length) →
      Inv ⟨(S.resume task shared).shared,
        before ++ (S.resume task shared).continued.toList ++ after ++
          (S.resume task shared).started⟩ (notes ++ O.onResume task shared))
    {c : Config σ τ} {notes : List υ} {schedule : List (Choice ε)} (start : Inv c notes)
    (guarded : S.Guarded guard c schedule) :
    Inv (S.run c schedule) (notes ++ S.trace O c schedule) := by
  induction schedule generalizing c notes with
  | nil =>
      rw [trace_nil, List.append_nil]
      exact start
  | cons choice rest ih =>
      obtain ⟨now, later⟩ := guarded
      rw [trace_cons, ← List.append_assoc]
      refine ih ?_ later
      obtain ⟨shared, suspended⟩ := c
      cases choice with
      | stimulus e => exact onStimulus shared suspended notes e start now
      | resume position =>
          cases found : suspended[position]? with
          | none =>
              have idle : O.notes ⟨shared, suspended⟩ (.resume position) = [] := by
                simp [Observer.notes, found]
              have unchanged : S.step ⟨shared, suspended⟩ (.resume position) =
                  ⟨shared, suspended⟩ := by
                simp [step, found]
              rw [idle, unchanged, List.append_nil]
              exact start
          | some task =>
              obtain ⟨before, after, rfl, rfl⟩ := split_at found
              rw [S.step_resume, O.notes_resume]
              exact onResume shared before task after notes start now

/-- **Task rule.** What holds of every task a stimulus starts, and is handed
down to whatever a resumption leaves or starts, holds of all suspended tasks. -/
theorem run_tasks {guard : Config σ τ → Choice ε → Prop} {P : τ → Prop}
    (started : ∀ shared suspended e, guard ⟨shared, suspended⟩ (.stimulus e) →
      ∀ task ∈ (S.stimulate e shared).2, P task)
    (inherited : ∀ task shared, P task →
      ∀ next ∈ (S.resume task shared).continued.toList ++ (S.resume task shared).started, P next)
    {c : Config σ τ} {schedule : List (Choice ε)} (start : ∀ task ∈ c.suspended, P task)
    (guarded : S.Guarded guard c schedule) : ∀ task ∈ (S.run c schedule).suspended, P task := by
  let Kept : Config σ τ → Prop := fun c => ∀ task ∈ c.suspended, P task
  suffices kept : Kept (S.run c schedule) from kept
  refine S.run_invariant ?_ ?_ start guarded
  · intro shared suspended e kept now task member
    rcases List.mem_append.mp member with old | new
    · exact kept task old
    · exact started shared suspended e now task new
  · intro shared before task after kept _
    exact forall_mem_resumed kept (inherited task shared)

end TaskSystem

end Interleaving
