import Stadium.Lib.Composition

/-!
# Where records come from

Some records are held in the shared state, others are carried by suspended
tasks. A ground of a record is something that has happened, so it lasts. If
every step grounds what it newly puts into the state or into a task, given
that all it could read was grounded, then no record without a ground is ever
held or carried (`Provenance.run`). Systems side by side may carry each
other's records through the shared state (`Provenance.sum`).

Which records a step passes on and which it makes is said once, in a `Flow`,
whatever they are asked to be grounded in (`Flow.provenance`).
-/

namespace Interleaving

variable {σ τ τ' ε ε' ρ : Type*}

namespace TaskSystem

/-- Every held record is grounded. -/
def Held (ground holds : σ → ρ → Prop) (s : σ) : Prop := ∀ r, holds s r → ground s r

/-- Every record the task carries is grounded. -/
def Carried (ground : σ → ρ → Prop) (carries : τ → ρ → Prop) (s : σ) (task : τ) : Prop :=
  ∀ r, carries task r → ground s r

/-- Steps, by stimuli that are allowed, ground what they bring about. -/
structure Provenance (S : TaskSystem σ τ ε) (allowed : ε → Prop) (ground holds : σ → ρ → Prop)
    (carries : τ → ρ → Prop) : Prop where
  lasts_stimulus : ∀ e s r, ground s r → ground (S.stimulate e s).1 r
  lasts_resume : ∀ task s r, ground s r → ground (S.resume task s).shared r
  held_stimulus : ∀ e s, allowed e → Held ground holds s → Held ground holds (S.stimulate e s).1
  carried_stimulus : ∀ e s, allowed e → Held ground holds s →
    ∀ task ∈ (S.stimulate e s).2, Carried ground carries (S.stimulate e s).1 task
  held_resume : ∀ task s, Held ground holds s → Carried ground carries s task →
    Held ground holds (S.resume task s).shared
  carried_resume : ∀ task s, Held ground holds s → Carried ground carries s task →
    ∀ next ∈ (S.resume task s).successors, Carried ground carries (S.resume task s).shared next

/-- Only allowed stimuli arrive. -/
def Allows (allowed : ε → Prop) (_ : Config σ τ) : Choice ε → Prop
  | .stimulus e => allowed e
  | .resume _ => True

theorem guarded_allows {S : TaskSystem σ τ ε} {allowed : ε → Prop} {c : Config σ τ}
    {schedule : List (Choice ε)} (all : ∀ e ∈ stimuli schedule, allowed e) :
    S.Guarded (Allows allowed) c schedule := by
  induction schedule generalizing c with
  | nil => trivial
  | cons choice rest ih =>
      cases choice with
      | stimulus e =>
          have here : allowed e := all e List.mem_cons_self
          exact ⟨here, ih fun later listed => all later (List.mem_cons_of_mem e listed)⟩
      | resume position => exact ⟨trivial, ih all⟩

namespace Provenance

variable {S : TaskSystem σ τ ε} {T : TaskSystem σ τ' ε'} {allowed : ε → Prop}
  {allowed' : ε' → Prop} {ground holds : σ → ρ → Prop} {carries : τ → ρ → Prop}
  {carries' : τ' → ρ → Prop}

/-- **No record without a ground.** -/
theorem run (P : S.Provenance allowed ground holds carries) {c : Config σ τ}
    {schedule : List (Choice ε)} (held : Held ground holds c.shared)
    (carried : ∀ task ∈ c.suspended, Carried ground carries c.shared task)
    (guarded : S.Guarded (Allows allowed) c schedule) :
    Held ground holds (S.run c schedule).shared ∧
      ∀ task ∈ (S.run c schedule).suspended,
        Carried ground carries (S.run c schedule).shared task := by
  let Inv : Config σ τ → Prop := fun c => Held ground holds c.shared ∧
    ∀ task ∈ c.suspended, Carried ground carries c.shared task
  suffices kept : Inv (S.run c schedule) from kept
  refine S.run_invariant ?_ ?_ (show Inv c from ⟨held, carried⟩) guarded
  · rintro s tasks e ⟨held, carried⟩ now
    refine ⟨P.held_stimulus e s now held, fun task member => ?_⟩
    rcases List.mem_append.mp member with old | new
    · exact fun r has => P.lasts_stimulus e s r (carried task old r has)
    · exact P.carried_stimulus e s now held task new
  · rintro s before task after ⟨held, carried⟩ -
    have own := carried task (List.mem_append_right before List.mem_cons_self)
    refine ⟨P.held_resume task s held own, ?_⟩
    have others : ∀ t ∈ before ++ task :: after,
        Carried ground carries (S.resume task s).shared t := by
      intro t member r has
      exact P.lasts_resume task s r (carried t member r has)
    exact forall_mem_resumed others fun _ => P.carried_resume task s held own

/-- What two systems carry, each in its own tasks. -/
theorem sum (P : S.Provenance allowed ground holds carries)
    (Q : T.Provenance allowed' ground holds carries') :
    (S.sum T).Provenance (Sum.elim allowed allowed') ground holds (Sum.elim carries carries') where
  lasts_stimulus
    | .inl e => P.lasts_stimulus e
    | .inr e => Q.lasts_stimulus e
  lasts_resume
    | .inl task => P.lasts_resume task
    | .inr task => Q.lasts_resume task
  held_stimulus
    | .inl e => P.held_stimulus e
    | .inr e => Q.held_stimulus e
  carried_stimulus
    | .inl e, s, now, held => by
        intro task member
        obtain ⟨own, started, rfl⟩ := List.mem_map.mp member
        exact P.carried_stimulus e s now held own started
    | .inr e, s, now, held => by
        intro task member
        obtain ⟨own, started, rfl⟩ := List.mem_map.mp member
        exact Q.carried_stimulus e s now held own started
  held_resume
    | .inl task => P.held_resume task
    | .inr task => Q.held_resume task
  carried_resume
    | .inl task, s, held, own => by
        intro next member
        rw [show ((S.sum T).resume (.inl task) s).successors = _ from
          Stretch.successors_map Sum.inl _] at member
        obtain ⟨later, left, rfl⟩ := List.mem_map.mp member
        exact P.carried_resume task s held own later left
    | .inr task, s, held, own => by
        intro next member
        rw [show ((S.sum T).resume (.inr task) s).successors = _ from
          Stretch.successors_map Sum.inr _] at member
        obtain ⟨later, left, rfl⟩ := List.mem_map.mp member
        exact Q.carried_resume task s held own later left

end Provenance

/-- What is held or carried after a step was there before, or the step has brought or
made it. -/
structure Flow (S : TaskSystem σ τ ε) (holds : σ → ρ → Prop) (carries : τ → ρ → Prop)
    (brings : ε → σ → ρ → Prop) (makes : τ → σ → ρ → Prop) : Prop where
  stimulus_held : ∀ e s r, holds (S.stimulate e s).1 r → holds s r ∨ brings e s r
  stimulus_carried : ∀ e s, ∀ task ∈ (S.stimulate e s).2, ∀ r, carries task r →
    holds s r ∨ brings e s r
  resume_held : ∀ task s r, holds (S.resume task s).shared r →
    holds s r ∨ carries task r ∨ makes task s r
  resume_carried : ∀ task s, ∀ next ∈ (S.resume task s).successors, ∀ r, carries next r →
    holds s r ∨ carries task r ∨ makes task s r

namespace Flow

variable {S : TaskSystem σ τ ε} {allowed : ε → Prop} {ground holds : σ → ρ → Prop}
  {carries : τ → ρ → Prop} {brings : ε → σ → ρ → Prop} {makes : τ → σ → ρ → Prop}

/-- It is enough to ground what steps bring and make. -/
theorem provenance (F : S.Flow holds carries brings makes)
    (lasts_stimulus : ∀ e s r, ground s r → ground (S.stimulate e s).1 r)
    (lasts_resume : ∀ task s r, ground s r → ground (S.resume task s).shared r)
    (brought : ∀ e s r, allowed e → Held ground holds s → brings e s r →
      ground (S.stimulate e s).1 r)
    (made : ∀ task s r, Held ground holds s → Carried ground carries s task → makes task s r →
      ground (S.resume task s).shared r) :
    S.Provenance allowed ground holds carries where
  lasts_stimulus := lasts_stimulus
  lasts_resume := lasts_resume
  held_stimulus e s now held r has := by
    rcases F.stimulus_held e s r has with old | new
    · exact lasts_stimulus e s r (held r old)
    · exact brought e s r now held new
  carried_stimulus e s now held task started r has := by
    rcases F.stimulus_carried e s task started r has with old | new
    · exact lasts_stimulus e s r (held r old)
    · exact brought e s r now held new
  held_resume task s held own r has := by
    rcases F.resume_held task s r has with old | passed | new
    · exact lasts_resume task s r (held r old)
    · exact lasts_resume task s r (own r passed)
    · exact made task s r held own new
  carried_resume task s held own next left r has := by
    rcases F.resume_carried task s next left r has with old | passed | new
    · exact lasts_resume task s r (held r old)
    · exact lasts_resume task s r (own r passed)
    · exact made task s r held own new

end Flow

end TaskSystem

end Interleaving
