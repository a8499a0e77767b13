import Stadium.Lib.Provenance

/-!
# Systems on parts of a state

A system that works on a part of a larger state works on the whole, if the part can
be read off it and put back (`onPart`). Systems side by side rely on what the others
guarantee: when every step keeps a common invariant, moves the state in a way that
all agree on and leaves tasks that stay in order under such moves, then every run
does (`Guarantee.run`). A system may also heed only some of what reaches it, in other
words than its own (`heeding`).
-/

namespace Interleaving

variable {σ τ τ' ε ε' ω : Type*}

namespace TaskSystem

/-- The system on a part of `ω`. -/
def onPart (S : TaskSystem σ τ ε) (get : ω → σ) (put : σ → ω → ω) : TaskSystem ω τ ε where
  stimulate e w := (put (S.stimulate e (get w)).1 w, (S.stimulate e (get w)).2)
  resume task w :=
    ⟨put (S.resume task (get w)).shared w, (S.resume task (get w)).continued,
      (S.resume task (get w)).started⟩

/-- The system for stimuli that are read as its own, or ignored. -/
def heeding (S : TaskSystem σ τ ε) (read : ε' → Option ε) : TaskSystem σ τ ε' where
  stimulate e s :=
    match read e with
    | none => (s, [])
    | some own => S.stimulate own s
  resume := S.resume

/-- A choice as the system reads it. -/
def heeded (read : ε' → Option ε) : Choice ε' → Option (Choice ε)
  | .stimulus e => (read e).map .stimulus
  | .resume position => some (.resume position)

/-- What is ignored leaves no trace. -/
theorem run_heeding (S : TaskSystem σ τ ε) (read : ε' → Option ε) (c : Config σ τ)
    (schedule : List (Choice ε')) :
    (S.heeding read).run c schedule = S.run c (schedule.filterMap (heeded read)) := by
  induction schedule generalizing c with
  | nil => rfl
  | cons choice rest ih =>
      rw [run_cons, ih]
      cases choice with
      | resume position => rfl
      | stimulus e =>
          cases own : read e with
          | some own' =>
              rw [List.filterMap_cons_some (b := .stimulus own') (by simp [heeded, own]), run_cons]
              simp [step, heeding, own]
          | none =>
              rw [List.filterMap_cons_none (by simp [heeded, own])]
              simp [step, heeding, own]

theorem stimuli_heeded (read : ε' → Option ε) (schedule : List (Choice ε')) :
    stimuli (schedule.filterMap (heeded read)) = (stimuli schedule).filterMap read := by
  induction schedule with
  | nil => rfl
  | cons choice rest ih =>
      cases choice with
      | resume position => exact ih
      | stimulus e =>
          show _ = (e :: stimuli rest).filterMap read
          cases own : read e with
          | none =>
              rw [List.filterMap_cons_none own, ← ih,
                List.filterMap_cons_none (by simp [heeded, own])]
          | some own' =>
              rw [List.filterMap_cons_some own, ← ih,
                List.filterMap_cons_some (b := .stimulus own') (by simp [heeded, own])]
              rfl

/-- A guard on the choices as the system reads them. -/
def HeededGuard (read : ε' → Option ε) (guard : Config σ τ → Choice ε → Prop)
    (c : Config σ τ) (choice : Choice ε') : Prop :=
  ∀ own ∈ heeded read choice, guard c own

instance (read : ε' → Option ε) (guard : Config σ τ → Choice ε → Prop)
    [∀ c choice, Decidable (guard c choice)] (c : Config σ τ) (choice : Choice ε') :
    Decidable (HeededGuard read guard c choice) :=
  inferInstanceAs (Decidable (∀ own ∈ heeded read choice, guard c own))

/-- A guard may be weakened. -/
theorem guarded_imp (S : TaskSystem σ τ ε) {guard guard' : Config σ τ → Choice ε → Prop}
    (weaker : ∀ c choice, guard c choice → guard' c choice) {c : Config σ τ}
    {schedule : List (Choice ε)} (guarded : S.Guarded guard c schedule) :
    S.Guarded guard' c schedule := by
  induction schedule generalizing c with
  | nil => trivial
  | cons choice rest ih =>
      obtain ⟨now, later⟩ := guarded
      exact ⟨weaker c choice now, ih later⟩

theorem guarded_heeding (S : TaskSystem σ τ ε) (read : ε' → Option ε)
    {guard : Config σ τ → Choice ε → Prop} {c : Config σ τ} {schedule : List (Choice ε')}
    (guarded : (S.heeding read).Guarded (HeededGuard read guard) c schedule) :
    S.Guarded guard c (schedule.filterMap (heeded read)) := by
  induction schedule generalizing c with
  | nil => trivial
  | cons choice rest ih =>
      obtain ⟨now, later⟩ := guarded
      have later := ih later
      have one := S.run_heeding read c [choice]
      cases own : heeded read choice with
      | none =>
          rw [List.filterMap_cons_none own] at one ⊢
          have idle : (S.heeding read).step c choice = c := one
          exact idle ▸ later
      | some own' =>
          rw [List.filterMap_cons_some own] at one ⊢
          have same : (S.heeding read).step c choice = S.step c own' := one
          exact ⟨now own' own, same ▸ later⟩

/-- What every step by an allowed stimulus keeps and guarantees, relying on the
others to do the same. -/
structure Guarantee (S : TaskSystem σ τ ε) (allowed : ε → Prop) (Inv : σ → Prop)
    (moves : σ → σ → Prop) (ok : σ → τ → Prop) : Prop where
  stimulate : ∀ e s, allowed e → Inv s → Inv (S.stimulate e s).1 ∧ moves s (S.stimulate e s).1 ∧
    ∀ task ∈ (S.stimulate e s).2, ok (S.stimulate e s).1 task
  resume : ∀ task s, Inv s → ok s task →
    Inv (S.resume task s).shared ∧ moves s (S.resume task s).shared ∧
      ∀ next ∈ (S.resume task s).successors, ok (S.resume task s).shared next
  lasts : ∀ s t task, moves s t → ok s task → ok t task

namespace Guarantee

variable {S : TaskSystem σ τ ε} {T : TaskSystem σ τ' ε'} {allowed : ε → Prop}
  {allowed' : ε' → Prop} {Inv : σ → Prop} {moves : σ → σ → Prop} {ok : σ → τ → Prop}
  {ok' : σ → τ' → Prop}

/-- Fewer stimuli may be allowed. -/
theorem restrict {fewer : ε → Prop} (G : S.Guarantee allowed Inv moves ok)
    (within : ∀ e, fewer e → allowed e) : S.Guarantee fewer Inv moves ok where
  stimulate e s now := G.stimulate e s (within e now)
  resume := G.resume
  lasts := G.lasts

/-- Two guarantees at once. -/
theorem and {Inv' : σ → Prop} {moves' : σ → σ → Prop} {fit : σ → τ → Prop}
    (G : S.Guarantee allowed Inv moves ok) (H : S.Guarantee allowed Inv' moves' fit) :
    S.Guarantee allowed (fun s => Inv s ∧ Inv' s) (fun s t => moves s t ∧ moves' s t)
      (fun s task => ok s task ∧ fit s task) where
  stimulate e s now inv := by
    obtain ⟨kept, moved, started⟩ := G.stimulate e s now inv.1
    obtain ⟨kept', moved', started'⟩ := H.stimulate e s now inv.2
    exact ⟨⟨kept, kept'⟩, ⟨moved, moved'⟩, fun task member =>
      ⟨started task member, started' task member⟩⟩
  resume task s inv fine := by
    obtain ⟨kept, moved, left⟩ := G.resume task s inv.1 fine.1
    obtain ⟨kept', moved', left'⟩ := H.resume task s inv.2 fine.2
    exact ⟨⟨kept, kept'⟩, ⟨moved, moved'⟩, fun next member =>
      ⟨left next member, left' next member⟩⟩
  lasts s t task moved fine := ⟨G.lasts s t task moved.1 fine.1, H.lasts s t task moved.2 fine.2⟩

/-- Both systems rely on each other. -/
theorem sum (G : S.Guarantee allowed Inv moves ok) (H : T.Guarantee allowed' Inv moves ok') :
    (S.sum T).Guarantee (Sum.elim allowed allowed') Inv moves
      (fun s => Sum.elim (ok s) (ok' s)) where
  stimulate
    | .inl e, s, now, inv => by
        obtain ⟨kept, moved, started⟩ := G.stimulate e s now inv
        refine ⟨kept, moved, fun task member => ?_⟩
        obtain ⟨own, listed, rfl⟩ := List.mem_map.mp member
        exact started own listed
    | .inr e, s, now, inv => by
        obtain ⟨kept, moved, started⟩ := H.stimulate e s now inv
        refine ⟨kept, moved, fun task member => ?_⟩
        obtain ⟨own, listed, rfl⟩ := List.mem_map.mp member
        exact started own listed
  resume
    | .inl task, s, inv, fine => by
        obtain ⟨kept, moved, left⟩ := G.resume task s inv fine
        refine ⟨kept, moved, fun next member => ?_⟩
        rw [show ((S.sum T).resume (.inl task) s).successors = _ from
          Stretch.successors_map Sum.inl _] at member
        obtain ⟨own, listed, rfl⟩ := List.mem_map.mp member
        exact left own listed
    | .inr task, s, inv, fine => by
        obtain ⟨kept, moved, left⟩ := H.resume task s inv fine
        refine ⟨kept, moved, fun next member => ?_⟩
        rw [show ((S.sum T).resume (.inr task) s).successors = _ from
          Stretch.successors_map Sum.inr _] at member
        obtain ⟨own, listed, rfl⟩ := List.mem_map.mp member
        exact left own listed
  lasts
    | s, t, .inl task, moved => G.lasts s t task moved
    | s, t, .inr task, moved => H.lasts s t task moved

/-- What a system guarantees of its part, it guarantees of the whole, if putting the
part back does. -/
theorem onPart (G : S.Guarantee allowed Inv moves ok) {get : ω → σ} {put : σ → ω → ω}
    {Inv' : ω → Prop} {moves' : ω → ω → Prop} (sees : ∀ w, Inv' w → Inv (get w))
    (writes : ∀ s w, Inv' w → Inv s → moves (get w) s → Inv' (put s w) ∧ moves' w (put s w))
    (get_put : ∀ s w, moves (get w) s → get (put s w) = s)
    (seen : ∀ w w', moves' w w' → moves (get w) (get w') ) :
    (S.onPart get put).Guarantee allowed Inv' moves' (fun w task => ok (get w) task) where
  stimulate e w now inv := by
    obtain ⟨kept, moved, started⟩ := G.stimulate e (get w) now (sees w inv)
    obtain ⟨kept', moved'⟩ := writes _ w inv kept moved
    refine ⟨kept', moved', fun task member => ?_⟩
    show ok (get (put (S.stimulate e (get w)).1 w)) task
    rw [get_put _ w moved]
    exact started task member
  resume task w inv fine := by
    obtain ⟨kept, moved, left⟩ := G.resume task (get w) (sees w inv) fine
    obtain ⟨kept', moved'⟩ := writes _ w inv kept moved
    refine ⟨kept', moved', fun next member => ?_⟩
    show ok (get (put (S.resume task (get w)).shared w)) next
    rw [get_put _ w moved]
    exact left next member
  lasts w w' task moved fine := G.lasts _ _ task (seen w w' moved) fine

/-- **Every run keeps what every step keeps.** -/
theorem run (G : S.Guarantee allowed Inv moves ok) (refl : ∀ s, moves s s)
    (trans : ∀ s t u, moves s t → moves t u → moves s u) (c : Config σ τ)
    (schedule : List (Choice ε)) (inv : Inv c.shared)
    (fine : ∀ task ∈ c.suspended, ok c.shared task)
    (all : ∀ e ∈ stimuli schedule, allowed e) :
    Inv (S.run c schedule).shared ∧ moves c.shared (S.run c schedule).shared ∧
      ∀ task ∈ (S.run c schedule).suspended, ok (S.run c schedule).shared task := by
  let Kept : Config σ τ → Prop := fun d =>
    Inv d.shared ∧ moves c.shared d.shared ∧ ∀ task ∈ d.suspended, ok d.shared task
  suffices kept : Kept (S.run c schedule) from kept
  refine S.run_invariant ?_ ?_ (show Kept c from ⟨inv, refl c.shared, fine⟩)
    (guarded_allows all)
  · rintro s tasks e ⟨inv, moved, fine⟩ now
    obtain ⟨kept, moved', started⟩ := G.stimulate e s now inv
    refine ⟨kept, trans _ _ _ moved moved', fun task member => ?_⟩
    rcases List.mem_append.mp member with old | new
    · exact G.lasts _ _ task moved' (fine task old)
    · exact started task new
  · rintro s before task after ⟨inv, moved, fine⟩ -
    obtain ⟨kept, moved', left⟩ := G.resume task s inv
      (fine task (List.mem_append_right before List.mem_cons_self))
    refine ⟨kept, trans _ _ _ moved moved', ?_⟩
    have others : ∀ t ∈ before ++ task :: after, ok (S.resume task s).shared t :=
      fun t member => G.lasts _ _ t moved' (fine t member)
    exact forall_mem_resumed others fun _ => left

/-- **What every guarded step keeps besides**, relying on the guarantee, every guarded
run does. -/
theorem run_guarded (G : S.Guarantee allowed Inv moves ok) {guard : Config σ τ → Choice ε → Prop}
    (permits : ∀ c e, guard c (.stimulus e) → allowed e) {P : σ → Prop}
    (onStimulus : ∀ e s tasks, guard ⟨s, tasks⟩ (.stimulus e) → Inv s → P s →
      P (S.stimulate e s).1)
    (onResume : ∀ s before task after, guard ⟨s, before ++ task :: after⟩ (.resume before.length) →
      Inv s → ok s task → P s → P (S.resume task s).shared)
    {c : Config σ τ} {schedule : List (Choice ε)} (inv : Inv c.shared)
    (fine : ∀ task ∈ c.suspended, ok c.shared task) (start : P c.shared)
    (guarded : S.Guarded guard c schedule) : P (S.run c schedule).shared := by
  let Kept : Config σ τ → Prop := fun d =>
    P d.shared ∧ Inv d.shared ∧ ∀ task ∈ d.suspended, ok d.shared task
  suffices kept : Kept (S.run c schedule) from kept.1
  refine S.run_invariant ?_ ?_ (show Kept c from ⟨start, inv, fine⟩) guarded
  · rintro s tasks e ⟨held, inv, fine⟩ now
    obtain ⟨kept, moved, started⟩ := G.stimulate e s (permits _ e now) inv
    refine ⟨onStimulus e s tasks now inv held, kept, fun task member => ?_⟩
    rcases List.mem_append.mp member with old | new
    · exact G.lasts _ _ task moved (fine task old)
    · exact started task new
  · rintro s before task after ⟨held, inv, fine⟩ now
    have own := fine task (List.mem_append_right before List.mem_cons_self)
    obtain ⟨kept, moved, left⟩ := G.resume task s inv own
    refine ⟨onResume s before task after now inv own held, kept, ?_⟩
    have others : ∀ t ∈ before ++ task :: after, ok (S.resume task s).shared t :=
      fun t member => G.lasts _ _ t moved (fine t member)
    exact forall_mem_resumed others fun _ => left

end Guarantee

/-- Where tasks are fit and every record that is brought or made is in order, and stays
so, every record held or carried is in order. -/
theorem Flow.guarantee_lasting {S : TaskSystem σ τ ε} {ρ : Type*} {allowed : ε → Prop}
    {Inv : σ → Prop} {moves : σ → σ → Prop} {fit : σ → τ → Prop} {holds : σ → ρ → Prop}
    {carries : τ → ρ → Prop} {brings : ε → σ → ρ → Prop} {makes : τ → σ → ρ → Prop}
    (F : S.Flow holds carries brings makes) (G : S.Guarantee allowed Inv moves fit)
    (good : σ → ρ → Prop) (lasts : ∀ s t r, moves s t → good s r → good t r)
    (brought : ∀ e s r, allowed e → Inv s → brings e s r → good (S.stimulate e s).1 r)
    (made : ∀ task s r, Inv s → fit s task → (∀ r, carries task r → good s r) →
      makes task s r → good (S.resume task s).shared r) :
    S.Guarantee allowed (fun s => Inv s ∧ ∀ r, holds s r → good s r) moves
      (fun s task => fit s task ∧ ∀ r, carries task r → good s r) where
  stimulate e s now inv := by
    obtain ⟨kept, moved, started⟩ := G.stimulate e s now inv.1
    refine ⟨⟨kept, fun r has => ?_⟩, moved, fun task member =>
      ⟨started task member, fun r has => ?_⟩⟩
    · rcases F.stimulus_held e s r has with old | new
      · exact lasts s _ r moved (inv.2 r old)
      · exact brought e s r now inv.1 new
    · rcases F.stimulus_carried e s task member r has with old | new
      · exact lasts s _ r moved (inv.2 r old)
      · exact brought e s r now inv.1 new
  resume task s inv fine := by
    obtain ⟨kept, moved, left⟩ := G.resume task s inv.1 fine.1
    refine ⟨⟨kept, fun r has => ?_⟩, moved, fun next member =>
      ⟨left next member, fun r has => ?_⟩⟩
    · rcases F.resume_held task s r has with old | passed | new
      · exact lasts s _ r moved (inv.2 r old)
      · exact lasts s _ r moved (fine.2 r passed)
      · exact made task s r inv.1 fine.1 fine.2 new
    · rcases F.resume_carried task s next member r has with old | passed | new
      · exact lasts s _ r moved (inv.2 r old)
      · exact lasts s _ r moved (fine.2 r passed)
      · exact made task s r inv.1 fine.1 fine.2 new
  lasts s t task moved fine :=
    ⟨G.lasts s t task moved fine.1, fun r has => lasts s t r moved (fine.2 r has)⟩

/-- Where what is in order does not depend on the state. -/
theorem Flow.guarantee {S : TaskSystem σ τ ε} {ρ : Type*} {allowed : ε → Prop}
    {holds : σ → ρ → Prop} {carries : τ → ρ → Prop} {brings : ε → σ → ρ → Prop}
    {makes : τ → σ → ρ → Prop} (F : S.Flow holds carries brings makes) {good : ρ → Prop}
    {fit : τ → Prop} (brought : ∀ e s r, allowed e → brings e s r → good r)
    (started : ∀ e s, allowed e → ∀ task ∈ (S.stimulate e s).2, fit task)
    (made : ∀ task s r, fit task → (∀ r, carries task r → good r) → makes task s r → good r)
    (left : ∀ task s, fit task → ∀ next ∈ (S.resume task s).successors, fit next) :
    S.Guarantee allowed (fun s => ∀ r, holds s r → good r) (fun _ _ => True)
      (fun _ task => fit task ∧ ∀ r, carries task r → good r) := by
  have fits : S.Guarantee allowed (fun _ => True) (fun _ _ => True) (fun _ => fit) :=
    ⟨fun e s now _ => ⟨trivial, trivial, started e s now⟩,
      fun task s _ fine => ⟨trivial, trivial, left task s fine⟩, fun _ _ _ _ fine => fine⟩
  have all := F.guarantee_lasting fits (fun _ => good) (fun _ _ _ _ fine => fine)
    (fun e s r now _ => brought e s r now) (fun task s r _ => made task s r)
  simpa only [true_and] using all

end TaskSystem

end Interleaving
