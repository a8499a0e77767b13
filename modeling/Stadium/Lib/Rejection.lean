import Stadium.Lib.Interleaving

/-!
# Rejected calls

A task system calls dependencies. A suspended task waits for the answer of at
most one call; if that call rejects, the task ends there, without the effect.
A stretch may make further calls beside, which nobody waits for. Every
rejection goes to whoever the chain of promises belongs to: an owner that
catches it, or one that does not, and then it reaches the process, which takes
no step after that.

`CallSites` says where a system makes its calls and who hears of their
rejections. `failing` is the system in which any call may reject, a choice the
schedule may change at any time. Nothing reaches the process along a schedule
exactly if every step is contained (`unhandled_eq_nil_iff`), and without
outages the system runs as it would alone (`run_calm`).
-/

namespace Interleaving

variable {σ τ ε κ ω : Type*}

/-- Where a system makes its calls `κ`, and which owner `ω` hears of a
rejection. -/
structure CallSites (S : TaskSystem σ τ ε) (κ ω : Type*) where
  /-- The call whose answer resumes the task. -/
  awaits : τ → Option κ
  /-- The calls a stimulus makes beside. -/
  besideStimulus : ε → σ → List (κ × ω)
  /-- The calls a resumption makes beside. -/
  besideResume : τ → σ → List (κ × ω)
  /-- The shared state a stimulus leaves if these of its calls take effect. -/
  stimulateWith : ε → σ → List κ → σ
  /-- The shared state a resumption leaves if these of its calls take effect. -/
  resumeWith : τ → σ → List κ → σ
  /-- Whose a task is that a stimulus starts. -/
  ofStimulus : ε → ω
  /-- Whose a task is that a resumption of this one starts. -/
  ofStarted : τ → ω
  catches : ω → Bool
  stimulateWith_all : ∀ e s,
    stimulateWith e s ((besideStimulus e s).map Prod.fst) = (S.stimulate e s).1
  resumeWith_all : ∀ task s,
    resumeWith task s ((besideResume task s).map Prod.fst) = (S.resume task s).shared

/-- The shared state, which calls reject at the moment, and the rejections that
nobody caught. -/
structure Process (σ κ : Type*) where
  shared : σ
  rejecting : κ → Bool
  unhandled : List κ

/-- What reaches a process. -/
inductive ProcessStimulus (ε κ : Type*) where
  | event (e : ε)
  /-- From now on exactly these calls reject. -/
  | outage (rejecting : κ → Bool)

namespace Process

/-- Of the calls made beside, those that take effect. -/
def accepted (p : Process σ κ) (calls : List (κ × ω)) : List κ :=
  (calls.filter fun call => !p.rejecting call.1).map Prod.fst

/-- Of the calls made beside, those whose rejection nobody catches. -/
def uncaught (p : Process σ κ) (catches : ω → Bool) (calls : List (κ × ω)) : List κ :=
  (calls.filter fun call => p.rejecting call.1 && !catches call.2).map Prod.fst

/-- The call a task waits for rejects. -/
def rejects (p : Process σ κ) (awaited : Option κ) : Bool := awaited.any p.rejecting

end Process

namespace TaskSystem

variable (S : TaskSystem σ τ ε) (C : CallSites S κ ω)

/-- The system whose calls may reject. -/
def failing : TaskSystem (Process σ κ) (ω × τ) (ProcessStimulus ε κ) where
  stimulate stimulus p :=
    if !p.unhandled.isEmpty then (p, [])
    else
      match stimulus with
      | .outage rejecting => ({ p with rejecting }, [])
      | .event e =>
          let calls := C.besideStimulus e p.shared
          ({ p with
              shared := C.stimulateWith e p.shared (p.accepted calls)
              unhandled := p.uncaught C.catches calls },
            (S.stimulate e p.shared).2.map (Prod.mk (C.ofStimulus e)))
  resume owned p :=
    let (owner, task) := owned
    if !p.unhandled.isEmpty then ⟨p, some owned, []⟩
    else if p.rejects (C.awaits task) then
      ⟨{ p with unhandled := if C.catches owner then [] else (C.awaits task).toList }, none, []⟩
    else
      let calls := C.besideResume task p.shared
      ⟨{ p with
          shared := C.resumeWith task p.shared (p.accepted calls)
          unhandled := p.uncaught C.catches calls },
        (S.resume task p.shared).continued.map (Prod.mk owner),
        (S.resume task p.shared).started.map (Prod.mk (C.ofStarted task))⟩

/-- Whoever hears of a rejection in this step catches it. -/
def Contained (c : Config (Process σ κ) (ω × τ)) : Choice (ProcessStimulus ε κ) → Prop
  | .stimulus (.outage _) => True
  | .stimulus (.event e) => c.shared.uncaught C.catches (C.besideStimulus e c.shared.shared) = []
  | .resume position =>
      ∀ owned ∈ c.suspended[position]?,
        (c.shared.rejects (C.awaits owned.2) = true → C.catches owned.1 = true) ∧
        (c.shared.rejects (C.awaits owned.2) = false →
          c.shared.uncaught C.catches (C.besideResume owned.2 c.shared.shared) = [])

/-- A process that is down stays as it is. -/
theorem step_down {c : Config (Process σ κ) (ω × τ)} (down : c.shared.unhandled ≠ [])
    (choice : Choice (ProcessStimulus ε κ)) :
    ((S.failing C).step c choice).shared.unhandled = c.shared.unhandled := by
  have full : c.shared.unhandled.isEmpty = false := by
    rw [← Bool.not_eq_true, List.isEmpty_iff]
    exact down
  cases choice with
  | stimulus stimulus => simp only [step, failing, full, Bool.not_false, if_true]
  | resume position =>
      cases found : c.suspended[position]? with
      | none => simp only [step, found]
      | some owned => simp only [step, found, failing, full, Bool.not_false, if_true]

theorem run_down {c : Config (Process σ κ) (ω × τ)} (down : c.shared.unhandled ≠ [])
    (schedule : List (Choice (ProcessStimulus ε κ))) :
    ((S.failing C).run c schedule).shared.unhandled = c.shared.unhandled := by
  induction schedule generalizing c with
  | nil => rfl
  | cons choice rest ih =>
      have same := S.step_down C down choice
      rw [run_cons, ih (by rw [same]; exact down), same]

/-- A step takes the process down exactly if it is not contained. -/
theorem step_up_iff {c : Config (Process σ κ) (ω × τ)} (up : c.shared.unhandled = [])
    (choice : Choice (ProcessStimulus ε κ)) :
    ((S.failing C).step c choice).shared.unhandled = [] ↔ S.Contained C c choice := by
  cases choice with
  | stimulus stimulus =>
      cases stimulus with
      | outage rejecting => simp [step, failing, up, Contained]
      | event e => simp [step, failing, up, Contained]
  | resume position =>
      cases found : c.suspended[position]? with
      | none => simp [step, found, up, Contained]
      | some owned =>
          obtain ⟨owner, task⟩ := owned
          simp only [step, found, failing, up, List.isEmpty_nil, Bool.not_true,
            Bool.false_eq_true, if_false, Contained, Option.mem_some_iff, forall_eq']
          cases rejected : c.shared.rejects (C.awaits task) with
          | false => simp
          | true =>
              cases caught : C.catches owner with
              | true => simp
              | false =>
                  simp only [if_true, Bool.false_eq_true, if_false, forall_const, false_and,
                    iff_false]
                  unfold Process.rejects at rejected
                  cases awaited : C.awaits task with
                  | none => simp [awaited] at rejected
                  | some call => simp

/-- **Containment.** No rejection reaches the process along a schedule exactly
if every step of it is contained. -/
theorem unhandled_eq_nil_iff {c : Config (Process σ κ) (ω × τ)} (up : c.shared.unhandled = [])
    (schedule : List (Choice (ProcessStimulus ε κ))) :
    ((S.failing C).run c schedule).shared.unhandled = [] ↔
      (S.failing C).Guarded (S.Contained C) c schedule := by
  induction schedule generalizing c with
  | nil => exact ⟨fun _ => trivial, fun _ => up⟩
  | cons choice rest ih =>
      rw [run_cons]
      constructor
      · intro quiet
        have now : ((S.failing C).step c choice).shared.unhandled = [] := by
          by_contra down
          rw [S.run_down C down] at quiet
          exact down quiet
        exact ⟨(S.step_up_iff C up choice).mp now, (ih now).mp quiet⟩
      · rintro ⟨now, later⟩
        exact (ih ((S.step_up_iff C up choice).mpr now)).mpr later

/-- The configuration without owners and outages. -/
def forget (c : Config (Process σ κ) (ω × τ)) : Config σ τ :=
  ⟨c.shared.shared, c.suspended.map Prod.snd⟩

/-- Nothing rejects, and nothing has. -/
def Calm (p : Process σ κ) : Prop := p.unhandled = [] ∧ ∀ call, p.rejecting call = false

theorem Calm.accepted {p : Process σ κ} (calm : Calm p) (calls : List (κ × ω)) :
    p.accepted calls = calls.map Prod.fst := by
  simp [Process.accepted, calm.2]

theorem Calm.uncaught {p : Process σ κ} (calm : Calm p) (catches : ω → Bool)
    (calls : List (κ × ω)) : p.uncaught catches calls = [] := by
  simp [Process.uncaught, calm.2]

theorem Calm.rejects {p : Process σ κ} (calm : Calm p) (awaited : Option κ) :
    p.rejects awaited = false := by
  cases awaited <;> simp [Process.rejects, calm.2]

/-- In the calm a step is one of the system alone, and leaves the calm. -/
theorem step_calm {c : Config (Process σ κ) (ω × τ)} (calm : Calm c.shared) (choice : Choice ε) :
    forget ((S.failing C).step c (choice.map .event)) = S.step (forget c) choice ∧
      Calm ((S.failing C).step c (choice.map .event)).shared := by
  have up : c.shared.unhandled.isEmpty = true := List.isEmpty_iff.mpr calm.1
  cases choice with
  | stimulus e =>
      simp only [Choice.map, step, failing, up, Bool.not_true, Bool.false_eq_true, if_false,
        calm.accepted, calm.uncaught, forget, C.stimulateWith_all]
      exact ⟨by simp, rfl, calm.2⟩
  | resume position =>
      cases found : c.suspended[position]? with
      | none => exact ⟨by simp [Choice.map, step, forget, found], by
          simpa only [Choice.map, step, found] using calm⟩
      | some owned =>
          obtain ⟨owner, task⟩ := owned
          simp only [Choice.map, step, found, failing, up, Bool.not_true, Bool.false_eq_true,
            if_false, calm.rejects, calm.accepted, calm.uncaught, forget, C.resumeWith_all,
            List.getElem?_map, Option.map_some]
          refine ⟨?_, rfl, calm.2⟩
          cases (S.resume task c.shared.shared).continued <;>
            simp [List.map_take, List.map_drop]

/-- **Without outages** the system runs as it would alone. -/
theorem run_calm {c : Config (Process σ κ) (ω × τ)} (calm : Calm c.shared)
    (schedule : List (Choice ε)) :
    forget ((S.failing C).run c (schedule.map (Choice.map .event))) =
        S.run (forget c) schedule ∧
      Calm ((S.failing C).run c (schedule.map (Choice.map .event))).shared := by
  induction schedule generalizing c with
  | nil => exact ⟨rfl, calm⟩
  | cons choice rest ih =>
      obtain ⟨same, still⟩ := S.step_calm C calm choice
      rw [List.map_cons, run_cons, run_cons, ← same]
      exact ih still

/-! ## One task among others -/

/-- The calls a task gets done when it is resumed in these states one after
another, and whether it ends: it returns, or the call it waits for rejects. -/
def doneBy : τ → List (Process σ κ) → List κ × Bool
  | _, [] => ([], false)
  | task, p :: later =>
      if p.rejects (C.awaits task) then ([], true)
      else
        let own := (C.awaits task).toList ++ p.accepted (C.besideResume task p.shared)
        match (S.resume task p.shared).continued with
        | none => (own, true)
        | some next => (own ++ (doneBy next later).1, (doneBy next later).2)

end TaskSystem

end Interleaving
