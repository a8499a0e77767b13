import Stadium.Pipeline.Machine

/-!
# The signal windows and the events delivered

Only stimuli touch the intake, so after any schedule it is what its stimuli
made of it (`after_intake`). `IntakeState.Inv` relates every window to the list of
all events ever delivered for the gate: pruning drops only events that are
not eligible any more at the clock reading of the append, and they stay so.
-/

namespace Stadium

open Interleaving

namespace IntakeState

/-- What a stimulus does to the intake. -/
def react (deps : PipelineDependencies) (s : IntakeState) : PipelineStimulus → IntakeState
  | .advance ms => { s with clock := s.clock + ms }
  | .handleSignal signal => s.onSignalEvent (signal.accept deps.timingConfig s.clock)
  | .signalEvent event => s.onSignalEvent event
  | .tick _ | .congestionScore _ | .executeAction .. => s

/-- The events delivered for a gate. -/
def history (s : IntakeState) (gateId : GateId) : List SignalEvent :=
  s.delivered.filter fun event => event.gateId = some gateId

end IntakeState

namespace Pipeline

variable (deps : PipelineDependencies)

theorem onSignalEvent_intake (s : PipelineState) (event : SignalEvent) :
    (onSignalEvent deps s event).1.intake = s.intake.onSignalEvent event := by
  rw [onSignalEvent_shared]

theorem stimulate_intake (stimulus : PipelineStimulus) (s : PipelineState) :
    (stimulate deps stimulus s).1.intake = s.intake.react deps stimulus := by
  cases stimulus with
  | advance ms => rfl
  | handleSignal signal => exact onSignalEvent_intake deps s _
  | signalEvent event => exact onSignalEvent_intake deps s event
  | tick gateId => exact congrArg _ (onTick_shared deps s gateId)
  | congestionScore message => rfl
  | executeAction gateId actionId userId => rfl

theorem resume_intake (task : PipelineTask) (s : PipelineState) :
    (resume deps task s).shared.intake = s.intake := by
  cases task with
  | computing gate window =>
      rw [resume_computing]
      rfl
  | decidingNudge update fan lastNudgeAt rest generated =>
      exact congrArg _ (decideNudge_shared deps update fan lastNudgeAt rest generated s)
  | locatingAction gateId actionId userId now actions =>
      exact congrArg _ (locateAction_shared gateId actionId userId now actions s)
  | _ => rfl

/-- The intake after a schedule depends on its stimuli only. -/
theorem after_intake (startedAt : ℤ) (schedule : Schedule) :
    (after deps startedAt schedule).shared.intake =
      (TaskSystem.stimuli schedule).foldl (IntakeState.react deps) { clock := startedAt } :=
  (system deps).run_view (·.intake) (IntakeState.react deps) (stimulate_intake deps)
    (resume_intake deps) _ schedule

theorem after_stimuli_intake (startedAt : ℤ) (stimuli : List PipelineStimulus) :
    (after deps startedAt (stimuli.map .stimulus)).shared.intake =
      stimuli.foldl (IntakeState.react deps) { clock := startedAt } := by
  rw [after_intake, TaskSystem.stimuli_map_stimulus]

end Pipeline

namespace IntakeState

variable {s : IntakeState}

@[simp] theorem trackFansForEvent_clock (s : IntakeState) (event : SignalEvent) :
    (s.trackFansForEvent event).clock = s.clock := by
  unfold trackFansForEvent
  split <;> first | rfl | (split <;> rfl)

@[simp] theorem trackFansForEvent_windows (s : IntakeState) (event : SignalEvent) :
    (s.trackFansForEvent event).signalWindowByGate = s.signalWindowByGate := by
  unfold trackFansForEvent
  split <;> first | rfl | (split <;> rfl)

@[simp] theorem onSignalEvent_clock (s : IntakeState) (event : SignalEvent) :
    (s.onSignalEvent event).clock = s.clock := by
  unfold onSignalEvent
  dsimp only
  split
  · exact trackFansForEvent_clock s event
  · exact trackFansForEvent_clock s event

@[simp] theorem onSignalEvent_delivered (s : IntakeState) (event : SignalEvent) :
    (s.onSignalEvent event).delivered = s.delivered ++ [event] := by
  unfold onSignalEvent
  dsimp only
  split <;> rfl

/-- **Two-run rule.** A relation between two intakes at the same time that time
and every delivery keep is kept by all stimuli. -/
theorem foldl_react_related {deps : PipelineDependencies} {R : IntakeState → IntakeState → Prop}
    (clock : ∀ s s', R s s' → s.clock = s'.clock)
    (advance : ∀ s s' (ms : ℕ), R s s' →
      R { s with clock := s.clock + ms } { s' with clock := s'.clock + ms })
    (deliver : ∀ s s' event, R s s' → R (s.onSignalEvent event) (s'.onSignalEvent event))
    {s s' : IntakeState} (related : R s s') (stimuli : List PipelineStimulus) :
    R (stimuli.foldl (react deps) s) (stimuli.foldl (react deps) s') := by
  induction stimuli generalizing s s' with
  | nil => exact related
  | cons stimulus rest ih =>
      refine ih ?_
      cases stimulus with
      | advance ms => exact advance s s' ms related
      | handleSignal signal =>
          show R (s.onSignalEvent _) (s'.onSignalEvent _)
          rw [clock s s' related]
          exact deliver s s' _ related
      | signalEvent event => exact deliver s s' event related
      | _ => exact related

/-- A delivery appends to the pruned window of its own gate and leaves the
other windows alone. -/
theorem onSignalEvent_window (s : IntakeState) (event : SignalEvent) (gateId : GateId) :
    (s.onSignalEvent event).getWindowForGate gateId =
      if event.gateId = some gateId then
        (s.getWindowForGate gateId).filter (retained s.clock) ++ [event]
      else s.getWindowForGate gateId := by
  unfold onSignalEvent getWindowForGate
  simp only [SignalEvent.truthy_gateId]
  cases target : event.gateId with
  | none => simp
  | some other =>
      simp only [appendToWindow, getWindowForGate, OrderedMap.get?_set,
        trackFansForEvent_windows, Option.some.injEq]
      by_cases same : gateId = other
      · subst same
        simp
      · rw [if_neg same, if_neg (Ne.symm same)]

theorem onSignalEvent_history (s : IntakeState) (event : SignalEvent) (gateId : GateId) :
    (s.onSignalEvent event).history gateId =
      s.history gateId ++ if event.gateId = some gateId then [event] else [] := by
  unfold history
  rw [onSignalEvent_delivered, List.filter_append, List.filter_singleton]
  by_cases target : event.gateId = some gateId <;> simp [target]

/-- An event that counts at some time at or after the clock survives the
pruning. -/
theorem retained_of_eligible {event : SignalEvent} {clock now : ℤ} (later : clock ≤ now)
    (eligible : event.eligible now = true) : retained clock event = true := by
  obtain ⟨-, time, parsed, recent⟩ := SignalEvent.eligible_iff.mp eligible
  unfold retained
  rw [Option.any_eq_true]
  refine ⟨time, parsed, ?_⟩
  have young : now - time ≤ 10 * 60 * 1000 := recent
  show decide (clock - 10 * 60 * 1000 ≤ time) = true
  exact decide_eq_true (by omega)

/-- Pruning changes no forecast at or after the clock. -/
theorem nonStaleRecent_retained (window : List SignalEvent) {clock now : ℤ}
    (later : clock ≤ now) :
    nonStaleRecent (window.filter (retained clock)) now = nonStaleRecent window now := by
  unfold nonStaleRecent
  rw [List.filter_filter]
  refine List.filter_congr fun event _ => ?_
  cases eligible : event.eligible now with
  | false => rfl
  | true => rw [retained_of_eligible later eligible, Bool.and_self]

/-- Every window is a part of its gate's history, and from now on the two
have the same eligible events. -/
structure Inv (s : IntakeState) : Prop where
  sublist : ∀ gateId, (s.getWindowForGate gateId).Sublist (s.history gateId)
  complete : ∀ gateId now, s.clock ≤ now →
    nonStaleRecent (s.getWindowForGate gateId) now = nonStaleRecent (s.history gateId) now

theorem Inv.wired (startedAt : ℤ) : Inv { clock := startedAt } where
  sublist _ := List.Sublist.refl _
  complete _ _ _ := rfl

theorem Inv.advance (h : s.Inv) (ms : ℕ) : Inv { s with clock := s.clock + ms } where
  sublist := h.sublist
  complete gateId now later := h.complete gateId now (by
    have earlier : s.clock + ms ≤ now := later
    omega)

theorem Inv.onSignalEvent (h : s.Inv) (event : SignalEvent) :
    (s.onSignalEvent event).Inv where
  sublist gateId := by
    rw [onSignalEvent_window, onSignalEvent_history]
    by_cases target : event.gateId = some gateId
    · rw [if_pos target, if_pos target]
      exact (List.filter_sublist.trans (h.sublist gateId)).append_right _
    · rw [if_neg target, if_neg target, List.append_nil]
      exact h.sublist gateId
  complete gateId now later := by
    rw [onSignalEvent_clock] at later
    rw [onSignalEvent_window, onSignalEvent_history]
    by_cases target : event.gateId = some gateId
    · rw [if_pos target, if_pos target]
      have kept := nonStaleRecent_retained (s.getWindowForGate gateId) later
      unfold nonStaleRecent at kept ⊢
      rw [List.filter_append, List.filter_append, kept]
      exact congrArg (· ++ _) (h.complete gateId now later)
    · rw [if_neg target, if_neg target, List.append_nil]
      exact h.complete gateId now later

theorem Inv.react (deps : PipelineDependencies) (h : s.Inv) (stimulus : PipelineStimulus) :
    (s.react deps stimulus).Inv := by
  cases stimulus with
  | advance ms => exact h.advance ms
  | handleSignal signal => exact h.onSignalEvent _
  | signalEvent event => exact h.onSignalEvent event
  | tick gateId => exact h
  | congestionScore message => exact h
  | executeAction gateId actionId userId => exact h

end IntakeState

namespace Pipeline

/-- The relation of windows and history holds after every schedule. -/
theorem after_intake_inv (deps : PipelineDependencies) (startedAt : ℤ) (schedule : Schedule) :
    (after deps startedAt schedule).shared.intake.Inv := by
  rw [after_intake]
  suffices kept : ∀ (stimuli : List PipelineStimulus) (s : IntakeState), s.Inv →
      (stimuli.foldl (IntakeState.react deps) s).Inv from kept _ _ (.wired startedAt)
  intro stimuli
  induction stimuli with
  | nil => exact fun s h => h
  | cons stimulus rest ih => exact fun s h => ih _ (h.react deps stimulus)

end Pipeline

end Stadium
