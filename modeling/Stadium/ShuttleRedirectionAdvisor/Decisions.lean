import Stadium.Infra.Topology
import Stadium.ShuttleRedirectionAdvisor.Api

/-!
# What becomes of a decision

Neither call looks at the status of the recommendation it has found, so a
second decision goes through like the first: an accepted recommendation that
is rejected afterwards carries both decisions (`both_decisions_stand`).

What holds of every sequence and interleaving of calls is `decisions_recorded`:
the store holds the last decision stored for a recommendation, a status is
backed by the time and the dispatcher of its decision, and a recommendation
that only one call was made for is decided once and for all.
-/

namespace Stadium

open Interleaving TaskSystem

namespace ShuttleRedirectionRecommendation

/-- As generated: nobody has decided. -/
structure Undecided (r : ShuttleRedirectionRecommendation) : Prop where
  pending : r.status = .pending
  notAccepted : r.acceptedAt = none ∧ r.acceptedByDispatcherId = none
  notRejected : r.rejectedAt = none ∧ r.rejectedByDispatcherId = none

/-- Time and dispatcher of a decision come together, stand if the status is that
decision's, and are absent while the recommendation is PENDING. -/
structure Recorded (r : ShuttleRedirectionRecommendation) : Prop where
  accepted : r.acceptedAt.isSome = r.acceptedByDispatcherId.isSome
  rejected : r.rejectedAt.isSome = r.rejectedByDispatcherId.isSome
  ofAccepted : r.status = .accepted → r.acceptedAt.isSome = true
  ofRejected : r.status = .rejected → r.rejectedAt.isSome = true
  ofPending : r.status = .pending → r.acceptedAt = none ∧ r.rejectedAt = none

/-- Time and dispatcher of a decision stand exactly if the status is that
decision's. -/
structure SelfConsistent (r : ShuttleRedirectionRecommendation) : Prop where
  acceptedAt : r.acceptedAt.isSome = true ↔ r.status = .accepted
  acceptedBy : r.acceptedByDispatcherId.isSome = true ↔ r.status = .accepted
  rejectedAt : r.rejectedAt.isSome = true ↔ r.status = .rejected
  rejectedBy : r.rejectedByDispatcherId.isSome = true ↔ r.status = .rejected

variable {r : ShuttleRedirectionRecommendation}

instance : Decidable r.SelfConsistent :=
  decidable_of_iff (((r.acceptedAt.isSome = true ↔ r.status = .accepted) ∧
      (r.acceptedByDispatcherId.isSome = true ↔ r.status = .accepted)) ∧
    (r.rejectedAt.isSome = true ↔ r.status = .rejected) ∧
      (r.rejectedByDispatcherId.isSome = true ↔ r.status = .rejected))
    ⟨fun h => ⟨h.1.1, h.1.2, h.2.1, h.2.2⟩,
      fun h => ⟨⟨h.acceptedAt, h.acceptedBy⟩, h.rejectedAt, h.rejectedBy⟩⟩

theorem Undecided.recorded (h : r.Undecided) : r.Recorded where
  accepted := by simp [h.notAccepted]
  rejected := by simp [h.notRejected]
  ofAccepted := by simp [h.pending]
  ofRejected := by simp [h.pending]
  ofPending _ := ⟨h.notAccepted.1, h.notRejected.1⟩

theorem Undecided.selfConsistent (h : r.Undecided) : r.SelfConsistent where
  acceptedAt := by simp [h.pending, h.notAccepted]
  acceptedBy := by simp [h.pending, h.notAccepted]
  rejectedAt := by simp [h.pending, h.notRejected]
  rejectedBy := by simp [h.pending, h.notRejected]

/-- A decision is recorded, whatever was decided before. -/
theorem Recorded.update (h : r.Recorded) (decision : RedirectionDecision) (dispatcherId : String)
    (now : ℤ) : (decision.update r dispatcherId now).Recorded := by
  cases decision with
  | accept => exact ⟨rfl, h.rejected, by simp [RedirectionDecision.update],
      by simp [RedirectionDecision.update], by simp [RedirectionDecision.update]⟩
  | reject => exact ⟨h.accepted, rfl, by simp [RedirectionDecision.update],
      by simp [RedirectionDecision.update], by simp [RedirectionDecision.update]⟩

/-- The first decision leaves a consistent record. -/
theorem Undecided.update (h : r.Undecided) (decision : RedirectionDecision)
    (dispatcherId : String) (now : ℤ) : (decision.update r dispatcherId now).SelfConsistent := by
  obtain ⟨-, ⟨acceptedAt, acceptedBy⟩, rejectedAt, rejectedBy⟩ := h
  cases decision <;>
    constructor <;>
      simp [RedirectionDecision.update, acceptedAt, acceptedBy, rejectedAt, rejectedBy]

theorem update_status_ne (decision : RedirectionDecision) (dispatcherId : String) (now : ℤ) :
    (decision.update r dispatcherId now).status ≠ .pending := by
  cases decision <;> simp [RedirectionDecision.update]

variable (r) in
theorem update_names (decision : RedirectionDecision) (dispatcherId : String) (now : ℤ) :
    (decision.update r dispatcherId now).routeId = r.routeId ∧
      (decision.update r dispatcherId now).recommendationId = r.recommendationId := by
  cases decision <;> exact ⟨rfl, rfl⟩

end ShuttleRedirectionRecommendation

/-! ## The store -/

/-- An update replaces what is found under its own id. -/
theorem find?_updateRecommendation (updated : ShuttleRedirectionRecommendation)
    (existing : List ShuttleRedirectionRecommendation) (recommendationId : String) :
    (updateRecommendation updated existing).find? (·.recommendationId = recommendationId) =
      if recommendationId = updated.recommendationId then some updated
      else existing.find? (·.recommendationId = recommendationId) := by
  induction existing with
  | nil =>
      by_cases own : recommendationId = updated.recommendationId
      · simp [updateRecommendation, own]
      · simp [updateRecommendation, own, Ne.symm own]
  | cons first rest ih =>
      by_cases same : first.recommendationId = updated.recommendationId
      · rw [updateRecommendation, if_pos same]
        by_cases own : recommendationId = updated.recommendationId
        · simp [own]
        · have other : first.recommendationId ≠ recommendationId := fun hit =>
            own (hit.symm.trans same)
          simp [own, Ne.symm own, other]
      · rw [updateRecommendation, if_neg same]
        by_cases hit : first.recommendationId = recommendationId
        · have other : recommendationId ≠ updated.recommendationId := fun own =>
            same (hit.trans own)
          simp [hit, other]
        · rw [List.find?_cons_of_neg (by simpa using hit), ih,
            List.find?_cons_of_neg (by simpa using hit)]

/-- An update keeps the ids of a list, and may add its own at the end. -/
theorem updateRecommendation_ids (updated : ShuttleRedirectionRecommendation)
    (existing : List ShuttleRedirectionRecommendation) :
    (updateRecommendation updated existing).map (·.recommendationId) =
      if updated.recommendationId ∈ existing.map (·.recommendationId) then
        existing.map (·.recommendationId)
      else existing.map (·.recommendationId) ++ [updated.recommendationId] := by
  induction existing with
  | nil => simp [updateRecommendation]
  | cons first rest ih =>
      by_cases same : first.recommendationId = updated.recommendationId
      · simp [updateRecommendation, same]
      · rw [updateRecommendation, if_neg same, List.map_cons, ih]
        by_cases listed : updated.recommendationId ∈ rest.map (·.recommendationId)
        · rw [if_pos listed, if_pos (by simp [listed])]
          rfl
        · rw [if_neg listed, if_neg (by simpa [Ne.symm same] using listed)]
          rfl

theorem mem_updateRecommendation {updated r : ShuttleRedirectionRecommendation}
    {existing : List ShuttleRedirectionRecommendation}
    (member : r ∈ updateRecommendation updated existing) : r = updated ∨ r ∈ existing := by
  induction existing with
  | nil => exact .inl (List.mem_singleton.mp member)
  | cons first rest ih =>
      rw [updateRecommendation] at member
      split at member
      · rcases List.mem_cons.mp member with rfl | later
        · exact .inl rfl
        · exact .inr (List.mem_cons_of_mem first later)
      · rcases List.mem_cons.mp member with rfl | later
        · exact .inr List.mem_cons_self
        · rcases ih later with same | old
          · exact .inl same
          · exact .inr (List.mem_cons_of_mem first old)

namespace RedirectionState

/-- Recommendations are stored under their route, with distinct ids. -/
structure Keyed (s : RedirectionState) : Prop where
  distinct : ∀ routeId, ((s.getActiveRecommendations routeId).map (·.recommendationId)).Nodup
  own : ∀ routeId, ∀ r ∈ s.getActiveRecommendations routeId, r.routeId = routeId

/-- A store nobody has decided on yet. -/
structure Fresh (s : RedirectionState) : Prop extends s.Keyed where
  undecided : ∀ routeId, ∀ r ∈ s.getActiveRecommendations routeId, r.Undecided

variable {s : RedirectionState}

theorem getActiveRecommendations_update (updated : ShuttleRedirectionRecommendation)
    (routeId : RouteId) :
    (s.updateRecommendation updated).getActiveRecommendations routeId =
      if routeId = updated.routeId then
        Stadium.updateRecommendation updated (s.getActiveRecommendations routeId)
      else s.getActiveRecommendations routeId := by
  unfold getActiveRecommendations updateRecommendation
  rw [OrderedMap.get?_set]
  split
  · next same => rw [same]; rfl
  · rfl

theorem findRecommendation_update (updated : ShuttleRedirectionRecommendation)
    (routeId : RouteId) (recommendationId : String) :
    (s.updateRecommendation updated).findRecommendation routeId recommendationId =
      if updated.routeId = routeId ∧ updated.recommendationId = recommendationId then some updated
      else s.findRecommendation routeId recommendationId := by
  unfold findRecommendation
  rw [getActiveRecommendations_update]
  by_cases route : routeId = updated.routeId
  · rw [if_pos route, find?_updateRecommendation]
    simp [route, eq_comm]
  · rw [if_neg route, if_neg fun own => route own.1.symm]

theorem Keyed.update (h : s.Keyed) (updated : ShuttleRedirectionRecommendation) :
    (s.updateRecommendation updated).Keyed where
  distinct routeId := by
    rw [getActiveRecommendations_update]
    split
    · rw [updateRecommendation_ids]
      split
      · exact h.distinct routeId
      · next absent =>
          refine List.nodup_append.mpr ⟨h.distinct routeId, List.nodup_singleton _, ?_⟩
          intro id listed other single same
          rw [List.mem_singleton.mp single] at same
          exact absent (same ▸ listed)
    · exact h.distinct routeId
  own routeId r member := by
    rw [getActiveRecommendations_update] at member
    split at member
    · next route =>
        rcases mem_updateRecommendation member with rfl | old
        · exact route.symm
        · exact h.own routeId r old
    · exact h.own routeId r member

/-- What is found is stored, under the id it is looked up by. -/
theorem Keyed.found (h : s.Keyed) {routeId : RouteId} {recommendationId : String}
    {r : ShuttleRedirectionRecommendation}
    (found : s.findRecommendation routeId recommendationId = some r) :
    r ∈ s.getActiveRecommendations routeId ∧ r.routeId = routeId ∧
      r.recommendationId = recommendationId := by
  unfold findRecommendation at found
  have member := List.mem_of_find?_eq_some found
  have named := List.find?_some found
  exact ⟨member, h.own routeId r member, of_decide_eq_true named⟩

/-- What is stored is found. -/
theorem Keyed.find (h : s.Keyed) {routeId : RouteId} {r : ShuttleRedirectionRecommendation}
    (stored : r ∈ s.getActiveRecommendations routeId) :
    s.findRecommendation routeId r.recommendationId = some r := by
  have distinct := h.distinct routeId
  unfold findRecommendation
  generalize s.getActiveRecommendations routeId = active at stored distinct
  induction active with
  | nil => exact absurd stored List.not_mem_nil
  | cons first rest ih =>
      rw [List.map_cons, List.nodup_cons] at distinct
      rcases List.mem_cons.mp stored with rfl | later
      · simp
      · have other : first.recommendationId ≠ r.recommendationId := fun same =>
          distinct.1 (same ▸ List.mem_map_of_mem later)
        rw [List.find?_cons_of_neg (by simpa using other)]
        exact ih later distinct.2

end RedirectionState

/-! ## The history of the calls -/

inductive DecisionNote where
  /-- A call was made for a recommendation. -/
  | called (routeId : RouteId) (recommendationId : String)
  /-- A decided record was stored. -/
  | stored (updated : ShuttleRedirectionRecommendation)

namespace ShuttleRedirectionApi

/-- Notes the calls and the decisions they store. -/
def decisionNotes : Observer PipelineState DecisionTask DecisionStimulus DecisionNote where
  onStimulus
    | .decide _ routeId recommendationId _, _ => [.called routeId recommendationId]
    | .advance _, _ => []
  onResume
    | .storing _ updated, _ => [.stored updated]
    | _, _ => []

/-- The number of calls made for a recommendation. -/
def callsFor (routeId : RouteId) (recommendationId : String) (notes : List DecisionNote) : ℕ :=
  notes.countP fun
    | .called route id => route = routeId ∧ id = recommendationId
    | .stored _ => false

/-- The decisions stored for a recommendation, in order. -/
def decisionsOn (routeId : RouteId) (recommendationId : String) (notes : List DecisionNote) :
    List ShuttleRedirectionRecommendation :=
  notes.filterMap fun
    | .called .. => none
    | .stored updated =>
        if updated.routeId = routeId ∧ updated.recommendationId = recommendationId then
          some updated
        else none

/-- The configuration a schedule of calls leads to. -/
def after (start : PipelineState) (schedule : List (Choice DecisionStimulus)) :
    Config PipelineState DecisionTask :=
  system.run ⟨start, []⟩ schedule

end ShuttleRedirectionApi

namespace DecisionTask

/-- A call for the recommendation that has not stored its decision yet. -/
def concerns (routeId : RouteId) (recommendationId : String) : DecisionTask → Bool
  | .finding _ route id _ _ => route = routeId ∧ id = recommendationId
  | .found _ r _ _ | .storing _ r => r.routeId = routeId ∧ r.recommendationId = recommendationId
  | .recordingRejection _ | .returning .. => false

/-- What a call carries: the recommendation as it was found, and the decided
record; of the only call for it, undecided and consistent. -/
def Sound (notes : List DecisionNote) : DecisionTask → Prop
  | .found _ r _ _ =>
      r.Recorded ∧
        (ShuttleRedirectionApi.callsFor r.routeId r.recommendationId notes ≤ 1 → r.Undecided)
  | .storing _ updated =>
      updated.Recorded ∧ updated.status ≠ .pending ∧
        (ShuttleRedirectionApi.callsFor updated.routeId updated.recommendationId notes ≤ 1 →
          updated.SelfConsistent)
  | _ => True

end DecisionTask

namespace ShuttleRedirectionApi

section

variable (routeId : RouteId) (recommendationId : String) (notes more : List DecisionNote)

@[simp] theorem callsFor_called (route : RouteId) (id : String) :
    callsFor routeId recommendationId [.called route id] =
      if route = routeId ∧ id = recommendationId then 1 else 0 := by
  simp [callsFor, List.countP_singleton]

@[simp] theorem callsFor_stored (updated : ShuttleRedirectionRecommendation) :
    callsFor routeId recommendationId [.stored updated] = 0 := rfl

@[simp] theorem decisionsOn_called (route : RouteId) (id : String) :
    decisionsOn routeId recommendationId [.called route id] = [] := rfl

@[simp] theorem decisionsOn_stored (updated : ShuttleRedirectionRecommendation) :
    decisionsOn routeId recommendationId [.stored updated] =
      if updated.routeId = routeId ∧ updated.recommendationId = recommendationId then [updated]
      else [] := by
  unfold decisionsOn
  split_ifs with own <;> simp [own]

theorem callsFor_append : callsFor routeId recommendationId (notes ++ more) =
    callsFor routeId recommendationId notes + callsFor routeId recommendationId more :=
  List.countP_append

theorem decisionsOn_append : decisionsOn routeId recommendationId (notes ++ more) =
    decisionsOn routeId recommendationId notes ++ decisionsOn routeId recommendationId more :=
  List.filterMap_append

end

theorem stored_of_mem_decisionsOn {routeId : RouteId} {recommendationId : String}
    {notes : List DecisionNote} {updated : ShuttleRedirectionRecommendation}
    (decided : updated ∈ decisionsOn routeId recommendationId notes) : .stored updated ∈ notes := by
  obtain ⟨note, noted, picked⟩ := List.mem_filterMap.mp decided
  cases note with
  | called => cases picked
  | stored other =>
      simp only at picked
      split_ifs at picked
      obtain rfl := Option.some.inj picked
      exact noted

theorem callsFor_le_of_append {routeId : RouteId} {recommendationId : String}
    {notes more : List DecisionNote}
    (few : callsFor routeId recommendationId (notes ++ more) ≤ 1) :
    callsFor routeId recommendationId notes ≤ 1 := by
  rw [callsFor_append] at few
  omega

/-- What a call carries stays sound when more is noted. -/
theorem sound_later {task : DecisionTask} {notes : List DecisionNote} (sound : task.Sound notes)
    (more : List DecisionNote) : task.Sound (notes ++ more) := by
  cases task with
  | found decision r dispatcherId now =>
      exact ⟨sound.1, fun once => sound.2 (callsFor_le_of_append once)⟩
  | storing decision updated =>
      exact ⟨sound.1, sound.2.1, fun once => sound.2.2 (callsFor_le_of_append once)⟩
  | _ => trivial

/-- What holds after every schedule of calls on a fresh store. -/
structure DecisionInv (start : RedirectionState) (c : Config PipelineState DecisionTask)
    (notes : List DecisionNote) : Prop where
  keyed : c.shared.redirections.Keyed
  found : ∀ routeId recommendationId,
    c.shared.redirections.findRecommendation routeId recommendationId =
      (decisionsOn routeId recommendationId notes).getLast?.or
        (start.findRecommendation routeId recommendationId)
  counted : ∀ routeId recommendationId,
    (decisionsOn routeId recommendationId notes).length +
        c.suspended.countP (·.concerns routeId recommendationId) ≤
      callsFor routeId recommendationId notes
  stored : ∀ updated, .stored updated ∈ notes → updated.Recorded ∧ updated.status ≠ .pending ∧
    (callsFor updated.routeId updated.recommendationId notes ≤ 1 → updated.SelfConsistent)
  tasks : ∀ task ∈ c.suspended, task.Sound notes

section

variable {start : RedirectionState} {s s' : PipelineState} {before after : List DecisionTask}
  {task : DecisionTask} {notes : List DecisionNote}

theorem decisionInv_start (fresh : s.redirections.Fresh) :
    DecisionInv s.redirections ⟨s, []⟩ [] where
  keyed := fresh.toKeyed
  found _ _ := rfl
  counted _ _ := le_rfl
  stored _ member := absurd member List.not_mem_nil
  tasks _ member := absurd member List.not_mem_nil

/-- A stretch that leaves the stored recommendations alone and goes on to a task
for the same recommendation, or to none. -/
theorem DecisionInv.move (inv : DecisionInv start ⟨s, before ++ task :: after⟩ notes)
    (store : s'.redirections.redirectionStore = s.redirections.redirectionStore)
    {next : List DecisionTask}
    (lighter : ∀ routeId recommendationId,
      next.countP (·.concerns routeId recommendationId) ≤
        [task].countP (·.concerns routeId recommendationId))
    (sound : ∀ t ∈ next, t.Sound notes) :
    DecisionInv start ⟨s', before ++ next ++ after⟩ notes where
  keyed := by
    obtain ⟨distinct, own⟩ := inv.keyed
    unfold RedirectionState.getActiveRecommendations at distinct own
    constructor <;> unfold RedirectionState.getActiveRecommendations <;> rw [store]
    · exact distinct
    · exact own
  found routeId recommendationId := by
    have found := inv.found routeId recommendationId
    unfold RedirectionState.findRecommendation RedirectionState.getActiveRecommendations at found ⊢
    rw [store]
    exact found
  counted routeId recommendationId := by
    have counted := inv.counted routeId recommendationId
    have light := lighter routeId recommendationId
    simp only [List.countP_append, List.countP_cons, List.countP_nil] at counted light ⊢
    omega
  stored := inv.stored
  tasks := by
    intro t member
    rw [List.append_assoc] at member
    rcases List.mem_append.mp member with earlier | later
    · exact inv.tasks t (List.mem_append_left _ earlier)
    · rcases List.mem_append.mp later with new | later
      · exact sound t new
      · exact inv.tasks t (List.mem_append_right _ (List.mem_cons_of_mem task later))

/-- A new call. -/
theorem DecisionInv.call {tasks : List DecisionTask} (inv : DecisionInv start ⟨s, tasks⟩ notes)
    (decision : RedirectionDecision) (routeId : RouteId) (recommendationId dispatcherId : String) :
    DecisionInv start
      ⟨s, tasks ++ [.finding decision routeId recommendationId dispatcherId s.intake.clock]⟩
      (notes ++ [.called routeId recommendationId]) where
  keyed := inv.keyed
  found route id := by
    rw [decisionsOn_append, decisionsOn_called, List.append_nil]
    exact inv.found route id
  counted route id := by
    have counted := inv.counted route id
    have one : [DecisionTask.finding decision routeId recommendationId dispatcherId
        s.intake.clock].countP (·.concerns route id) =
          if routeId = route ∧ recommendationId = id then 1 else 0 := by
      simp [DecisionTask.concerns, List.countP_singleton]
    simp only [decisionsOn_append, callsFor_append, List.countP_append, one, callsFor_called,
      decisionsOn_called, List.append_nil] at counted ⊢
    omega
  stored updated member := by
    rcases List.mem_append.mp member with old | new
    · obtain ⟨recorded, decided, once⟩ := inv.stored updated old
      exact ⟨recorded, decided, fun few => once (callsFor_le_of_append few)⟩
    · exact absurd (List.mem_singleton.mp new) (by simp)
  tasks t member := by
    rcases List.mem_append.mp member with old | new
    · exact sound_later (inv.tasks t old) _
    · rw [List.mem_singleton.mp new]
      trivial

/-- What the call finds was recorded; if it is the only one for it, nobody has
decided yet. -/
theorem DecisionInv.find (fresh : start.Fresh) {decision : RedirectionDecision}
    {routeId : RouteId} {recommendationId dispatcherId : String} {now : ℤ}
    (inv : DecisionInv start
      ⟨s, before ++ .finding decision routeId recommendationId dispatcherId now :: after⟩ notes)
    {r : ShuttleRedirectionRecommendation}
    (found : s.redirections.findRecommendation routeId recommendationId = some r) :
    DecisionInv start ⟨s, before ++ [.found decision r dispatcherId now] ++ after⟩ notes := by
  obtain ⟨-, own, named⟩ := inv.keyed.found found
  have origin := (inv.found routeId recommendationId).symm.trans found
  refine inv.move rfl ?_ ?_
  · intro route id
    simp [DecisionTask.concerns, own, named]
  · intro t member
    rw [List.mem_singleton.mp member]
    cases last : (decisionsOn routeId recommendationId notes).getLast? with
    | none =>
        rw [last, Option.none_or] at origin
        have undecided := fresh.undecided routeId r (fresh.toKeyed.found origin).1
        exact ⟨undecided.recorded, fun _ => undecided⟩
    | some updated =>
        rw [last, Option.some_or] at origin
        obtain rfl := Option.some.inj origin
        have decided := List.mem_of_getLast? last
        refine ⟨(inv.stored _ (stored_of_mem_decisionsOn decided)).1, fun few => ?_⟩
        -- a decision and this call make two
        exfalso
        have counted := inv.counted routeId recommendationId
        have some := List.length_pos_of_mem decided
        rw [own, named] at few
        simp [DecisionTask.concerns] at counted
        omega

/-- What was found is decided. -/
theorem DecisionInv.decide {decision : RedirectionDecision}
    {r : ShuttleRedirectionRecommendation} {dispatcherId : String} {now : ℤ}
    (inv : DecisionInv start ⟨s, before ++ .found decision r dispatcherId now :: after⟩ notes) :
    DecisionInv start
      ⟨s, before ++ [.storing decision (decision.update r dispatcherId now)] ++ after⟩ notes := by
  obtain ⟨recorded, once⟩ := inv.tasks (.found decision r dispatcherId now) (by simp)
  obtain ⟨own, named⟩ := ShuttleRedirectionRecommendation.update_names r decision dispatcherId now
  refine inv.move rfl ?_ ?_
  · intro route id
    simp [DecisionTask.concerns, own, named]
  · intro t member
    rw [List.mem_singleton.mp member]
    refine ⟨recorded.update decision dispatcherId now,
      ShuttleRedirectionRecommendation.update_status_ne decision dispatcherId now, ?_⟩
    intro few
    rw [own, named] at few
    exact (once few).update decision dispatcherId now

/-- The decided record is stored. -/
theorem DecisionInv.store {decision : RedirectionDecision}
    {updated : ShuttleRedirectionRecommendation}
    (inv : DecisionInv start ⟨s, before ++ .storing decision updated :: after⟩ notes)
    (kept : s'.redirections = s.redirections.updateRecommendation updated) {next : DecisionTask}
    (done : ∀ routeId recommendationId, next.concerns routeId recommendationId = false)
    (sound : ∀ notes, next.Sound notes) :
    DecisionInv start ⟨s', before ++ [next] ++ after⟩ (notes ++ [.stored updated]) where
  keyed := by
    rw [kept]
    exact inv.keyed.update updated
  found routeId recommendationId := by
    rw [kept, RedirectionState.findRecommendation_update, decisionsOn_append,
      inv.found routeId recommendationId]
    rw [decisionsOn_stored]
    by_cases own : updated.routeId = routeId ∧ updated.recommendationId = recommendationId
    · simp [own]
    · simp [own]
  counted routeId recommendationId := by
    have counted := inv.counted routeId recommendationId
    have one : [DecisionTask.storing decision updated].countP
        (·.concerns routeId recommendationId) =
          (decisionsOn routeId recommendationId [.stored updated]).length := by
      rw [decisionsOn_stored, List.countP_singleton]
      by_cases own : updated.routeId = routeId ∧ updated.recommendationId = recommendationId
      · simp [DecisionTask.concerns, own]
      · rw [if_neg own]
        simpa [DecisionTask.concerns] using own
    have none : [next].countP (·.concerns routeId recommendationId) = 0 := by
      simp [done]
    rw [show before ++ DecisionTask.storing decision updated :: after =
      before ++ [DecisionTask.storing decision updated] ++ after by simp] at counted
    simp only [List.countP_append, one, none, decisionsOn_append, callsFor_append,
      callsFor_stored, List.length_append] at counted ⊢
    omega
  stored other member := by
    rcases List.mem_append.mp member with old | new
    · obtain ⟨recorded, decided, once⟩ := inv.stored other old
      exact ⟨recorded, decided, fun few => once (callsFor_le_of_append few)⟩
    · obtain rfl := DecisionNote.stored.inj (List.mem_singleton.mp new)
      obtain ⟨recorded, decided, once⟩ := inv.tasks (.storing decision other) (by simp)
      exact ⟨recorded, decided, fun few => once (callsFor_le_of_append few)⟩
  tasks t member := by
    rw [List.append_assoc] at member
    rcases List.mem_append.mp member with earlier | later
    · exact sound_later (inv.tasks t (List.mem_append_left _ earlier)) _
    · rcases List.mem_append.mp later with new | later
      · rw [List.mem_singleton.mp new]
        exact sound _
      · exact sound_later
          (inv.tasks t (List.mem_append_right _ (List.mem_cons_of_mem _ later))) _

end

/-- The invariant holds after every schedule of calls. -/
theorem decisionInv_run {start : RedirectionState} (fresh : start.Fresh)
    {c : Config PipelineState DecisionTask} {notes : List DecisionNote}
    (inv : DecisionInv start c notes) (schedule : List (Choice DecisionStimulus)) :
    DecisionInv start (system.run c schedule) (notes ++ system.trace decisionNotes c schedule) := by
  refine system.run_invariant_traced decisionNotes ?_ ?_ inv (system.guarded_trivial c schedule)
  · intro s tasks notes stimulus inv _
    cases stimulus with
    | advance ms =>
        show DecisionInv start ⟨_, tasks ++ []⟩ (notes ++ [])
        rw [List.append_nil, List.append_nil]
        exact ⟨inv.keyed, inv.found, inv.counted, inv.stored, inv.tasks⟩
    | decide decision routeId recommendationId dispatcherId =>
        exact inv.call decision routeId recommendationId dispatcherId
  · intro s before task after notes inv _
    rw [show (system.resume task s).started = [] by
      cases task with
      | finding decision routeId recommendationId dispatcherId now =>
          simp only [system, resume]
          split <;> rfl
      | storing decision updated => cases decision <;> rfl
      | returning decision updated => cases decision <;> rfl
      | _ => rfl, List.append_nil]
    cases task with
    | finding decision routeId recommendationId dispatcherId now =>
        show DecisionInv start _ (notes ++ [])
        rw [List.append_nil]
        simp only [system, resume]
        cases found : s.redirections.findRecommendation routeId recommendationId with
        | none => exact inv.move rfl (by simp) (by simp)
        | some r => exact inv.find fresh found
    | found decision r dispatcherId now =>
        have decided := inv.decide
        rw [← List.append_nil notes] at decided
        exact decided
    | storing decision updated =>
        cases decision with
        | accept => exact inv.store rfl (fun _ _ => rfl) fun _ => trivial
        | reject => exact inv.store rfl (fun _ _ => rfl) fun _ => trivial
    | recordingRejection updated =>
        have recorded : DecisionInv start ⟨(system.resume (.recordingRejection updated) s).shared,
            before ++ [.returning .reject updated] ++ after⟩ notes := by
          refine inv.move ?_ (fun _ _ => le_rfl) ?_
          · rfl
          · intro t member
            rw [List.mem_singleton.mp member]
            trivial
        rw [← List.append_nil notes] at recorded
        exact recorded
    | returning decision updated =>
        have returned : DecisionInv start
            ⟨(system.resume (.returning decision updated) s).shared, before ++ [] ++ after⟩
            notes := by
          refine inv.move ?_ (by simp) (by simp)
          cases decision <;> rfl
        rw [← List.append_nil notes] at returned
        cases decision <;> exact returned

theorem decisionInv_after {start : PipelineState} (fresh : start.redirections.Fresh)
    (schedule : List (Choice DecisionStimulus)) :
    DecisionInv start.redirections (after start schedule)
      (system.trace decisionNotes ⟨start, []⟩ schedule) :=
  decisionInv_run fresh (decisionInv_start fresh) schedule

/-- A stored recommendation was recorded; if only one call was made for it, it
is consistent. -/
theorem DecisionInv.recorded {start : RedirectionState} (fresh : start.Fresh)
    {c : Config PipelineState DecisionTask} {notes : List DecisionNote}
    (inv : DecisionInv start c notes) {routeId : RouteId} {r : ShuttleRedirectionRecommendation}
    (stored : r ∈ c.shared.redirections.getActiveRecommendations routeId) :
    r.Recorded ∧ (callsFor routeId r.recommendationId notes ≤ 1 → r.SelfConsistent) ∧
      (r.status ≠ .pending → 0 < (decisionsOn routeId r.recommendationId notes).length) := by
  have own := inv.keyed.own routeId r stored
  have origin := (inv.found routeId r.recommendationId).symm.trans (inv.keyed.find stored)
  cases last : (decisionsOn routeId r.recommendationId notes).getLast? with
  | none =>
      rw [last, Option.none_or] at origin
      have undecided := fresh.undecided routeId r (fresh.toKeyed.found origin).1
      exact ⟨undecided.recorded, fun _ => undecided.selfConsistent,
        fun decided => absurd undecided.pending decided⟩
  | some updated =>
      rw [last, Option.some_or, Option.some.injEq] at origin
      subst origin
      have decided := List.mem_of_getLast? last
      obtain ⟨recorded, -, once⟩ := inv.stored _ (stored_of_mem_decisionsOn decided)
      rw [own] at once
      exact ⟨recorded, once, fun _ => List.length_pos_of_mem decided⟩

/-- The only call made for a recommendation stores one decision. -/
theorem DecisionInv.none_later {start : RedirectionState} {c : Config PipelineState DecisionTask}
    {earlier later : List DecisionNote} (inv : DecisionInv start c (earlier ++ later))
    {routeId : RouteId} {recommendationId : String}
    (few : callsFor routeId recommendationId (earlier ++ later) ≤ 1)
    (decided : 0 < (decisionsOn routeId recommendationId earlier).length) :
    decisionsOn routeId recommendationId later = [] := by
  have counted := inv.counted routeId recommendationId
  rw [decisionsOn_append, List.length_append] at counted
  apply List.eq_nil_of_length_eq_zero
  omega

/-- **Decisions are recorded.** Take any schedule of calls on a fresh store, cut
in two, and a recommendation stored at the cut. Its decisions come with their
time and dispatcher. At the end it is the last decision stored for it since,
and unchanged if there was none; a status that has left PENDING has not come
back to it; and if only one call was made for it in all, it is consistent and,
once decided, final. -/
theorem decisions_recorded (start : PipelineState) (fresh : start.redirections.Fresh)
    (first second : List (Choice DecisionStimulus)) (routeId : RouteId)
    (r : ShuttleRedirectionRecommendation)
    (stored : r ∈ (after start first).shared.redirections.getActiveRecommendations routeId) :
    r.Recorded ∧
      ∃ r' ∈ (after start (first ++ second)).shared.redirections.getActiveRecommendations routeId,
        r'.recommendationId = r.recommendationId ∧
        r' = (decisionsOn routeId r.recommendationId
          (system.trace decisionNotes (after start first) second)).getLast?.getD r ∧
        (r.status ≠ .pending → r'.status ≠ .pending) ∧
        (callsFor routeId r.recommendationId
            (system.trace decisionNotes ⟨start, []⟩ (first ++ second)) ≤ 1 →
          r'.SelfConsistent ∧ (r.status ≠ .pending → r' = r)) := by
  have cut := decisionInv_after fresh first
  have inv := decisionInv_after fresh (first ++ second)
  rw [system.trace_append] at inv ⊢
  obtain ⟨recorded, -, decidedBefore⟩ := cut.recorded fresh stored
  have found := inv.found routeId r.recommendationId
  have foundAtCut := (cut.found routeId r.recommendationId).symm.trans (cut.keyed.find stored)
  rw [decisionsOn_append, List.getLast?_append, Option.or_assoc, foundAtCut] at found
  obtain ⟨r', hr'⟩ : ∃ r', r' = (decisionsOn routeId r.recommendationId
    (system.trace decisionNotes (after start first) second)).getLast?.getD r := ⟨_, rfl⟩
  have found' : (after start (first ++ second)).shared.redirections.findRecommendation routeId
      r.recommendationId = some r' := by
    rw [hr']
    exact found.trans Option.or_some
  obtain ⟨stored', -, named⟩ := inv.keyed.found found'
  obtain ⟨-, consistent, -⟩ := inv.recorded fresh stored'
  refine ⟨recorded, r', stored', named, hr', ?_, ?_⟩
  · intro decided
    cases last : (decisionsOn routeId r.recommendationId
        (system.trace decisionNotes (after start first) second)).getLast? with
    | none =>
        rw [last] at hr'
        rw [hr']
        exact decided
    | some updated =>
        have noted := stored_of_mem_decisionsOn (List.mem_of_getLast? last)
        rw [hr', last]
        exact (inv.stored updated (List.mem_append_right _ noted)).2.1
  · intro few
    refine ⟨consistent (by rw [named]; exact few), fun decided => ?_⟩
    -- the one decision was stored before the cut
    have none := inv.none_later few (decidedBefore decided)
    rw [hr']
    exact congrArg (fun later => later.getLast?.getD r) none

/-- A store with one recommendation for route 1. -/
def demoPending : ShuttleRedirectionRecommendation where
  recommendationId := "recommendation"
  routeId := "route-1"
  originGateId := "gate-a"
  alternativeGateId := "gate-c"
  explanation := ""
  generatedAt := "1970-01-01T00:00:00.000Z"
  status := .pending

def demoDecisions : PipelineState :=
  { PipelineState.wired 0 with
    redirections := ({} : RedirectionState).updateRecommendation demoPending }

theorem demoDecisions_fresh : demoDecisions.redirections.Fresh := by
  have active : ∀ routeId, demoDecisions.redirections.getActiveRecommendations routeId =
      if routeId = "route-1" then [demoPending] else [] := by
    intro routeId
    exact RedirectionState.getActiveRecommendations_update demoPending routeId
  refine ⟨⟨?_, ?_⟩, ?_⟩
  · intro routeId
    rw [active]
    split <;> simp
  · intro routeId r member
    rw [active] at member
    split at member
    · next route => rw [List.mem_singleton.mp member, route]; rfl
    · exact absurd member List.not_mem_nil
  · intro routeId r member
    rw [active] at member
    split at member
    · rw [List.mem_singleton.mp member]
      exact ⟨rfl, ⟨rfl, rfl⟩, rfl, rfl⟩
    · exact absurd member List.not_mem_nil

/-- Anna accepts the recommendation. -/
def acceptance : List (Choice DecisionStimulus) :=
  [.stimulus (.decide .accept "route-1" "recommendation" "anna"),
    .resume 0, .resume 0, .resume 0, .resume 0]

/-- A minute later Ben rejects it. -/
def lateRejection : List (Choice DecisionStimulus) :=
  [.stimulus (.advance 60000),
    .stimulus (.decide .reject "route-1" "recommendation" "ben"),
    .resume 0, .resume 0, .resume 0, .resume 0, .resume 0]

/-- One acceptance is final. -/
theorem decisions_recorded_demo :
    ∃ r ∈ (after demoDecisions
      ([] ++ acceptance)).shared.redirections.getActiveRecommendations "route-1",
        r.SelfConsistent := by
  obtain ⟨-, r, stored, -, -, -, once⟩ := decisions_recorded demoDecisions demoDecisions_fresh []
    acceptance "route-1" demoPending (by decide +kernel)
  exact ⟨r, stored, (once (by decide +kernel)).1⟩

/-- The accepted recommendation is rejected, and carries both decisions. -/
theorem both_decisions_stand :
    ∃ r ∈ (after demoDecisions acceptance).shared.redirections.getActiveRecommendations "route-1",
      r.status = .accepted ∧
      ∃ r' ∈ (after demoDecisions
          (acceptance ++ lateRejection)).shared.redirections.getActiveRecommendations "route-1",
        r'.recommendationId = r.recommendationId ∧ r'.status = .rejected ∧
          ¬ r'.SelfConsistent := by
  decide +kernel

end ShuttleRedirectionApi

end Stadium
