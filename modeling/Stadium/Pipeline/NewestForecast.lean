import Stadium.Infra.Topology
import Stadium.Lib.StageLine
import Stadium.Pipeline.Recompute

/-!
# The newest forecast wins, when recomputes keep their order

A recompute carries no version, so the four places a forecast is written to
hold whatever was written last. `LineInv` says what they hold as long as the
recomputes of the gate pass each stage in the order in which they were
started: the stores hold the last published computation, Redis the last one
saved, and the recompute started last worked on the current window. Once no
recompute is in flight, all of these are the same computation.

Without that order an older computation can finish last
(`older_forecast_overwrites_newer`).
-/

namespace Stadium

open Interleaving StageLine

namespace InFlight

/-- The computation of a recompute that has made it. -/
def computation? : InFlight → Option Computation
  | .computing .. => none
  | .saving computation _ => some computation
  | .publishing computation => some computation

/-- The recompute works on the given window, and has counted or will count
everything eligible in the given history. -/
def Fresh (window history : List SignalEvent) : InFlight → Prop
  | .computing _ read => read = window
  | .saving r _ | .publishing r =>
      r.window = window ∧ nonStaleRecent r.window r.now = nonStaleRecent history r.now

theorem computation?_eq_nil {line : List InFlight} (h : ∀ a ∈ line, a.stage = 0) :
    line.filterMap computation? = [] := by
  rw [List.filterMap_eq_nil_iff]
  intro a member
  cases a with
  | computing gate window => rfl
  | saving r point => exact absurd (h _ member) (by simp [stage])
  | publishing r => exact absurd (h _ member) (by simp [stage])

theorem publishing?_eq_nil {line : List InFlight} (h : ∀ a ∈ line, a.stage ≤ 1) :
    line.filterMap publishing? = [] := by
  rw [List.filterMap_eq_nil_iff]
  intro a member
  cases a with
  | publishing r => exact absurd (h _ member) (by simp [stage])
  | _ => rfl

end InFlight

/-- The stores of a gate against its computations: `published` are the
computations that have been published, oldest first. -/
structure LineInv (gate : Gate) (v : ForecastView) (line : List InFlight)
    (published : List Computation) : Prop where
  ordered : InOrder InFlight.stage line
  computed : v.computed = published ++ line.filterMap InFlight.computation?
  lastKnown : v.lastKnown =
    (published ++ line.filterMap InFlight.publishing?).getLast?.bind (·.result.scores.head?)
  stored : v.stored = published.getLast?.map (·.result.scores)
  score : v.score = published.getLast?.bind (·.result.scores.head?)
  byGate : v.byGate = published.getLast?.map (·.result)
  sound : ∀ r ∈ v.computed, r.gate = gate ∧ r.result = forecastOf gate r.window r.now
  times : v.computed.Pairwise (fun r r' => r.now ≤ r'.now)
  past : ∀ r ∈ v.computed, r.now ≤ v.clock
  gates : ∀ g window, .computing g window ∈ line → g = gate
  points : ∀ r point, .saving r point ∈ line → r.result.scores.head? = some point
  complete : ∀ now, v.clock ≤ now →
    nonStaleRecent v.window now = nonStaleRecent v.history now
  fresh : ∀ newest, (published.map InFlight.publishing ++ line).getLast? = some newest →
    newest.Fresh v.window v.history
  unused : published.map InFlight.publishing ++ line = [] → v.history = []

namespace LineInv

variable {gate : Gate} {v : ForecastView} {line before after : List InFlight}
  {published : List Computation}

theorem start (startedAt : ℤ) (gateId : GateId) :
    LineInv gate (Pipeline.forecastView gateId (.wired startedAt)) [] [] where
  ordered := .nil
  computed := rfl
  lastKnown := rfl
  stored := rfl
  score := rfl
  byGate := rfl
  sound := by simp [Pipeline.forecastView, PipelineState.wired]
  times := List.Pairwise.nil
  past := by simp [Pipeline.forecastView, PipelineState.wired]
  gates := by simp
  points := by simp
  complete _ _ := rfl
  fresh := by simp
  unused _ := rfl

theorem advance (h : LineInv gate v line published) (ms : ℕ) :
    LineInv gate { v with clock := v.clock + ms } line published :=
  { h with
    past := fun r member => le_trans (h.past r member) (by show v.clock ≤ v.clock + ms; omega)
    complete := fun now later => h.complete now (by
      have bound : v.clock + ms ≤ now := later
      omega) }

/-- A recompute starts on a window that agrees with its history. -/
theorem startOn (h : LineInv gate v line published) {window history : List SignalEvent}
    (complete : ∀ now, v.clock ≤ now → nonStaleRecent window now = nonStaleRecent history now) :
    LineInv gate { v with window, history } (line ++ [.computing gate window]) published :=
  { h with
    ordered := h.ordered.start rfl
    computed := by
      rw [List.filterMap_append, show [InFlight.computing gate window].filterMap
        InFlight.computation? = [] from rfl, List.append_nil]
      exact h.computed
    lastKnown := by
      rw [List.filterMap_append, show [InFlight.computing gate window].filterMap
        InFlight.publishing? = [] from rfl, List.append_nil]
      exact h.lastKnown
    gates := by
      intro g read member
      rcases List.mem_append.mp member with earlier | new
      · exact h.gates g read earlier
      · cases List.mem_singleton.mp new
        rfl
    points := by
      intro r point member
      rcases List.mem_append.mp member with earlier | new
      · exact h.points r point earlier
      · cases List.mem_singleton.mp new
    complete
    fresh := by
      intro newest last
      rw [← List.append_assoc, List.getLast?_concat, Option.some.injEq] at last
      subst last
      rfl
    unused := by
      intro empty
      simp at empty }

/-- A delivery changes window and history together. -/
theorem deliver (h : LineInv gate v line published) (event : SignalEvent) :
    LineInv gate (v.deliver event) (line ++ [.computing gate (v.deliver event).window])
      published := by
  refine h.startOn fun now later => ?_
  have kept := IntakeState.nonStaleRecent_retained v.window later
  have agreed := h.complete now later
  unfold nonStaleRecent at kept agreed ⊢
  rw [List.filter_append, List.filter_append, kept, agreed]

/-- The freshness of the newest recompute survives when one recompute moves
on and keeps its own freshness. -/
theorem fresh_replace {x y : InFlight} {window history : List SignalEvent} {rest : List InFlight}
    (h : ∀ newest, (rest ++ x :: after).getLast? = some newest → newest.Fresh window history)
    (kept : x.Fresh window history → y.Fresh window history) :
    ∀ newest, (rest ++ y :: after).getLast? = some newest → newest.Fresh window history := by
  intro newest last
  rw [List.getLast?_append, List.getLast?_cons, Option.some_or, Option.some.injEq] at last
  rw [List.getLast?_append, List.getLast?_cons, Option.some_or] at h
  cases behind : after.getLast? with
  | none =>
      rw [behind, Option.getD_none] at last h
      rw [← last]
      exact kept (h x rfl)
  | some z =>
      rw [behind, Option.getD_some] at last h
      rw [← last]
      exact h z rfl

/-- A recompute makes its computation: it was the first still to do so. -/
theorem compute {g : Gate} {window : List SignalEvent}
    (h : LineInv gate v (before ++ .computing g window :: after) published)
    (ahead : ∀ a ∈ before, 0 < a.stage) :
    LineInv gate { v with computed := v.computed ++ [v.computation g window] }
      (before ++ .saving (v.computation g window) (currentPointOf g window v.clock) :: after)
      published := by
  obtain ⟨-, -, least, -⟩ := h.ordered.split
  have behind : after.filterMap InFlight.computation? = [] :=
    InFlight.computation?_eq_nil fun a member => Nat.le_zero.mp (least a member)
  have own : g = gate := h.gates g window (by simp)
  subst own
  have listed := h.computed
  simp only [List.filterMap_append, List.filterMap_cons, InFlight.computation?, behind,
    List.append_nil] at listed
  refine
    { h with
      ordered := h.ordered.promote ahead rfl
      computed := ?_, lastKnown := ?_, sound := ?_, times := ?_, past := ?_, gates := ?_
      points := ?_, fresh := ?_, unused := ?_ }
  · simp only [List.filterMap_append, List.filterMap_cons, InFlight.computation?, behind, listed,
      List.append_assoc]
  · have saved := h.lastKnown
    simp only [List.filterMap_append, List.filterMap_cons, InFlight.publishing?] at saved ⊢
    exact saved
  · intro r member
    rcases List.mem_append.mp member with earlier | new
    · exact h.sound r earlier
    · cases List.mem_singleton.mp new
      exact ⟨rfl, rfl⟩
  · refine List.pairwise_append.mpr ⟨h.times, List.pairwise_singleton _ _, ?_⟩
    intro r earlier r' new
    cases List.mem_singleton.mp new
    exact h.past r earlier
  · intro r member
    rcases List.mem_append.mp member with earlier | new
    · exact h.past r earlier
    · cases List.mem_singleton.mp new
      exact le_refl v.clock
  · intro g' read member
    refine h.gates g' read ?_
    simp only [List.mem_append, List.mem_cons, reduceCtorEq, false_or] at member ⊢
    exact member.imp_right Or.inr
  · intro r point member
    simp only [List.mem_append, List.mem_cons, InFlight.saving.injEq] at member
    rcases member with earlier | ⟨rfl, rfl⟩ | later
    · exact h.points r point (by simp [earlier])
    · rfl
    · exact h.points r point (by simp [later])
  · have current := h.fresh
    rw [← List.append_assoc] at current ⊢
    refine fresh_replace current ?_
    -- the clock reading of the computation is the present one
    intro agreeing
    have read : window = v.window := agreeing
    refine ⟨read, ?_⟩
    show nonStaleRecent window v.clock = nonStaleRecent v.history v.clock
    rw [read]
    exact h.complete v.clock le_rfl
  · intro empty
    simp at empty

/-- Redis takes a point: it was the first computed one still to be taken. -/
theorem save {r : Computation} {point : CongestionScorePoint}
    (h : LineInv gate v (before ++ .saving r point :: after) published)
    (ahead : ∀ a ∈ before, 1 < a.stage) :
    LineInv gate { v with lastKnown := some point } (before ++ .publishing r :: after)
      published := by
  obtain ⟨-, -, least, -⟩ := h.ordered.split
  have behind : after.filterMap InFlight.publishing? = [] :=
    InFlight.publishing?_eq_nil fun a member => least a member
  refine
    { h with
      ordered := h.ordered.promote ahead rfl
      computed := ?_, lastKnown := ?_, gates := ?_, points := ?_, fresh := ?_, unused := ?_ }
  · have listed := h.computed
    simp only [List.filterMap_append, List.filterMap_cons, InFlight.computation?] at listed ⊢
    exact listed
  · simp only [List.filterMap_append, List.filterMap_cons, InFlight.publishing?, behind,
      ← List.append_assoc, List.getLast?_concat, Option.bind_some]
    exact (h.points r point (by simp)).symm
  · intro g read member
    refine h.gates g read ?_
    simp only [List.mem_append, List.mem_cons, reduceCtorEq, false_or] at member ⊢
    exact member
  · intro r' point' member
    refine h.points r' point' ?_
    simp only [List.mem_append, List.mem_cons, reduceCtorEq, false_or] at member ⊢
    exact member.imp_right Or.inr
  · have current := h.fresh
    rw [← List.append_assoc] at current ⊢
    exact fresh_replace current id
  · intro empty
    simp at empty

/-- A recompute publishes: it was the first one in flight. -/
theorem publish {r : Computation}
    (h : LineInv gate v (before ++ .publishing r :: after) published)
    (ahead : ∀ a ∈ before, 2 < a.stage) :
    LineInv gate
      { v with
        stored := some r.result.scores
        score := r.result.scores.head?.or v.score
        byGate := some r.result }
      (before ++ after) (published ++ [r]) := by
  have first : before = [] := by
    rw [List.eq_nil_iff_forall_not_mem]
    intro a member
    have bound := ahead a member
    cases a <;> exact absurd bound (by simp [InFlight.stage])
  subst first
  simp only [List.nil_append] at h ⊢
  have inHistory : r ∈ v.computed := by
    rw [h.computed]
    simp [InFlight.computation?]
  have point : ∃ point, r.result.scores.head? = some point := by
    rw [(h.sound r inHistory).2]
    exact ⟨_, forecastOf_head gate r.window r.now⟩
  obtain ⟨point, head⟩ := point
  have same : (published ++ [r]).map InFlight.publishing ++ after =
      published.map InFlight.publishing ++ .publishing r :: after := by simp
  refine
    { h with
      ordered := (List.pairwise_cons.mp h.ordered).2
      computed := ?_, lastKnown := ?_, stored := ?_, score := ?_, byGate := ?_, gates := ?_
      points := ?_, fresh := ?_, unused := ?_ }
  · rw [h.computed]
    simp [InFlight.computation?]
  · rw [h.lastKnown]
    simp [InFlight.publishing?]
  · simp
  · simp [head]
  · simp
  · exact fun g read member => h.gates g read (List.mem_cons_of_mem _ member)
  · exact fun r' point' member => h.points r' point' (List.mem_cons_of_mem _ member)
  · rw [same]
    exact h.fresh
  · rw [same]
    exact h.unused

/-- Every move of the line keeps the invariant. -/
theorem step {v' : ForecastView} {line' : List InFlight}
    (h : ∃ published, LineInv gate v line published) (move : LineStep gate v line v' line') :
    ∃ published, LineInv gate v' line' published := by
  obtain ⟨published, inv⟩ := h
  cases move with
  | idle => exact ⟨published, inv⟩
  | advance _ ms => exact ⟨published, inv.advance ms⟩
  | deliver _ event => exact ⟨published, inv.deliver event⟩
  | tick => exact ⟨published, inv.startOn inv.complete⟩
  | compute before after g window ahead => exact ⟨published, inv.compute ahead⟩
  | save before after computation point ahead => exact ⟨published, inv.save ahead⟩
  | publish before after computation ahead => exact ⟨_, inv.publish ahead⟩

end LineInv

namespace Pipeline

variable (deps : PipelineDependencies) {gateId : GateId}

/-- The computations made for a gate, oldest first. -/
def computedFor (s : PipelineState) (gateId : GateId) : List Computation :=
  s.forecasts.computed.filter fun computation => computation.gate.gateId = gateId

/-- The forecast store, the gate-score source, Redis and `forecastsByGate`
all hold the computation with the latest clock reading, and it counted every
event delivered for the gate. -/
structure HoldsNewest (gate : Gate) (s : PipelineState) : Prop where
  newest : ∀ r, (computedFor s gate.gateId).getLast? = some r →
    (∀ r' ∈ computedFor s gate.gateId, r'.now ≤ r.now) ∧
    s.forecasts.forecastStore.get? gate.gateId = some r.result.scores ∧
    s.forecasts.gateScoreSource.get? gate.gateId = r.result.scores.head? ∧
    s.redis.getLastKnownScore gate.gateId = r.result.scores.head? ∧
    s.forecasts.forecastsByGate.get? gate.gateId = some r.result ∧
    r.window = s.intake.getWindowForGate gate.gateId ∧
    r.result = forecastOf gate (s.intake.history gate.gateId) r.now
  silent : computedFor s gate.gateId = [] → s.intake.history gate.gateId = []

/-- With no recompute in flight, the line says where everything comes from. -/
theorem holdsNewest_of_line {gate : Gate} {s : PipelineState} {published : List Computation}
    (h : LineInv gate (forecastView gate.gateId s) [] published) : HoldsNewest gate s := by
  have all : computedFor s gate.gateId = published := by
    have listed := h.computed
    rw [List.filterMap_nil, List.append_nil] at listed
    exact listed
  refine ⟨fun r last => ?_, fun none => ?_⟩
  · rw [all] at last
    have fresh : r.window = s.intake.getWindowForGate gate.gateId ∧
        nonStaleRecent r.window r.now = nonStaleRecent (s.intake.history gate.gateId) r.now := by
      refine h.fresh (.publishing r) ?_
      rw [List.append_nil, List.getLast?_map, last]
      rfl
    have member : r ∈ computedFor s gate.gateId := by
      rw [all]
      exact List.mem_of_getLast? last
    refine ⟨?_, ?_, ?_, ?_, ?_, fresh.1, ?_⟩
    · intro r' other
      have sorted : (computedFor s gate.gateId).Pairwise (fun r r' => r.now ≤ r'.now) := h.times
      rw [all] at other sorted
      obtain ⟨earlier, rfl⟩ := List.getLast?_eq_some_iff.mp last
      rcases List.mem_append.mp other with before | same
      · exact (List.pairwise_append.mp sorted).2.2 r' before r (List.mem_singleton_self r)
      · rw [List.mem_singleton.mp same]
    · exact h.stored.trans (by rw [last, Option.map_some])
    · exact h.score.trans (by rw [last, Option.bind_some])
    · exact h.lastKnown.trans (by
        rw [List.filterMap_nil, List.append_nil, last, Option.bind_some])
    · exact h.byGate.trans (by rw [last, Option.map_some])
    · rw [(h.sound r member).2]
      exact forecastOf_congr fresh.2
  · refine h.unused ?_
    rw [← all, none]
    rfl

/-- The line invariant after a schedule that keeps the order. -/
theorem lineInv_after {gate : Gate} {startedAt : ℤ} {schedule : Schedule}
    (configured : deps.gatesById.get? gate.gateId = some gate)
    (inOrder : (system deps).Guarded (RecomputesInOrder gate.gateId) ⟨.wired startedAt, []⟩
      schedule) :
    ∃ published, LineInv gate (forecastView gate.gateId (after deps startedAt schedule).shared)
      (recomputeLine gate.gateId (after deps startedAt schedule).suspended) published := by
  have seen : SeenFrom gate.gateId (fun v line => ∃ published, LineInv gate v line published)
      (after deps startedAt schedule) :=
    line_invariant deps configured ⟨[], .start startedAt gate.gateId⟩ LineInv.step inOrder
  exact seen

/-- **The newest forecast wins** whenever the recomputes of the gate pass each
stage in the order in which they were started: once none is in flight, all
four places hold the latest computation. -/
theorem newest_forecast_wins {gate : Gate} (startedAt : ℤ) (schedule : Schedule)
    (configured : deps.gatesById.get? gate.gateId = some gate)
    (inOrder : (system deps).Guarded (RecomputesInOrder gate.gateId) ⟨.wired startedAt, []⟩
      schedule)
    (quiet : recomputeLine gate.gateId (after deps startedAt schedule).suspended = []) :
    HoldsNewest gate (after deps startedAt schedule).shared := by
  obtain ⟨published, inv⟩ := lineInv_after deps configured inOrder
  rw [quiet] at inv
  exact holdsNewest_of_line inv

/-- The task started first is behind nothing. -/
theorem recomputesInOrder_resume_zero (c : Config PipelineState PipelineTask) :
    RecomputesInOrder gateId c (.resume 0) := by
  intro task inFlight _ _ earlier member
  rw [List.take_zero, recomputeLine_nil] at member
  exact absurd member List.not_mem_nil

/-- One reading of gate A, from its delivery to the publication. -/
theorem newest_forecast_wins_demo :
    HoldsNewest demoGateA (after demoDependencies 0
      [.stimulus (.signalEvent (demoReading "first" 50 "1970-01-01T00:00:00.000Z")),
        .resume 0, .resume 0, .resume 0]).shared :=
  newest_forecast_wins demoDependencies 0 _ (by decide +kernel)
    ⟨trivial, recomputesInOrder_resume_zero _, recomputesInOrder_resume_zero _,
      recomputesInOrder_resume_zero _, trivial⟩
    (List.isEmpty_iff.mp (by decide +kernel))

/-- Two recomputes of gate A, a millisecond apart. The second overtakes the
first while both wait for Redis. -/
def overtaking : Schedule :=
  [.stimulus (.signalEvent (demoReading "first" 50 "1970-01-01T00:00:00.000Z")),
    .resume 0,
    .stimulus (.advance 1),
    .stimulus (.signalEvent (demoReading "second" 400 "1970-01-01T00:00:00.001Z")),
    .resume 1,
    -- Redis answers the second recompute, which publishes
    .resume 1, .resume 1,
    -- and then the first
    .resume 0, .resume 0]

/-- With both recomputes completed, the older forecast is the one stored. -/
theorem older_forecast_overwrites_newer :
    recomputeLine "gate-a" (after demoDependencies 0 overtaking).suspended = [] ∧
      ¬ HoldsNewest demoGateA (after demoDependencies 0 overtaking).shared := by
  refine ⟨List.isEmpty_iff.mp (by decide +kernel), fun holds => ?_⟩
  have stored : ∀ r, (computedFor (after demoDependencies 0 overtaking).shared
      "gate-a").getLast? = some r →
      (after demoDependencies 0 overtaking).shared.forecasts.forecastStore.get? "gate-a" =
        some r.result.scores := fun r last => (holds.newest r last).2.1
  have differ : (after demoDependencies 0 overtaking).shared.forecasts.forecastStore.get? "gate-a" ≠
      (computedFor (after demoDependencies 0 overtaking).shared "gate-a").getLast?.map
        (·.result.scores) := by
    decide +kernel
  cases last : (computedFor (after demoDependencies 0 overtaking).shared "gate-a").getLast? with
  | none =>
      have made : (computedFor (after demoDependencies 0 overtaking).shared
        "gate-a").getLast?.isSome = true := by decide +kernel
      rw [last] at made
      cases made
  | some r =>
      rw [last] at differ
      exact differ (stored r last)

end Pipeline

end Stadium
