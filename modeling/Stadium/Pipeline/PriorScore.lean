import Stadium.Pipeline.NewestForecast

/-!
# What a gap in the signals leaves of a gate's score

The forecast core leaves it to the fallback wrapper to retain the prior score
when no event is eligible any more, but the wrapper stores whatever was
computed: score 0. So, with handlers running one after another, a gap keeps
the prior score exactly when that score was 0 already, that is, when the
events behind it loaded the gate by less than half a percent
(`prior_score_kept_iff`).
-/

namespace Stadium

open Interleaving

/-! ## The score of a load -/

/-- A load below half a percent of the capacity rounds to score 0. -/
theorem scoreAt_baseScore_eq_zero_iff (gate : Gate) {total : ℚ} (nonneg : 0 ≤ total) :
    scoreAt (baseScore gate total) 0 = 0 ↔ 200 * total < max 1 gate.capacityThreshold := by
  obtain ⟨capacity, hcapacity⟩ : ∃ c, c = max 1 gate.capacityThreshold := ⟨_, rfl⟩
  have positive : 0 < capacity := by
    rw [hcapacity]
    exact lt_max_of_lt_left one_pos
  have load : 0 ≤ total / capacity * 100 :=
    mul_nonneg (div_nonneg nonneg positive.le) (by norm_num)
  have base : baseScore gate total = min 100 (total / capacity * 100) := by
    unfold baseScore clampScore
    rw [← hcapacity]
    exact max_eq_right (le_min (by norm_num) load)
  rw [← hcapacity]
  calc scoreAt (baseScore gate total) 0 = 0
      ↔ ⌊baseScore gate total + 1 / 2⌋ ≤ 0 := by
        show max 0 (min 100 ⌊baseScore gate total * 1 + 1 / 2⌋) = 0 ↔ _
        rw [mul_one]
        omega
    _ ↔ baseScore gate total < 1 / 2 := by
        rw [← Int.lt_add_one_iff, Int.floor_lt]
        norm_num
        constructor <;> intro h <;> linarith
    _ ↔ total / capacity * 100 < 1 / 2 := by
        rw [base, min_lt_iff]
        norm_num
    _ ↔ 200 * total < capacity := by
        rw [div_mul_eq_mul_div, div_lt_iff₀ positive]
        constructor <;> intro h <;> linarith

theorem riskBand_zero : riskBand 0 = .low := rfl

/-- Without eligible events a gate's current point is 0, LOW and flagged. -/
theorem currentPointOf_gap (gate : Gate) {window : List SignalEvent} {now : ℤ}
    (gap : nonStaleRecent window now = []) :
    (currentPointOf gate window now).score = 0 ∧
      (currentPointOf gate window now).riskLevel = .low ∧
      (currentPointOf gate window now).lowConfidence = true := by
  have zero : scoreAt (windowBase gate window now) 0 = 0 := by
    rw [windowBase, gap, scoreAt_baseScore_eq_zero_iff gate (totalIncomingCount_nonneg [])]
    show 200 * (0 : ℚ) < _
    rw [mul_zero]
    exact lt_max_of_lt_left one_pos
  refine ⟨zero, ?_, ?_⟩
  · show riskBand (scoreAt (windowBase gate window now) 0) = .low
    rw [zero, riskBand_zero]
  · show (nonStaleRecent window now).isEmpty = true
    rw [gap]
    rfl

namespace Pipeline

variable (deps : PipelineDependencies)

/-! ## Handlers one after another -/

/-- Signals and ticks arrive only while nothing runs, and scores come from the
recomputes alone; time may pass at any moment. -/
def OneAtATime (c : Config PipelineState PipelineTask) : Choice PipelineStimulus → Prop
  | .stimulus (.advance _) => True
  | .stimulus (.congestionScore _) => False
  | .stimulus _ => c.suspended = []
  | .resume _ => True

theorem onSignalEvent_length (s : PipelineState) (event : SignalEvent) :
    (onSignalEvent deps s event).2.length ≤ 1 := by
  unfold onSignalEvent
  dsimp only
  split <;> simp

theorem stimulate_length (stimulus : PipelineStimulus) (s : PipelineState) :
    (stimulate deps stimulus s).2.length ≤ 1 := by
  cases stimulus with
  | advance ms => exact Nat.zero_le 1
  | handleSignal signal => exact onSignalEvent_length deps s _
  | signalEvent event => exact onSignalEvent_length deps s event
  | tick gateId =>
      show (onTick deps s gateId).2.length ≤ 1
      unfold onTick
      split <;> simp
  | congestionScore message => exact le_refl 1
  | executeAction gateId actionId userId => exact le_refl 1

/-- A task has at most one successor. -/
theorem resume_length (task : PipelineTask) (s : PipelineState) :
    (resume deps task s).continued.toList.length + (resume deps task s).started.length ≤ 1 := by
  cases task with
  | computing gate window =>
      rw [resume_computing]
      exact le_refl 1
  | decidingNudge update fan lastNudgeAt rest generated =>
      show (decideNudge deps update fan lastNudgeAt rest generated s).continued.toList.length +
        (decideNudge deps update fan lastNudgeAt rest generated s).started.length ≤ 1
      unfold decideNudge
      split <;> exact le_refl 1
  | locatingAction gateId actionId userId now actions =>
      show (locateAction gateId actionId userId now actions s).continued.toList.length +
        (locateAction gateId actionId userId now actions s).started.length ≤ 1
      unfold locateAction
      split <;> simp [finish, continueWith]
  | publishingNudges nudges => exact Nat.zero_le 1
  | returningAction updated => exact Nat.zero_le 1
  | _ => exact le_refl 1

/-- Where handlers run one after another, at most one task is suspended, so
recomputes cannot overtake each other. -/
theorem inOrder_of_oneAtATime {gateId : GateId} {c : Config PipelineState PipelineTask}
    {schedule : Schedule} (single : c.suspended.length ≤ 1)
    (serial : (system deps).Guarded OneAtATime c schedule) :
    (system deps).Guarded (RecomputesInOrder gateId) c schedule := by
  induction schedule generalizing c with
  | nil => trivial
  | cons choice rest ih =>
      obtain ⟨now, later⟩ := serial
      obtain ⟨s, tasks⟩ := c
      refine ⟨?_, ih ?_ later⟩
      · cases choice with
        | stimulus stimulus =>
            cases stimulus with
            | congestionScore message => exact absurd now id
            | _ => trivial
        | resume position =>
            intro task inFlight found own earlier before
            have inside := (List.getElem?_eq_some_iff.mp found).1
            have first : position = 0 := by
              have bound : tasks.length ≤ 1 := single
              have inTasks : position < tasks.length := inside
              omega
            subst first
            rw [List.take_zero, recomputeLine_nil] at before
            exact absurd before List.not_mem_nil
      · cases choice with
        | stimulus stimulus =>
            show (tasks ++ (stimulate deps stimulus s).2).length ≤ 1
            rw [List.length_append]
            have started := stimulate_length deps stimulus s
            cases stimulus with
            | advance ms =>
                show tasks.length + 0 ≤ 1
                exact single
            | congestionScore message => exact absurd now id
            | _ =>
                have none : tasks = [] := now
                rw [none, List.length_nil, Nat.zero_add]
                exact started
        | resume position =>
            rcases (system deps).resume_cases ⟨s, tasks⟩ position with unchanged | split
            · rw [unchanged]
              exact single
            · obtain ⟨before, task, after, parts, rfl⟩ := split
              simp only at parts
              subst parts
              rw [TaskSystem.step_resume]
              have successors := resume_length deps task s
              have bound : (before ++ task :: after).length ≤ 1 := single
              rw [List.length_append, List.length_cons] at bound
              show (before ++ (resume deps task s).continued.toList ++ after ++
                (resume deps task s).started).length ≤ 1
              simp only [List.length_append]
              omega

/-! ## The prior score -/

/-- The computation counted at least one event. -/
def countedEvents (r : Computation) : Bool := !(nonStaleRecent r.window r.now).isEmpty

/-- A point carries the score and Risk_Level of another and is flagged. -/
def CarriesPoint (shown prior : CongestionScorePoint) : Prop :=
  shown.score = prior.score ∧ shown.riskLevel = prior.riskLevel ∧ shown.lowConfidence = true

/-- The stored forecast and the last-known score of a gate carry the current
point of a computation. -/
def CarriesScoreOf (s : PipelineState) (gateId : GateId) (q : Computation) : Prop :=
  ∃ prior shown known, q.result.scores.head? = some prior ∧
    (s.forecasts.forecastStore.get? gateId).bind List.head? = some shown ∧
    s.redis.getLastKnownScore gateId = some known ∧
    CarriesPoint shown prior ∧ CarriesPoint known prior

/-- **A gap keeps only a zero score.** Handlers run one after another, the
last computation of the gate counted nothing, and `q` is the last one that
counted something: the gate still carries the score of `q` exactly when the
people counted by `q` are less than half a percent of the gate's capacity. -/
theorem prior_score_kept_iff {gate : Gate} (startedAt : ℤ) (schedule : Schedule)
    (configured : deps.gatesById.get? gate.gateId = some gate)
    (serial : (system deps).Guarded OneAtATime ⟨.wired startedAt, []⟩ schedule)
    (quiet : recomputeLine gate.gateId (after deps startedAt schedule).suspended = [])
    {r q : Computation}
    (last : (computedFor (after deps startedAt schedule).shared gate.gateId).getLast? = some r)
    (gap : countedEvents r = false)
    (prior : ((computedFor (after deps startedAt schedule).shared gate.gateId).filter
      countedEvents).getLast? = some q) :
    CarriesScoreOf (after deps startedAt schedule).shared gate.gateId q ↔
      200 * totalIncomingCount (nonStaleRecent q.window q.now) <
        max 1 gate.capacityThreshold := by
  obtain ⟨published, inv⟩ := lineInv_after deps configured
    (inOrder_of_oneAtATime deps (Nat.zero_le 1) serial)
  rw [quiet] at inv
  obtain ⟨-, stored, -, known, -, -, -⟩ := (holdsNewest_of_line inv).newest r last
  have made : ∀ x ∈ computedFor (after deps startedAt schedule).shared gate.gateId,
      x.result.scores.head? = some (currentPointOf gate x.window x.now) := by
    intro x member
    rw [(inv.sound x member).2, forecastOf_head]
  have rPoint := made r (List.mem_of_getLast? last)
  have qPoint := made q (List.mem_of_mem_filter (List.mem_of_getLast? prior))
  have nothing : nonStaleRecent r.window r.now = [] := by
    unfold countedEvents at gap
    rw [Bool.not_eq_false', List.isEmpty_iff] at gap
    exact gap
  obtain ⟨zero, low, flagged⟩ := currentPointOf_gap gate nothing
  have carried : CarriesPoint (currentPointOf gate r.window r.now)
      (currentPointOf gate q.window q.now) ↔ (currentPointOf gate q.window q.now).score = 0 := by
    unfold CarriesPoint
    rw [zero, low]
    constructor
    · rintro ⟨same, -, -⟩
      exact same.symm
    · intro none
      refine ⟨none.symm, ?_, flagged⟩
      show RiskLevel.low = riskBand (currentPointOf gate q.window q.now).score
      rw [none, riskBand_zero]
  rw [← scoreAt_baseScore_eq_zero_iff gate (totalIncomingCount_nonneg _)]
  refine Iff.trans ?_ carried
  unfold CarriesScoreOf
  rw [stored, known, qPoint, rPoint, Option.bind_some, rPoint]
  constructor
  · rintro ⟨_, _, _, priorEq, shownEq, -, shown, -⟩
    rw [Option.some.injEq] at priorEq shownEq
    rw [priorEq, shownEq]
    exact shown
  · intro shown
    exact ⟨_, _, _, rfl, rfl, rfl, shown, shown⟩

/-- Every task started by one stimulus, run to its end. -/
def runToEnd : Schedule := List.replicate 9 (.resume 0)

/-- A full gate A, whose counter then falls silent for ten minutes. -/
def silence : Schedule :=
  .stimulus (.signalEvent (demoReading "full" 500 "1970-01-01T00:00:00.000Z")) :: runToEnd ++
    .stimulus (.advance 600001) :: .stimulus (.tick "gate-a") :: runToEnd

theorem runToEnd_oneAtATime (c : Config PipelineState PipelineTask) :
    (system deps).Guarded OneAtATime c runToEnd := by
  unfold runToEnd
  generalize 9 = rounds
  induction rounds generalizing c with
  | zero => trivial
  | succ rounds ih => exact ⟨trivial, ih _⟩

theorem silence_oneAtATime :
    (system demoDependencies).Guarded OneAtATime ⟨.wired 0, []⟩ silence := by
  refine (TaskSystem.guarded_append _).mpr ⟨⟨rfl, runToEnd_oneAtATime _ _⟩, trivial, ?_,
    runToEnd_oneAtATime _ _⟩
  exact List.isEmpty_iff.mp (by decide +kernel)

/-- What `silence` leads to: nothing is in flight, the last computation of gate A
counted nothing, the one before it was for the full gate, and score 0 is
stored. -/
theorem silence_run :
    (after demoDependencies 0 silence).suspended.isEmpty = true ∧
      (computedFor (after demoDependencies 0 silence).shared "gate-a").getLast?.map
        countedEvents = some false ∧
      ((computedFor (after demoDependencies 0 silence).shared "gate-a").filter
        countedEvents).getLast?.map (fun q => q.result.scores.head?.map (·.score)) =
          some (some 100) ∧
      ((after demoDependencies 0 silence).shared.forecasts.forecastStore.get? "gate-a").bind
        (fun scores => scores.head?.map (·.score)) = some 0 := by
  decide +kernel

/-- The last computation of gate A after `silence` counted nothing, one before it
counted the reading. -/
theorem silence_computed :
    ∃ r q, (computedFor (after demoDependencies 0 silence).shared "gate-a").getLast? = some r ∧
      countedEvents r = false ∧
      ((computedFor (after demoDependencies 0 silence).shared "gate-a").filter
        countedEvents).getLast? = some q := by
  obtain ⟨-, gap, full, -⟩ := silence_run
  obtain ⟨r, last, counted⟩ := Option.map_eq_some_iff.mp gap
  obtain ⟨q, prior, -⟩ := Option.map_eq_some_iff.mp full
  exact ⟨r, q, last, counted, prior⟩

/-- The full gate of `silence`: 200 times 500 people are not below its
capacity. -/
theorem prior_score_kept_iff_demo :
    ∃ q, (CarriesScoreOf (after demoDependencies 0 silence).shared "gate-a" q ↔
      200 * totalIncomingCount (nonStaleRecent q.window q.now) <
        max 1 demoGateA.capacityThreshold) := by
  obtain ⟨r, q, last, gap, prior⟩ := silence_computed
  have quiet : recomputeLine demoGateA.gateId (after demoDependencies 0 silence).suspended =
      [] := by
    rw [List.isEmpty_iff.mp silence_run.1]
    rfl
  exact ⟨q, prior_score_kept_iff demoDependencies 0 silence gatesById_gateA silence_oneAtATime
    quiet last gap prior⟩

/-- The last computation of gate A after `silence` counted nothing, the one
before it counted the reading, and its score is lost. -/
theorem silence_erases_score :
    ∃ r q, (computedFor (after demoDependencies 0 silence).shared "gate-a").getLast? = some r ∧
      countedEvents r = false ∧
      ((computedFor (after demoDependencies 0 silence).shared "gate-a").filter
        countedEvents).getLast? = some q ∧
      (after demoDependencies 0 silence).suspended.isEmpty ∧
      ¬ CarriesScoreOf (after demoDependencies 0 silence).shared "gate-a" q := by
  obtain ⟨r, q, last, gap, prior⟩ := silence_computed
  obtain ⟨idle, -, full, shown⟩ := silence_run
  rw [prior, Option.map_some, Option.some.injEq] at full
  refine ⟨r, q, last, gap, prior, idle, ?_⟩
  rintro ⟨point, current, -, priorPoint, currentPoint, -, ⟨same, -, -⟩, -⟩
  rw [priorPoint, Option.map_some, Option.some.injEq] at full
  obtain ⟨scores, stored, head⟩ := Option.bind_eq_some_iff.mp currentPoint
  rw [stored, Option.bind_some, head, Option.map_some, Option.some.injEq] at shown
  omega

end Pipeline

end Stadium
