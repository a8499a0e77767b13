import Stadium.CongestionForecaster.Forecast
import Stadium.Lib.FirstLeast
import Stadium.Lib.OrderedMap

/-!
# Choosing an alternative gate

`risk-comparison.ts`. A gate without a forecast counts as LOW with score 0.
String comparison (`localeCompare`) depends on the locale of the process and
is a parameter.
-/

namespace Stadium

def riskOrderOf : RiskLevel → ℕ
  | .low => 0
  | .moderate => 1
  | .high => 2
  | .critical => 3

/-- `HIGH_OR_CRITICAL.has(riskLevel)`. -/
def RiskLevel.highOrCritical (riskLevel : RiskLevel) : Bool :=
  riskLevel == .high || riskLevel == .critical

/-- The text of a level, as messages quote it. -/
def RiskLevel.text : RiskLevel → String
  | .low => "LOW"
  | .moderate => "MODERATE"
  | .high => "HIGH"
  | .critical => "CRITICAL"

/-- `result.scores[0]?.riskLevel ?? "LOW"`. -/
def ForecastResult.currentRiskLevel (result : ForecastResult) : RiskLevel :=
  (result.scores.head?.map (·.riskLevel)).getD .low

def currentRiskLevel (forecast : Option ForecastResult) : RiskLevel :=
  (forecast.map (·.currentRiskLevel)).getD .low

def currentScore (forecast : Option ForecastResult) : ℤ :=
  (forecast.bind fun result => result.scores.head?.map (·.score)).getD 0

structure AlternativeCandidate where
  gateId : GateId
  riskOrder : ℕ
  score : ℤ

section

variable (localeCompare : String → String → Ordering)

/-- The comparator handed to `candidates.sort`. -/
def compareCandidates (a b : AlternativeCandidate) : Ordering :=
  (compare a.riskOrder b.riskOrder).then
    ((compare a.score b.score).then (localeCompare a.gateId b.gateId))

/-- The gates other than the origin with a strictly lower Risk_Level. -/
def alternativeCandidates (originGateId : GateId) (originRiskLevel : RiskLevel)
    (forecastsByGate : OrderedMap GateId ForecastResult) : List AlternativeCandidate :=
  forecastsByGate.entries.filterMap fun (gateId, forecast) =>
    if gateId = originGateId then none
    else if riskOrderOf (currentRiskLevel (some forecast)) < riskOrderOf originRiskLevel then
      some {
        gateId
        riskOrder := riskOrderOf (currentRiskLevel (some forecast))
        score := currentScore (some forecast) }
    else none

def pickAlternativeGate (originGateId : GateId) (originRiskLevel : RiskLevel)
    (forecastsByGate : OrderedMap GateId ForecastResult) : Option GateId :=
  let candidates := alternativeCandidates originGateId originRiskLevel forecastsByGate
  let sorted := candidates.insertionSort fun a b => compareCandidates localeCompare a b ≠ .gt
  sorted.head?.map (·.gateId)

end

/-! ## What is picked -/

/-- Some other gate with a forecast of strictly lower current Risk_Level. -/
def LowerRiskGate (originGateId : GateId) (originRiskLevel : RiskLevel)
    (forecastsByGate : OrderedMap GateId ForecastResult) (gateId : GateId) : Prop :=
  gateId ≠ originGateId ∧ ∃ forecast, forecastsByGate.get? gateId = some forecast ∧
    riskOrderOf (currentRiskLevel (some forecast)) < riskOrderOf originRiskLevel

section

variable {originGateId : GateId} {originRiskLevel : RiskLevel}
  {forecastsByGate : OrderedMap GateId ForecastResult}

/-- The candidates are the gates of lower risk. -/
theorem exists_candidate_iff {gateId : GateId} :
    (∃ candidate ∈ alternativeCandidates originGateId originRiskLevel forecastsByGate,
      candidate.gateId = gateId) ↔
      LowerRiskGate originGateId originRiskLevel forecastsByGate gateId := by
  unfold alternativeCandidates LowerRiskGate
  constructor
  · rintro ⟨candidate, listed, rfl⟩
    obtain ⟨⟨key, forecast⟩, entry, kept⟩ := List.mem_filterMap.mp listed
    simp only at kept
    split_ifs at kept with origin lower
    obtain rfl := Option.some.inj kept
    exact ⟨origin, forecast, OrderedMap.mem_entries.mp entry, lower⟩
  · rintro ⟨other, forecast, found, lower⟩
    refine ⟨⟨gateId, riskOrderOf (currentRiskLevel (some forecast)),
      currentScore (some forecast)⟩, ?_, rfl⟩
    refine List.mem_filterMap.mpr ⟨(gateId, forecast), OrderedMap.mem_entries.mpr found, ?_⟩
    simp [other, lower]

variable {localeCompare : String → String → Ordering}

/-- Whatever is picked is a gate of lower risk. -/
theorem lowerRiskGate_of_pick {gateId : GateId}
    (picked : pickAlternativeGate localeCompare originGateId originRiskLevel forecastsByGate =
      some gateId) : LowerRiskGate originGateId originRiskLevel forecastsByGate gateId := by
  unfold pickAlternativeGate at picked
  obtain ⟨candidate, first, named⟩ := Option.map_eq_some_iff.mp picked
  have listed := (List.mem_insertionSort _).mp (List.mem_of_head? first)
  exact exists_candidate_iff.mp ⟨candidate, listed, named⟩

/-- What is picked has a forecast, so it is no empty id. -/
theorem pick_ne_empty {gateId : GateId} (named : forecastsByGate.get? "" = none)
    (picked : pickAlternativeGate localeCompare originGateId originRiskLevel forecastsByGate =
      some gateId) : gateId ≠ "" := by
  rintro rfl
  obtain ⟨-, forecast, found, -⟩ := lowerRiskGate_of_pick picked
  rw [named] at found
  cases found

variable (localeCompare) in
/-- Some gate is picked if there is one of lower risk. -/
theorem pick_isSome_of_lowerRiskGate {gateId : GateId}
    (lower : LowerRiskGate originGateId originRiskLevel forecastsByGate gateId) :
    (pickAlternativeGate localeCompare originGateId originRiskLevel forecastsByGate).isSome := by
  obtain ⟨candidate, listed, -⟩ := exists_candidate_iff.mpr lower
  unfold pickAlternativeGate
  simp only [Option.isSome_map, List.isSome_head?]
  intro empty
  have sorted := (List.mem_insertionSort fun a b => compareCandidates localeCompare a b ≠ .gt).mpr
    listed
  rw [empty] at sorted
  exact absurd sorted List.not_mem_nil

/-- What the comparator looks at first: the Risk_Level, then the score. -/
def AlternativeCandidate.load (candidate : AlternativeCandidate) : ℕ ×ₗ ℤ :=
  toLex (candidate.riskOrder, candidate.score)

/-- The comparator looks at the loads and, at equal loads, at the ids. -/
theorem compareCandidates_ne_gt {a b : AlternativeCandidate} :
    compareCandidates localeCompare a b ≠ .gt ↔
      a.load < b.load ∨ a.load = b.load ∧ localeCompare a.gateId b.gateId ≠ .gt := by
  unfold compareCandidates AlternativeCandidate.load
  simp only [Prod.Lex.toLex_lt_toLex, toLex_inj, Prod.mk.injEq]
  rcases lt_trichotomy a.riskOrder b.riskOrder with less | level | more
  · rw [compare_lt_iff_lt.mpr less]
    simp [less]
  · rw [compare_eq_iff_eq.mpr level]
    rcases lt_trichotomy a.score b.score with less | same | more
    · rw [compare_lt_iff_lt.mpr less]
      simp [level, less]
    · rw [compare_eq_iff_eq.mpr same]
      simp [level, same]
    · rw [compare_gt_iff_gt.mpr more]
      simp [level, more.le, more.ne']
  · rw [compare_gt_iff_gt.mpr more]
    simp [more.ne', more.not_gt]

variable (localeCompare) in
theorem load_le_of_compare (a b : AlternativeCandidate) :
    (compareCandidates localeCompare a b ≠ .gt → a.load ≤ b.load) ∧
      (¬ compareCandidates localeCompare a b ≠ .gt → b.load ≤ a.load) := by
  rw [compareCandidates_ne_gt]
  constructor
  · rintro (less | ⟨same, -⟩)
    · exact less.le
    · exact same.le
  · intro behind
    rw [not_or] at behind
    exact not_lt.mp behind.1

/-- The current Risk_Level and score of a forecast. -/
def ForecastResult.load (forecast : ForecastResult) : ℕ ×ₗ ℤ :=
  toLex (riskOrderOf forecast.currentRiskLevel, currentScore (some forecast))

/-- **The pick has the least load.** No other gate has a lower Risk_Level, nor the
same with a lower score. -/
theorem load_le_of_pick {gateId : GateId}
    (picked : pickAlternativeGate localeCompare originGateId originRiskLevel forecastsByGate =
      some gateId) :
    ∃ forecast, forecastsByGate.get? gateId = some forecast ∧
      ∀ other forecast', other ≠ originGateId → forecastsByGate.get? other = some forecast' →
        forecast.load ≤ forecast'.load := by
  unfold pickAlternativeGate at picked
  obtain ⟨candidate, first, rfl⟩ := Option.map_eq_some_iff.mp picked
  have listed := (List.mem_insertionSort _).mp (List.mem_of_head? first)
  obtain ⟨⟨key, forecast⟩, entry, kept⟩ := List.mem_filterMap.mp listed
  simp only at kept
  split_ifs at kept with origin lower
  obtain rfl := Option.some.inj kept
  refine ⟨forecast, OrderedMap.mem_entries.mp entry, ?_⟩
  intro other forecast' elsewhere found
  by_cases lower' : riskOrderOf (currentRiskLevel (some forecast')) < riskOrderOf originRiskLevel
  · have candidate' : ⟨other, riskOrderOf (currentRiskLevel (some forecast')),
        currentScore (some forecast')⟩ ∈
          alternativeCandidates originGateId originRiskLevel forecastsByGate := by
      refine List.mem_filterMap.mpr ⟨(other, forecast'), OrderedMap.mem_entries.mpr found, ?_⟩
      simp [elsewhere, lower']
    have least := FirstLeast.key_le_of_head? (fun a b => (load_le_of_compare localeCompare a b).1)
      (fun a b => (load_le_of_compare localeCompare a b).2) first
    exact least _ candidate'
  · -- a gate that is no candidate has a higher level than any candidate
    exact Prod.Lex.toLex_le_toLex.mpr (.inl (lower.trans_le (not_lt.mp lower')))

instance [Std.TransCmp localeCompare] : Std.TransCmp (compareCandidates localeCompare) := by
  have byId : Std.TransCmp fun a b : AlternativeCandidate => localeCompare a.gateId b.gateId :=
    { eq_swap := Std.OrientedCmp.eq_swap, isLE_trans := Std.TransCmp.isLE_trans }
  exact inferInstanceAs (Std.TransCmp (compareLex
    (compareOn fun a : AlternativeCandidate => a.riskOrder)
    (compareLex (compareOn fun a => a.score) fun a b => localeCompare a.gateId b.gateId)))

/-- A candidate is the best one: the first that the comparator puts behind no
other. -/
def BestCandidate (localeCompare : String → String → Ordering) (originGateId : GateId)
    (originRiskLevel : RiskLevel) (forecastsByGate : OrderedMap GateId ForecastResult)
    (candidate : AlternativeCandidate) : Prop :=
  FirstLeast.IsFirstLeast (fun a b => compareCandidates localeCompare a b ≠ .gt) candidate
    (alternativeCandidates originGateId originRiskLevel forecastsByGate)

/-- **The pick is the best candidate.** -/
theorem pickAlternativeGate_eq_some [Std.TransCmp localeCompare] {gateId : GateId} :
    pickAlternativeGate localeCompare originGateId originRiskLevel forecastsByGate =
        some gateId ↔
      ∃ candidate, BestCandidate localeCompare originGateId originRiskLevel forecastsByGate
        candidate ∧ candidate.gateId = gateId := by
  unfold pickAlternativeGate BestCandidate
  rw [Option.map_eq_some_iff]
  simp only [FirstLeast.head?_insertionSort]

end

end Stadium
