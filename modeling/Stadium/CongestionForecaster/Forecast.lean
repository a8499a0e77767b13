import Stadium.Types.Models
import Stadium.Lib.IsoDate

/-!
# The forecaster's pure core

`risk-level.ts` and `forecast.ts`. `deriveRiskLevel` rejects a score outside
0..100, so both functions live in `Except`; `computeForecast_ok` shows that
the forecast never raises that error and gives its closed form.

Arithmetic is exact: the score of a window is a rational until `Math.round`
makes it an integer.
-/

namespace Stadium

/-- Risk_Level of a Congestion_Score: Low 0-39, Moderate 40-69, High 70-89,
Critical 90-100. -/
def deriveRiskLevel (score : ℤ) : Except String RiskLevel :=
  if score < 0 ∨ 100 < score then .error s!"Congestion_Score out of bounds: {score}"
  else if score ≤ 39 then .ok .low
  else if score ≤ 69 then .ok .moderate
  else if score ≤ 89 then .ok .high
  else .ok .critical

/-- The band a score falls into. -/
def riskBand (score : ℤ) : RiskLevel :=
  if score ≤ 39 then .low
  else if score ≤ 69 then .moderate
  else if score ≤ 89 then .high
  else .critical

theorem deriveRiskLevel_ok {score : ℤ} (low : 0 ≤ score) (high : score ≤ 100) :
    deriveRiskLevel score = .ok (riskBand score) := by
  unfold deriveRiskLevel riskBand
  rw [if_neg (by omega)]
  split_ifs <;> rfl

/-- The offsets of the Forecast_Horizon, in minutes. -/
def forecastOffsetsMinutes : List ℕ := [0, 5, 10, 15]

def offsetGrowthFactor (offsetMinutes : ℕ) : ℚ :=
  match offsetMinutes with
  | 0 => 1
  | 5 => 105 / 100
  | 10 => 11 / 10
  | 15 => 115 / 100
  | _ => 1

/-- Ten minutes, in milliseconds. -/
def recentWindowMs : ℤ := 10 * 60 * 1000

/-- `Math.max(0, Math.min(100, value))`. -/
def clampScore {α : Type*} [LinearOrder α] [Zero α] [OfNat α 100] (value : α) : α :=
  max 0 (min 100 value)

/-- `Math.round`: halves go up. -/
def mathRound (value : ℚ) : ℤ := ⌊value + 1 / 2⌋

/-- `new Date(event.timestamp).getTime()`; an unreadable time is `none`, and
every comparison with it fails, as with `NaN`. -/
def SignalEvent.time (event : SignalEvent) : Option ℤ := IsoDate.parse event.timestamp

/-- The people one event brings toward the gate. -/
def incomingCountFor (event : SignalEvent) : ℚ :=
  match event.payload with
  | .gateCounter count _ => max 0 count
  | .ticketScan _ => 1
  | .transitArrival estimatedPassengerCount _ _ _ => max 0 estimatedPassengerCount

theorem incomingCountFor_nonneg (event : SignalEvent) : 0 ≤ incomingCountFor event := by
  unfold incomingCountFor
  split
  · exact le_max_left _ _
  · exact zero_le_one
  · exact le_max_left _ _

/-- Neither stale nor older than the lookback. -/
def SignalEvent.eligible (event : SignalEvent) (now : ℤ) : Bool :=
  !event.isStale && event.time.any fun time => decide (now - time ≤ recentWindowMs)

theorem SignalEvent.eligible_iff {event : SignalEvent} {now : ℤ} :
    event.eligible now = true ↔
      event.isStale = false ∧ ∃ time, event.time = some time ∧ now - time ≤ recentWindowMs := by
  unfold SignalEvent.eligible
  simp [Option.any_eq_true]

/-- The events of a window that count at `now`. -/
def nonStaleRecent (window : List SignalEvent) (now : ℤ) : List SignalEvent :=
  window.filter fun event => event.eligible now

/-- The people all the given events bring. -/
def totalIncomingCount (events : List SignalEvent) : ℚ :=
  events.foldl (fun sum event => sum + incomingCountFor event) 0

/-- The load of a gate in percent of its capacity, clamped to 0..100. -/
def baseScore (gate : Gate) (totalIncoming : ℚ) : ℚ :=
  clampScore (totalIncoming / max 1 gate.capacityThreshold * 100)

/-- The score a base score grows to at an offset. -/
def scoreAt (base : ℚ) (offsetMinutes : ℕ) : ℤ :=
  clampScore (mathRound (base * offsetGrowthFactor offsetMinutes))

/-- One point of the series. -/
def forecastPoint (gate : Gate) (now : ℤ) (base : ℚ) (lowConfidence : Bool)
    (offsetMinutes : ℕ) : Except String CongestionScorePoint := do
  let score := scoreAt base offsetMinutes
  let riskLevel ← deriveRiskLevel score
  return {
    gateId := gate.gateId
    forecastTime := IsoDate.toISOString (now + offsetMinutes * 60 * 1000)
    offsetMinutes
    score
    riskLevel
    lowConfidence
    outdated := false }

/-- The forecast of a gate from a window of its events. -/
def computeForecast (gate : Gate) (window : List SignalEvent) (now : ℤ) :
    Except String ForecastResult := do
  let events := nonStaleRecent window now
  let lowConfidence := events.isEmpty
  let base := baseScore gate (totalIncomingCount events)
  let scores ← forecastOffsetsMinutes.mapM (forecastPoint gate now base lowConfidence)
  return { scores, lowConfidence }

/-! ## The closed form -/

/-- Every score of a series lies in 0..100. -/
theorem scoreAt_bounds (base : ℚ) (offsetMinutes : ℕ) :
    0 ≤ scoreAt base offsetMinutes ∧ scoreAt base offsetMinutes ≤ 100 :=
  ⟨le_max_left _ _, max_le (by decide) (min_le_left _ _)⟩

/-- The point `forecastPoint` returns. -/
def pointAt (gate : Gate) (now : ℤ) (base : ℚ) (lowConfidence : Bool) (offsetMinutes : ℕ) :
    CongestionScorePoint :=
  { gateId := gate.gateId
    forecastTime := IsoDate.toISOString (now + offsetMinutes * 60 * 1000)
    offsetMinutes
    score := scoreAt base offsetMinutes
    riskLevel := riskBand (scoreAt base offsetMinutes)
    lowConfidence
    outdated := false }

theorem forecastPoint_ok (gate : Gate) (now : ℤ) (base : ℚ) (lowConfidence : Bool)
    (offsetMinutes : ℕ) :
    forecastPoint gate now base lowConfidence offsetMinutes =
      .ok (pointAt gate now base lowConfidence offsetMinutes) := by
  obtain ⟨low, high⟩ := scoreAt_bounds base offsetMinutes
  simp only [forecastPoint, deriveRiskLevel_ok low high]
  rfl

/-- The base score of a gate whose counted events are those eligible in
`window` at `now`. -/
def windowBase (gate : Gate) (window : List SignalEvent) (now : ℤ) : ℚ :=
  baseScore gate (totalIncomingCount (nonStaleRecent window now))

/-- The result of `computeForecast`. -/
def forecastOf (gate : Gate) (window : List SignalEvent) (now : ℤ) : ForecastResult :=
  { scores := forecastOffsetsMinutes.map
      (pointAt gate now (windowBase gate window now) (nonStaleRecent window now).isEmpty)
    lowConfidence := (nonStaleRecent window now).isEmpty }

/-- **The forecast never fails**: every score handed to `deriveRiskLevel` is
in range. -/
theorem computeForecast_ok (gate : Gate) (window : List SignalEvent) (now : ℤ) :
    computeForecast gate window now = .ok (forecastOf gate window now) := by
  simp only [computeForecast, forecastOffsetsMinutes, List.mapM_cons, List.mapM_nil,
    forecastPoint_ok]
  rfl

/-- The current point of a forecast. -/
def currentPointOf (gate : Gate) (window : List SignalEvent) (now : ℤ) : CongestionScorePoint :=
  pointAt gate now (windowBase gate window now) (nonStaleRecent window now).isEmpty 0

@[simp] theorem forecastOf_head (gate : Gate) (window : List SignalEvent) (now : ℤ) :
    (forecastOf gate window now).scores.head? = some (currentPointOf gate window now) := rfl

/-- A forecast sees its window only through the eligible events. -/
theorem forecastOf_congr {gate : Gate} {window window' : List SignalEvent} {now : ℤ}
    (h : nonStaleRecent window now = nonStaleRecent window' now) :
    forecastOf gate window now = forecastOf gate window' now := by
  simp only [forecastOf, windowBase, h]

theorem totalIncomingCount_eq_sum (events : List SignalEvent) :
    totalIncomingCount events = (events.map incomingCountFor).sum := by
  rw [totalIncomingCount, List.sum_eq_foldl, List.foldl_map]

theorem totalIncomingCount_nonneg (events : List SignalEvent) : 0 ≤ totalIncomingCount events := by
  rw [totalIncomingCount_eq_sum]
  apply List.sum_nonneg
  intro count listed
  obtain ⟨event, -, rfl⟩ := List.mem_map.mp listed
  exact incomingCountFor_nonneg event

/-- The total does not depend on the order of the events. -/
theorem totalIncomingCount_perm {events events' : List SignalEvent} (h : events.Perm events') :
    totalIncomingCount events = totalIncomingCount events' := by
  rw [totalIncomingCount_eq_sum, totalIncomingCount_eq_sum]
  exact (h.map incomingCountFor).sum_eq

/-- A forecast does not depend on the order of the events in its window. -/
theorem forecastOf_perm {gate : Gate} {window window' : List SignalEvent} {now : ℤ}
    (h : (nonStaleRecent window now).Perm (nonStaleRecent window' now)) :
    forecastOf gate window now = forecastOf gate window' now := by
  have empty : (nonStaleRecent window now).isEmpty = (nonStaleRecent window' now).isEmpty := by
    rw [Bool.eq_iff_iff, List.isEmpty_iff, List.isEmpty_iff]
    constructor
    · intro nil
      rw [nil] at h
      exact h.nil_eq.symm
    · intro nil
      rw [nil] at h
      exact h.eq_nil
  simp only [forecastOf, windowBase, totalIncomingCount_perm h, empty]

end Stadium
