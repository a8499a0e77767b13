import Stadium.CongestionForecaster.Monotonicity

/-!
# The forecast follows the load

Only the total that the eligible events bring and the capacity threshold enter
a forecast. More people, or less capacity, never lower a score or a
Risk_Level, and along one series neither falls: the growth factors ascend with
the offset and no base score is negative. Thresholds below 1 count as 1, so
zero and negative ones are ordered with the rest.
-/

namespace Stadium

/-! ## The base score -/

/-- More people before a gate of no more capacity are a larger base score. -/
theorem baseScore_mono {gate gate' : Gate} {total total' : ℚ}
    (capacity : gate'.capacityThreshold ≤ gate.capacityThreshold) (nonneg : 0 ≤ total)
    (more : total ≤ total') : baseScore gate total ≤ baseScore gate' total' := by
  have positive : 0 < max 1 gate'.capacityThreshold := lt_max_of_lt_left one_pos
  have divisor : max 1 gate'.capacityThreshold ≤ max 1 gate.capacityThreshold :=
    max_le_max le_rfl capacity
  have load : total / max 1 gate.capacityThreshold ≤ total' / max 1 gate'.capacityThreshold :=
    div_le_div₀ (nonneg.trans more) more positive divisor
  apply clampScore_mono
  exact mul_le_mul_of_nonneg_right load (by norm_num)

theorem windowBase_nonneg (gate : Gate) (window : List SignalEvent) (now : ℤ) :
    0 ≤ windowBase gate window now :=
  le_max_left _ _

/-! ## One series -/

theorem offsetGrowthFactor_ascending :
    forecastOffsetsMinutes.Pairwise fun a b => offsetGrowthFactor a ≤ offsetGrowthFactor b := by
  simp only [forecastOffsetsMinutes, offsetGrowthFactor]
  norm_num

theorem scoreAt_mono_factor {base : ℚ} (nonneg : 0 ≤ base) {offset offset' : ℕ}
    (later : offsetGrowthFactor offset ≤ offsetGrowthFactor offset') :
    scoreAt base offset ≤ scoreAt base offset' := by
  apply clampScore_mono
  apply mathRound_mono
  exact mul_le_mul_of_nonneg_left later nonneg

/-- Neither scores nor Risk_Levels fall along the series. -/
def ForecastResult.Ascending (forecast : ForecastResult) : Prop :=
  forecast.scores.Pairwise fun a b =>
    a.score ≤ b.score ∧ riskOrderOf a.riskLevel ≤ riskOrderOf b.riskLevel

/-- Every score lies in 0..100, where `deriveRiskLevel` answers, with the level
of the point. -/
def ForecastResult.InRange (forecast : ForecastResult) : Prop :=
  ∀ point ∈ forecast.scores, 0 ≤ point.score ∧ point.score ≤ 100 ∧
    deriveRiskLevel point.score = .ok point.riskLevel

theorem forecastOf_ascending (gate : Gate) (window : List SignalEvent) (now : ℤ) :
    (forecastOf gate window now).Ascending := by
  show (forecastOffsetsMinutes.map _).Pairwise _
  apply List.pairwise_map.mpr
  apply offsetGrowthFactor_ascending.imp
  intro offset offset' later
  have score := scoreAt_mono_factor (windowBase_nonneg gate window now) later
  exact ⟨score, riskBand_mono score⟩

theorem forecastOf_inRange (gate : Gate) (window : List SignalEvent) (now : ℤ) :
    (forecastOf gate window now).InRange := by
  intro point listed
  obtain ⟨offset, -, rfl⟩ := List.mem_map.mp listed
  obtain ⟨low, high⟩ := scoreAt_bounds (windowBase gate window now) offset
  exact ⟨low, high, deriveRiskLevel_ok low high⟩

theorem forecastOf_offsets (gate : Gate) (window : List SignalEvent) (now : ℤ) :
    (forecastOf gate window now).scores.map (·.offsetMinutes) = forecastOffsetsMinutes := by
  show (forecastOffsetsMinutes.map _).map _ = _
  rw [List.map_map]
  exact List.map_id forecastOffsetsMinutes

/-! ## Two series -/

theorem noWorseThan_of_load {gate gate' : Gate} {window window' : List SignalEvent} {now now' : ℤ}
    (capacity : gate'.capacityThreshold ≤ gate.capacityThreshold)
    (load : totalIncomingCount (nonStaleRecent window now) ≤
      totalIncomingCount (nonStaleRecent window' now')) :
    (forecastOf gate window now).NoWorseThan (forecastOf gate' window' now') := by
  have base := baseScore_mono capacity (totalIncomingCount_nonneg _) load
  exact noWorseThan_of_base base

/-- **The forecast is bounded and follows the load.** It is always computed, one
point per offset, with every score in range and a series that never falls; and
of two gates the one of no less capacity and no more people before it is nowhere
above the other, whenever either was computed. -/
theorem computeForecast_bounded_mono (gate gate' : Gate) (window window' : List SignalEvent)
    (now now' : ℤ) (capacity : gate'.capacityThreshold ≤ gate.capacityThreshold)
    (load : totalIncomingCount (nonStaleRecent window now) ≤
      totalIncomingCount (nonStaleRecent window' now')) :
    ∃ forecast forecast', computeForecast gate window now = .ok forecast ∧
      computeForecast gate' window' now' = .ok forecast' ∧ forecast.NoWorseThan forecast' ∧
      ∀ result ∈ [forecast, forecast'],
        result.scores.map (·.offsetMinutes) = forecastOffsetsMinutes ∧
          result.Ascending ∧ result.InRange := by
  refine ⟨_, _, computeForecast_ok gate window now, computeForecast_ok gate' window' now',
    noWorseThan_of_load capacity load, ?_⟩
  intro result either
  rcases List.mem_pair.mp either with rfl | rfl
  · exact ⟨forecastOf_offsets _ _ _, forecastOf_ascending _ _ _, forecastOf_inRange _ _ _⟩
  · exact ⟨forecastOf_offsets _ _ _, forecastOf_ascending _ _ _, forecastOf_inRange _ _ _⟩

/-- A stale reading beside a negative one, against ten people before a gate of
capacity 0. -/
theorem computeForecast_bounded_mono_demo :
    let cancelled := demoReading "cancelled" (-3) "1970-01-01T00:00:00.000Z"
    let arrived := demoReading "arrived" 10 "1970-01-01T00:00:00.000Z"
    let closed := { demoGateA with capacityThreshold := 0 }
    ∃ forecast forecast', computeForecast demoGateA [staleReading, cancelled] 0 = .ok forecast ∧
      computeForecast closed [arrived] 5 = .ok forecast' ∧ forecast.NoWorseThan forecast' ∧
      ∀ result ∈ [forecast, forecast'],
        result.scores.map (·.offsetMinutes) = forecastOffsetsMinutes ∧
          result.Ascending ∧ result.InRange :=
  computeForecast_bounded_mono demoGateA { demoGateA with capacityThreshold := 0 } _ _ 0 5
    (by decide +kernel) (by decide +kernel)

end Stadium
