import Stadium.ShuttleRedirectionAdvisor.Coverage

/-!
# A chosen alternative stays the better gate

`pickAlternativeGate` compares current levels only. The growth factors depend
on the offset alone, and rounding, clamping and the bands are monotone: so the
order of two base scores is the order of the two series at every offset. A
strictly lower level now means a smaller base score, whatever the capacities,
windows and computation times, and so a series that is nowhere above the
origin's.
-/

namespace Stadium

/-! ## Every step of the forecast is monotone -/

theorem offsetGrowthFactor_nonneg (offsetMinutes : ℕ) : 0 ≤ offsetGrowthFactor offsetMinutes := by
  unfold offsetGrowthFactor
  split <;> norm_num

theorem clampScore_mono {α : Type*} [LinearOrder α] [Zero α] [OfNat α 100] {value value' : α}
    (le : value ≤ value') : clampScore value ≤ clampScore value' :=
  max_le_max le_rfl (min_le_min le_rfl le)

theorem mathRound_mono {value value' : ℚ} (le : value ≤ value') :
    mathRound value ≤ mathRound value' := by
  apply Int.floor_le_floor
  linarith

/-- A larger base score grows to a larger score. -/
theorem scoreAt_mono {base base' : ℚ} (le : base ≤ base') (offsetMinutes : ℕ) :
    scoreAt base offsetMinutes ≤ scoreAt base' offsetMinutes := by
  apply clampScore_mono
  apply mathRound_mono
  exact mul_le_mul_of_nonneg_right le (offsetGrowthFactor_nonneg offsetMinutes)

/-- A larger score has no lower Risk_Level. -/
theorem riskBand_mono {score score' : ℤ} (le : score ≤ score') :
    riskOrderOf (riskBand score) ≤ riskOrderOf (riskBand score') := by
  unfold riskBand
  split_ifs <;> first | omega | decide

/-- Of two base scores, the one with the lower current level is the smaller. -/
theorem base_lt_of_riskBand_lt {base base' : ℚ}
    (lower : riskOrderOf (riskBand (scoreAt base 0)) < riskOrderOf (riskBand (scoreAt base' 0))) :
    base < base' := by
  by_contra ge
  have score := scoreAt_mono (not_lt.mp ge) 0
  have level := riskBand_mono score
  omega

/-! ## Two computed series -/

/-- The point of a series at an offset. -/
def ForecastResult.pointAtOffset (forecast : ForecastResult) (offsetMinutes : ℕ) :
    Option CongestionScorePoint :=
  forecast.scores.find? (·.offsetMinutes = offsetMinutes)

/-- At every offset of the horizon both series have a point, and the first has
neither a larger score nor a higher Risk_Level than the second. -/
def ForecastResult.NoWorseThan (forecast origin : ForecastResult) : Prop :=
  ∀ offsetMinutes ∈ forecastOffsetsMinutes, ∃ point originPoint,
    forecast.pointAtOffset offsetMinutes = some point ∧
    origin.pointAtOffset offsetMinutes = some originPoint ∧
    point.score ≤ originPoint.score ∧
    riskOrderOf point.riskLevel ≤ riskOrderOf originPoint.riskLevel

/-- A computed series has its own point at every offset of the horizon. -/
theorem forecastOf_pointAtOffset (gate : Gate) (window : List SignalEvent) (now : ℤ)
    {offsetMinutes : ℕ} (offset : offsetMinutes ∈ forecastOffsetsMinutes) :
    (forecastOf gate window now).pointAtOffset offsetMinutes =
      some (pointAt gate now (windowBase gate window now) (nonStaleRecent window now).isEmpty
        offsetMinutes) := by
  simp only [forecastOffsetsMinutes, List.mem_cons, List.not_mem_nil, or_false] at offset
  rcases offset with rfl | rfl | rfl | rfl <;> rfl

theorem forecastOf_currentRiskLevel (gate : Gate) (window : List SignalEvent) (now : ℤ) :
    (forecastOf gate window now).currentRiskLevel =
      riskBand (scoreAt (windowBase gate window now) 0) := rfl

/-- A smaller base score is a series nowhere above. -/
theorem noWorseThan_of_base {gate gate' : Gate} {window window' : List SignalEvent} {now now' : ℤ}
    (base : windowBase gate window now ≤ windowBase gate' window' now') :
    (forecastOf gate window now).NoWorseThan (forecastOf gate' window' now') := by
  intro offsetMinutes offset
  have score := scoreAt_mono base offsetMinutes
  refine ⟨_, _, forecastOf_pointAtOffset gate window now offset,
    forecastOf_pointAtOffset gate' window' now' offset, ?_, ?_⟩
  · exact score
  · exact riskBand_mono score

/-- **A lower level now is a series nowhere above.** The gates, their
capacities, the windows and the computation times are unrelated. -/
theorem noWorseThan_of_lower_level {gate gate' : Gate} {window window' : List SignalEvent}
    {now now' : ℤ}
    (lower : riskOrderOf (forecastOf gate window now).currentRiskLevel <
      riskOrderOf (forecastOf gate' window' now').currentRiskLevel) :
    (forecastOf gate window now).NoWorseThan (forecastOf gate' window' now') := by
  rw [forecastOf_currentRiskLevel, forecastOf_currentRiskLevel] at lower
  have base := base_lt_of_riskBand_lt lower
  exact noWorseThan_of_base base.le

/-! ## The alternatives that are chosen -/

/-- The gate is the alternative of some recommendation or of some nudge
generated for the origin from these forecasts. -/
inductive ChosenAlternative (localeCompare : String → String → Ordering) (originGate : Gate)
    (forecastsByGate : OrderedMap GateId ForecastResult) (gateId : GateId) : Prop
  | redirection (assignedRoutes : List ShuttleRoute) (recentRejections : List RejectionRecord)
      (now : ℤ) (recommendation : ShuttleRedirectionRecommendation)
      (generated : recommendation ∈ generateRedirections localeCompare originGate forecastsByGate
        assignedRoutes recentRejections now)
      (chosen : recommendation.alternativeGateId = gateId)
  | nudge (fan : FanContext) (lastNudgeAt : Option ℤ) (now : ℤ) (nudge : FanNudge)
      (generated : generateFanNudge localeCompare fan originGate forecastsByGate lastNudgeAt now =
        some nudge)
      (chosen : nudge.alternativeGateId = some gateId)

section

variable {localeCompare : String → String → Ordering} {originGate : Gate}
  {forecastsByGate : OrderedMap GateId ForecastResult} {gateId : GateId}

/-- The alternative of a nudge is the gate that is picked. -/
theorem generateFanNudge_alternative {fan : FanContext} {lastNudgeAt : Option ℤ} {now : ℤ}
    {nudge : FanNudge}
    (generated : generateFanNudge localeCompare fan originGate forecastsByGate lastNudgeAt now =
      some nudge) :
    (currentRiskLevel (forecastsByGate.get? originGate.gateId)).highOrCritical = true ∧
      nudge.alternativeGateId = pickAlternativeGate localeCompare originGate.gateId
        (currentRiskLevel (forecastsByGate.get? originGate.gateId)) forecastsByGate := by
  have risky := (generateFanNudge_isSome.mp (Option.isSome_of_eq_some generated)).2
  refine ⟨risky, ?_⟩
  unfold generateFanNudge at generated
  split at generated
  · cases generated
  · simp only [risky, Bool.not_true, Bool.false_eq_true, if_false, Option.some.injEq] at generated
    rw [← generated]

/-- Both components take what `pickAlternativeGate` returns for a HIGH or
CRITICAL origin. -/
theorem ChosenAlternative.picked
    (chosen : ChosenAlternative localeCompare originGate forecastsByGate gateId) :
    (currentRiskLevel (forecastsByGate.get? originGate.gateId)).highOrCritical = true ∧
      pickAlternativeGate localeCompare originGate.gateId
        (currentRiskLevel (forecastsByGate.get? originGate.gateId)) forecastsByGate =
          some gateId := by
  cases chosen with
  | redirection routes rejections now recommendation generated chosen =>
      obtain ⟨risky, route, -, -, alternative, picked, -, -, rfl⟩ :=
        mem_generateRedirections.mp generated
      have same : alternative = gateId := chosen
      exact ⟨risky, same ▸ picked⟩
  | nudge fan lastNudgeAt now nudge generated chosen =>
      obtain ⟨risky, alternative⟩ := generateFanNudge_alternative generated
      exact ⟨risky, alternative ▸ chosen⟩

/-- A HIGH or CRITICAL level is read from a forecast: without one a gate
counts as LOW. -/
theorem forecast_of_highOrCritical
    (risky : (currentRiskLevel (forecastsByGate.get? gateId)).highOrCritical = true) :
    ∃ forecast, forecastsByGate.get? gateId = some forecast := by
  cases found : forecastsByGate.get? gateId with
  | none =>
      rw [found] at risky
      exact absurd risky (by decide)
  | some forecast => exact ⟨forecast, rfl⟩

/-- **People are never sent to a gate forecast to be worse.** A chosen
alternative has a strictly lower Risk_Level than the origin at offset 0, and
at no offset of the horizon a larger score or a higher Risk_Level. -/
theorem chosen_alternative_never_worse (localeCompare : String → String → Ordering)
    (originGate : Gate) (forecastsByGate : OrderedMap GateId ForecastResult)
    (computed : AllComputed forecastsByGate) (gateId : GateId)
    (chosen : ChosenAlternative localeCompare originGate forecastsByGate gateId) :
    ∃ alternative origin level originLevel,
      forecastsByGate.get? gateId = some alternative ∧
      forecastsByGate.get? originGate.gateId = some origin ∧
      alternative.levelAt 0 = some level ∧ origin.levelAt 0 = some originLevel ∧
      riskOrderOf level < riskOrderOf originLevel ∧
      alternative.NoWorseThan origin := by
  obtain ⟨risky, picked⟩ := chosen.picked
  obtain ⟨origin, foundOrigin⟩ := forecast_of_highOrCritical risky
  obtain ⟨-, alternative, found, lower⟩ := lowerRiskGate_of_pick picked
  rw [foundOrigin] at lower
  obtain ⟨gate, window, now, made⟩ := computed gateId alternative found
  obtain ⟨gate', window', now', made'⟩ := computed originGate.gateId origin foundOrigin
  refine ⟨alternative, origin, _, _, found, foundOrigin, levelAt_zero made, levelAt_zero made',
    lower, ?_⟩
  rw [computeForecast_ok] at made made'
  cases made
  cases made'
  exact noWorseThan_of_lower_level lower

theorem crowdedForecasts_computed : AllComputed crowdedForecasts := by
  intro gateId forecast found
  have listed := OrderedMap.mem_of_get?_ofList found
  simp only [List.mem_cons, List.not_mem_nil, or_false, Prod.mk.injEq] at listed
  rcases listed with ⟨-, rfl⟩ | ⟨-, rfl⟩ | ⟨-, rfl⟩
  all_goals exact ⟨_, _, _, computeForecast_ok _ _ _⟩

/-- Route 1 of crowded gate A is sent to gate B. -/
theorem chosen_alternative_never_worse_demo :
    ∃ alternative origin level originLevel,
      crowdedForecasts.get? "gate-b" = some alternative ∧
      crowdedForecasts.get? "gate-a" = some origin ∧
      alternative.levelAt 0 = some level ∧ origin.levelAt 0 = some originLevel ∧
      riskOrderOf level < riskOrderOf originLevel ∧ alternative.NoWorseThan origin := by
  have generated : (generateRedirections compare demoGateA crowdedForecasts demoRoutes [] 0).map
      (·.alternativeGateId) = ["gate-b"] := by decide +kernel
  obtain ⟨recommendation, listed, chosen⟩ := List.mem_map.mp
    (generated ▸ List.mem_singleton.mpr rfl)
  exact chosen_alternative_never_worse compare demoGateA crowdedForecasts
    crowdedForecasts_computed "gate-b" (.redirection demoRoutes [] 0 recommendation listed chosen)

end

end Stadium
