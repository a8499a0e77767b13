import Stadium.CongestionForecaster.Fallback
import Stadium.RecommendationEngine.Recommendations
import Stadium.Infra.Topology

/-!
# When incomplete input is flagged

`computeForecast` drops the stale events before it looks at what is left, and
flags the forecast only if nothing is. So a window that holds a stale event is
flagged exactly when it holds no event that counts; one that counts hides the
stale ones. Once set, the flag reaches the points, the cached score and every
explanation.
-/

namespace Stadium

/-- The event is at most ten minutes old; one of unreadable time is not. -/
def SignalEvent.Recent (event : SignalEvent) (now : ℤ) : Prop :=
  ∃ time, event.time = some time ∧ now - time ≤ recentWindowMs

/-- No event counts exactly when all are stale or old. -/
theorem nonStaleRecent_eq_nil {window : List SignalEvent} {now : ℤ} :
    nonStaleRecent window now = [] ↔
      ∀ event ∈ window, event.isStale = true ∨ ¬ event.Recent now := by
  unfold nonStaleRecent
  rw [List.filter_eq_nil_iff]
  refine forall₂_congr fun event _ => ?_
  rw [SignalEvent.eligible_iff, not_and_or, Bool.not_eq_false]
  rfl

/-! ## The flag on its way -/

/-- The flag appends its sentence to the explanation. -/
theorem buildExplanation_flagged (actionType : ActionType) (window : List SignalEvent)
    {forecast : ForecastResult} (flagged : forecast.lowConfidence = true) :
    buildExplanation actionType window forecast =
      buildExplanation actionType window { forecast with lowConfidence := false } ++
        " Low_Confidence: forecast based on limited recent signal data." := by
  unfold buildExplanation
  rw [if_pos flagged]
  rfl

/-- The explanation of an action names the flag of its forecast. -/
theorem buildExplanation_lowConfidence (actionType : ActionType) (window : List SignalEvent)
    {forecast : ForecastResult} (flagged : forecast.lowConfidence = true) :
    "Low_Confidence".toList <:+: (buildExplanation actionType window forecast).toList := by
  have token : "Low_Confidence".toList <:+:
      " Low_Confidence: forecast based on limited recent signal data.".toList :=
    ⟨" ".toList, ": forecast based on limited recent signal data.".toList, by decide +kernel⟩
  rw [buildExplanation_flagged actionType window flagged, String.toList_append]
  exact token.trans List.infix_append_right

theorem explanation_lowConfidence {gate : Gate} {forecast : ForecastResult}
    {window : List SignalEvent} (flagged : forecast.lowConfidence = true)
    {action : RecommendedAction}
    (generated : action ∈ generateRecommendations gate forecast window) :
    "Low_Confidence".toList <:+: action.explanation.toList := by
  unfold generateRecommendations at generated
  by_cases low : forecast.currentRiskLevel = .low
  · simp only [if_pos low, List.not_mem_nil] at generated
  · simp only [if_neg low, List.mem_map] at generated
    obtain ⟨⟨actionType, index⟩, -, rfl⟩ := generated
    exact buildExplanation_lowConfidence actionType window flagged

/-- The flag of a window is shown everywhere: in the forecast, at each of its points,
at the last-known score cached from it and in every explanation of an action
generated from it. -/
def ShownLowConfidence (gate : Gate) (window : List SignalEvent) (now : ℤ) : Prop :=
  ∃ forecast cached, computeForecast gate window now = .ok forecast ∧
    (∀ lastKnown, computeForecastWithFallback gate window now false lastKnown =
      .ok (forecast, some cached)) ∧
    forecast.lowConfidence = true ∧ (∀ point ∈ forecast.scores, point.lowConfidence = true) ∧
    cached.lowConfidence = true ∧
    ∀ window', ∀ action ∈ generateRecommendations gate forecast window',
      "Low_Confidence".toList <:+: action.explanation.toList

/-- It is shown exactly when no event counts. -/
theorem shownLowConfidence_iff {gate : Gate} {window : List SignalEvent} {now : ℤ} :
    ShownLowConfidence gate window now ↔ nonStaleRecent window now = [] := by
  constructor
  · rintro ⟨forecast, cached, computed, -, flagged, -⟩
    rw [computeForecast_ok] at computed
    obtain rfl := Except.ok.inj computed
    exact List.isEmpty_iff.mp flagged
  · intro nothing
    have flag : (nonStaleRecent window now).isEmpty = true := List.isEmpty_iff.mpr nothing
    refine ⟨forecastOf gate window now, currentPointOf gate window now,
      computeForecast_ok gate window now,
      computeForecastWithFallback_computed gate window now, flag, ?_, flag, ?_⟩
    · intro point listed
      obtain ⟨offset, -, rfl⟩ := List.mem_map.mp listed
      exact flag
    · intro window' action generated
      exact explanation_lowConfidence flag generated

/-- **When stale input is flagged.** A stale event in the window makes the flag show
everywhere exactly if the window holds none, or holds nothing else that counts:
every event of it is stale or more than ten minutes old. -/
theorem stale_input_flagged_iff (gate : Gate) (window : List SignalEvent) (now : ℤ) :
    ((∃ event ∈ window, event.isStale = true) → ShownLowConfidence gate window now) ↔
      (∀ event ∈ window, event.isStale = false) ∨
        ∀ event ∈ window, event.isStale = true ∨ ¬ event.Recent now := by
  rw [shownLowConfidence_iff, nonStaleRecent_eq_nil, imp_iff_not_or, not_exists]
  simp only [not_and, Bool.not_eq_true]

/-- A stale reading beside a fresh one leaves no mark on the forecast. -/
theorem fresh_reading_hides_stale :
    let window := [staleReading, demoReading "fresh" 20 "1970-01-01T00:00:00.000Z"]
    (∃ event ∈ window, event.isStale = true) ∧ ¬ ShownLowConfidence demoGateA window 0 := by
  refine ⟨⟨staleReading, List.mem_cons_self, rfl⟩, ?_⟩
  rw [shownLowConfidence_iff]
  intro nothing
  exact absurd (congrArg List.length nothing) (by decide +kernel)

end Stadium
