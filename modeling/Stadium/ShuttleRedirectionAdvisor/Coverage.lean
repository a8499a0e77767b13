import Stadium.Infra.Topology

/-!
# Which gates and routes are covered

Two limits of `generateRedirections`, and of `generateFanNudge` beside it.

Both look at `scores[0]` only: a gate that is to turn HIGH within the horizon
but is MODERATE now triggers nothing. `acts_on_current_level` says exactly
when they act on forecasts that `computeForecast` made.

An alternative is picked first and tested against the rejections afterwards.
So a route whose best alternative was rejected gets no recommendation, whatever
the other gates are like (`free_alternative_recommended_iff`).
-/

namespace Stadium

/-! ## Current level and horizon -/

/-- The predicted Risk_Level at an offset of the horizon. -/
def ForecastResult.levelAt (forecast : ForecastResult) (offsetMinutes : ℕ) : Option RiskLevel :=
  (forecast.scores.find? (·.offsetMinutes = offsetMinutes)).map (·.riskLevel)

/-- The Risk_Level a gate is predicted to have at an offset. -/
def predictedLevel (forecastsByGate : OrderedMap GateId ForecastResult) (gateId : GateId)
    (offsetMinutes : ℕ) : Option RiskLevel :=
  (forecastsByGate.get? gateId).bind (·.levelAt offsetMinutes)

/-- Every forecast of the map was made by `computeForecast`. -/
def AllComputed (forecastsByGate : OrderedMap GateId ForecastResult) : Prop :=
  ∀ gateId forecast, forecastsByGate.get? gateId = some forecast →
    ∃ gate window now, computeForecast gate window now = .ok forecast

/-- The gate is predicted to be HIGH or CRITICAL at the offset. -/
def CrowdedAt (forecastsByGate : OrderedMap GateId ForecastResult) (gateId : GateId)
    (offsetMinutes : ℕ) : Prop :=
  ∃ level, predictedLevel forecastsByGate gateId offsetMinutes = some level ∧
    level.highOrCritical = true

/-- The gate is predicted to be HIGH or CRITICAL at the offset, and some other
gate to have a strictly lower level then. -/
def ReliefAt (forecastsByGate : OrderedMap GateId ForecastResult) (originGateId : GateId)
    (offsetMinutes : ℕ) : Prop :=
  ∃ level, predictedLevel forecastsByGate originGateId offsetMinutes = some level ∧
    level.highOrCritical = true ∧
    ∃ gateId lower, gateId ≠ originGateId ∧
      predictedLevel forecastsByGate gateId offsetMinutes = some lower ∧
      riskOrderOf lower < riskOrderOf level

/-- Relief at some offset of the horizon is acted on: every listed route of
the origin gets a recommendation and every fan outside the cooldown a nudge. -/
def ActsOnHorizon (localeCompare : String → String → Ordering) (originGate : Gate)
    (forecastsByGate : OrderedMap GateId ForecastResult) (routes : List ShuttleRoute)
    (now : ℤ) : Prop :=
  (∃ offsetMinutes ∈ forecastOffsetsMinutes,
    ReliefAt forecastsByGate originGate.gateId offsetMinutes) →
  (∀ route ∈ routes, route.routeId ∈ originGate.assignedRouteIds →
    ∃ recommendation ∈ generateRedirections localeCompare originGate forecastsByGate routes []
      now, recommendation.routeId = route.routeId) ∧
  ∀ fan lastNudgeAt, inCooldown lastNudgeAt now = false →
    (generateFanNudge localeCompare fan originGate forecastsByGate lastNudgeAt now).isSome

section

variable {forecastsByGate : OrderedMap GateId ForecastResult}

/-- A computed series starts at the current level. -/
theorem levelAt_zero {forecast : ForecastResult} {gate : Gate} {window : List SignalEvent}
    {now : ℤ} (computed : computeForecast gate window now = .ok forecast) :
    forecast.levelAt 0 = some forecast.currentRiskLevel := by
  rw [computeForecast_ok] at computed
  cases computed
  rfl

theorem predictedLevel_zero (computed : AllComputed forecastsByGate) (gateId : GateId) :
    predictedLevel forecastsByGate gateId 0 =
      (forecastsByGate.get? gateId).map (·.currentRiskLevel) := by
  unfold predictedLevel
  cases found : forecastsByGate.get? gateId with
  | none => rfl
  | some forecast =>
      obtain ⟨gate, window, now, result⟩ := computed gateId forecast found
      exact levelAt_zero result

/-- A gate without a forecast is not crowded. -/
theorem crowdedAt_zero (computed : AllComputed forecastsByGate) (gateId : GateId) :
    CrowdedAt forecastsByGate gateId 0 ↔
      (currentRiskLevel (forecastsByGate.get? gateId)).highOrCritical = true := by
  unfold CrowdedAt
  rw [predictedLevel_zero computed]
  cases found : forecastsByGate.get? gateId with
  | none => simp [currentRiskLevel, RiskLevel.highOrCritical]
  | some forecast => simp [currentRiskLevel]

theorem reliefAt_zero (computed : AllComputed forecastsByGate) (originGateId : GateId) :
    ReliefAt forecastsByGate originGateId 0 ↔
      (currentRiskLevel (forecastsByGate.get? originGateId)).highOrCritical = true ∧
        ∃ gateId, LowerRiskGate originGateId
          (currentRiskLevel (forecastsByGate.get? originGateId)) forecastsByGate gateId := by
  unfold ReliefAt LowerRiskGate
  simp only [predictedLevel_zero computed]
  cases found : forecastsByGate.get? originGateId with
  | none => simp [currentRiskLevel, RiskLevel.highOrCritical]
  | some forecast =>
      simp only [Option.map_some, Option.some.injEq, exists_eq_left', currentRiskLevel,
        Option.getD_some, Option.map_eq_some_iff]
      refine and_congr_right fun _ => ?_
      constructor
      · rintro ⟨gateId, lower, other, ⟨forecast', found', rfl⟩, below⟩
        exact ⟨gateId, other, forecast', found', below⟩
      · rintro ⟨gateId, other, forecast', found', below⟩
        exact ⟨gateId, _, other, ⟨forecast', found', rfl⟩, below⟩

/-- **Only the current level counts.** Without rejections, a listed route of
the origin gets a recommendation exactly when there is relief at offset 0, and
a fan outside the cooldown a nudge exactly when the origin is crowded then. -/
theorem acts_on_current_level (localeCompare : String → String → Ordering) (originGate : Gate)
    (routes : List ShuttleRoute) (now : ℤ) (computed : AllComputed forecastsByGate)
    (named : forecastsByGate.get? "" = none) :
    (∀ route ∈ routes, route.routeId ∈ originGate.assignedRouteIds →
      ((∃ recommendation ∈ generateRedirections localeCompare originGate forecastsByGate routes
          [] now, recommendation.routeId = route.routeId) ↔
        ReliefAt forecastsByGate originGate.gateId 0)) ∧
    ∀ fan lastNudgeAt, inCooldown lastNudgeAt now = false →
      ((generateFanNudge localeCompare fan originGate forecastsByGate lastNudgeAt now).isSome ↔
        CrowdedAt forecastsByGate originGate.gateId 0) := by
  constructor
  · intro route listed assigned
    rw [reliefAt_zero computed]
    constructor
    · rintro ⟨recommendation, generated, -⟩
      obtain ⟨crowded, _, -, -, alternative, picked, -⟩ := mem_generateRedirections.mp generated
      exact ⟨crowded, alternative, lowerRiskGate_of_pick picked⟩
    · rintro ⟨crowded, gateId, lower⟩
      obtain ⟨alternative, picked⟩ := Option.isSome_iff_exists.mp
        (pick_isSome_of_lowerRiskGate localeCompare lower)
      have nonempty := pick_ne_empty named picked
      exact ⟨_, mem_generateRedirections.mpr
        ⟨crowded, route, listed, assigned, alternative, picked, nonempty, rfl, rfl⟩, rfl⟩
  · intro fan lastNudgeAt rested
    rw [generateFanNudge_isSome, crowdedAt_zero computed]
    simp [rested]

end

/-- Gate A is at score 67 now and at 70 in five minutes; gate C is empty. -/
def crossingForecasts : OrderedMap GateId ForecastResult :=
  .ofList [
    ("gate-a", forecastOf demoGateA [demoReading "reading" 335 "1970-01-01T00:00:00.000Z"] 0),
    ("gate-c", forecastOf demoGateC [] 0)]

theorem crossingForecasts_computed : AllComputed crossingForecasts := by
  intro gateId forecast found
  have listed := OrderedMap.mem_of_get?_ofList found
  rcases List.mem_cons.mp listed with same | listed
  · obtain ⟨-, rfl⟩ := Prod.mk.inj same
    exact ⟨_, _, _, computeForecast_ok _ _ _⟩
  · obtain ⟨-, rfl⟩ := Prod.mk.inj (List.mem_singleton.mp listed)
    exact ⟨_, _, _, computeForecast_ok _ _ _⟩

/-- Gate A is predicted to be HIGH in five minutes, and no route is redirected. -/
theorem predicted_crowd_is_ignored :
    AllComputed crossingForecasts ∧
      ¬ ActsOnHorizon compare demoGateA crossingForecasts demoRoutes 0 := by
  refine ⟨crossingForecasts_computed, fun acts => ?_⟩
  obtain ⟨redirected, -⟩ := acts ⟨5, by decide, .high, by decide +kernel, rfl, "gate-c", .low,
    by decide, by decide +kernel, by decide⟩
  obtain ⟨recommendation, generated, -⟩ := redirected ⟨"route-1"⟩ (by decide) (by decide)
  have none : generateRedirections compare demoGateA crossingForecasts demoRoutes [] 0 = [] :=
    List.isEmpty_iff.mp (by decide +kernel)
  rw [none] at generated
  exact absurd generated List.not_mem_nil

theorem acts_on_current_level_demo :
    ¬ ∃ recommendation ∈ generateRedirections compare demoGateA crossingForecasts demoRoutes [] 0,
      recommendation.routeId = "route-1" := by
  rw [(acts_on_current_level compare demoGateA demoRoutes 0 crossingForecasts_computed
    (by decide +kernel)).1 ⟨"route-1"⟩ (by decide) (by decide), reliefAt_zero
      crossingForecasts_computed]
  rintro ⟨crowded, -⟩
  exact absurd crowded (by decide +kernel)

/-! ## Rejected alternatives -/

/-- A gate of strictly lower current Risk_Level than the origin's that was not
rejected for the route within the last five minutes. -/
def FreeAlternative (originGate : Gate) (forecastsByGate : OrderedMap GateId ForecastResult)
    (recentRejections : List RejectionRecord) (now : ℤ) (routeId : RouteId)
    (gateId : GateId) : Prop :=
  LowerRiskGate originGate.gateId (currentRiskLevel (forecastsByGate.get? originGate.gateId))
    forecastsByGate gateId ∧ isSuppressed routeId gateId recentRejections now = false

/-- **A free alternative is recommended only if the best one is free.** For a
listed route of a crowded origin: a free alternative leads to a recommendation
of such a gate exactly when it implies that the best alternative, the first by
level, score and id, is free (and its id is not the empty text). -/
theorem free_alternative_recommended_iff (localeCompare : String → String → Ordering)
    [Std.TransCmp localeCompare] (originGate : Gate)
    (forecastsByGate : OrderedMap GateId ForecastResult) (routes : List ShuttleRoute)
    (recentRejections : List RejectionRecord) (now : ℤ) (route : ShuttleRoute)
    (crowded : (currentRiskLevel (forecastsByGate.get? originGate.gateId)).highOrCritical = true)
    (listed : route ∈ routes) (assigned : route.routeId ∈ originGate.assignedRouteIds) :
    ((∃ gateId, FreeAlternative originGate forecastsByGate recentRejections now route.routeId
        gateId) →
      ∃ recommendation ∈ generateRedirections localeCompare originGate forecastsByGate routes
        recentRejections now, recommendation.routeId = route.routeId ∧
          FreeAlternative originGate forecastsByGate recentRejections now route.routeId
            recommendation.alternativeGateId) ↔
    ((∃ gateId, FreeAlternative originGate forecastsByGate recentRejections now route.routeId
        gateId) →
      ∃ best, BestCandidate localeCompare originGate.gateId
        (currentRiskLevel (forecastsByGate.get? originGate.gateId)) forecastsByGate best ∧
          best.gateId ≠ "" ∧
            isSuppressed route.routeId best.gateId recentRejections now = false) := by
  refine imp_congr_right fun _ => ?_
  constructor
  · rintro ⟨recommendation, generated, own, -⟩
    obtain ⟨-, other, -, -, alternative, picked, nonempty, free, rfl⟩ :=
      mem_generateRedirections.mp generated
    obtain ⟨best, least, rfl⟩ := pickAlternativeGate_eq_some.mp picked
    have same : other.routeId = route.routeId := own
    rw [same] at free
    exact ⟨best, least, nonempty, free⟩
  · rintro ⟨best, least, nonempty, free⟩
    have picked := pickAlternativeGate_eq_some.mpr ⟨best, least, rfl⟩
    refine ⟨redirectionTo route originGate forecastsByGate best.gateId now, ?_, rfl, ?_⟩
    · exact mem_generateRedirections.mpr
        ⟨crowded, route, listed, assigned, best.gateId, picked, nonempty, free, rfl⟩
    · exact ⟨lowerRiskGate_of_pick picked, free⟩

/-- Gate A is CRITICAL, gates B and C are LOW. -/
def crowdedForecasts : OrderedMap GateId ForecastResult :=
  .ofList [
    ("gate-a", forecastOf demoGateA [demoReading "reading" 500 "1970-01-01T00:00:00.000Z"] 0),
    ("gate-b", forecastOf demoGateB [] 0),
    ("gate-c", forecastOf demoGateC [] 0)]

/-- Gate B was rejected for route 1 a minute ago. -/
def demoRejection : RejectionRecord where
  routeId := "route-1"
  alternativeGateId := "gate-b"
  rejectedAt := "1970-01-01T00:00:00.000Z"

/-- Gate C is free for route 1, and the route gets no recommendation. -/
theorem rejected_best_blocks_the_rest :
    FreeAlternative demoGateA crowdedForecasts [demoRejection] 60000 "route-1" "gate-c" ∧
      generateRedirections compare demoGateA crowdedForecasts demoRoutes [demoRejection] 60000 =
        [] := by
  refine ⟨⟨⟨by decide, _, rfl, by decide +kernel⟩, by decide +kernel⟩, ?_⟩
  exact List.isEmpty_iff.mp (by decide +kernel)

theorem free_alternative_recommended_iff_demo :
    ¬ ∃ best, BestCandidate compare "gate-a"
      (currentRiskLevel (crowdedForecasts.get? "gate-a")) crowdedForecasts best ∧
        best.gateId ≠ "" ∧ isSuppressed "route-1" best.gateId [demoRejection] 60000 = false := by
  intro free
  obtain ⟨recommendation, generated, -⟩ := (free_alternative_recommended_iff compare demoGateA
    crowdedForecasts demoRoutes [demoRejection] 60000 ⟨"route-1"⟩ (by decide +kernel) (by decide)
    (by decide)).mpr (fun _ => free)
    ⟨"gate-c", ⟨by decide, _, rfl, by decide +kernel⟩, by decide +kernel⟩
  have none : generateRedirections compare demoGateA crowdedForecasts demoRoutes
      [demoRejection] 60000 = [] := List.isEmpty_iff.mp (by decide +kernel)
  rw [none] at generated
  exact absurd generated List.not_mem_nil

end Stadium
