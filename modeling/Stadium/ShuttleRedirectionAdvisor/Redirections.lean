import Stadium.CongestionForecaster.RiskComparison

/-!
# The redirection advisor's pure core

`redirections.ts`: one recommendation for each listed route of a HIGH or
CRITICAL gate, unless no gate of lower risk exists or the pair was rejected
less than five minutes ago.
-/

namespace Stadium

def rejectionSuppressionMs : ℤ := 5 * 60 * 1000

structure RejectionRecord where
  routeId : RouteId
  alternativeGateId : GateId
  rejectedAt : String

def isSuppressed (routeId : RouteId) (alternativeGateId : GateId)
    (recentRejections : List RejectionRecord) (now : ℤ) : Bool :=
  recentRejections.any fun rejection =>
    rejection.routeId == routeId && rejection.alternativeGateId == alternativeGateId &&
      (IsoDate.parse rejection.rejectedAt).any fun rejectedAtMs =>
        decide (now - rejectedAtMs < rejectionSuppressionMs)

def generateRedirections (localeCompare : String → String → Ordering) (originGate : Gate)
    (forecastsByGate : OrderedMap GateId ForecastResult) (assignedRoutes : List ShuttleRoute)
    (recentRejections : List RejectionRecord) (now : ℤ) :
    List ShuttleRedirectionRecommendation :=
  let originForecast := forecastsByGate.get? originGate.gateId
  let originRiskLevel := currentRiskLevel originForecast
  let originScore := currentScore originForecast
  if !originRiskLevel.highOrCritical then []
  else
    let routesForOrigin := assignedRoutes.filter fun route =>
      originGate.assignedRouteIds.contains route.routeId
    let generatedAt := IsoDate.toISOString now
    routesForOrigin.filterMap fun route =>
      let picked := pickAlternativeGate localeCompare originGate.gateId originRiskLevel
        forecastsByGate
      match truthy picked with
      | none => none
      | some alternativeGateId =>
          if isSuppressed route.routeId alternativeGateId recentRejections now then none
          else some {
            recommendationId := s!"{route.routeId}-{originGate.gateId}-{generatedAt}"
            routeId := route.routeId
            originGateId := originGate.gateId
            alternativeGateId
            explanation :=
              s!"Route {route.routeId} redirected from {originGate.gateId} " ++
              s!"(Congestion_Score {originScore}, Risk_Level {originRiskLevel.text}, " ++
              "driven by Transit_Arrival volume) " ++
              s!"to lower-risk Gate {alternativeGateId}."
            generatedAt
            status := .pending }

/-- The recommendation of a route to leave the origin for an alternative. -/
def redirectionTo (route : ShuttleRoute) (originGate : Gate)
    (forecastsByGate : OrderedMap GateId ForecastResult) (alternativeGateId : GateId)
    (now : ℤ) : ShuttleRedirectionRecommendation :=
  let originRiskLevel := currentRiskLevel (forecastsByGate.get? originGate.gateId)
  let originScore := currentScore (forecastsByGate.get? originGate.gateId)
  let generatedAt := IsoDate.toISOString now
  { recommendationId := s!"{route.routeId}-{originGate.gateId}-{generatedAt}"
    routeId := route.routeId
    originGateId := originGate.gateId
    alternativeGateId
    explanation :=
      s!"Route {route.routeId} redirected from {originGate.gateId} " ++
      s!"(Congestion_Score {originScore}, Risk_Level {originRiskLevel.text}, " ++
      "driven by Transit_Arrival volume) " ++
      s!"to lower-risk Gate {alternativeGateId}."
    generatedAt
    status := .pending }

theorem truthy_eq_some {id : Option String} {text : String} :
    truthy id = some text ↔ id = some text ∧ text ≠ "" := by
  unfold truthy
  rw [Option.filter_eq_some_iff, decide_eq_true_iff]

/-- What is recommended: a route of the origin, the gate that was picked, and
no recent rejection of the pair. -/
theorem mem_generateRedirections {localeCompare : String → String → Ordering} {originGate : Gate}
    {forecastsByGate : OrderedMap GateId ForecastResult} {assignedRoutes : List ShuttleRoute}
    {recentRejections : List RejectionRecord} {now : ℤ}
    {recommendation : ShuttleRedirectionRecommendation} :
    recommendation ∈ generateRedirections localeCompare originGate forecastsByGate
        assignedRoutes recentRejections now ↔
      (currentRiskLevel (forecastsByGate.get? originGate.gateId)).highOrCritical = true ∧
        ∃ route ∈ assignedRoutes, route.routeId ∈ originGate.assignedRouteIds ∧
          ∃ alternativeGateId,
            pickAlternativeGate localeCompare originGate.gateId
              (currentRiskLevel (forecastsByGate.get? originGate.gateId)) forecastsByGate =
                some alternativeGateId ∧ alternativeGateId ≠ "" ∧
            isSuppressed route.routeId alternativeGateId recentRejections now = false ∧
            recommendation =
              redirectionTo route originGate forecastsByGate alternativeGateId now := by
  unfold generateRedirections
  cases risky : (currentRiskLevel (forecastsByGate.get? originGate.gateId)).highOrCritical with
  | false => simp [risky]
  | true =>
      simp only [risky, Bool.not_true, Bool.false_eq_true, if_false, List.mem_filterMap,
        List.mem_filter, List.contains_iff_mem, true_and]
      constructor
      · rintro ⟨route, ⟨listed, assigned⟩, generated⟩
        split at generated
        · cases generated
        · next alternativeGateId found =>
            obtain ⟨picked, nonempty⟩ := truthy_eq_some.mp found
            split_ifs at generated with suppressed
            exact ⟨route, listed, assigned, alternativeGateId, picked, nonempty,
              Bool.not_eq_true _ ▸ suppressed, (Option.some.inj generated).symm⟩
      · rintro ⟨route, listed, assigned, alternativeGateId, picked, nonempty, free, rfl⟩
        refine ⟨route, ⟨listed, assigned⟩, ?_⟩
        rw [truthy_eq_some.mpr ⟨picked, nonempty⟩]
        simp only [free, Bool.false_eq_true, if_false]
        rfl

/-- `updateRecommendation` of the in-memory store: replace the entry of the
same id, or append. -/
def updateRecommendation (recommendation : ShuttleRedirectionRecommendation) :
    List ShuttleRedirectionRecommendation → List ShuttleRedirectionRecommendation
  | [] => [recommendation]
  | existing :: rest =>
      if existing.recommendationId = recommendation.recommendationId then
        recommendation :: rest
      else existing :: updateRecommendation recommendation rest

end Stadium
