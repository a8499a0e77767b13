import Stadium.CongestionForecaster.RiskComparison

/-!
# The recommendation engine's pure core

`recommendations.ts`. Impacts are exact rationals. The source breaks ties by
`localeCompare` on the four action type names, whose first letters differ, so
their order is the same in every locale (`tieOrder`).
-/

namespace Stadium

/-- The name of an action type. -/
def ActionType.text : ActionType → String
  | .openGateLane => "OPEN_GATE_LANE"
  | .redirectShuttleRoute => "REDIRECT_SHUTTLE_ROUTE"
  | .holdTransitArrival => "HOLD_TRANSIT_ARRIVAL"
  | .fanNudgeCampaign => "FAN_NUDGE_CAMPAIGN"

def candidateActionTypes : List ActionType :=
  [.openGateLane, .redirectShuttleRoute, .holdTransitArrival, .fanNudgeCampaign]

def impactForActionType (actionType : ActionType) (currentScore : ℤ)
    (window : List SignalEvent) : ℚ :=
  let gateCounterEvents := window.filter (·.source = .gateCounter)
  let ticketScanEvents := window.filter (·.source = .ticketScanner)
  let transitEvents := window.filter (·.source = .transitFeed)
  match actionType with
  | .openGateLane =>
      currentScore * 1 + gateCounterEvents.length * 2 + ticketScanEvents.length * (5 / 10)
  | .redirectShuttleRoute => currentScore * (9 / 10) + transitEvents.length * 3
  | .holdTransitArrival => currentScore * (7 / 10) + transitEvents.length * 2
  | .fanNudgeCampaign => currentScore * (5 / 10) + ticketScanEvents.length * (3 / 10)

def buildExplanation (actionType : ActionType) (window : List SignalEvent)
    (forecast : ForecastResult) : String :=
  let contributingIds := (window.take 5).map (·.signalId)
  let joined := String.intercalate ", " contributingIds
  let idsPart :=
    if contributingIds.length > 0 then s!"contributing signals: {joined}"
    else "no contributing signals in the current window"
  let score := (forecast.scores.head?.map (·.score)).getD 0
  let base :=
    s!"Recommended {actionType.text} based on {idsPart} and current Congestion_Score of {score}."
  if forecast.lowConfidence then
    s!"{base} Low_Confidence: forecast based on limited recent signal data."
  else base

/-- The position of an action type's name in alphabetical order. -/
def ActionType.tieOrder : ActionType → ℕ
  | .fanNudgeCampaign => 0
  | .holdTransitArrival => 1
  | .openGateLane => 2
  | .redirectShuttleRoute => 3

/-- A candidate with its impact. -/
structure ScoredAction where
  actionType : ActionType
  impact : ℚ

/-- `a` is sorted before `b`, or may stay before it. -/
def ScoredAction.before (a b : ScoredAction) : Prop :=
  b.impact < a.impact ∨ b.impact = a.impact ∧ a.actionType.tieOrder ≤ b.actionType.tieOrder

instance (a b : ScoredAction) : Decidable (a.before b) :=
  inferInstanceAs (Decidable (_ ∨ _))

/-- The candidates by descending impact. -/
def rankedActionTypes (currentScore : ℤ) (window : List SignalEvent) : List ActionType :=
  let scored := candidateActionTypes.map fun actionType =>
    { actionType, impact := impactForActionType actionType currentScore window : ScoredAction }
  (scored.insertionSort ScoredAction.before).map (·.actionType)

/-- The id of an action. -/
def actionIdOf (gateId : GateId) (generatedAt : String) (actionType : ActionType) : String :=
  s!"{gateId}-{generatedAt}-{actionType.text}"

/-- A forecast without points would date its actions by the wall clock; it
is LOW and has none, so the value does not matter (`""`). -/
def ForecastResult.generatedAt (forecast : ForecastResult) : String :=
  (forecast.scores.head?.map (·.forecastTime)).getD ""

def generateRecommendations (gate : Gate) (forecast : ForecastResult)
    (window : List SignalEvent) : List RecommendedAction :=
  let currentScore := (forecast.scores.head?.map (·.score)).getD 0
  if forecast.currentRiskLevel = .low then []
  else
    (rankedActionTypes currentScore window).zipIdx.map fun (actionType, index) =>
      { actionId := actionIdOf gate.gateId forecast.generatedAt actionType
        gateId := gate.gateId
        actionType
        actionRank := index + 1
        explanation := buildExplanation actionType window forecast
        generatedAt := forecast.generatedAt }

/-! ## The ids of a generated list -/

/-- Whatever the impacts, the ranking lists every candidate once. -/
theorem rankedActionTypes_perm (currentScore : ℤ) (window : List SignalEvent) :
    (rankedActionTypes currentScore window).Perm candidateActionTypes := by
  unfold rankedActionTypes
  refine ((List.perm_insertionSort _ _).map _).trans ?_
  rw [List.map_map]
  exact .of_eq (List.map_id _)

/-- The impacts see the window only through the sources of its events, in any
order. -/
theorem rankedActionTypes_congr {currentScore : ℤ} {window window' : List SignalEvent}
    (h : (window.map (·.source)).Perm (window'.map (·.source))) :
    rankedActionTypes currentScore window = rankedActionTypes currentScore window' := by
  have volume : ∀ (source : SignalSource) (w : List SignalEvent),
      (w.filter (·.source = source)).length = (w.map (·.source)).count source := by
    intro source w
    rw [List.count, List.countP_map, ← List.countP_eq_length_filter]
    refine List.countP_congr fun event _ => ?_
    simp
  unfold rankedActionTypes impactForActionType
  simp only [volume, h.count_eq]

/-- The action types of a list with their ranks. -/
def ranking (actions : List RecommendedAction) : List (ActionType × ℕ) :=
  actions.map fun action => (action.actionType, action.actionRank)

/-- Above LOW, a generated list ranks every type. -/
theorem ranking_generateRecommendations {gate : Gate} {forecast : ForecastResult}
    {window : List SignalEvent} (risky : forecast.currentRiskLevel ≠ .low) :
    (ranking (generateRecommendations gate forecast window)).map Prod.fst =
      rankedActionTypes ((forecast.scores.head?.map (·.score)).getD 0) window := by
  unfold ranking generateRecommendations
  simp only [if_neg risky, List.map_map]
  exact List.zipIdx_map_fst 0 _

theorem actionIdOf_injective (gateId : GateId) (generatedAt : String) :
    Function.Injective (actionIdOf gateId generatedAt) := by
  intro a b same
  unfold actionIdOf at same
  have texts : a.text = b.text := (String.append_right_inj _).mp same
  cases a <;> cases b <;> first | rfl | exact absurd texts (by decide)

/-- The action ids a forecast gives rise to. -/
def generatedIds (gateId : GateId) (forecast : ForecastResult) : List String :=
  if forecast.currentRiskLevel = .low then []
  else candidateActionTypes.map (actionIdOf gateId forecast.generatedAt)

/-- The ids of a generated list depend on the forecast only, not on the
window that ranks them. -/
theorem generateRecommendations_ids (gate : Gate) (forecast : ForecastResult)
    (window : List SignalEvent) :
    ((generateRecommendations gate forecast window).map (·.actionId)).Perm
      (generatedIds gate.gateId forecast) := by
  unfold generateRecommendations generatedIds
  by_cases low : forecast.currentRiskLevel = .low
  · simp only [if_pos low, List.map_nil]
    exact .refl _
  · simp only [if_neg low, List.map_map]
    have ids := (rankedActionTypes_perm
      ((forecast.scores.head?.map (·.score)).getD 0) window).map
        (actionIdOf gate.gateId forecast.generatedAt)
    rw [← List.zipIdx_map_fst 0 (rankedActionTypes _ window), List.map_map] at ids
    exact ids

theorem generatedIds_nodup (gateId : GateId) (forecast : ForecastResult) :
    (generatedIds gateId forecast).Nodup := by
  unfold generatedIds
  split
  · exact List.nodup_nil
  · exact List.Nodup.map (actionIdOf_injective gateId forecast.generatedAt) (by decide)

/-- The action as it was generated. -/
def RecommendedAction.unmarked (action : RecommendedAction) : RecommendedAction :=
  { action with executedAt := none, executedByUserId := none }

theorem unmarked_of_generated {gate : Gate} {forecast : ForecastResult}
    {window : List SignalEvent} {action : RecommendedAction}
    (generated : action ∈ generateRecommendations gate forecast window) :
    action.unmarked = action := by
  unfold generateRecommendations at generated
  by_cases low : forecast.currentRiskLevel = .low
  · simp only [if_pos low, List.not_mem_nil] at generated
  · simp only [if_neg low, List.mem_map] at generated
    obtain ⟨ranked, -, rfl⟩ := generated
    rfl

/-- Every action of a list is its gate's, and not executed. -/
theorem mem_generateRecommendations {gate : Gate} {forecast : ForecastResult}
    {window : List SignalEvent} {action : RecommendedAction}
    (generated : action ∈ generateRecommendations gate forecast window) :
    action.gateId = gate.gateId ∧ action.executedAt = none := by
  unfold generateRecommendations at generated
  by_cases low : forecast.currentRiskLevel = .low
  · simp only [if_pos low, List.not_mem_nil] at generated
  · simp only [if_neg low, List.mem_map] at generated
    obtain ⟨ranked, -, rfl⟩ := generated
    exact ⟨rfl, rfl⟩

end Stadium
