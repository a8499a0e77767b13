import Stadium.RecommendationEngine.Recommendations

/-!
# The action list is the impact ranking

The comparator of `scored.sort` is a total order on the four candidates, by
descending impact and then by the name of the action type. The sorted list is
therefore the only one in that order, whatever the impacts, and it depends on
the window only through its volumes by source.
-/

namespace Stadium

/-! ## The comparator -/

/-- `tieOrder` is the order of the names. -/
theorem ActionType.tieOrder_lt_iff (a b : ActionType) :
    a.tieOrder < b.tieOrder ↔ a.text < b.text := by
  cases a <;> cases b <;> decide

theorem ActionType.tieOrder_injective : Function.Injective ActionType.tieOrder := by
  intro a b same
  cases a <;> cases b <;> first | rfl | cases same

instance : Std.Total ScoredAction.before := by
  constructor
  intro a b
  unfold ScoredAction.before
  rcases lt_trichotomy a.impact b.impact with less | same | more
  · exact .inr (.inl less)
  · rcases Nat.le_total a.actionType.tieOrder b.actionType.tieOrder with first | second
    · exact .inl (.inr ⟨same.symm, first⟩)
    · exact .inr (.inr ⟨same, second⟩)
  · exact .inl (.inl more)

instance : IsTrans ScoredAction ScoredAction.before := by
  constructor
  intro a b c first second
  unfold ScoredAction.before at *
  rcases first with above | ⟨level, tie⟩
  · rcases second with above' | ⟨level', -⟩
    · exact .inl (above'.trans above)
    · exact .inl (level' ▸ above)
  · rcases second with above' | ⟨level', tie'⟩
    · exact .inl (level ▸ above')
    · exact .inr ⟨level'.trans level, tie.trans tie'⟩

/-! ## The ranked action types -/

/-- `a` comes before `b` in the ranking: its impact is at least that of `b`, and
if the two are equal its name comes first. -/
def RankedBefore (currentScore : ℤ) (window : List SignalEvent) (a b : ActionType) : Prop :=
  impactForActionType b currentScore window ≤ impactForActionType a currentScore window ∧
    (impactForActionType b currentScore window = impactForActionType a currentScore window →
      a.text < b.text)

/-- The ranking is in the order of the impacts. -/
theorem rankedActionTypes_ordered (currentScore : ℤ) (window : List SignalEvent) :
    (rankedActionTypes currentScore window).Pairwise (RankedBefore currentScore window) := by
  let scored : ActionType → ScoredAction := fun actionType =>
    { actionType, impact := impactForActionType actionType currentScore window }
  let sorted := (candidateActionTypes.map scored).insertionSort ScoredAction.before
  have perm : sorted.Perm (candidateActionTypes.map scored) := List.perm_insertionSort _ _
  have ordered : sorted.Pairwise ScoredAction.before := List.pairwise_insertionSort _ _
  have distinct : sorted.Pairwise fun a b => a.actionType ≠ b.actionType := by
    apply List.pairwise_map.mp
    apply (perm.map (·.actionType)).nodup_iff.mpr
    show (candidateActionTypes.map id).Nodup
    decide
  have own : ∀ entry ∈ sorted,
      entry.impact = impactForActionType entry.actionType currentScore window := by
    intro entry listed
    obtain ⟨actionType, -, rfl⟩ := List.mem_map.mp (perm.subset listed)
    rfl
  show (sorted.map (·.actionType)).Pairwise _
  apply List.pairwise_map.mpr
  refine (ordered.and distinct).imp_of_mem ?_
  intro a b first second both
  unfold RankedBefore
  rw [← own a first, ← own b second]
  rcases both with ⟨above | ⟨level, tie⟩, different⟩
  · exact ⟨above.le, fun level => absurd level above.ne⟩
  · refine ⟨level.le, fun _ => (ActionType.tieOrder_lt_iff _ _).mp ?_⟩
    exact lt_of_le_of_ne tie fun same => different (ActionType.tieOrder_injective same)

/-! ## The generated list -/

/-- The score `generateRecommendations` ranks by. -/
def ForecastResult.rankingScore (forecast : ForecastResult) : ℤ :=
  (forecast.scores.head?.map (·.score)).getD 0

theorem generateRecommendations_types {gate : Gate} {forecast : ForecastResult}
    {window : List SignalEvent} (risky : forecast.currentRiskLevel ≠ .low) :
    (generateRecommendations gate forecast window).map (·.actionType) =
      rankedActionTypes forecast.rankingScore window := by
  have ranked : (ranking (generateRecommendations gate forecast window)).map Prod.fst =
      rankedActionTypes forecast.rankingScore window := ranking_generateRecommendations risky
  rw [← ranked, ranking, List.map_map]
  rfl

/-- The ranks count from 1 in list order. -/
theorem generateRecommendations_ranks (gate : Gate) (forecast : ForecastResult)
    (window : List SignalEvent) :
    (generateRecommendations gate forecast window).map (·.actionRank) =
      List.range' 1 (generateRecommendations gate forecast window).length := by
  unfold generateRecommendations
  by_cases low : forecast.currentRiskLevel = .low
  · simp only [if_pos low, List.map_nil, List.length_nil, List.range'_zero]
  · simp only [if_neg low, List.map_map, List.length_map, List.length_zipIdx]
    rw [← List.zipIdx_map_snd 1, List.zipIdx_succ, List.map_map]
    rfl

/-- The list is a function of its action types. -/
theorem ranking_eq (gate : Gate) (forecast : ForecastResult) (window : List SignalEvent) :
    ranking (generateRecommendations gate forecast window) =
      ((generateRecommendations gate forecast window).map (·.actionType)).zip
        (List.range' 1 (generateRecommendations gate forecast window).length) := by
  rw [← generateRecommendations_ranks, List.zip_map']
  rfl

/-- The ranking does not depend on the order of the window. -/
theorem ranking_perm (gate : Gate) (forecast : ForecastResult) {window window' : List SignalEvent}
    (reordered : window'.Perm window) :
    ranking (generateRecommendations gate forecast window') =
      ranking (generateRecommendations gate forecast window) := by
  have types : (generateRecommendations gate forecast window').map (·.actionType) =
      (generateRecommendations gate forecast window).map (·.actionType) := by
    by_cases low : forecast.currentRiskLevel = .low
    · simp only [generateRecommendations, if_pos low]
    · rw [generateRecommendations_types low, generateRecommendations_types low]
      exact rankedActionTypes_congr (reordered.map (·.source))
  have length := congrArg List.length types
  rw [List.length_map, List.length_map] at length
  rw [ranking_eq, ranking_eq, types, length]

/-- **The action list is the impact ranking.** It is empty at a LOW gate; at any
other it has one action for each candidate type, ranked from 1 in list order by
descending impact and then by the name of the type, the same for every order of
the window. -/
theorem generateRecommendations_ranked (gate : Gate) (forecast : ForecastResult)
    (window : List SignalEvent) :
    let actions := generateRecommendations gate forecast window
    (forecast.currentRiskLevel = .low → actions = []) ∧
    (forecast.currentRiskLevel ≠ .low →
      (actions.map (·.actionType)).Perm candidateActionTypes) ∧
    actions.map (·.actionRank) = List.range' 1 actions.length ∧
    actions.Pairwise (fun a b =>
      RankedBefore forecast.rankingScore window a.actionType b.actionType) ∧
    ∀ window', window'.Perm window →
      ranking (generateRecommendations gate forecast window') = ranking actions := by
  intro actions
  refine ⟨?_, ?_, generateRecommendations_ranks gate forecast window, ?_,
    fun _ => ranking_perm gate forecast⟩
  · intro low
    exact if_pos low
  · intro risky
    rw [generateRecommendations_types risky]
    exact rankedActionTypes_perm forecast.rankingScore window
  · by_cases low : forecast.currentRiskLevel = .low
    · rw [show actions = [] from if_pos low]
      exact .nil
    · apply List.pairwise_map.mp
      rw [generateRecommendations_types low]
      exact rankedActionTypes_ordered forecast.rankingScore window

end Stadium
