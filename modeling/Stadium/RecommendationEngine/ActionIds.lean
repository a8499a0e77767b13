import Stadium.Lib.IsoText
import Stadium.RecommendationEngine.Recommendations

/-!
# Action ids

An action id joins the gate, the time of the forecast and the action type with
hyphens. The type contains none, the others may. So two ids agree exactly if
the types do and the gates and times read alike with a hyphen in between. Times
that are texts of instants leave no room for that: whatever the gates are
called, the id of an action generated from a forecast of this process tells its
gate, its time and its type (`RecommendedAction.OwnId.inj`).
-/

namespace Stadium

theorem ActionType.dash_notMem_text (actionType : ActionType) : '-' ∉ actionType.text.toList := by
  cases actionType <;> decide

theorem actionIdOf_eq_join (gateId : GateId) (generatedAt : String) (actionType : ActionType) :
    actionIdOf gateId generatedAt actionType =
      Text.join '-' (Text.join '-' gateId generatedAt) actionType.text :=
  rfl

/-- **When two action ids agree.** -/
theorem actionIdOf_eq_iff {gateId gateId' : GateId} {generatedAt generatedAt' : String}
    {actionType actionType' : ActionType} :
    actionIdOf gateId generatedAt actionType = actionIdOf gateId' generatedAt' actionType' ↔
      Text.ReadsLike '-' gateId generatedAt gateId' generatedAt' ∧ actionType = actionType' := by
  rw [actionIdOf_eq_join, actionIdOf_eq_join,
    Text.join_inj_of_plain_right actionType.dash_notMem_text actionType'.dash_notMem_text,
    Text.join_eq_join_iff]
  refine and_congr_right fun _ => ⟨?_, congrArg _⟩
  intro texts
  -- the ids of one gate and one time already show the type
  exact actionIdOf_injective "" "" (congrArg (Text.join '-' (Text.join '-' "" "")) texts)

/-- Where both times are texts of instants, the ids tell everything. -/
theorem actionIdOf_inj_of_toISOString {gateId gateId' : GateId} {instant instant' : ℤ}
    {actionType actionType' : ActionType}
    (same : actionIdOf gateId (IsoDate.toISOString instant) actionType =
      actionIdOf gateId' (IsoDate.toISOString instant') actionType') :
    gateId = gateId' ∧ instant = instant' ∧ actionType = actionType' := by
  obtain ⟨alike, types⟩ := actionIdOf_eq_iff.mp same
  rw [← Text.join_eq_join_iff, IsoDate.join_toISOString_inj] at alike
  exact ⟨alike.1, alike.2, types⟩

/-- The actions of the forecast are dated by an instant. -/
def ForecastResult.Dated (forecast : ForecastResult) : Prop :=
  ∃ instant, forecast.generatedAt = IsoDate.toISOString instant

theorem forecastOf_dated (gate : Gate) (window : List SignalEvent) (now : ℤ) :
    (forecastOf gate window now).Dated :=
  ⟨_, rfl⟩

namespace RecommendedAction

/-- Gate, action type and time, what an action's id is made of. -/
def subject (action : RecommendedAction) : GateId × ActionType × String :=
  (action.gateId, action.actionType, action.generatedAt)

/-- The action has the id that its gate, an instant and its type give it. -/
structure OwnId (action : RecommendedAction) : Prop where
  dated : ∃ instant, action.generatedAt = IsoDate.toISOString instant
  named : action.actionId = actionIdOf action.gateId action.generatedAt action.actionType

/-- **An id tells gate, time and type.** -/
theorem OwnId.inj {a b : RecommendedAction} (first : a.OwnId) (second : b.OwnId)
    (same : a.actionId = b.actionId) : a.subject = b.subject := by
  obtain ⟨⟨instant, dated⟩, named⟩ := first
  obtain ⟨⟨instant', dated'⟩, named'⟩ := second
  rw [named, named', dated, dated'] at same
  obtain ⟨gates, instants, types⟩ := actionIdOf_inj_of_toISOString same
  unfold subject
  rw [gates, types, dated, dated', instants]

/-- Every action generated from a dated forecast has its own id. -/
theorem ownId_of_generated {gate : Gate} {forecast : ForecastResult}
    {window : List SignalEvent} {action : RecommendedAction} (dated : forecast.Dated)
    (generated : action ∈ generateRecommendations gate forecast window) : action.OwnId := by
  unfold generateRecommendations at generated
  by_cases low : forecast.currentRiskLevel = .low
  · simp only [if_pos low, List.not_mem_nil] at generated
  · simp only [if_neg low, List.mem_map] at generated
    obtain ⟨ranked, -, rfl⟩ := generated
    exact ⟨dated, rfl⟩

end RecommendedAction

end Stadium
