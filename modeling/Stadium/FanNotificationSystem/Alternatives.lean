import Stadium.CongestionForecaster.Monotonicity

/-!
# A nudge fires when due, with one usable alternative

The cooldown and the current Risk_Level of the origin alone decide whether a
nudge is generated. What it carries is decided by the pick: a gate if some other
gate has a strictly lower level, the least loaded one, and a later arrival time
otherwise. No id is empty, so an id that was picked is an id to JavaScript.
-/

namespace Stadium

section

variable {localeCompare : String → String → Ordering} {originGate : Gate}
  {forecastsByGate : OrderedMap GateId ForecastResult}

theorem truthy_pick {originGateId : GateId} {originRiskLevel : RiskLevel}
    (named : forecastsByGate.get? "" = none) :
    truthy (pickAlternativeGate localeCompare originGateId originRiskLevel forecastsByGate) =
      pickAlternativeGate localeCompare originGateId originRiskLevel forecastsByGate := by
  cases picked : pickAlternativeGate localeCompare originGateId originRiskLevel forecastsByGate with
  | none => rfl
  | some gateId =>
      apply truthy_eq_some.mpr
      exact ⟨rfl, pick_ne_empty named picked⟩

theorem pick_isSome_iff {originGateId : GateId} {originRiskLevel : RiskLevel} :
    (pickAlternativeGate localeCompare originGateId originRiskLevel forecastsByGate).isSome ↔
      ∃ gateId, LowerRiskGate originGateId originRiskLevel forecastsByGate gateId := by
  constructor
  · intro some
    obtain ⟨gateId, picked⟩ := Option.isSome_iff_exists.mp some
    exact ⟨gateId, lowerRiskGate_of_pick picked⟩
  · rintro ⟨gateId, lower⟩
    exact pick_isSome_of_lowerRiskGate localeCompare lower

/-- A nudge carries an arrival time exactly when no usable gate was picked. -/
theorem generateFanNudge_arrival {fan : FanContext} {lastNudgeAt : Option ℤ} {now : ℤ}
    {nudge : FanNudge}
    (generated : generateFanNudge localeCompare fan originGate forecastsByGate lastNudgeAt now =
      some nudge) :
    nudge.alternativeArrivalTime.isSome = !(truthy nudge.alternativeGateId).isSome := by
  obtain ⟨risky, picked⟩ := generateFanNudge_alternative generated
  unfold generateFanNudge at generated
  split at generated
  · cases generated
  · simp only [risky, Bool.not_true, Bool.false_eq_true, if_false, Option.some.injEq] at generated
    rw [picked, ← generated]
    cases usable : truthy (pickAlternativeGate localeCompare originGate.gateId
      (currentRiskLevel (forecastsByGate.get? originGate.gateId)) forecastsByGate) <;> rfl

end

/-- The last nudge, if there is one, is at least a cooldown period old. -/
def CooledDown (lastNudgeAt : Option ℤ) (now : ℤ) : Prop :=
  ∀ last, lastNudgeAt = some last → cooldownPeriodMs ≤ now - last

theorem cooledDown_iff {lastNudgeAt : Option ℤ} {now : ℤ} :
    CooledDown lastNudgeAt now ↔ inCooldown lastNudgeAt now = false := by
  unfold CooledDown
  cases lastNudgeAt with
  | none => simp [inCooldown]
  | some last =>
      rw [inCooldown_eq_false]
      constructor
      · intro old
        have age := old last rfl
        omega
      · rintro due _ ⟨⟩
        omega

/-- The gate has the least Risk_Level and, among those of that level, the least
score of all gates other than the origin. -/
def LeastLoaded (originGateId : GateId) (forecastsByGate : OrderedMap GateId ForecastResult)
    (gateId : GateId) : Prop :=
  ∃ forecast, forecastsByGate.get? gateId = some forecast ∧
    ∀ other forecast', other ≠ originGateId → forecastsByGate.get? other = some forecast' →
      riskOrderOf (currentRiskLevel (some forecast)) <
          riskOrderOf (currentRiskLevel (some forecast')) ∨
        currentRiskLevel (some forecast) = currentRiskLevel (some forecast') ∧
          currentScore (some forecast) ≤ currentScore (some forecast')

theorem riskOrderOf_injective : Function.Injective riskOrderOf := by
  intro a b same
  cases a <;> cases b <;> first | rfl | cases same

/-- **A nudge fires exactly when due, with one usable alternative.** It is returned
for a HIGH or CRITICAL origin outside the cooldown; it carries a gate or an
arrival time, never both; a gate exactly when some other gate has a strictly
lower level, and then the least loaded one, which has. -/
theorem generateFanNudge_due (localeCompare : String → String → Ordering) (fan : FanContext)
    (originGate : Gate) (forecastsByGate : OrderedMap GateId ForecastResult)
    (lastNudgeAt : Option ℤ) (now : ℤ) (named : forecastsByGate.get? "" = none) :
    let originRiskLevel := currentRiskLevel (forecastsByGate.get? originGate.gateId)
    ((generateFanNudge localeCompare fan originGate forecastsByGate lastNudgeAt now).isSome ↔
      originRiskLevel.highOrCritical = true ∧ CooledDown lastNudgeAt now) ∧
    ∀ nudge, generateFanNudge localeCompare fan originGate forecastsByGate lastNudgeAt now =
        some nudge →
      nudge.alternativeArrivalTime.isSome = !nudge.alternativeGateId.isSome ∧
      (nudge.alternativeGateId.isSome ↔
        ∃ gateId, LowerRiskGate originGate.gateId originRiskLevel forecastsByGate gateId) ∧
      ∀ gateId, nudge.alternativeGateId = some gateId →
        LowerRiskGate originGate.gateId originRiskLevel forecastsByGate gateId ∧
          LeastLoaded originGate.gateId forecastsByGate gateId := by
  intro originRiskLevel
  refine ⟨?_, ?_⟩
  · rw [generateFanNudge_isSome, cooledDown_iff, and_comm]
  · intro nudge generated
    obtain ⟨-, picked⟩ := generateFanNudge_alternative generated
    refine ⟨?_, ?_, ?_⟩
    · rw [generateFanNudge_arrival generated, picked, truthy_pick named]
    · rw [picked]
      exact pick_isSome_iff
    · intro gateId chosen
      rw [picked] at chosen
      obtain ⟨forecast, found, least⟩ := load_le_of_pick chosen
      refine ⟨lowerRiskGate_of_pick chosen, forecast, found, ?_⟩
      intro other forecast' elsewhere found'
      rcases Prod.Lex.toLex_le_toLex.mp (least other forecast' elsewhere found') with
        lower | ⟨level, score⟩
      · exact .inl lower
      · exact .inr ⟨riskOrderOf_injective level, score⟩

/-- A fan five minutes after the last nudge about CRITICAL gate A. -/
theorem generateFanNudge_due_demo :
    (generateFanNudge compare ⟨"fan-1"⟩ demoGateA crowdedForecasts (some 0) 300000).isSome :=
  (generateFanNudge_due compare ⟨"fan-1"⟩ demoGateA crowdedForecasts (some 0) 300000
    (by decide +kernel)).1.mpr ⟨by decide +kernel, cooledDown_iff.mpr (by decide)⟩

end Stadium
