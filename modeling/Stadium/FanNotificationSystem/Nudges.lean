import Stadium.CongestionForecaster.RiskComparison

/-!
# The notification system's pure core

`nudges.ts`: the cooldown check, the risk check and the nudge itself.
-/

namespace Stadium

/-- The least time between two nudges to the same fan about the same gate. -/
def cooldownPeriodMs : ℤ := 5 * 60 * 1000

structure FanContext where
  fanId : FanId
  deriving DecidableEq

/-- The cooldown check: the last nudge is still too recent. -/
def inCooldown (lastNudgeAt : Option ℤ) (now : ℤ) : Bool :=
  lastNudgeAt.any fun last => decide (now - last < cooldownPeriodMs)

def generateFanNudge (localeCompare : String → String → Ordering) (fan : FanContext)
    (originGate : Gate) (forecastsByGate : OrderedMap GateId ForecastResult)
    (lastNudgeAt : Option ℤ) (now : ℤ) : Option FanNudge :=
  if inCooldown lastNudgeAt now then none
  else
    let originRiskLevel := currentRiskLevel (forecastsByGate.get? originGate.gateId)
    if !originRiskLevel.highOrCritical then none
    else
      let alternativeGateId := pickAlternativeGate localeCompare originGate.gateId
        originRiskLevel forecastsByGate
      let generatedAt := IsoDate.toISOString now
      let laterArrival := IsoDate.toISOString (now + 20 * 60 * 1000)
      let message :=
        match truthy alternativeGateId with
        | some alternative =>
            s!"{originGate.name} is experiencing {originRiskLevel.text} congestion. " ++
            s!"Consider using Gate {alternative} instead."
        | none =>
            s!"{originGate.name} is experiencing {originRiskLevel.text} congestion. " ++
            s!"Consider arriving later, around {laterArrival}."
      some {
        nudgeId := s!"{fan.fanId}-{originGate.gateId}-{generatedAt}"
        fanId := fan.fanId
        originGateId := originGate.gateId
        alternativeGateId
        alternativeArrivalTime :=
          if (truthy alternativeGateId).isSome then none else some laterArrival
        message
        generatedAt
        status := .queued }

/-- What is known of a generated nudge: it passed the cooldown check, and it
names its fan, its gate and the captured time. -/
theorem generateFanNudge_spec {localeCompare : String → String → Ordering} {fan : FanContext}
    {originGate : Gate} {forecastsByGate : OrderedMap GateId ForecastResult}
    {lastNudgeAt : Option ℤ} {now : ℤ} {nudge : FanNudge}
    (h : generateFanNudge localeCompare fan originGate forecastsByGate lastNudgeAt now =
      some nudge) :
    inCooldown lastNudgeAt now = false ∧ nudge.fanId = fan.fanId ∧
      nudge.originGateId = originGate.gateId ∧ nudge.generatedAt = IsoDate.toISOString now := by
  unfold generateFanNudge at h
  cases cooling : inCooldown lastNudgeAt now with
  | true => simp [cooling] at h
  | false =>
      simp only [cooling, Bool.false_eq_true, if_false] at h
      split at h
      · cases h
      · cases h
        exact ⟨rfl, rfl, rfl, rfl⟩

/-- A nudge is generated exactly outside the cooldown, for a gate of HIGH or
CRITICAL current Risk_Level. -/
theorem generateFanNudge_isSome {localeCompare : String → String → Ordering} {fan : FanContext}
    {originGate : Gate} {forecastsByGate : OrderedMap GateId ForecastResult}
    {lastNudgeAt : Option ℤ} {now : ℤ} :
    (generateFanNudge localeCompare fan originGate forecastsByGate lastNudgeAt now).isSome ↔
      inCooldown lastNudgeAt now = false ∧
        (currentRiskLevel (forecastsByGate.get? originGate.gateId)).highOrCritical = true := by
  unfold generateFanNudge
  cases cooling : inCooldown lastNudgeAt now <;>
    cases risky : (currentRiskLevel (forecastsByGate.get? originGate.gateId)).highOrCritical <;>
      simp [risky]

/-- Outside the cooldown check, the last nudge is at least a period old. -/
theorem inCooldown_eq_false {last now : ℤ} :
    inCooldown (some last) now = false ↔ last + cooldownPeriodMs ≤ now := by
  simp only [inCooldown, Option.any_some, decide_eq_false_iff_not, not_lt]
  omega

end Stadium
