import Stadium.CongestionForecaster.RiskComparison

/-!
# Risk transition alerts

`alerts.ts`: an alert is due when a gate goes from LOW or MODERATE to HIGH or
CRITICAL. Its id comes from `randomUUID` and is an argument here.
-/

namespace Stadium

/-- From LOW or MODERATE to HIGH or CRITICAL. -/
def riskTransition (previousRiskLevel newRiskLevel : RiskLevel) : Bool :=
  !previousRiskLevel.highOrCritical && newRiskLevel.highOrCritical

def checkRiskLevelTransition (alertId : ℕ) (gateId : GateId)
    (previousRiskLevel newRiskLevel : RiskLevel) (now : ℤ) : Option Alert :=
  let wasLowOrModerate := !previousRiskLevel.highOrCritical
  let isNowHighOrCritical := newRiskLevel.highOrCritical
  if !(wasLowOrModerate && isNowHighOrCritical) then none
  else some {
    alertId
    gateId
    alertType := .riskLevel
    raisedAt := IsoDate.toISOString now
    riskLevel := some newRiskLevel }

/-- How many transitions a sequence of levels makes after `previous`. -/
def transitionCount (previous : RiskLevel) : List RiskLevel → ℕ
  | [] => 0
  | level :: rest => (riskTransition previous level).toNat + transitionCount level rest

/-- One more level adds its own transition. -/
theorem transitionCount_append_singleton (previous : RiskLevel) (levels : List RiskLevel)
    (level : RiskLevel) :
    transitionCount previous (levels ++ [level]) =
      transitionCount previous levels +
        (riskTransition (levels.getLast?.getD previous) level).toNat := by
  induction levels generalizing previous with
  | nil => exact Nat.add_comm _ _
  | cons first rest ih =>
      have last : (first :: rest).getLast?.getD previous = rest.getLast?.getD first := by
        rw [List.getLast?_cons, Option.getD_some]
      rw [List.cons_append, transitionCount, transitionCount, ih, last, Nat.add_assoc]

end Stadium
