import Stadium.CongestionForecaster.Forecast

/-!
# The computation deadline

`fallback.ts`. The wrapper races the computation against a timer. The winner
is an input here (`timedOut`), as is the last-known score a timeout would
read; next to the result stands the point that is written back to Redis
(nothing after a timeout).

The computation settles in a microtask and the timer fires no earlier than
30 s later as a task of its own, so in the pipeline the computation wins.
-/

namespace Stadium

/-- The result of the race and the point to store as the last-known score. -/
def computeForecastWithFallback (gate : Gate) (window : List SignalEvent) (now : ℤ)
    (timedOut : Bool) (lastKnown : Option CongestionScorePoint) :
    Except String (ForecastResult × Option CongestionScorePoint) := do
  if timedOut then
    match lastKnown with
    | some point =>
        let outdatedPoint := { point with outdated := true }
        return ({ scores := [outdatedPoint], lowConfidence := outdatedPoint.lowConfidence }, none)
    | none =>
        let defaultResult ← computeForecast gate [] now
        return ({ scores := defaultResult.scores.map fun point => { point with outdated := true }
                  lowConfidence := true }, none)
  else
    let result ← computeForecast gate window now
    return (result, result.scores.head?)

/-- When the computation wins, the wrapper returns the forecast and stores its
current point. -/
theorem computeForecastWithFallback_computed (gate : Gate) (window : List SignalEvent) (now : ℤ)
    (lastKnown : Option CongestionScorePoint) :
    computeForecastWithFallback gate window now false lastKnown =
      .ok (forecastOf gate window now, some (currentPointOf gate window now)) := by
  unfold computeForecastWithFallback
  rw [if_neg Bool.false_ne_true, computeForecast_ok]
  rfl

end Stadium
