import Stadium.CongestionForecaster.Fallback
import Stadium.Infra.Topology

/-!
# Recomputes

`scheduler.ts`: a recompute computes a forecast under the deadline and
publishes it. The wrapper makes one Redis call: it reads the last-known score
after a timeout, and stores the current point otherwise. A rejection of that
call rejects the recompute before it publishes, although a fresh forecast, or
the default one, was there to be published (`recompute_publishes_iff`).

A published series covers the whole horizon, but for one case: after a timeout
the last-known score is published as the only point of its series
(`published_forecast_well_formed`).
-/

namespace Stadium

/-- How the Redis calls of one recompute would settle; an error is a
rejection. -/
structure RedisCalls where
  getLastKnownScore : Except String (Option CongestionScorePoint)
  setLastKnownScore : Except String Unit

/-- `computeForecastWithFallback` with Redis calls that may reject. -/
def forecastWithRedis (gate : Gate) (window : List SignalEvent) (now : ℤ) (timedOut : Bool)
    (calls : RedisCalls) : Except String ForecastResult := do
  if timedOut then
    let lastKnown ← calls.getLastKnownScore
    let (result, _) ← computeForecastWithFallback gate window now true lastKnown
    return result
  else
    let (result, currentPoint) ← computeForecastWithFallback gate window now false none
    if currentPoint.isSome then calls.setLastKnownScore
    return result

/-- `ForecastScheduler.recompute`: the forecasts that are published. -/
def recompute (gate : Gate) (window : List SignalEvent) (now : ℤ) (timedOut : Bool)
    (calls : RedisCalls) : List (Gate × ForecastResult) :=
  match forecastWithRedis gate window now timedOut calls with
  | .ok result => [(gate, result)]
  | .error _ => []

/-! ## The three results -/

/-- The last-known score, marked outdated, as a series of its own. -/
def lastKnownForecast (point : CongestionScorePoint) : ForecastResult :=
  { scores := [{ point with outdated := true }], lowConfidence := point.lowConfidence }

/-- The forecast of an empty window, marked outdated. -/
def defaultForecast (gate : Gate) (now : ℤ) : ForecastResult :=
  { scores := (forecastOf gate [] now).scores.map fun point => { point with outdated := true }
    lowConfidence := true }

theorem computeForecastWithFallback_lastKnown (gate : Gate) (window : List SignalEvent) (now : ℤ)
    (point : CongestionScorePoint) :
    computeForecastWithFallback gate window now true (some point) =
      .ok (lastKnownForecast point, none) := rfl

theorem computeForecastWithFallback_default (gate : Gate) (window : List SignalEvent) (now : ℤ) :
    computeForecastWithFallback gate window now true none =
      .ok (defaultForecast gate now, none) := by
  unfold computeForecastWithFallback
  rw [if_pos rfl]
  simp only [computeForecast_ok]
  rfl

/-- What a timeout publishes, from what Redis answers. -/
def fallbackForecast (gate : Gate) (now : ℤ) (lastKnown : Option CongestionScorePoint) :
    ForecastResult :=
  match lastKnown with
  | some point => lastKnownForecast point
  | none => defaultForecast gate now

theorem computeForecastWithFallback_timedOut (gate : Gate) (window : List SignalEvent) (now : ℤ)
    (lastKnown : Option CongestionScorePoint) :
    computeForecastWithFallback gate window now true lastKnown =
      .ok (fallbackForecast gate now lastKnown, none) := by
  cases lastKnown with
  | some point => exact computeForecastWithFallback_lastKnown gate window now point
  | none => exact computeForecastWithFallback_default gate window now

/-! ## When a recompute publishes -/

/-- The forecast that ought to be published: the fresh one if the computation
finished, else the last-known one, or the default one if none is known. -/
inductive OughtToPublish (gate : Gate) (window : List SignalEvent) (now : ℤ)
    (calls : RedisCalls) : Bool → ForecastResult → Prop
  | fresh : OughtToPublish gate window now calls false (forecastOf gate window now)
  | lastKnown (point : CongestionScorePoint) : calls.getLastKnownScore = .ok (some point) →
      OughtToPublish gate window now calls true (lastKnownForecast point)
  | default : (∀ point, calls.getLastKnownScore ≠ .ok (some point)) →
      OughtToPublish gate window now calls true (defaultForecast gate now)

/-- Exactly one forecast is published for the gate, the one that ought to be. -/
def EndsPublished (gate : Gate) (window : List SignalEvent) (now : ℤ) (timedOut : Bool)
    (calls : RedisCalls) : Prop :=
  ∃ result, recompute gate window now timedOut calls = [(gate, result)] ∧
    OughtToPublish gate window now calls timedOut result

/-- The call the recompute makes rejects: the read after a timeout, the write
otherwise. -/
def RedisCalls.Rejects (calls : RedisCalls) (timedOut : Bool) : Prop :=
  if timedOut then ∃ reason, calls.getLastKnownScore = .error reason
  else ∃ reason, calls.setLastKnownScore = .error reason

theorem recompute_timedOut (gate : Gate) (window : List SignalEvent) (now : ℤ)
    (calls : RedisCalls) :
    recompute gate window now true calls =
      match calls.getLastKnownScore with
      | .ok lastKnown => [(gate, fallbackForecast gate now lastKnown)]
      | .error _ => [] := by
  unfold recompute forecastWithRedis
  rw [if_pos rfl]
  cases calls.getLastKnownScore with
  | error reason => rfl
  | ok lastKnown =>
      show (match (do
        let (result, _) ← computeForecastWithFallback gate window now true lastKnown
        return result : Except String ForecastResult) with
        | .ok result => [(gate, result)]
        | .error _ => []) = _
      rw [computeForecastWithFallback_timedOut]
      rfl

theorem recompute_computed (gate : Gate) (window : List SignalEvent) (now : ℤ)
    (calls : RedisCalls) :
    recompute gate window now false calls =
      match calls.setLastKnownScore with
      | .ok () => [(gate, forecastOf gate window now)]
      | .error _ => [] := by
  unfold recompute forecastWithRedis
  rw [if_neg Bool.false_ne_true, computeForecastWithFallback_computed]
  cases calls.setLastKnownScore with
  | error reason => rfl
  | ok done => rfl

/-- **A recompute ends in the right forecast exactly when its Redis call does
not reject.** -/
theorem recompute_publishes_iff (gate : Gate) (window : List SignalEvent) (now : ℤ)
    (timedOut : Bool) (calls : RedisCalls) :
    EndsPublished gate window now timedOut calls ↔ ¬ calls.Rejects timedOut := by
  unfold EndsPublished RedisCalls.Rejects
  cases timedOut with
  | false =>
      rw [recompute_computed, if_neg Bool.false_ne_true]
      cases calls.setLastKnownScore with
      | error reason => simp
      | ok done =>
          refine iff_of_true ⟨_, rfl, .fresh⟩ ?_
          rintro ⟨reason, rejected⟩
          cases rejected
  | true =>
      rw [recompute_timedOut, if_pos rfl]
      cases read : calls.getLastKnownScore with
      | error reason => simp
      | ok lastKnown =>
          refine iff_of_true ⟨_, rfl, ?_⟩ ?_
          · cases lastKnown with
            | some point => exact .lastKnown point read
            | none =>
                apply OughtToPublish.default
                intro point found
                rw [read] at found
                cases found
          · rintro ⟨reason, rejected⟩
            cases rejected

/-- The computation finishes, and the write of its current point rejects: the
fresh forecast is not published. -/
theorem rejected_write_suppresses_forecast :
    ¬ ∀ calls, EndsPublished demoGateA [] 0 false calls := by
  intro always
  obtain ⟨result, published, -⟩ := always ⟨.ok none, .error "ECONNREFUSED"⟩
  rw [recompute_computed] at published
  cases published

/-! ## Histories of recomputes -/

/-- One recompute of a gate, with the outcome of the race and of its Redis
call. -/
structure RecomputeRun where
  gate : Gate
  window : List SignalEvent
  now : ℤ
  timedOut : Bool
  rejects : Bool

/-- The state of Redis after a recompute: the point it stores is in the cache,
unless the call rejects, which has no effect. -/
def RecomputeRun.apply (redis : RedisState) (run : RecomputeRun) : RedisState :=
  match computeForecastWithFallback run.gate run.window run.now run.timedOut
      (redis.getLastKnownScore run.gate.gateId) with
  | .ok (_, some point) =>
      if run.rejects then redis else redis.setLastKnownScore run.gate.gateId point
  | _ => redis

/-- Redis after these recomputes, of any gates, in this order. -/
def redisAfter (history : List RecomputeRun) : RedisState :=
  history.foldl RecomputeRun.apply {}

/-- A recompute leaves the cache alone, or stores the current point of its
forecast. -/
theorem RecomputeRun.apply_cases (redis : RedisState) (run : RecomputeRun) :
    run.apply redis = redis ∨
      run.apply redis = redis.setLastKnownScore run.gate.gateId
        (currentPointOf run.gate run.window run.now) := by
  unfold RecomputeRun.apply
  cases run.timedOut with
  | false =>
      rw [computeForecastWithFallback_computed]
      cases run.rejects with
      | false => exact .inr rfl
      | true => exact .inl rfl
  | true =>
      rw [computeForecastWithFallback_timedOut]
      exact .inl rfl

/-- Whatever is cached for a gate id is the current point of a forecast. -/
theorem cached_is_current (history : List RecomputeRun) {gateId : GateId}
    {point : CongestionScorePoint}
    (cached : (redisAfter history).getLastKnownScore gateId = some point) :
    ∃ gate window now, gate.gateId = gateId ∧ point = currentPointOf gate window now := by
  induction history using List.reverseRecOn with
  | nil => cases cached
  | append_singleton earlier last ih =>
      have whole : redisAfter (earlier ++ [last]) = last.apply (redisAfter earlier) := by
        simp [redisAfter]
      rw [whole] at cached
      rcases last.apply_cases (redisAfter earlier) with same | stored
      · rw [same] at cached
        exact ih cached
      · rw [stored, RedisState.getLastKnownScore_set] at cached
        split at cached
        · rename_i same
          cases cached
          exact ⟨last.gate, last.window, last.now, same.symm, rfl⟩
        · exact ih cached

/-! ## Well-formed series -/

/-- Every point has a score in 0..100 with its own Risk_Level, and is marked
outdated exactly when the race was lost. -/
structure PointsWellFormed (result : ForecastResult) (timedOut : Bool) : Prop where
  nonempty : result.scores ≠ []
  bounds : ∀ point ∈ result.scores, 0 ≤ point.score ∧ point.score ≤ 100
  level : ∀ point ∈ result.scores, deriveRiskLevel point.score = .ok point.riskLevel
  outdated : ∀ point ∈ result.scores, point.outdated = timedOut

/-- The series starts at offset 0 and reaches 15 minutes in steps of at most
five. -/
structure CoversHorizon (result : ForecastResult) : Prop where
  start : (result.scores.map (·.offsetMinutes)).head? = some 0
  steps : (result.scores.map (·.offsetMinutes)).IsChain fun a b => a < b ∧ b ≤ a + 5
  reach : ∃ offset ∈ result.scores.map (·.offsetMinutes), 15 ≤ offset

theorem pointAt_level (gate : Gate) (now : ℤ) (base : ℚ) (lowConfidence : Bool)
    (offsetMinutes : ℕ) :
    deriveRiskLevel (pointAt gate now base lowConfidence offsetMinutes).score =
      .ok (pointAt gate now base lowConfidence offsetMinutes).riskLevel :=
  deriveRiskLevel_ok (scoreAt_bounds base offsetMinutes).1 (scoreAt_bounds base offsetMinutes).2

/-- Points of `forecastPoint` stay well formed when all are marked. -/
theorem pointsWellFormed_of_marked {result : ForecastResult} {timedOut : Bool}
    (nonempty : result.scores ≠ [])
    (made : ∀ point ∈ result.scores, ∃ gate now base lowConfidence offsetMinutes,
      point = { pointAt gate now base lowConfidence offsetMinutes with outdated := timedOut }) :
    PointsWellFormed result timedOut := by
  refine ⟨nonempty, ?_, ?_, ?_⟩ <;> intro point member <;>
    obtain ⟨gate, now, base, lowConfidence, offsetMinutes, rfl⟩ := made point member
  · exact scoreAt_bounds base offsetMinutes
  · exact pointAt_level gate now base lowConfidence offsetMinutes
  · rfl

theorem forecastOf_pointsWellFormed (gate : Gate) (window : List SignalEvent) (now : ℤ) :
    PointsWellFormed (forecastOf gate window now) false := by
  apply pointsWellFormed_of_marked
  · exact List.cons_ne_nil _ _
  · intro point member
    obtain ⟨offsetMinutes, -, rfl⟩ := List.mem_map.mp member
    exact ⟨gate, now, _, _, offsetMinutes, rfl⟩

theorem defaultForecast_pointsWellFormed (gate : Gate) (now : ℤ) :
    PointsWellFormed (defaultForecast gate now) true := by
  apply pointsWellFormed_of_marked
  · exact List.cons_ne_nil _ _
  · intro point member
    obtain ⟨unmarked, computed, rfl⟩ := List.mem_map.mp member
    obtain ⟨offsetMinutes, -, rfl⟩ := List.mem_map.mp computed
    exact ⟨gate, now, _, _, offsetMinutes, rfl⟩

/-- A series with the offsets of the horizon covers it. -/
theorem coversHorizon_of_offsets {result : ForecastResult}
    (offsets : result.scores.map (·.offsetMinutes) = forecastOffsetsMinutes) :
    CoversHorizon result := by
  refine ⟨?_, ?_, ?_⟩ <;> rw [offsets] <;> decide

/-- **Every forecast is well formed on every path**, whatever the earlier
recomputes cached, and covers the horizon unless a timeout serves the
last-known score: that one is the only point of its series, at offset 0. -/
theorem published_forecast_well_formed (history : List RecomputeRun) (gate : Gate)
    (window : List SignalEvent) (now : ℤ) (timedOut : Bool) :
    ∃ result stored,
      computeForecastWithFallback gate window now timedOut
        ((redisAfter history).getLastKnownScore gate.gateId) = .ok (result, stored) ∧
      PointsWellFormed result timedOut ∧
      (result.scores.map (·.offsetMinutes)).head? = some 0 ∧
      if timedOut ∧ ((redisAfter history).getLastKnownScore gate.gateId).isSome then
        result.scores.map (·.offsetMinutes) = [0]
      else CoversHorizon result := by
  cases timedOut with
  | false =>
      refine ⟨_, _, computeForecastWithFallback_computed gate window now _,
        forecastOf_pointsWellFormed gate window now, rfl, ?_⟩
      rw [if_neg (by simp)]
      exact coversHorizon_of_offsets rfl
  | true =>
      cases cached : (redisAfter history).getLastKnownScore gate.gateId with
      | none =>
          refine ⟨_, _, computeForecastWithFallback_default gate window now,
            defaultForecast_pointsWellFormed gate now, rfl, ?_⟩
          rw [if_neg (by simp)]
          exact coversHorizon_of_offsets rfl
      | some point =>
          obtain ⟨earlier, earlierWindow, earlierNow, -, rfl⟩ := cached_is_current history cached
          refine ⟨_, _, computeForecastWithFallback_lastKnown gate window now _, ?_, rfl, ?_⟩
          · apply pointsWellFormed_of_marked
            · exact List.cons_ne_nil _ _
            · intro marked member
              obtain rfl := List.mem_singleton.mp member
              exact ⟨earlier, earlierNow, _, _, 0, rfl⟩
          · rw [if_pos ⟨rfl, rfl⟩]
            rfl

/-- Gate A's forecast was computed once; then the computation times out, and
the series published ends at offset 0. -/
theorem last_known_series_ends_at_zero :
    ¬ ∀ (history : List RecomputeRun) (gate : Gate) (window : List SignalEvent) (now : ℤ)
        (timedOut : Bool) (result : ForecastResult) (stored : Option CongestionScorePoint),
      computeForecastWithFallback gate window now timedOut
        ((redisAfter history).getLastKnownScore gate.gateId) = .ok (result, stored) →
      CoversHorizon result := by
  intro always
  have covers := always [⟨demoGateA, [], 0, false, false⟩] demoGateA [] 30000 true
    (lastKnownForecast (currentPointOf demoGateA [] 0)) none (by decide +kernel)
  obtain ⟨offset, listed, reaches⟩ := covers.reach
  have zero : offset = 0 := List.mem_singleton.mp listed
  omega

end Stadium
