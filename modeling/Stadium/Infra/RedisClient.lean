import Stadium.Types.Models
import Stadium.Lib.ExpiringMap
import Stadium.Lib.IsoDate

/-!
# The Redis state of the pipeline

`redis-client.ts`: cooldown clocks, rejections and source timers under a time
to live and the last-known score of each gate. The keys are the client's. A stored point
survives `JSON.stringify` and `JSON.parse` unchanged, so it is stored as it is.
-/

namespace Stadium

structure RedisState where
  cooldowns : ExpiringMap String String ℤ := ∅
  lastKnownScores : OrderedMap String CongestionScorePoint := ∅
  rejections : ExpiringMap String String ℤ := ∅
  sourceTimers : ExpiringMap String String ℤ := ∅

namespace RedisState

def cooldownKey (fanId : FanId) (gateId : GateId) : String := s!"cooldown:{gateId}:{fanId}"

def lastKnownScoreKey (gateId : GateId) : String := s!"last-known-score:{gateId}"

/-- The time of the last nudge, unless its key has expired at `now`. -/
def getLastNudgeAt (redis : RedisState) (fanId : FanId) (gateId : GateId) (now : ℤ) :
    Option ℤ :=
  (redis.cooldowns.read? (cooldownKey fanId gateId) now).bind IsoDate.parse

def setLastNudgeAt (redis : RedisState) (fanId : FanId) (gateId : GateId) (generatedAt : ℤ)
    (cooldownPeriodMs now : ℤ) : RedisState :=
  { redis with
    cooldowns := redis.cooldowns.write (cooldownKey fanId gateId)
      (IsoDate.toISOString generatedAt) now cooldownPeriodMs }

def getLastKnownScore (redis : RedisState) (gateId : GateId) : Option CongestionScorePoint :=
  redis.lastKnownScores.get? (lastKnownScoreKey gateId)

def setLastKnownScore (redis : RedisState) (gateId : GateId) (point : CongestionScorePoint) :
    RedisState :=
  { redis with
    lastKnownScores := redis.lastKnownScores.set (lastKnownScoreKey gateId) point }

def degradedSourceKey (sourceType : SignalSource) (gateOrRouteId : String) : String :=
  s!"degraded-source:{sourceType.text}:{gateOrRouteId}"

def touchSource (redis : RedisState) (sourceType : SignalSource) (gateOrRouteId : String)
    (timeoutMs now : ℤ) : RedisState :=
  { redis with
    sourceTimers := redis.sourceTimers.write (degradedSourceKey sourceType gateOrRouteId) "1" now
      timeoutMs }

/-- No timer of the source is running at `now`. -/
def isSourceDegraded (redis : RedisState) (sourceType : SignalSource) (gateOrRouteId : String)
    (now : ℤ) : Bool :=
  (redis.sourceTimers.read? (degradedSourceKey sourceType gateOrRouteId) now).isNone

def rejectionKey (routeId : RouteId) (alternativeGateId : GateId) : String :=
  s!"redirection-rejection:{routeId}:{alternativeGateId}"

def recordRejection (redis : RedisState) (routeId : RouteId) (alternativeGateId : GateId)
    (suppressionMs now : ℤ) : RedisState :=
  { redis with
    rejections := redis.rejections.write (rejectionKey routeId alternativeGateId) "1" now
      suppressionMs }

theorem lastKnownScoreKey_injective : Function.Injective lastKnownScoreKey := by
  intro a b same
  exact (String.append_right_inj _).mp same

theorem getLastKnownScore_set (redis : RedisState) (gateId other : GateId)
    (point : CongestionScorePoint) :
    (redis.setLastKnownScore gateId point).getLastKnownScore other =
      if other = gateId then some point else redis.getLastKnownScore other := by
  unfold getLastKnownScore setLastKnownScore
  rw [OrderedMap.get?_set]
  simp only [lastKnownScoreKey_injective.eq_iff]

/-- The time last written under a cooldown key, expired or not. -/
def lastNudgeWritten (redis : RedisState) (key : String) : Option ℤ :=
  (redis.cooldowns.lastWritten? key).bind IsoDate.parse

theorem lastNudgeWritten_set (redis : RedisState) (fanId : FanId) (gateId : GateId)
    (generatedAt cooldownPeriodMs now : ℤ) (key : String) :
    (redis.setLastNudgeAt fanId gateId generatedAt cooldownPeriodMs now).lastNudgeWritten key =
      if key = cooldownKey fanId gateId then some generatedAt
      else redis.lastNudgeWritten key := by
  unfold lastNudgeWritten setLastNudgeAt
  rw [ExpiringMap.lastWritten?_write]
  split
  · rw [Option.bind_some, IsoDate.parse_toISOString]
  · rfl

/-- A read that answers gives the time last written. -/
theorem lastNudgeWritten_of_get {redis : RedisState} {fanId : FanId} {gateId : GateId}
    {now last : ℤ} (h : redis.getLastNudgeAt fanId gateId now = some last) :
    redis.lastNudgeWritten (cooldownKey fanId gateId) = some last := by
  obtain ⟨text, read, time⟩ := Option.bind_eq_some_iff.mp h
  unfold lastNudgeWritten
  rw [ExpiringMap.lastWritten?_of_read? read]
  exact time

end RedisState

end Stadium
