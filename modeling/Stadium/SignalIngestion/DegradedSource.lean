import Stadium.Infra.RedisClient

/-!
# Degraded sources

`degraded-source.ts`: a source is degraded for a gate or a route when its
timer is not running. An event of the source starts the timer again.
-/

namespace Stadium

/-- The least silence after which a source counts as degraded. -/
def sourceTimeoutMs : SignalSource → ℤ
  | .gateCounter => 45000
  | .ticketScanner => 45000
  | .transitFeed => 90000

namespace RedisState

/-- `DegradedSourceTracker.markActive`. -/
def markActive (redis : RedisState) (sourceType : SignalSource) (gateOrRouteId : String)
    (now : ℤ) : RedisState :=
  redis.touchSource sourceType gateOrRouteId (sourceTimeoutMs sourceType) now

/-- `DegradedSourceTracker.isDegraded`. -/
def isDegraded (redis : RedisState) (sourceType : SignalSource) (gateOrRouteId : String)
    (now : ℤ) : Bool :=
  redis.isSourceDegraded sourceType gateOrRouteId now

end RedisState

end Stadium
