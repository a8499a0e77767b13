import Stadium.CongestionForecaster.Forecast

/-!
# Accepting a signal

`timing.ts` and the accepting half of `SignalIngestionService.handleSignal`.
A `ParsedSignal` is what the schema lets through: counts are not negative.
The timing flags a client may have sent are overwritten, so they are not part
of it.
-/

namespace Stadium

structure TimingConfig where
  /-- An event at least this old is stale. -/
  staleThresholdMs : ℤ
  /-- An event received at least this late is a late arrival. -/
  lateArrivalThresholdMs : ℤ

def defaultTimingConfig : TimingConfig where
  staleThresholdMs := 60000
  lateArrivalThresholdMs := 30000

structure TimingClassification where
  isStale : Bool
  lateArrivalFlag : Bool

/-- Both thresholds are inclusive; a comparison with an unreadable time
fails. -/
def classifyTiming (timestamp receivedAt : String) (now : ℤ) (config : TimingConfig) :
    TimingClassification where
  isStale := (IsoDate.parse timestamp).any fun timestampMs =>
    decide (config.staleThresholdMs ≤ now - timestampMs)
  lateArrivalFlag := (IsoDate.parse timestamp).any fun timestampMs =>
    (IsoDate.parse receivedAt).any fun receivedAtMs =>
      decide (config.lateArrivalThresholdMs ≤ receivedAtMs - timestampMs)

/-- The people a payload reports. -/
def SignalEventPayloadBody.peopleCount : SignalEventPayloadBody → ℚ
  | .gateCounter count _ => count
  | .ticketScan _ => 1
  | .transitArrival estimatedPassengerCount _ _ _ => estimatedPassengerCount

/-- A payload the schema accepts. -/
structure ParsedSignal where
  signalId : String
  gateId : Option GateId
  routeId : Option RouteId
  timestamp : String
  receivedAt : String
  payload : SignalEventPayloadBody
  gateId_nonempty : gateId ≠ some "" := by decide
  count_nonneg : 0 ≤ payload.peopleCount

/-- The event `handleSignal` publishes for a parsed signal accepted at `now`. -/
def ParsedSignal.accept (signal : ParsedSignal) (config : TimingConfig) (now : ℤ) :
    SignalEvent where
  signalId := signal.signalId
  gateId := signal.gateId
  routeId := signal.routeId
  timestamp := signal.timestamp
  receivedAt := signal.receivedAt
  payload := signal.payload
  isStale := (classifyTiming signal.timestamp signal.receivedAt now config).isStale
  lateArrivalFlag :=
    (classifyTiming signal.timestamp signal.receivedAt now config).lateArrivalFlag
  gateId_nonempty := signal.gateId_nonempty

/-- What a well-formed payload counts for is what it reports. -/
theorem incomingCountFor_eq_peopleCount {event : SignalEvent}
    (nonneg : 0 ≤ event.payload.peopleCount) :
    incomingCountFor event = event.payload.peopleCount := by
  unfold incomingCountFor
  split <;> rename_i payload
  · rw [payload] at nonneg ⊢
    exact max_eq_right nonneg
  · rw [payload]
    rfl
  · rw [payload] at nonneg ⊢
    exact max_eq_right nonneg

end Stadium
