import Stadium.Pipeline.State

/-!
# The demo venue

`topology.ts`: the gates and routes the server is wired with, and signals for
it that concrete runs use. The clock of these runs starts at the epoch.
-/

namespace Stadium

def demoRoutes : List ShuttleRoute := [{ routeId := "route-1" }, { routeId := "route-2" }]

def demoGateA : Gate where
  gateId := "gate-a"
  name := "Gate A - North"
  capacityThreshold := 500
  assignedRouteIds := ["route-1"]

def demoGateB : Gate where
  gateId := "gate-b"
  name := "Gate B - East"
  capacityThreshold := 400
  assignedRouteIds := ["route-1"]

def demoGateC : Gate where
  gateId := "gate-c"
  name := "Gate C - South"
  capacityThreshold := 600
  assignedRouteIds := ["route-2"]

/-- The server's pipeline, with strings compared by code point. -/
def demoDependencies : PipelineDependencies where
  gates := [demoGateA, demoGateB, demoGateC]
  routes := demoRoutes
  localeCompare := compare

/-- Gate A is configured. -/
theorem gatesById_gateA : demoDependencies.gatesById.get? "gate-a" = some demoGateA := by
  decide +kernel

/-- An event of gate A names a gate, and one of no gate names none. -/
theorem gateA_nonempty : some "gate-a" ≠ some "" := by decide

theorem noGate_nonempty : (none : Option GateId) ≠ some "" := nofun

/-- A counter of gate A reports `count` people at `timestamp`. -/
def demoReading (signalId : String) (count : ℚ) (timestamp : String) : SignalEvent where
  signalId
  gateId := some "gate-a"
  routeId := none
  timestamp
  receivedAt := timestamp
  payload := .gateCounter count 30
  isStale := false
  lateArrivalFlag := false

/-- A reading of gate A that ingestion classified as stale. -/
def staleReading : SignalEvent :=
  { demoReading "stale" 50 "1970-01-01T00:00:00.000Z" with isStale := true }

/-- A fan's ticket is scanned for gate A. -/
def demoScan (signalId : String) (fanId : FanId) (timestamp : String) : SignalEvent where
  signalId
  gateId := some "gate-a"
  routeId := none
  timestamp
  receivedAt := timestamp
  payload := .ticketScan fanId
  isStale := false
  lateArrivalFlag := false

/-- A bus announces `count` passengers for gate A, and names no gate but their
destination. -/
def demoArrival (signalId : String) (count : ℕ) (timestamp : String) : ParsedSignal where
  signalId
  gateId := none
  routeId := some "route-1"
  timestamp
  receivedAt := timestamp
  payload := .transitArrival count (some "gate-a") none none
  gateId_nonempty := noGate_nonempty
  count_nonneg := Nat.cast_nonneg count

end Stadium
