import Stadium.Lib.Zod
import Stadium.Types.Models

/-!
# The Signal_Event schema

`schema.ts`, and the reading of a value it accepts as a `SignalEvent`. The
schema ties the shape of the payload to the source, so that `decodeEvent?`
reads every accepted value (`decodeEvent?_of_accepts`).
-/

namespace Stadium

open Zod (Schema Accepts)

def gateCounterPayloadSchema : Schema :=
  .object [("count", .number .nonnegative), ("intervalSeconds", .number .positive)]

def ticketScanPayloadSchema : Schema := .object [("fanId", .nonemptyString)]

def transitArrivalPayloadSchema : Schema :=
  .object [
    ("estimatedPassengerCount", .number .nonnegative),
    ("destinationGateId", .optional .nonemptyString),
    ("destinationRouteId", .optional .nonemptyString),
    ("fanIds", .optional (.array .nonemptyString))]

def baseSignalEventFields : List (String × Schema) :=
  [("signalId", .nonemptyString), ("gateId", .optional .nonemptyString),
    ("routeId", .optional .nonemptyString), ("timestamp", .datetime), ("receivedAt", .datetime),
    ("isStale", .boolean), ("lateArrivalFlag", .boolean)]

/-- The event schema of one source: the base fields, the source as a literal
and the payload. -/
def eventSchema (source : SignalSource) (payload : Schema) : Schema :=
  .object (baseSignalEventFields ++ [("source", .literal source.text), ("payload", payload)])

def gateCounterEventSchema : Schema := eventSchema .gateCounter gateCounterPayloadSchema

def ticketScannerEventSchema : Schema := eventSchema .ticketScanner ticketScanPayloadSchema

def transitFeedEventSchema : Schema := eventSchema .transitFeed transitArrivalPayloadSchema

def signalEventPayloadSchema : Schema :=
  .discriminatedUnion "source" [
    (SignalSource.gateCounter.text, gateCounterEventSchema),
    (SignalSource.ticketScanner.text, ticketScannerEventSchema),
    (SignalSource.transitFeed.text, transitFeedEventSchema)]

/-! ## Reading a value as an event -/

def stringField? (fields : Json.Fields) (key : String) : Option String :=
  match Json.field fields key with
  | some (.str text) => some text
  | _ => none

def numberField? (fields : Json.Fields) (key : String) : Option ℚ :=
  match Json.field fields key with
  | some (.num value) => some value
  | _ => none

def booleanField? (fields : Json.Fields) (key : String) : Option Bool :=
  match Json.field fields key with
  | some (.bool value) => some value
  | _ => none

/-- An optional id: absent, or a text that is not empty. -/
def optionalId? (fields : Json.Fields) (key : String) :
    Option { id : Option String // id ≠ some "" } :=
  match Json.field fields key with
  | none => some ⟨none, by decide⟩
  | some (.str text) =>
      if nonempty : text = "" then none
      else some ⟨some text, fun same => nonempty (Option.some.inj same)⟩
  | _ => none

def stringItems? (items : List Json) : Option (List String) :=
  items.mapM fun item =>
    match item with
    | .str text => some text
    | _ => none

def optionalStrings? (fields : Json.Fields) (key : String) : Option (Option (List String)) :=
  match Json.field fields key with
  | none => some none
  | some (.arr items) => (stringItems? items).map some
  | _ => none

def objectField? (fields : Json.Fields) (key : String) : Option Json.Fields :=
  match Json.field fields key with
  | some (.obj inner) => some inner
  | _ => none

def decodeGateCounter? (payload : Json.Fields) : Option SignalEventPayloadBody := do
  let count ← numberField? payload "count"
  let intervalSeconds ← numberField? payload "intervalSeconds"
  return .gateCounter count intervalSeconds

def decodeTicketScan? (payload : Json.Fields) : Option SignalEventPayloadBody := do
  let fanId ← stringField? payload "fanId"
  return .ticketScan fanId

def decodeTransitArrival? (payload : Json.Fields) : Option SignalEventPayloadBody := do
  let estimatedPassengerCount ← numberField? payload "estimatedPassengerCount"
  let destinationGateId ← optionalId? payload "destinationGateId"
  let destinationRouteId ← optionalId? payload "destinationRouteId"
  let fanIds ← optionalStrings? payload "fanIds"
  return .transitArrival estimatedPassengerCount destinationGateId.val destinationRouteId.val fanIds

/-- The payload of an event of the named source. -/
def decodePayload? (source : String) (payload : Json.Fields) : Option SignalEventPayloadBody :=
  if source = SignalSource.gateCounter.text then decodeGateCounter? payload
  else if source = SignalSource.ticketScanner.text then decodeTicketScan? payload
  else if source = SignalSource.transitFeed.text then decodeTransitArrival? payload
  else none

/-- The event the fields of an accepted object describe. -/
def decodeFields? (fields : Json.Fields) : Option SignalEvent := do
  let signalId ← stringField? fields "signalId"
  let gateId ← optionalId? fields "gateId"
  let routeId ← optionalId? fields "routeId"
  let timestamp ← stringField? fields "timestamp"
  let receivedAt ← stringField? fields "receivedAt"
  let isStale ← booleanField? fields "isStale"
  let lateArrivalFlag ← booleanField? fields "lateArrivalFlag"
  let source ← stringField? fields "source"
  let payload ← objectField? fields "payload"
  let body ← decodePayload? source payload
  return {
    signalId
    gateId := gateId.val
    routeId := routeId.val
    timestamp
    receivedAt
    payload := body
    isStale
    lateArrivalFlag
    gateId_nonempty := gateId.property }

def decodeEvent? : Json → Option SignalEvent
  | .obj fields => decodeFields? fields
  | _ => none

/-! ## Every accepted value can be read -/

/-- What the schema promises of a payload. -/
def SignalEventPayloadBody.Conforms : SignalEventPayloadBody → Prop
  | .gateCounter count intervalSeconds => 0 ≤ count ∧ 0 < intervalSeconds
  | .ticketScan fanId => fanId ≠ ""
  | .transitArrival estimatedPassengerCount destinationGateId destinationRouteId fanIds =>
      0 ≤ estimatedPassengerCount ∧ destinationGateId ≠ some "" ∧ destinationRouteId ≠ some "" ∧
        ∀ listed, fanIds = some listed → ∀ fanId ∈ listed, fanId ≠ ""

/-- The source that reports payloads of this shape. -/
def SignalEventPayloadBody.source : SignalEventPayloadBody → SignalSource
  | .gateCounter .. => .gateCounter
  | .ticketScan .. => .ticketScanner
  | .transitArrival .. => .transitFeed

theorem SignalEvent.source_eq (event : SignalEvent) : event.source = event.payload.source := by
  unfold SignalEvent.source SignalEventPayloadBody.source
  cases event.payload <;> rfl

/-- What the schema promises of an event. -/
structure SignalEvent.Conforms (event : SignalEvent) : Prop where
  signalId : event.signalId ≠ ""
  routeId : event.routeId ≠ some ""
  timestamp : Zod.isDatetime event.timestamp = true
  receivedAt : Zod.isDatetime event.receivedAt = true
  payload : event.payload.Conforms

section

variable {fields : Json.Fields} {key : String}

theorem stringField?_nonempty (accepts : Accepts .nonemptyString (Json.field fields key)) :
    ∃ text, stringField? fields key = some text ∧ text ≠ "" := by
  unfold stringField?
  generalize Json.field fields key = value at accepts
  cases accepts with
  | nonemptyString nonempty => exact ⟨_, rfl, nonempty⟩

theorem stringField?_datetime (accepts : Accepts .datetime (Json.field fields key)) :
    ∃ text, stringField? fields key = some text ∧ Zod.isDatetime text = true := by
  unfold stringField?
  generalize Json.field fields key = value at accepts
  cases accepts with
  | datetime valid => exact ⟨_, rfl, valid⟩

theorem stringField?_literal {expected : String}
    (accepts : Accepts (.literal expected) (Json.field fields key)) :
    stringField? fields key = some expected := by
  unfold stringField?
  generalize Json.field fields key = value at accepts
  cases accepts with
  | literal => rfl

theorem numberField?_of_accepts {check : Zod.NumberCheck}
    (accepts : Accepts (.number check) (Json.field fields key)) :
    ∃ value, numberField? fields key = some value ∧ check.holds value = true := by
  unfold numberField?
  generalize Json.field fields key = value at accepts
  cases accepts with
  | number holds => exact ⟨_, rfl, holds⟩

theorem booleanField?_of_accepts (accepts : Accepts .boolean (Json.field fields key)) :
    ∃ value, booleanField? fields key = some value := by
  unfold booleanField?
  generalize Json.field fields key = value at accepts
  cases accepts with
  | boolean => exact ⟨_, rfl⟩

theorem optionalId?_of_accepts
    (accepts : Accepts (.optional .nonemptyString) (Json.field fields key)) :
    ∃ id, optionalId? fields key = some id := by
  unfold optionalId?
  generalize Json.field fields key = value at accepts
  cases accepts with
  | absent => exact ⟨_, rfl⟩
  | present accepts =>
      cases accepts with
      | nonemptyString nonempty => exact ⟨_, dif_neg nonempty⟩

theorem stringItems?_of_accepts {items : List Json}
    (each : ∀ value ∈ items, Accepts .nonemptyString (some value)) :
    ∃ texts, stringItems? items = some texts ∧ ∀ text ∈ texts, text ≠ "" := by
  unfold stringItems?
  induction items with
  | nil => exact ⟨[], rfl, fun _ impossible => by cases impossible⟩
  | cons item rest ih =>
      obtain ⟨first, others⟩ := List.forall_mem_cons.mp each
      obtain ⟨texts, read, nonempty⟩ := ih others
      cases first with
      | nonemptyString own =>
          refine ⟨_ :: texts, ?_, List.forall_mem_cons.mpr ⟨own, nonempty⟩⟩
          rw [List.mapM_cons, read]
          rfl

theorem optionalStrings?_of_accepts
    (accepts : Accepts (.optional (.array .nonemptyString)) (Json.field fields key)) :
    ∃ texts, optionalStrings? fields key = some texts ∧
      ∀ listed, texts = some listed → ∀ text ∈ listed, text ≠ "" := by
  unfold optionalStrings?
  generalize Json.field fields key = value at accepts
  cases accepts with
  | absent => exact ⟨none, rfl, fun _ impossible => by cases impossible⟩
  | present accepts =>
      cases accepts with
      | array each =>
          obtain ⟨texts, read, nonempty⟩ := stringItems?_of_accepts each
          refine ⟨some texts, ?_, ?_⟩
          · show (stringItems? _).map some = _
            rw [read]
            rfl
          · intro listed same
            obtain rfl := Option.some.inj same
            exact nonempty

theorem objectField?_of_accepts {shape : List (String × Schema)}
    (accepts : Accepts (.object shape) (Json.field fields key)) :
    ∃ inner, objectField? fields key = some inner ∧
      Accepts (.object shape) (some (.obj inner)) := by
  unfold objectField?
  generalize Json.field fields key = value at accepts
  cases accepts with
  | object own extra => exact ⟨_, rfl, .object own extra⟩

/-- The value of one field of an accepted object is accepted. -/
theorem accepts_field (key : String) (schema : Schema) {shape : List (String × Schema)}
    (accepts : Accepts (.object shape) (some (.obj fields))) (listed : (key, schema) ∈ shape) :
    Accepts schema (Json.field fields key) := by
  cases accepts with
  | object own extra => exact own (key, schema) listed

/-- The payload is read, conforms and belongs to the source. -/
def ReadsPayload (source : SignalSource) (payload : Json.Fields) : Prop :=
  ∃ body, decodePayload? source.text payload = some body ∧ body.Conforms ∧ body.source = source

theorem readsPayload_gateCounter
    (accepts : Accepts gateCounterPayloadSchema (some (.obj fields))) :
    ReadsPayload .gateCounter fields := by
  obtain ⟨count, countRead, nonneg⟩ := numberField?_of_accepts
    (accepts_field "count" (.number .nonnegative) accepts (by simp))
  obtain ⟨seconds, secondsRead, positive⟩ := numberField?_of_accepts
    (accepts_field "intervalSeconds" (.number .positive) accepts (by simp))
  refine ⟨.gateCounter count seconds, ?_, ⟨of_decide_eq_true nonneg, of_decide_eq_true positive⟩,
    rfl⟩
  show decodeGateCounter? fields = _
  unfold decodeGateCounter?
  rw [countRead, secondsRead]
  rfl

theorem readsPayload_ticketScan
    (accepts : Accepts ticketScanPayloadSchema (some (.obj fields))) :
    ReadsPayload .ticketScanner fields := by
  obtain ⟨fanId, fanIdRead, nonempty⟩ := stringField?_nonempty
    (accepts_field "fanId" .nonemptyString accepts (by simp))
  refine ⟨.ticketScan fanId, ?_, nonempty, rfl⟩
  show decodeTicketScan? fields = _
  unfold decodeTicketScan?
  rw [fanIdRead]
  rfl

theorem readsPayload_transitArrival
    (accepts : Accepts transitArrivalPayloadSchema (some (.obj fields))) :
    ReadsPayload .transitFeed fields := by
  obtain ⟨passengers, passengersRead, nonneg⟩ := numberField?_of_accepts
    (accepts_field "estimatedPassengerCount" (.number .nonnegative) accepts (by simp))
  obtain ⟨gateId, gateIdRead⟩ := optionalId?_of_accepts
    (accepts_field "destinationGateId" (.optional .nonemptyString) accepts (by simp))
  obtain ⟨routeId, routeIdRead⟩ := optionalId?_of_accepts
    (accepts_field "destinationRouteId" (.optional .nonemptyString) accepts (by simp))
  obtain ⟨fanIds, fanIdsRead, nonempty⟩ := optionalStrings?_of_accepts
    (accepts_field "fanIds" (.optional (.array .nonemptyString)) accepts (by simp))
  refine ⟨.transitArrival passengers gateId.val routeId.val fanIds, ?_,
    ⟨of_decide_eq_true nonneg, gateId.property, routeId.property, nonempty⟩, rfl⟩
  show decodeTransitArrival? fields = _
  unfold decodeTransitArrival?
  rw [passengersRead, gateIdRead, routeIdRead, fanIdsRead]
  rfl

/-- An event of one source is read, if its payloads are. -/
theorem decodeFields?_of_eventSchema {source : SignalSource} {shape : List (String × Schema)}
    (payloads : ∀ inner, Accepts (.object shape) (some (.obj inner)) → ReadsPayload source inner)
    (accepts : Accepts (eventSchema source (.object shape)) (some (.obj fields))) :
    ∃ event, decodeFields? fields = some event ∧ event.Conforms ∧ event.source = source := by
  have own : ∀ key schema, (key, schema) ∈ baseSignalEventFields →
      Accepts schema (Json.field fields key) := fun key schema listed =>
    accepts_field key schema accepts (List.mem_append_left _ listed)
  obtain ⟨signalId, signalIdRead, signalIdNonempty⟩ := stringField?_nonempty
    (own "signalId" .nonemptyString (by simp [baseSignalEventFields]))
  obtain ⟨gateId, gateIdRead⟩ := optionalId?_of_accepts
    (own "gateId" (.optional .nonemptyString) (by simp [baseSignalEventFields]))
  obtain ⟨routeId, routeIdRead⟩ := optionalId?_of_accepts
    (own "routeId" (.optional .nonemptyString) (by simp [baseSignalEventFields]))
  obtain ⟨timestamp, timestampRead, timestampValid⟩ := stringField?_datetime
    (own "timestamp" .datetime (by simp [baseSignalEventFields]))
  obtain ⟨receivedAt, receivedAtRead, receivedAtValid⟩ := stringField?_datetime
    (own "receivedAt" .datetime (by simp [baseSignalEventFields]))
  obtain ⟨isStale, isStaleRead⟩ := booleanField?_of_accepts
    (own "isStale" .boolean (by simp [baseSignalEventFields]))
  obtain ⟨late, lateRead⟩ := booleanField?_of_accepts
    (own "lateArrivalFlag" .boolean (by simp [baseSignalEventFields]))
  have sourceRead := stringField?_literal
    (accepts_field "source" (.literal source.text) accepts (by simp))
  obtain ⟨inner, innerRead, innerAccepts⟩ := objectField?_of_accepts
    (accepts_field "payload" (.object shape) accepts (by simp))
  obtain ⟨body, bodyRead, bodyConforms, bodySource⟩ := payloads inner innerAccepts
  refine ⟨{
    signalId
    gateId := gateId.val
    routeId := routeId.val
    timestamp
    receivedAt
    payload := body
    isStale
    lateArrivalFlag := late
    gateId_nonempty := gateId.property }, ?_, ?_, ?_⟩
  · unfold decodeFields?
    rw [signalIdRead, gateIdRead, routeIdRead, timestampRead, receivedAtRead, isStaleRead,
      lateRead, sourceRead, innerRead]
    simp only [Option.bind_eq_bind, Option.bind_some, bodyRead]
    rfl
  · exact ⟨signalIdNonempty, routeId.property, timestampValid, receivedAtValid, bodyConforms⟩
  · rw [SignalEvent.source_eq]
    exact bodySource

/-- **Every accepted value is read** as an event that conforms. -/
theorem decodeEvent?_of_accepts {json : Json}
    (accepts : Accepts signalEventPayloadSchema (some json)) :
    ∃ event, decodeEvent? json = some event ∧ event.Conforms := by
  cases accepts with
  | discriminatedUnion named option accepts =>
      rename_i selected fields schema
      have listed := Zod.mem_of_lookup option
      simp only [List.mem_cons, Prod.mk.injEq, List.not_mem_nil, or_false] at listed
      rcases listed with ⟨-, rfl⟩ | ⟨-, rfl⟩ | ⟨-, rfl⟩
      · obtain ⟨event, read, conforms, -⟩ := decodeFields?_of_eventSchema
          (fun _ => readsPayload_gateCounter) accepts
        exact ⟨event, read, conforms⟩
      · obtain ⟨event, read, conforms, -⟩ := decodeFields?_of_eventSchema
          (fun _ => readsPayload_ticketScan) accepts
        exact ⟨event, read, conforms⟩
      · obtain ⟨event, read, conforms, -⟩ := decodeFields?_of_eventSchema
          (fun _ => readsPayload_transitArrival) accepts
        exact ⟨event, read, conforms⟩

end

end Stadium
