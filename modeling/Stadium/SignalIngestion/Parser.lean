import Stadium.SignalIngestion.Schema

/-!
# Parsing a signal

`parser.ts`: a payload that has an issue is refused with the first issue, any
other is read as the event it describes. The payload `undefined` is `none`, and
so is the source `UNKNOWN`.
-/

namespace Stadium

open Zod (Accepts)

structure ValidationError where
  source : Option SignalSource
  reason : String
  offendingField : Option String
  rawPayload : Option Json

/-- The source a payload names, whatever else is wrong with it. -/
def extractSource : Option Json → Option SignalSource
  | some (.obj fields) =>
      match Json.field fields "source" with
      | some (.str candidate) =>
          if candidate = "GATE_COUNTER" then some .gateCounter
          else if candidate = "TICKET_SCANNER" then some .ticketScanner
          else if candidate = "TRANSIT_FEED" then some .transitFeed
          else none
      | _ => none
  | _ => none

def formatOffendingField (issue : Zod.Issue) : Option String :=
  if issue.path = [] then none else some issue.path.text

/-- The error that reports an issue of a payload. -/
def validationError (payload : Option Json) (firstIssue : Zod.Issue) : ValidationError where
  source := extractSource payload
  reason :=
    (if firstIssue.path.text = "" then "(root)" else firstIssue.path.text) ++ ": " ++
      firstIssue.message
  offendingField := formatOffendingField firstIssue
  rawPayload := payload

/-- What the schema accepts is read. -/
theorem decodeEvent?_of_valid {payload : Option Json}
    (valid : signalEventPayloadSchema.issues payload [] = []) :
    ∃ event, payload.bind decodeEvent? = some event ∧ event.Conforms := by
  have accepts := (signalEventPayloadSchema.issues_eq_nil payload []).mp valid
  cases payload with
  | none => cases accepts
  | some json => exact decodeEvent?_of_accepts accepts

theorem isSome_of_valid {payload : Option Json}
    (valid : signalEventPayloadSchema.issues payload [] = []) :
    (payload.bind decodeEvent?).isSome = true := by
  obtain ⟨event, read, -⟩ := decodeEvent?_of_valid valid
  rw [read]
  rfl

def parseSignalEvent (payload : Option Json) : Except ValidationError SignalEvent :=
  match valid : signalEventPayloadSchema.issues payload [] with
  | [] => .ok ((payload.bind decodeEvent?).get (isSome_of_valid valid))
  | firstIssue :: _ => .error (validationError payload firstIssue)

/-- What is parsed is what the schema accepts. -/
theorem parseSignalEvent_eq_ok {payload : Option Json} {event : SignalEvent} :
    parseSignalEvent payload = .ok event ↔
      Accepts signalEventPayloadSchema payload ∧ payload.bind decodeEvent? = some event := by
  rw [← signalEventPayloadSchema.issues_eq_nil payload []]
  unfold parseSignalEvent
  split
  · rename_i valid
    obtain ⟨read, decoded, -⟩ := decodeEvent?_of_valid valid
    rw [Except.ok.injEq, Option.get_of_eq_some _ decoded, decoded, Option.some_inj]
    exact (and_iff_right valid).symm
  · rename_i firstIssue others invalid
    refine iff_of_false (fun parsed => by cases parsed) (fun accepted => ?_)
    rw [invalid] at accepted
    cases accepted.1

/-- A parsed event keeps what the schema promises. -/
theorem conforms_of_parse {payload : Option Json} {event : SignalEvent}
    (parsed : parseSignalEvent payload = .ok event) : event.Conforms := by
  obtain ⟨accepts, read⟩ := parseSignalEvent_eq_ok.mp parsed
  obtain ⟨other, decoded, conforms⟩ := decodeEvent?_of_valid
    ((signalEventPayloadSchema.issues_eq_nil payload []).mpr accepts)
  rw [decoded, Option.some_inj] at read
  exact read ▸ conforms

end Stadium
