import Stadium.Lib.ObjectLiteral
import Stadium.SignalIngestion.Parser
import Stadium.SignalIngestion.SourceTimers

/-!
# The codec of signals

`serializeSignalEvent` of `parser.ts`, against `parseSignalEvent`. The two are
separate lists of fields; here both are compared with one list, the entries of
an event (`SignalEvent.entries`). What is read agrees with its object at every
entry, and the schema lets no other key through, so writing it again gives the
same value; and every entry of an event that conforms passes its check and is
read back.
-/

namespace Stadium

open Zod (Schema Accepts)

/-! ## Writing an event -/

def SignalEventPayloadBody.entries : SignalEventPayloadBody → List (String × Option Json)
  | .gateCounter count intervalSeconds =>
      [("count", some (.num count)), ("intervalSeconds", some (.num intervalSeconds))]
  | .ticketScan fanId => [("fanId", some (.str fanId))]
  | .transitArrival estimatedPassengerCount destinationGateId destinationRouteId fanIds =>
      [("estimatedPassengerCount", some (.num estimatedPassengerCount)),
        ("destinationGateId", destinationGateId.map .str),
        ("destinationRouteId", destinationRouteId.map .str),
        ("fanIds", fanIds.map fun listed => .arr (listed.map .str))]

/-- The object literal `serializeSignalEvent` returns. -/
def SignalEvent.entries (event : SignalEvent) : List (String × Option Json) :=
  [("signalId", some (.str event.signalId)),
    ("source", some (.str event.source.text)),
    ("gateId", event.gateId.map .str),
    ("routeId", event.routeId.map .str),
    ("timestamp", some (.str event.timestamp)),
    ("receivedAt", some (.str event.receivedAt)),
    ("payload", some (.obj (Json.literal event.payload.entries))),
    ("isStale", some (.bool event.isStale)),
    ("lateArrivalFlag", some (.bool event.lateArrivalFlag))]

def serializeSignalEvent (event : SignalEvent) : Json := .obj (Json.literal event.entries)

theorem SignalEventPayloadBody.entries_distinct (payload : SignalEventPayloadBody) :
    (payload.entries.map Prod.fst).Nodup := by
  cases payload with
  | gateCounter count intervalSeconds =>
      show ["count", "intervalSeconds"].Nodup
      decide
  | ticketScan fanId => exact List.nodup_singleton _
  | transitArrival passengers destinationGateId destinationRouteId fanIds =>
      show ["estimatedPassengerCount", "destinationGateId", "destinationRouteId", "fanIds"].Nodup
      decide

theorem SignalEvent.entries_distinct (event : SignalEvent) :
    (event.entries.map Prod.fst).Nodup := by
  show ["signalId", "source", "gateId", "routeId", "timestamp", "receivedAt", "payload", "isStale",
    "lateArrivalFlag"].Nodup
  decide

/-! ## What a field that was read looks like -/

section

variable {fields : Json.Fields} {key : String}

theorem stringField?_eq_some {text : String} :
    stringField? fields key = some text ↔ Json.field fields key = some (.str text) := by
  unfold stringField?
  split
  · rename_i found
    rw [found, Option.some_inj, Option.some_inj, Json.str.injEq]
  · rename_i other
    exact iff_of_false (fun impossible => by cases impossible) (other text)

theorem numberField?_eq_some {value : ℚ} :
    numberField? fields key = some value ↔ Json.field fields key = some (.num value) := by
  unfold numberField?
  split
  · rename_i found
    rw [found, Option.some_inj, Option.some_inj, Json.num.injEq]
  · rename_i other
    exact iff_of_false (fun impossible => by cases impossible) (other value)

theorem booleanField?_eq_some {value : Bool} :
    booleanField? fields key = some value ↔ Json.field fields key = some (.bool value) := by
  unfold booleanField?
  split
  · rename_i found
    rw [found, Option.some_inj, Option.some_inj, Json.bool.injEq]
  · rename_i other
    exact iff_of_false (fun impossible => by cases impossible) (other value)

theorem objectField?_eq_some {inner : Json.Fields} :
    objectField? fields key = some inner ↔ Json.field fields key = some (.obj inner) := by
  unfold objectField?
  split
  · rename_i found
    rw [found, Option.some_inj, Option.some_inj, Json.obj.injEq]
  · rename_i other
    exact iff_of_false (fun impossible => by cases impossible) (other inner)

theorem optionalId?_eq_some {id : { id : Option String // id ≠ some "" }} :
    optionalId? fields key = some id ↔ Json.field fields key = id.val.map .str := by
  obtain ⟨id, nonempty⟩ := id
  unfold optionalId?
  split
  · rename_i found
    rw [found, Option.some_inj, Subtype.mk.injEq]
    cases id <;> simp
  · rename_i text found
    rw [found]
    split_ifs with empty
    · refine iff_of_false (fun impossible => by cases impossible) (fun same => ?_)
      obtain ⟨own, rfl, texts⟩ := Option.map_eq_some_iff.mp same.symm
      exact nonempty (congrArg some ((Json.str.inj texts).trans empty))
    · rw [Option.some_inj, Subtype.mk.injEq]
      cases id <;> simp
  · rename_i absent other
    refine iff_of_false (fun impossible => by cases impossible) (fun same => ?_)
    cases id with
    | none => exact absent same
    | some text => exact other text same

theorem optionalId?_of_field {id : Option String} (nonempty : id ≠ some "")
    (found : Json.field fields key = id.map .str) :
    optionalId? fields key = some ⟨id, nonempty⟩ :=
  optionalId?_eq_some.mpr found

theorem stringItems?_eq_some {items : List Json} {texts : List String} :
    stringItems? items = some texts ↔ items = texts.map .str := by
  unfold stringItems?
  induction items generalizing texts with
  | nil => cases texts <;> simp
  | cons item rest ih =>
      rw [List.mapM_cons]
      cases item with
      | str text =>
          simp only [Option.bind_eq_bind, Option.bind_some, Option.bind_eq_some_iff, ih]
          constructor
          · rintro ⟨others, rfl, same⟩
            rw [← Option.some.inj same, List.map_cons]
          · intro same
            cases texts with
            | nil => cases same
            | cons first others =>
                obtain ⟨own, tail⟩ := List.cons.inj same
                exact ⟨others, tail, by rw [Json.str.inj own]; rfl⟩
      | _ => cases texts <;> simp

theorem optionalStrings?_eq_some {texts : Option (List String)} :
    optionalStrings? fields key = some texts ↔
      Json.field fields key = texts.map fun listed => .arr (listed.map .str) := by
  unfold optionalStrings?
  split
  · rename_i found
    rw [found, Option.some_inj]
    cases texts <;> simp
  · rename_i items found
    rw [found]
    cases texts <;> simp [stringItems?_eq_some]
  · rename_i absent other
    refine iff_of_false (fun impossible => by cases impossible) (fun same => ?_)
    cases texts with
    | none => exact absent same
    | some listed => exact other _ same

end

/-! ## Reading, then writing -/

theorem decodePayload?_agrees {source : String} {inner : Json.Fields}
    {body : SignalEventPayloadBody} (read : decodePayload? source inner = some body) :
    source = body.source.text ∧ ∀ entry ∈ body.entries, Json.field inner entry.1 = entry.2 := by
  unfold decodePayload? at read
  split_ifs at read with gateCounter ticketScanner transitFeed
  · unfold decodeGateCounter? at read
    simp only [Option.bind_eq_bind, Option.bind_eq_some_iff] at read
    obtain ⟨count, countRead, seconds, secondsRead, made⟩ := read
    obtain rfl := Option.some.inj made
    refine ⟨gateCounter, ?_⟩
    simp only [SignalEventPayloadBody.entries, List.forall_mem_cons]
    exact ⟨numberField?_eq_some.mp countRead, numberField?_eq_some.mp secondsRead, nofun⟩
  · unfold decodeTicketScan? at read
    simp only [Option.bind_eq_bind, Option.bind_eq_some_iff] at read
    obtain ⟨fanId, fanIdRead, made⟩ := read
    obtain rfl := Option.some.inj made
    refine ⟨ticketScanner, ?_⟩
    simp only [SignalEventPayloadBody.entries, List.forall_mem_cons]
    exact ⟨stringField?_eq_some.mp fanIdRead, nofun⟩
  · unfold decodeTransitArrival? at read
    simp only [Option.bind_eq_bind, Option.bind_eq_some_iff] at read
    obtain ⟨passengers, passengersRead, gateId, gateIdRead, routeId, routeIdRead, fanIds,
      fanIdsRead, made⟩ := read
    obtain rfl := Option.some.inj made
    refine ⟨transitFeed, ?_⟩
    simp only [SignalEventPayloadBody.entries, List.forall_mem_cons]
    exact ⟨numberField?_eq_some.mp passengersRead, optionalId?_eq_some.mp gateIdRead,
      optionalId?_eq_some.mp routeIdRead, optionalStrings?_eq_some.mp fanIdsRead, nofun⟩

/-- An object agrees at every entry with the event that is read from it. -/
theorem decodeFields?_agrees {fields : Json.Fields} {event : SignalEvent}
    (read : decodeFields? fields = some event) :
    ∃ inner, Json.field fields "payload" = some (.obj inner) ∧
      (∀ entry ∈ event.payload.entries, Json.field inner entry.1 = entry.2) ∧
      ∀ entry ∈ event.entries, entry.1 ≠ "payload" → Json.field fields entry.1 = entry.2 := by
  unfold decodeFields? at read
  simp only [Option.bind_eq_bind, Option.bind_eq_some_iff] at read
  obtain ⟨signalId, signalIdRead, gateId, gateIdRead, routeId, routeIdRead, timestamp,
    timestampRead, receivedAt, receivedAtRead, isStale, isStaleRead, late, lateRead, source,
    sourceRead, inner, innerRead, body, bodyRead, made⟩ := read
  obtain rfl := Option.some.inj made
  obtain ⟨rfl, agree⟩ := decodePayload?_agrees bodyRead
  refine ⟨inner, objectField?_eq_some.mp innerRead, agree, ?_⟩
  simp only [SignalEvent.entries, List.forall_mem_cons, SignalEvent.source_eq]
  exact ⟨fun _ => stringField?_eq_some.mp signalIdRead, fun _ => stringField?_eq_some.mp sourceRead,
    fun _ => optionalId?_eq_some.mp gateIdRead, fun _ => optionalId?_eq_some.mp routeIdRead,
    fun _ => stringField?_eq_some.mp timestampRead,
    fun _ => stringField?_eq_some.mp receivedAtRead, fun different => absurd rfl different,
    fun _ => booleanField?_eq_some.mp isStaleRead, fun _ => booleanField?_eq_some.mp lateRead,
    List.forall_mem_nil _⟩

/-- The payload schema that goes with a source. -/
def payloadSchema : SignalSource → Schema
  | .gateCounter => gateCounterPayloadSchema
  | .ticketScanner => ticketScanPayloadSchema
  | .transitFeed => transitArrivalPayloadSchema

/-- An accepted object names its source and is accepted as an event of it. -/
theorem accepts_source {fields : Json.Fields}
    (accepts : Accepts signalEventPayloadSchema (some (.obj fields))) :
    ∃ source : SignalSource, Json.field fields "source" = some (.str source.text) ∧
      Accepts (eventSchema source (payloadSchema source)) (some (.obj fields)) := by
  cases accepts with
  | discriminatedUnion named option accepts =>
      have listed := Zod.mem_of_lookup option
      simp only [List.mem_cons, Prod.mk.injEq, List.not_mem_nil, or_false] at listed
      rcases listed with ⟨rfl, rfl⟩ | ⟨rfl, rfl⟩ | ⟨rfl, rfl⟩
      · exact ⟨.gateCounter, named, accepts⟩
      · exact ⟨.ticketScanner, named, accepts⟩
      · exact ⟨.transitFeed, named, accepts⟩

/-- A strict object has no keys beyond its shape. -/
theorem keys_of_accepts {fields : Json.Fields} {shape : List (String × Schema)}
    (accepts : Accepts (.object shape) (some (.obj fields))) :
    ∀ key ∈ fields.map Prod.fst, key ∈ shape.map Prod.fst := by
  cases accepts with
  | object own extra => exact extra

/-- The keys of an event are those of its schema. -/
theorem SignalEvent.entries_keys (event : SignalEvent) (source : SignalSource) (payload : Schema) :
    (event.entries.map Prod.fst).Perm
      ((baseSignalEventFields ++ [("source", .literal source.text), ("payload", payload)]).map
        Prod.fst) := by
  show ["signalId", "source", "gateId", "routeId", "timestamp", "receivedAt", "payload", "isStale",
    "lateArrivalFlag"].Perm ["signalId", "gateId", "routeId", "timestamp", "receivedAt", "isStale",
      "lateArrivalFlag", "source", "payload"]
  decide

theorem same_payload {payload : SignalEventPayloadBody} {inner : Json.Fields}
    (accepts : Accepts (payloadSchema payload.source) (some (.obj inner)))
    (agree : ∀ entry ∈ payload.entries, Json.field inner entry.1 = entry.2) :
    Json.Same (.obj (Json.literal payload.entries)) (.obj inner) := by
  apply Json.same_literal payload.entries_distinct
  · intro entry listed
    rw [agree entry listed]
    exact Json.Same.refl_field _
  · cases payload <;> exact keys_of_accepts accepts

/-- **Writing what was read** gives the value that was read. -/
theorem serialize_of_parse {fields : Json.Fields} {event : SignalEvent}
    (accepts : Accepts signalEventPayloadSchema (some (.obj fields)))
    (read : decodeFields? fields = some event) :
    (serializeSignalEvent event).Same (.obj fields) := by
  obtain ⟨source, named, accepts⟩ := accepts_source accepts
  obtain ⟨inner, held, payload, others⟩ := decodeFields?_agrees read
  have own : event.source = source := by
    have text := others ("source", some (.str event.source.text)) (by simp [SignalEvent.entries])
      (by simp)
    rw [named, Option.some_inj, Json.str.injEq] at text
    exact (SignalSource.text_injective text).symm
  apply Json.same_literal event.entries_distinct
  · intro entry listed
    by_cases different : entry.1 = "payload"
    · have accepted := accepts_field "payload" (payloadSchema source) accepts (by simp)
      rw [held, ← own, SignalEvent.source_eq] at accepted
      have value : entry.2 = some (.obj (Json.literal event.payload.entries)) := by
        rw [← Json.field_literal event.entries_distinct listed, different]
        exact Json.field_literal event.entries_distinct (by simp [SignalEvent.entries])
      rw [different, held, value]
      exact .some (same_payload accepted payload)
    · rw [others entry listed different]
      exact Json.Same.refl_field _
  · intro key listed
    exact (event.entries_keys source (payloadSchema source)).mem_iff.mpr
      (keys_of_accepts accepts key listed)

/-! ## Writing, then reading -/

theorem accepts_optionalId {id : Option String} (nonempty : id ≠ some "") :
    Accepts (.optional .nonemptyString) (id.map .str) := by
  cases id with
  | none => exact .absent
  | some text => exact .present (.nonemptyString fun empty => nonempty (congrArg some empty))

theorem accepts_optionalStrings {texts : Option (List String)}
    (nonempty : ∀ listed, texts = some listed → ∀ text ∈ listed, text ≠ "") :
    Accepts (.optional (.array .nonemptyString))
      (texts.map fun listed => .arr (listed.map .str)) := by
  cases texts with
  | none => exact .absent
  | some listed =>
      refine .present (.array fun value member => ?_)
      obtain ⟨text, own, rfl⟩ := List.mem_map.mp member
      exact .nonemptyString (nonempty listed rfl text own)

/-- What an object literal holds passes a shape with its keys if every entry does. -/
theorem accepts_literal {entries : List (String × Option Json)} {shape : List (String × Schema)}
    (distinct : (entries.map Prod.fst).Nodup)
    (keys : (entries.map Prod.fst).Perm (shape.map Prod.fst))
    (pass : ∀ field ∈ shape, ∃ value, (field.1, value) ∈ entries ∧ Accepts field.2 value) :
    Accepts (.object shape) (some (.obj (Json.literal entries))) := by
  refine .object ?_ ?_
  · intro field listed
    obtain ⟨value, held, accepts⟩ := pass field listed
    rw [Json.field_literal distinct held]
    exact accepts
  · intro key listed
    exact keys.mem_iff.mp (Json.keys_literal listed)

theorem accepts_payload {payload : SignalEventPayloadBody} (conforms : payload.Conforms) :
    Accepts (payloadSchema payload.source) (some (.obj (Json.literal payload.entries))) := by
  have distinct := payload.entries_distinct
  cases payload with
  | gateCounter count intervalSeconds =>
      apply accepts_literal distinct (.refl _)
      simp only [SignalEventPayloadBody.entries, List.forall_mem_cons]
      exact ⟨⟨_, by simp, .number (decide_eq_true conforms.1)⟩,
        ⟨_, by simp, .number (decide_eq_true conforms.2)⟩, nofun⟩
  | ticketScan fanId =>
      apply accepts_literal distinct (.refl _)
      simp only [SignalEventPayloadBody.entries, List.forall_mem_cons]
      exact ⟨⟨_, by simp, .nonemptyString conforms⟩, nofun⟩
  | transitArrival passengers destinationGateId destinationRouteId fanIds =>
      obtain ⟨nonneg, gateId, routeId, fans⟩ := conforms
      apply accepts_literal distinct (.refl _)
      simp only [SignalEventPayloadBody.entries, List.forall_mem_cons]
      exact ⟨⟨_, by simp, .number (decide_eq_true nonneg)⟩, ⟨_, by simp, accepts_optionalId gateId⟩,
        ⟨_, by simp, accepts_optionalId routeId⟩, ⟨_, by simp, accepts_optionalStrings fans⟩, nofun⟩

/-- What is written passes the schema. -/
theorem accepts_serialize {event : SignalEvent} (conforms : event.Conforms) :
    Accepts signalEventPayloadSchema (some (serializeSignalEvent event)) := by
  have own : Accepts (eventSchema event.source (payloadSchema event.source))
      (some (serializeSignalEvent event)) := by
    apply accepts_literal event.entries_distinct (event.entries_keys _ _)
    simp only [SignalEvent.entries, baseSignalEventFields, List.cons_append, List.nil_append,
      List.forall_mem_cons]
    have payload := accepts_payload conforms.payload
    rw [← SignalEvent.source_eq] at payload
    exact ⟨⟨_, by simp, .nonemptyString conforms.signalId⟩,
      ⟨_, by simp, accepts_optionalId event.gateId_nonempty⟩,
      ⟨_, by simp, accepts_optionalId conforms.routeId⟩, ⟨_, by simp, .datetime conforms.timestamp⟩,
      ⟨_, by simp, .datetime conforms.receivedAt⟩, ⟨some (.bool event.isStale), by simp, .boolean⟩,
      ⟨some (.bool event.lateArrivalFlag), by simp, .boolean⟩, ⟨_, by simp, .literal⟩,
      ⟨_, by simp, payload⟩, List.forall_mem_nil _⟩
  have named : Json.field (Json.literal event.entries) "source" = some (.str event.source.text) :=
    Json.field_literal event.entries_distinct (by simp [SignalEvent.entries])
  cases source : event.source <;> rw [source] at own named
  · exact .discriminatedUnion named rfl own
  · exact .discriminatedUnion named rfl own
  · exact .discriminatedUnion named rfl own

/-- The reader finds at every key of a payload what was written there. -/
theorem decodePayload?_literal {payload : SignalEventPayloadBody} (conforms : payload.Conforms) :
    decodePayload? payload.source.text (Json.literal payload.entries) = some payload := by
  have held : ∀ key value, (key, value) ∈ payload.entries →
      Json.field (Json.literal payload.entries) key = value := fun _ _ =>
    Json.field_literal payload.entries_distinct
  cases payload with
  | gateCounter count intervalSeconds =>
      simp only [SignalEventPayloadBody.entries, List.mem_cons, Prod.mk.injEq] at held
      have countRead := numberField?_eq_some.mpr (held "count" (some (.num count)) (by simp))
      have secondsRead := numberField?_eq_some.mpr
        (held "intervalSeconds" (some (.num intervalSeconds)) (by simp))
      show decodeGateCounter? _ = _
      unfold decodeGateCounter?
      rw [SignalEventPayloadBody.entries, countRead, secondsRead]
      rfl
  | ticketScan fanId =>
      simp only [SignalEventPayloadBody.entries, List.mem_cons, Prod.mk.injEq] at held
      have fanIdRead := stringField?_eq_some.mpr (held "fanId" (some (.str fanId)) (by simp))
      show decodeTicketScan? _ = _
      unfold decodeTicketScan?
      rw [SignalEventPayloadBody.entries, fanIdRead]
      rfl
  | transitArrival passengers destinationGateId destinationRouteId fanIds =>
      obtain ⟨-, gateId, routeId, -⟩ := conforms
      simp only [SignalEventPayloadBody.entries, List.mem_cons, Prod.mk.injEq] at held
      have passengersRead := numberField?_eq_some.mpr
        (held "estimatedPassengerCount" (some (.num passengers)) (by simp))
      have gateIdRead := optionalId?_of_field gateId (held "destinationGateId" _ (by simp))
      have routeIdRead := optionalId?_of_field routeId (held "destinationRouteId" _ (by simp))
      have fanIdsRead := optionalStrings?_eq_some.mpr
        (held "fanIds" (fanIds.map fun listed => .arr (listed.map .str)) (by simp))
      show decodeTransitArrival? _ = _
      unfold decodeTransitArrival?
      rw [SignalEventPayloadBody.entries, passengersRead, gateIdRead, routeIdRead, fanIdsRead]
      rfl

theorem decodeFields?_literal {event : SignalEvent} (conforms : event.Conforms) :
    decodeFields? (Json.literal event.entries) = some event := by
  have held : ∀ key value, (key, value) ∈ event.entries →
      Json.field (Json.literal event.entries) key = value := fun _ _ =>
    Json.field_literal event.entries_distinct
  generalize Json.literal event.entries = fields at held
  simp only [SignalEvent.entries, List.mem_cons, Prod.mk.injEq] at held
  have signalId := stringField?_eq_some.mpr (held "signalId" (some (.str event.signalId)) (by simp))
  have source := stringField?_eq_some.mpr (held "source" (some (.str event.source.text)) (by simp))
  have gateId := optionalId?_of_field event.gateId_nonempty (held "gateId" _ (by simp))
  have routeId := optionalId?_of_field conforms.routeId (held "routeId" _ (by simp))
  have timestamp := stringField?_eq_some.mpr
    (held "timestamp" (some (.str event.timestamp)) (by simp))
  have receivedAt := stringField?_eq_some.mpr
    (held "receivedAt" (some (.str event.receivedAt)) (by simp))
  have payload := objectField?_eq_some.mpr
    (held "payload" (some (.obj (Json.literal event.payload.entries))) (by simp))
  have isStale := booleanField?_eq_some.mpr
    (held "isStale" (some (.bool event.isStale)) (by simp))
  have late := booleanField?_eq_some.mpr
    (held "lateArrivalFlag" (some (.bool event.lateArrivalFlag)) (by simp))
  have body := decodePayload?_literal conforms.payload
  rw [← SignalEvent.source_eq] at body
  unfold decodeFields?
  rw [signalId, gateId, routeId, timestamp, receivedAt, isStale, late, source, payload]
  simp only [Option.bind_eq_bind, Option.bind_some, body]
  rfl

/-- **Reading what was written** gives the event that was written. -/
theorem parse_of_serialize {event : SignalEvent} (conforms : event.Conforms) :
    parseSignalEvent (some (serializeSignalEvent event)) = .ok event :=
  parseSignalEvent_eq_ok.mpr ⟨accepts_serialize conforms, decodeFields?_literal conforms⟩

/-- Nothing the schema promises is about the flags. -/
theorem SignalEvent.Conforms.withFlags {event : SignalEvent} (conforms : event.Conforms)
    (isStale lateArrivalFlag : Bool) : { event with isStale, lateArrivalFlag }.Conforms :=
  ⟨conforms.signalId, conforms.routeId, conforms.timestamp, conforms.receivedAt, conforms.payload⟩

/-- **The codec round-trips in both directions.** What is written of a parsed event is
the value that was parsed; and a parsed event, with any flags, is what is parsed
of its own writing. -/
theorem signalEvent_codec {payload : Option Json} {event : SignalEvent}
    (parsed : parseSignalEvent payload = .ok event) :
    (∃ json, payload = some json ∧ (serializeSignalEvent event).Same json) ∧
      ∀ isStale lateArrivalFlag,
        parseSignalEvent (some (serializeSignalEvent { event with isStale, lateArrivalFlag })) =
          .ok { event with isStale, lateArrivalFlag } := by
  refine ⟨?_, ?_⟩
  · obtain ⟨accepts, read⟩ := parseSignalEvent_eq_ok.mp parsed
    obtain ⟨json, rfl, decoded⟩ := Option.bind_eq_some_iff.mp read
    cases json with
    | obj fields => exact ⟨_, rfl, serialize_of_parse accepts decoded⟩
    | _ => cases decoded
  · intro isStale lateArrivalFlag
    exact parse_of_serialize ((conforms_of_parse parsed).withFlags isStale lateArrivalFlag)

/-- A scan with an offset in its timestamp, its keys in an order of its own. -/
def demoScanJson : Json :=
  .obj [("source", .str "TICKET_SCANNER"), ("payload", .obj [("fanId", .str "fan-1")]),
    ("signalId", .str "scan"), ("gateId", .str "gate-a"),
    ("timestamp", .str "2026-06-01T20:00:00+02:00"), ("receivedAt", .str "2026-06-01T18:00:01Z"),
    ("isStale", .bool false), ("lateArrivalFlag", .bool true)]

theorem signalEvent_codec_demo :
    ∃ event, parseSignalEvent (some demoScanJson) = .ok event ∧
      (serializeSignalEvent event).Same demoScanJson := by
  have accepts : signalEventPayloadSchema.issues (some demoScanJson) [] = [] := by decide +kernel
  obtain ⟨event, decoded, -⟩ := decodeEvent?_of_valid accepts
  have parsed := parseSignalEvent_eq_ok.mpr
    ⟨(signalEventPayloadSchema.issues_eq_nil _ _).mp accepts, decoded⟩
  obtain ⟨json, own, same⟩ := (signalEvent_codec parsed).1
  rw [← Option.some.inj own] at same
  exact ⟨event, parsed, same⟩

end Stadium
