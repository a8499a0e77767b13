import Stadium.Infra.Topology
import Stadium.SignalIngestion.Codec
import Stadium.SignalIngestion.Service

/-!
# What a client can say about timing

The flags a client sends are overwritten. Its `receivedAt` is not: the spread
of the input puts it back over the time of receipt, and lateness is measured
from it. Two payloads that differ in these fields alone are timed alike exactly
when their receipts are the same text and late if and only if the service's
own clock says so (`same_timing_iff`).
-/

namespace Stadium

/-! ## The defaults -/

theorem field_map_default (defaults input : Json.Fields) (key : String) :
    Json.field (defaults.map fun entry => (entry.1, (Json.field input entry.1).getD entry.2)) key =
      (Json.field defaults key).map fun value => (Json.field input key).getD value := by
  induction defaults with
  | nil => rfl
  | cons entry rest ih =>
      obtain ⟨name, value⟩ := entry
      unfold Json.field at ih ⊢
      rw [List.map_cons, List.lookup_cons, List.lookup_cons]
      by_cases same : key = name
      · subst same
        rw [beq_self_eq_true]
        rfl
      · rw [beq_false_of_ne same]
        exact ih

/-- A field with a default is the client's value, else the default. -/
theorem field_withDefaults_of_default {defaults input : Json.Fields} {key : String} {value : Json}
    (listed : Json.field defaults key = some value) (named : isIndexKey key = false) :
    Json.field (withDefaults defaults input) key = some ((Json.field input key).getD value) := by
  unfold withDefaults
  rw [Json.field_append, Json.field_append, Json.field_filter isIndexKey, named, field_map_default,
    listed]
  rfl

/-- A field without a default is the client's. -/
theorem field_withDefaults_of_not_default {defaults input : Json.Fields} {key : String}
    (own : key ∉ defaults.map Prod.fst) :
    Json.field (withDefaults defaults input) key = Json.field input key := by
  have fresh : (defaults.map Prod.fst).contains key = false := by
    rw [← Bool.not_eq_true, List.contains_iff_mem]
    exact own
  unfold withDefaults
  rw [Json.field_append, Json.field_append, Json.field_filter isIndexKey, field_map_default,
    Json.field_of_not_mem own,
    Json.field_filter fun key => !isIndexKey key && !(defaults.map Prod.fst).contains key, fresh]
  cases isIndexKey key <;> simp

/-! ## The timing of a published event -/

def timingKeys : List String := ["receivedAt", "isStale", "lateArrivalFlag"]

/-- The objects differ at most in the timing fields. -/
def SameButTiming (fields fields' : Json.Fields) : Prop :=
  ∀ key ∉ timingKeys, Json.field fields key = Json.field fields' key

/-- The `receivedAt` of a payload received at `now`: the client's, else the time of
receipt. -/
def receiptText (fields : Json.Fields) (now : ℤ) : String :=
  (stringField? fields "receivedAt").getD (IsoDate.toISOString now)

def timestampText (fields : Json.Fields) : String := (stringField? fields "timestamp").getD ""

/-- At the instant, the timestamp is late. -/
def LateAt (config : TimingConfig) (timestamp : String) (instant : ℤ) : Prop :=
  ∃ timestampMs, IsoDate.parse timestamp = some timestampMs ∧
    config.lateArrivalThresholdMs ≤ instant - timestampMs

/-- Two events are timed alike, and late if and only if they are late at `now`. -/
structure SameTiming (config : TimingConfig) (now : ℤ) (event event' : SignalEvent) : Prop where
  receivedAt : event.receivedAt = event'.receivedAt
  isStale : event.isStale = event'.isStale
  lateArrivalFlag : event.lateArrivalFlag = event'.lateArrivalFlag
  late : event.lateArrivalFlag = true ↔ LateAt config event.timestamp now

theorem lateArrivalFlag_iff {timestamp receivedAt : String} {now : ℤ} {config : TimingConfig} :
    (classifyTiming timestamp receivedAt now config).lateArrivalFlag = true ↔
      ∃ receivedAtMs, IsoDate.parse receivedAt = some receivedAtMs ∧
        LateAt config timestamp receivedAtMs := by
  unfold classifyTiming LateAt
  simp only [Option.any_eq_true, decide_eq_true_eq]
  constructor
  · rintro ⟨timestampMs, read, receivedAtMs, received, late⟩
    exact ⟨receivedAtMs, received, timestampMs, read, late⟩
  · rintro ⟨receivedAtMs, received, timestampMs, read, late⟩
    exact ⟨timestampMs, read, receivedAtMs, received, late⟩

section

variable {config : TimingConfig} {faults : IngestionFaults} {uuid : String} {now : ℤ}
  {fields : Json.Fields} {event : SignalEvent}

/-- A published event is the classified reading of the payload with its defaults. -/
theorem parsed_of_published
    (published : (handleSignal config faults uuid (some (.obj fields)) now).published = [event]) :
    ∃ parsed, decodeFields? (withDefaults (intakeDefaults uuid now) fields) = some parsed ∧
      event = parsed.classified config now := by
  let attempt : Attempt := ⟨faults, uuid, now⟩
  have handled : (attempt.handle config (some (.obj fields))).published = [event] := published
  cases read : attempt.parsed (some (.obj fields)) with
  | error error =>
      rw [(Attempt.clean_of_error config read).1] at handled
      cases handled
  | ok parsed =>
      refine ⟨parsed, (parseSignalEvent_eq_ok.mp read).2, ?_⟩
      rcases Attempt.handle_cases config read with ⟨-, nothing⟩ | ⟨-, -, one⟩ | ⟨-, -, one⟩
      · rw [nothing] at handled
        cases handled
      · rw [one] at handled
        exact (List.singleton_inj.mp handled).symm
      · rw [one] at handled
        exact (List.singleton_inj.mp handled).symm

/-- What a published event says of its timing: the timestamp of the payload, the
receipt, and the classification of the two. -/
theorem timing_of_published
    (published : (handleSignal config faults uuid (some (.obj fields)) now).published = [event]) :
    event.timestamp = timestampText fields ∧ event.receivedAt = receiptText fields now ∧
      event.isStale = (classifyTiming event.timestamp event.receivedAt now config).isStale ∧
      event.lateArrivalFlag =
        (classifyTiming event.timestamp event.receivedAt now config).lateArrivalFlag := by
  obtain ⟨parsed, read, rfl⟩ := parsed_of_published published
  obtain ⟨-, -, -, agree⟩ := decodeFields?_agrees read
  refine ⟨?_, ?_, rfl, rfl⟩
  · have timestamp := agree ("timestamp", some (.str parsed.timestamp))
      (by simp [SignalEvent.entries]) (by simp)
    rw [field_withDefaults_of_not_default (by simp [intakeDefaults])] at timestamp
    unfold timestampText
    rw [stringField?_eq_some.mpr timestamp]
    rfl
  · have receivedAt := agree ("receivedAt", some (.str parsed.receivedAt))
      (by simp [SignalEvent.entries]) (by simp)
    rw [field_withDefaults_of_default rfl (show isIndexKey "receivedAt" = false by decide +kernel),
      Option.some_inj] at receivedAt
    unfold receiptText
    cases sent : Json.field fields "receivedAt" with
    | none =>
        have silent : stringField? fields "receivedAt" = none := by
          unfold stringField?
          rw [sent]
        rw [sent] at receivedAt
        rw [silent]
        exact (Json.str.inj receivedAt).symm
    | some value =>
        rw [sent] at receivedAt
        obtain rfl : value = .str parsed.receivedAt := receivedAt
        rw [stringField?_eq_some.mpr sent]
        rfl

end

/-- **What a client can say about timing.** Two payloads that differ in the timing
fields alone, both published at the same time, are timed alike exactly if their
receipts are the same text, and this receipt and the service's own clock agree on
whether the timestamp is late. -/
theorem same_timing_iff (config : TimingConfig) (faults faults' : IngestionFaults)
    (uuid uuid' : String) (now : ℤ) (fields fields' : Json.Fields)
    (same : SameButTiming fields fields') (event event' : SignalEvent)
    (published : (handleSignal config faults uuid (some (.obj fields)) now).published = [event])
    (published' :
      (handleSignal config faults' uuid' (some (.obj fields')) now).published = [event']) :
    SameTiming config now event event' ↔
      receiptText fields now = receiptText fields' now ∧
        ((∃ receivedAtMs, IsoDate.parse (receiptText fields now) = some receivedAtMs ∧
            LateAt config (timestampText fields) receivedAtMs) ↔
          LateAt config (timestampText fields) now) := by
  obtain ⟨timestamp, receivedAt, stale, late⟩ := timing_of_published published
  obtain ⟨timestamp', receivedAt', stale', late'⟩ := timing_of_published published'
  have told : timestampText fields = timestampText fields' := by
    unfold timestampText stringField?
    rw [same "timestamp" (by decide)]
  -- by the receipt of the payload the event is late exactly as the code says
  have measured : event.lateArrivalFlag = true ↔
      ∃ receivedAtMs, IsoDate.parse (receiptText fields now) = some receivedAtMs ∧
        LateAt config (timestampText fields) receivedAtMs := by
    rw [late, lateArrivalFlag_iff, timestamp, receivedAt]
  constructor
  · intro alike
    refine ⟨?_, ?_⟩
    · rw [← receivedAt, ← receivedAt']
      exact alike.receivedAt
    · rw [← measured, ← timestamp]
      exact alike.late
  · rintro ⟨receipts, agrees⟩
    have received : event.receivedAt = event'.receivedAt := by
      rw [receivedAt, receivedAt', receipts]
    have stamped : event.timestamp = event'.timestamp := by
      rw [timestamp, timestamp', told]
    refine ⟨received, ?_, ?_, ?_⟩
    · rw [stale, stale', received, stamped]
    · rw [late, late', received, stamped]
    · rw [timestamp]
      exact measured.trans agrees

/-- A payload without `receivedAt` is received at `now`. -/
theorem late_of_unsent {config : TimingConfig} {fields : Json.Fields} {now : ℤ}
    (unsent : stringField? fields "receivedAt" = none) (timestamp : String) :
    (∃ receivedAtMs, IsoDate.parse (receiptText fields now) = some receivedAtMs ∧
      LateAt config timestamp receivedAtMs) ↔ LateAt config timestamp now := by
  unfold receiptText
  rw [unsent, Option.getD_none, IsoDate.parse_toISOString]
  simp only [Option.some.injEq, exists_eq_left']

/-- A scan of 18:00:00 with the given receipt, if any. -/
def receivedScan (receipt : Option String) : Json.Fields :=
  Json.literal [("signalId", some (.str "scan")), ("source", some (.str "TICKET_SCANNER")),
    ("gateId", some (.str "gate-a")), ("timestamp", some (.str "2026-06-01T18:00:00.000Z")),
    ("payload", some (.obj [("fanId", .str "fan-1")])), ("receivedAt", receipt.map .str)]

/-- The event of a scan as it is published. -/
def publishedScan (receivedAt : String) (lateArrivalFlag : Bool) : SignalEvent where
  signalId := "scan"
  gateId := some "gate-a"
  routeId := none
  timestamp := "2026-06-01T18:00:00.000Z"
  receivedAt
  payload := .ticketScan "fan-1"
  isStale := false
  lateArrivalFlag
  gateId_nonempty := gateA_nonempty

theorem receivedScan_sameButTiming (receipt receipt' : Option String) :
    SameButTiming (receivedScan receipt) (receivedScan receipt') := by
  intro key other
  have different : (key == "receivedAt") = false := by
    apply beq_false_of_ne
    rintro rfl
    exact other (by decide)
  unfold receivedScan Json.literal Json.field
  cases receipt <;> cases receipt' <;> simp [List.lookup_cons, different]

/-- What the service publishes at 18:00:00 of a scan that does not say when it was
received. -/
theorem publishedScan_unsent :
    (handleSignal defaultTimingConfig {} "id" (some (.obj (receivedScan none)))
      1780336800000).published = [publishedScan "2026-06-01T18:00:00.000Z" false] := by
  decide +kernel

/-- A client that names the time of receipt itself changes nothing. -/
theorem same_timing_iff_demo :
    SameTiming defaultTimingConfig 1780336800000 (publishedScan "2026-06-01T18:00:00.000Z" false)
      (publishedScan "2026-06-01T18:00:00.000Z" false) :=
  (same_timing_iff defaultTimingConfig {} {} "id" "id" 1780336800000 (receivedScan none)
    (receivedScan (some "2026-06-01T18:00:00.000Z")) (receivedScan_sameButTiming _ _) _ _
    publishedScan_unsent (by decide +kernel)).mpr
    ⟨by decide +kernel, late_of_unsent (by decide +kernel) _⟩

/-- A client that claims a receipt of 18:10:00 makes its scan a late arrival. -/
theorem client_receipt_makes_late :
    SameButTiming (receivedScan none) (receivedScan (some "2026-06-01T18:10:00.000Z")) ∧
      (handleSignal defaultTimingConfig {} "id" (some (.obj (receivedScan none)))
        1780336800000).published = [publishedScan "2026-06-01T18:00:00.000Z" false] ∧
      (handleSignal defaultTimingConfig {} "id"
        (some (.obj (receivedScan (some "2026-06-01T18:10:00.000Z"))))
        1780336800000).published = [publishedScan "2026-06-01T18:10:00.000Z" true] ∧
      ¬ SameTiming defaultTimingConfig 1780336800000
        (publishedScan "2026-06-01T18:00:00.000Z" false)
        (publishedScan "2026-06-01T18:10:00.000Z" true) := by
  refine ⟨receivedScan_sameButTiming _ _, publishedScan_unsent, by decide +kernel, ?_⟩
  intro alike
  exact absurd alike.lateArrivalFlag (by decide)

end Stadium
