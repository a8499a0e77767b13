import Stadium.Pipeline.State
import Stadium.SignalIngestion.DegradedSource
import Stadium.SignalIngestion.Parser

/-!
# Handling a raw signal

`service.ts`: the intake assigns the fields a client leaves out, parses the
payload, publishes the event or the error, and starts the timer of the source.
Any of the calls may reject; a call that rejects has done nothing, and nothing
undoes what was done before it. A `Handling` is what one request did and how it
was answered.

A request may be repeated safely as long as no attempt is half done: published,
with a timer that does not start (`safe_to_retry_iff`).
-/

namespace Stadium

/-! ## The intake -/

/-- A key that a JavaScript object lists before its other keys: the decimal
digits of a number below `2 ^ 32 - 1`. -/
def isIndexKey (key : String) : Bool :=
  let digits := key.toList
  !digits.isEmpty && digits.all Zod.isDigit && (digits == ['0'] || digits.head? != some '0') &&
    digits.foldl (fun index digit => 10 * index + (digit.toNat - 48)) 0 < 4294967295

/-- The fields the intake assigns. -/
def intakeDefaults (signalId : String) (now : ℤ) : Json.Fields :=
  [("signalId", .str signalId), ("receivedAt", .str (IsoDate.toISOString now)),
    ("isStale", .bool false), ("lateArrivalFlag", .bool false)]

/-- The defaults, overwritten by the fields of the input. -/
def withDefaults (defaults input : Json.Fields) : Json.Fields :=
  input.filter (fun entry => isIndexKey entry.1) ++
    defaults.map (fun entry => (entry.1, (Json.field input entry.1).getD entry.2)) ++
    input.filter fun entry => !isIndexKey entry.1 && !(defaults.map Prod.fst).contains entry.1

/-- `applyIntakeDefaults`; the id is the one `randomUUID` returns. An array is
spread into an object of its items. -/
def applyIntakeDefaults (uuid : String) (now : ℤ) : Option Json → Option Json
  | some (.obj input) => some (.obj (withDefaults (intakeDefaults uuid now) input))
  | some (.arr items) =>
      some (.obj (withDefaults (intakeDefaults uuid now)
        (items.zipIdx.map fun entry => (toString entry.2, entry.1))))
  | rawPayload => rawPayload

/-- The event with its timing classified. -/
def SignalEvent.classified (event : SignalEvent) (config : TimingConfig) (now : ℤ) :
    SignalEvent :=
  { event with
    isStale := (classifyTiming event.timestamp event.receivedAt now config).isStale
    lateArrivalFlag :=
      (classifyTiming event.timestamp event.receivedAt now config).lateArrivalFlag }

/-! ## One request -/

/-- Which calls of one request reject. -/
structure IngestionFaults where
  publishSignalEvent : Bool := false
  publishValidationError : Bool := false
  touchSource : Bool := false

inductive IngestionEffect where
  | publishSignalEvent (event : SignalEvent)
  | publishValidationError (error : ValidationError)
  | markActive (sourceType : SignalSource) (gateOrRouteId : String)

inductive SignalIngestionResult where
  /-- 202. -/
  | accepted (signalId : String)
  /-- 400. -/
  | rejected (error : ValidationError)

/-- What a request did, and its answer; `none` when it rejects. -/
structure Handling where
  effects : List IngestionEffect
  answer : Option SignalIngestionResult

namespace Handling

/-- The request returns. -/
def reply (result : SignalIngestionResult) : Handling := ⟨[], some result⟩

/-- A call that is awaited before the rest. -/
def await (rejects : Bool) (effect : IngestionEffect) (rest : Handling) : Handling :=
  if rejects then ⟨[], none⟩ else ⟨effect :: rest.effects, rest.answer⟩

/-- The events published on `signal-events`. -/
def published (handling : Handling) : List SignalEvent :=
  handling.effects.filterMap fun
    | .publishSignalEvent event => some event
    | _ => none

/-- The timers started. -/
def touched (handling : Handling) : List (SignalSource × String) :=
  handling.effects.filterMap fun
    | .markActive sourceType gateOrRouteId => some (sourceType, gateOrRouteId)
    | _ => none

end Handling

/-- `event.gateId ?? event.routeId`. -/
def SignalEvent.targetId (event : SignalEvent) : Option String := event.gateId <|> event.routeId

def handleSignal (config : TimingConfig) (faults : IngestionFaults) (uuid : String)
    (rawPayload : Option Json) (now : ℤ) : Handling :=
  match parseSignalEvent (applyIntakeDefaults uuid now rawPayload) with
  | .error error =>
      .await faults.publishValidationError (.publishValidationError error)
        (.reply (.rejected error))
  | .ok parsed =>
      let event := parsed.classified config now
      .await faults.publishSignalEvent (.publishSignalEvent event)
        (match truthy event.targetId with
        | some targetId =>
            .await faults.touchSource (.markActive event.source targetId)
              (.reply (.accepted event.signalId))
        | none => .reply (.accepted event.signalId))

/-! ## What a request does -/

theorem SignalEventPayloadBody.Conforms.peopleCount_nonneg {payload : SignalEventPayloadBody}
    (conforms : payload.Conforms) : 0 ≤ payload.peopleCount := by
  cases payload with
  | gateCounter count intervalSeconds => exact conforms.1
  | ticketScan fanId => exact zero_le_one
  | transitArrival => exact conforms.1

/-- A conforming event without its flags is a parsed signal. -/
def SignalEvent.Conforms.signal {event : SignalEvent} (conforms : event.Conforms) :
    ParsedSignal where
  signalId := event.signalId
  gateId := event.gateId
  routeId := event.routeId
  timestamp := event.timestamp
  receivedAt := event.receivedAt
  payload := event.payload
  gateId_nonempty := event.gateId_nonempty
  count_nonneg := conforms.payload.peopleCount_nonneg

/-- Classifying a conforming event accepts its signal. -/
theorem classified_eq_accept {event : SignalEvent} (conforms : event.Conforms)
    (config : TimingConfig) (now : ℤ) :
    event.classified config now = conforms.signal.accept config now := rfl

/-- The target id of a conforming event passes the truthiness test. -/
theorem truthy_targetId {event : SignalEvent} (conforms : event.Conforms) :
    truthy event.targetId = event.targetId := by
  unfold SignalEvent.targetId
  cases named : event.gateId with
  | some gateId =>
      show truthy (some gateId) = some gateId
      rw [← named]
      exact event.truthy_gateId
  | none =>
      show truthy event.routeId = event.routeId
      unfold truthy
      cases routed : event.routeId with
      | none => rfl
      | some routeId =>
          have nonempty : routeId ≠ "" := fun empty => conforms.routeId (by rw [routed, empty])
          exact Option.filter_some_pos (decide_eq_true nonempty)

theorem targetId_ne_none {event : SignalEvent} :
    event.targetId ≠ none ↔ event.gateId ≠ none ∨ event.routeId ≠ none := by
  unfold SignalEvent.targetId
  cases event.gateId <;> simp

/-- One attempt to hand in a payload. -/
structure Attempt where
  faults : IngestionFaults
  uuid : String
  now : ℤ

namespace Attempt

variable (config : TimingConfig) (rawPayload : Option Json) (attempt : Attempt)

/-- What the attempt does. -/
def handle : Handling :=
  handleSignal config attempt.faults attempt.uuid rawPayload attempt.now

/-- The payload as the attempt parses it. -/
def parsed : Except ValidationError SignalEvent :=
  parseSignalEvent (applyIntakeDefaults attempt.uuid attempt.now rawPayload)

/-- The event is published, and the timer it should start does not start. -/
structure HalfDone : Prop where
  accepted : ∃ event, attempt.parsed rawPayload = .ok event ∧
    (event.gateId ≠ none ∨ event.routeId ≠ none)
  published : attempt.faults.publishSignalEvent = false
  timerFails : attempt.faults.touchSource = true

variable {rawPayload attempt}

theorem handle_of_error {error : ValidationError}
    (refused : attempt.parsed rawPayload = .error error) :
    attempt.handle config rawPayload =
      .await attempt.faults.publishValidationError (.publishValidationError error)
        (.reply (.rejected error)) := by
  unfold parsed at refused
  unfold handle handleSignal
  rw [refused]

theorem handle_of_ok {event : SignalEvent} (accepted : attempt.parsed rawPayload = .ok event) :
    attempt.handle config rawPayload =
      .await attempt.faults.publishSignalEvent
        (.publishSignalEvent (event.classified config attempt.now))
        (match event.targetId with
        | some targetId =>
            .await attempt.faults.touchSource (.markActive event.source targetId)
              (.reply (.accepted event.signalId))
        | none => .reply (.accepted event.signalId)) := by
  have target : truthy event.targetId = event.targetId :=
    truthy_targetId (conforms_of_parse accepted)
  have own : (event.classified config attempt.now).targetId = event.targetId := rfl
  unfold parsed at accepted
  unfold handle handleSignal
  rw [accepted]
  simp only [own, target]
  rfl

/-- A refused payload publishes no event and starts no timer. -/
theorem clean_of_error {error : ValidationError}
    (refused : attempt.parsed rawPayload = .error error) :
    (attempt.handle config rawPayload).published = [] ∧
      (attempt.handle config rawPayload).touched = [] := by
  rw [handle_of_error config refused]
  unfold Handling.await
  split <;> exact ⟨rfl, rfl⟩

/-- What an attempt with an accepted payload does: nothing, or the event is
published and the timer does not start, or all of it. -/
theorem handle_cases {event : SignalEvent} (accepted : attempt.parsed rawPayload = .ok event) :
    ¬ attempt.HalfDone rawPayload ∧ attempt.handle config rawPayload = ⟨[], none⟩ ∨
      attempt.HalfDone rawPayload ∧ (attempt.handle config rawPayload).answer = none ∧
        (attempt.handle config rawPayload).published = [event.classified config attempt.now] ∨
      ¬ attempt.HalfDone rawPayload ∧
        (attempt.handle config rawPayload).answer = some (.accepted event.signalId) ∧
        (attempt.handle config rawPayload).published = [event.classified config attempt.now] := by
  have handled := handle_of_ok config accepted
  cases publish : attempt.faults.publishSignalEvent with
  | true =>
      rw [publish] at handled
      refine .inl ⟨fun half => ?_, handled⟩
      exact absurd half.published (by rw [publish]; decide)
  | false =>
      rw [publish] at handled
      refine .inr ?_
      cases target : event.targetId with
      | none =>
          rw [target] at handled
          refine .inr ⟨fun half => ?_, by rw [handled]; rfl, by rw [handled]; rfl⟩
          obtain ⟨event', accepted', named⟩ := half.accepted
          obtain rfl := Except.ok.inj (accepted.symm.trans accepted')
          exact targetId_ne_none.mpr named target
      | some targetId =>
          rw [target] at handled
          cases touch : attempt.faults.touchSource with
          | true =>
              rw [touch] at handled
              have named := targetId_ne_none.mp (target ▸ Option.some_ne_none targetId)
              exact .inl ⟨⟨⟨event, accepted, named⟩, publish, touch⟩, by rw [handled]; rfl,
                by rw [handled]; rfl⟩
          | false =>
              rw [touch] at handled
              refine .inr ⟨fun half => ?_, by rw [handled]; rfl, by rw [handled]; rfl⟩
              exact absurd half.timerFails (by rw [touch]; decide)

/-- An attempt that is not half done and rejects has done nothing. -/
theorem clean_iff :
    ((attempt.handle config rawPayload).answer = none →
      (attempt.handle config rawPayload).published = [] ∧
        (attempt.handle config rawPayload).touched = []) ↔
      ¬ attempt.HalfDone rawPayload := by
  cases parsed : attempt.parsed rawPayload with
  | error error =>
      refine iff_of_true (fun _ => clean_of_error config parsed) (fun half => ?_)
      obtain ⟨event, accepted, -⟩ := half.accepted
      rw [parsed] at accepted
      cases accepted
  | ok event =>
      rcases handle_cases config parsed with ⟨whole, nothing⟩ |
        ⟨half, rejects, published⟩ | ⟨whole, answered, -⟩
      · refine iff_of_true (fun _ => ?_) whole
        rw [nothing]
        exact ⟨rfl, rfl⟩
      · refine iff_of_false (fun clean => ?_) (not_not.mpr half)
        rw [published] at clean
        cases (clean rejects).1
      · refine iff_of_true (fun rejects => ?_) whole
        rw [answered] at rejects
        cases rejects

/-- What an attempt that is not half done publishes, by its answer. -/
theorem published_of_answer (whole : ¬ attempt.HalfDone rawPayload) :
    match (attempt.handle config rawPayload).answer with
    | some (.accepted signalId) => ∃ signal : ParsedSignal, signal.signalId = signalId ∧
        (attempt.handle config rawPayload).published = [signal.accept config attempt.now]
    | _ => (attempt.handle config rawPayload).published = [] := by
  cases parsed : attempt.parsed rawPayload with
  | error error =>
      have clean := (clean_of_error config parsed).1
      split
      · rename_i signalId answered
        rw [handle_of_error config parsed] at answered
        unfold Handling.await at answered
        split at answered <;> cases answered
      · exact clean
  | ok event =>
      rcases handle_cases config parsed with ⟨-, nothing⟩ | ⟨half, -⟩ |
        ⟨-, answered, published⟩
      · rw [nothing]
        rfl
      · exact absurd half whole
      · rw [answered]
        exact ⟨(conforms_of_parse parsed).signal, rfl,
          published.trans (congrArg (fun e => [e]) (classified_eq_accept _ config attempt.now))⟩

end Attempt

/-! ## Retries -/

def Handling.isAccepted (handling : Handling) : Bool :=
  match handling.answer with
  | some (.accepted _) => true
  | _ => false

variable (config : TimingConfig) (rawPayload : Option Json)

/-- A client that repeats its request stops at the first 202. -/
def attemptsMade : List Attempt → List Attempt
  | [] => []
  | attempt :: rest =>
      if (attempt.handle config rawPayload).isAccepted then [attempt]
      else attempt :: attemptsMade rest

/-- The events some attempts publish. -/
def publishedBy (attempts : List Attempt) : List SignalEvent :=
  attempts.flatMap fun attempt => (attempt.handle config rawPayload).published

/-- An attempt that rejects has done nothing, and a client that repeats its
request until it is accepted has published one event, which enters the windows
once. -/
structure SafeToRetry (attempts : List Attempt) : Prop where
  clean : ∀ attempt ∈ attemptsMade config rawPayload attempts,
    (attempt.handle config rawPayload).answer = none →
      (attempt.handle config rawPayload).published = [] ∧
        (attempt.handle config rawPayload).touched = []
  once : ∀ attempt ∈ attemptsMade config rawPayload attempts, ∀ signalId,
    (attempt.handle config rawPayload).answer = some (.accepted signalId) →
      ∃ signal : ParsedSignal, signal.signalId = signalId ∧
        publishedBy config rawPayload (attemptsMade config rawPayload attempts) =
          [signal.accept config attempt.now] ∧
        ∀ intake : IntakeState,
          (publishedBy config rawPayload (attemptsMade config rawPayload attempts)).foldl
              IntakeState.onSignalEvent intake =
            intake.onSignalEvent (signal.accept config attempt.now)

variable {config rawPayload}

theorem isAccepted_iff {handling : Handling} :
    handling.isAccepted = true ↔ ∃ signalId, handling.answer = some (.accepted signalId) := by
  unfold Handling.isAccepted
  split
  · rename_i signalId answered
    exact iff_of_true rfl ⟨signalId, answered⟩
  · rename_i other
    exact iff_of_false Bool.false_ne_true fun ⟨signalId, answered⟩ => other signalId answered

/-- Up to the last one, attempts that are not half done publish nothing. -/
theorem publishedBy_attemptsMade {attempts : List Attempt}
    (whole : ∀ attempt ∈ attemptsMade config rawPayload attempts, ¬ attempt.HalfDone rawPayload)
    {attempt : Attempt} (made : attempt ∈ attemptsMade config rawPayload attempts)
    (accepted : (attempt.handle config rawPayload).isAccepted = true) :
    publishedBy config rawPayload (attemptsMade config rawPayload attempts) =
      (attempt.handle config rawPayload).published := by
  induction attempts with
  | nil => cases made
  | cons first rest ih =>
      unfold attemptsMade at whole made ⊢
      split at whole
      · rename_i last
        rw [if_pos last] at made ⊢
        rw [List.mem_singleton.mp made]
        exact List.append_nil _
      · rename_i again
        rw [if_neg again] at made ⊢
        obtain ⟨firstWhole, restWhole⟩ := List.forall_mem_cons.mp whole
        have nothing : (first.handle config rawPayload).published = [] := by
          have published := Attempt.published_of_answer config firstWhole
          split at published
          · rename_i signalId answered
            exact absurd (isAccepted_iff.mpr ⟨signalId, answered⟩) again
          · exact published
        have later : attempt ∈ attemptsMade config rawPayload rest := by
          rcases List.mem_cons.mp made with rfl | later
          · exact absurd accepted again
          · exact later
        have rest := ih restWhole later
        unfold publishedBy at rest ⊢
        rw [List.flatMap_cons, nothing, List.nil_append, rest]

/-- **A request is safe to retry exactly when no attempt is half done.** -/
theorem safe_to_retry_iff (config : TimingConfig) (rawPayload : Option Json)
    (attempts : List Attempt) :
    SafeToRetry config rawPayload attempts ↔
      ∀ attempt ∈ attemptsMade config rawPayload attempts, ¬ attempt.HalfDone rawPayload := by
  constructor
  · intro safe attempt made
    exact (Attempt.clean_iff config).mp (safe.clean attempt made)
  · intro whole
    refine ⟨fun attempt made => (Attempt.clean_iff config).mpr (whole attempt made), ?_⟩
    intro attempt made signalId answered
    have published := Attempt.published_of_answer config (whole attempt made)
    rw [answered] at published
    obtain ⟨signal, sameId, published⟩ := published
    have all := publishedBy_attemptsMade whole made (isAccepted_iff.mpr ⟨signalId, answered⟩)
    refine ⟨signal, sameId, all.trans published, fun intake => ?_⟩
    rw [all, published]
    rfl

/-- A counter reading for gate `gate-a`. -/
def counterPayload : Json :=
  .obj [("source", .str "GATE_COUNTER"), ("gateId", .str "gate-a"),
    ("timestamp", .str "2026-06-01T18:00:00.000Z"),
    ("payload", .obj [("count", .num 40), ("intervalSeconds", .num 60)])]

/-- Redis fails once, and the client tries again a second later. -/
def retriedAttempts : List Attempt :=
  [{ faults := { touchSource := true }, uuid := "first", now := 1780336800000 },
    { faults := {}, uuid := "second", now := 1780336801000 }]

/-- The 503 was answered after the event was published; it is published again
by the second attempt. -/
theorem failed_ingestion_publishes :
    ¬ ∀ rawPayload attempts, SafeToRetry defaultTimingConfig rawPayload attempts := by
  intro safe
  have clean := (safe (some counterPayload) retriedAttempts).clean _
    (by unfold retriedAttempts attemptsMade; split <;> exact List.mem_cons_self)
  let parsed := applyIntakeDefaults "first" 1780336800000 (some counterPayload)
  have accepts : signalEventPayloadSchema.issues parsed [] = [] := by decide +kernel
  have gate : (parsed.bind decodeEvent?).map (·.gateId) = some (some "gate-a") := by
    decide +kernel
  obtain ⟨event, decoded, gateId⟩ := Option.map_eq_some_iff.mp gate
  refine (Attempt.clean_iff _).mp clean ⟨⟨event, ?_, .inl ?_⟩, rfl, rfl⟩
  · exact parseSignalEvent_eq_ok.mpr ⟨(signalEventPayloadSchema.issues_eq_nil _ _).mp accepts,
      decoded⟩
  · rw [gateId]
    exact Option.some_ne_none _

end Stadium
