import Stadium.Pipeline.IngestionAudit
import Stadium.SignalIngestion.ClientTiming

/-!
# Rejections that quote the payload

An error carries what was parsed as its `rawPayload`, and by then the intake has
filled in its fields. So the response, the dead letter and its record agree with
each other, and with the client exactly when there was nothing to fill in: the
payload is no array, and an object that names all four fields.
-/

namespace Stadium

open Interleaving

/-- The fields the intake assigns. -/
def intakeKeys : List String := ["signalId", "receivedAt", "isStale", "lateArrivalFlag"]

/-- The error quotes the payload, in whatever order of keys. -/
def ValidationError.Quotes (error : ValidationError) (rawPayload : Option Json) : Prop :=
  Option.Rel Json.Same error.rawPayload rawPayload

/-- The intake has no field to assign and no array to spread. -/
def LeftAlone : Option Json → Prop
  | some (.obj fields) => ∀ key ∈ intakeKeys, (Json.field fields key).isSome
  | some (.arr _) => False
  | _ => True

/-! ## What the intake changes -/

section

variable {uuid : String} {now : ℤ} {fields : Json.Fields}

theorem field_intakeDefaults (uuid : String) (now : ℤ) {key : String} (listed : key ∈ intakeKeys) :
    isIndexKey key = false ∧ ∃ value, Json.field (intakeDefaults uuid now) key = some value := by
  simp only [intakeKeys, List.mem_cons, List.not_mem_nil, or_false] at listed
  rcases listed with rfl | rfl | rfl | rfl <;> exact ⟨by decide, _, rfl⟩

/-- An object is left as it is when it names every field the intake assigns. -/
theorem same_withDefaults_iff :
    (Json.obj (withDefaults (intakeDefaults uuid now) fields)).Same (.obj fields) ↔
      ∀ key ∈ intakeKeys, (Json.field fields key).isSome := by
  constructor
  · intro same key listed
    obtain ⟨named, value, default⟩ := field_intakeDefaults uuid now listed
    cases same with
    | obj agree =>
        have own := agree key
        rw [field_withDefaults_of_default default named] at own
        cases found : Json.field fields key with
        | some value => rfl
        | none =>
            rw [found] at own
            cases own
  · intro complete
    apply Json.Same.obj
    intro key
    by_cases listed : key ∈ intakeKeys
    · obtain ⟨named, value, default⟩ := field_intakeDefaults uuid now listed
      obtain ⟨own, found⟩ := Option.isSome_iff_exists.mp (complete key listed)
      rw [field_withDefaults_of_default default named, found]
      exact Json.Same.refl_field (some own)
    · have unlisted : key ∉ (intakeDefaults uuid now).map Prod.fst := listed
      rw [field_withDefaults_of_not_default unlisted]
      exact Json.Same.refl_field _

/-- The intake leaves exactly these payloads alone. -/
theorem same_applyIntakeDefaults_iff {rawPayload : Option Json} :
    Option.Rel Json.Same (applyIntakeDefaults uuid now rawPayload) rawPayload ↔
      LeftAlone rawPayload := by
  cases rawPayload with
  | none => exact iff_of_true .none trivial
  | some json =>
      cases json with
      | obj fields => exact Option.rel_some_some.trans same_withDefaults_iff
      | arr items =>
          refine iff_of_false (fun same => ?_) id
          cases Option.rel_some_some.mp same
      | _ => exact iff_of_true (Json.Same.refl_field _) trivial

end

/-! ## One rejection -/

/-- An error carries what was parsed. -/
theorem rawPayload_of_parse {payload : Option Json} {error : ValidationError}
    (refused : parseSignalEvent payload = .error error) : error.rawPayload = payload := by
  unfold parseSignalEvent at refused
  split at refused
  · cases refused
  · cases refused
    rfl

/-- 400. -/
def Handling.isRejected (handling : Handling) : Bool :=
  match handling.answer with
  | some (.rejected _) => true
  | _ => false

/-- The payload is answered with the error, which goes to `signal-events.dlq`. -/
structure Submission.RejectedWith (config : TimingConfig) (submission : Submission)
    (error : ValidationError) : Prop where
  answered : (submission.handle config).answer = some (.rejected error)
  published : (submission.handle config).refused = [error]

theorem Submission.quotes_iff {config : TimingConfig} {submission : Submission}
    {error : ValidationError} (rejected : submission.RejectedWith config error) :
    error.Quotes submission.rawPayload ↔ LeftAlone submission.rawPayload := by
  let attempt : Attempt := ⟨{}, submission.uuid, submission.now⟩
  have answered := rejected.answered
  cases parsed : attempt.parsed submission.rawPayload with
  | ok event =>
      have handled : submission.handle config = attempt.handle config submission.rawPayload := rfl
      rw [handled] at answered
      rcases Attempt.handle_cases config parsed with ⟨-, nothing⟩ | ⟨-, rejects, -⟩ |
        ⟨-, accepted, -⟩
      · rw [nothing] at answered
        cases answered
      · rw [rejects] at answered
        cases answered
      · rw [accepted] at answered
        cases answered
  | error own =>
      have handled : submission.handle config = ⟨[.publishValidationError own],
          some (.rejected own)⟩ := Attempt.handle_of_error config parsed
      rw [handled] at answered
      obtain rfl : own = error := by
        cases answered
        rfl
      unfold ValidationError.Quotes
      rw [rawPayload_of_parse parsed]
      exact same_applyIntakeDefaults_iff

/-! ## Every rejection of a run -/

/-- The records are those of the rejected payloads, in order. -/
theorem records_of_rejections {config : TimingConfig} {records : List ValidationErrorRecord}
    {submissions : List Submission}
    (refused : records.map (·.error) =
      submissions.flatMap fun submission => (submission.handle config).refused) :
    List.Forall₂ (fun record submission => submission.RejectedWith config record.error) records
      (submissions.filter fun submission => (submission.handle config).isRejected) := by
  induction submissions generalizing records with
  | nil =>
      rw [List.map_eq_nil_iff.mp refused]
      exact .nil
  | cons submission rest ih =>
      rw [List.flatMap_cons] at refused
      rcases submission.settled config with ⟨event, answered, -, silent⟩ | ⟨error, answered, -, one⟩
      · have accepted : (submission.handle config).isRejected = false := by
          unfold Handling.isRejected
          rw [answered]
        rw [silent, List.nil_append] at refused
        rw [List.filter_cons, accepted]
        exact ih refused
      · have rejected : (submission.handle config).isRejected = true := by
          unfold Handling.isRejected
          rw [answered]
        rw [one] at refused
        rw [List.filter_cons, if_pos rejected]
        cases records with
        | nil => cases refused
        | cons record more =>
            obtain ⟨rfl, later⟩ := List.cons.inj refused
            exact .cons ⟨answered, one⟩ (ih later)

/-- **A rejection quotes the payload exactly when the intake leaves it alone.** In every
run the audited errors are those the rejected payloads are answered with and those
published, one by one; an error quotes what its client submitted if and only if
there was nothing to assign and no array to spread. -/
theorem rejections_quote_client_iff (deps : PipelineDependencies) (startedAt : ℤ)
    (schedule : List (Choice IngestionStimulus)) :
    let reached := (Ingestion.after deps startedAt schedule).shared
    reached.submissions.map (·.rawPayload) = Ingestion.payloads schedule ∧
    List.Forall₂ (fun record submission =>
        submission.RejectedWith deps.timingConfig record.error ∧
          (record.error.Quotes submission.rawPayload ↔ LeftAlone submission.rawPayload))
      reached.validationErrors
      (reached.submissions.filter fun submission =>
        (submission.handle deps.timingConfig).isRejected) := by
  intro reached
  obtain ⟨recorded, -⟩ := Ingestion.recorded_after deps startedAt schedule
  refine ⟨Ingestion.submissions_after startedAt schedule, ?_⟩
  apply (records_of_rejections recorded.refused).imp
  intro record submission rejected
  exact ⟨rejected, Submission.quotes_iff rejected⟩

/-- A gate counter that sends its source and nothing else. -/
def demoFragment : Option Json := some (.obj [("source", .str "GATE_COUNTER")])

/-- The audited payload has a `signalId` that nobody submitted. -/
theorem intake_fields_are_quoted :
    ∃ record, (Ingestion.after demoDependencies 0
        [.stimulus (.handleSignal "id-1" demoFragment)]).shared.validationErrors = [record] ∧
      ¬ record.error.Quotes demoFragment := by
  obtain ⟨recorded, -⟩ := Ingestion.recorded_after demoDependencies 0
    [.stimulus (.handleSignal "id-1" demoFragment)]
  have records := records_of_rejections recorded.refused
  have submitted : (Ingestion.after demoDependencies 0
      [.stimulus (.handleSignal "id-1" demoFragment)]).shared.submissions =
        [⟨"id-1", demoFragment, 0⟩] := Ingestion.callNext_submissions _ _
  have rejected : (Submission.handle demoDependencies.timingConfig
      ⟨"id-1", demoFragment, 0⟩).isRejected = true := by decide +kernel
  rw [submitted, List.filter_singleton, rejected, cond_true] at records
  obtain ⟨record, _, own, none, listed⟩ := List.forall₂_cons_right_iff.mp records
  obtain rfl := List.forall₂_nil_right_iff.mp none
  refine ⟨record, listed, ?_⟩
  rw [Submission.quotes_iff own]
  intro alone
  cases alone "signalId" (by decide)

end Stadium
