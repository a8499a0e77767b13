import Stadium.Lib.ZodPath
import Stadium.SignalIngestion.Codec

/-!
# Validation errors name the culprit

A valid payload with one field replaced by a value of another type is refused,
and the error names that field and the source. Only the first issue is reported,
so nothing may be found ahead of the culprit.
-/

namespace Stadium

open Zod (Accepts valueAt replaceAt)

/-- Whatever issue comes first is the one that is reported. -/
theorem parseSignalEvent_of_reportsFirst {payload : Option Json} {path : Zod.Path}
    (reported : Zod.ReportsFirst (signalEventPayloadSchema.issues payload []) path) :
    ∃ firstIssue, parseSignalEvent payload = .error (validationError payload firstIssue) ∧
      firstIssue.path = path := by
  obtain ⟨firstIssue, others, issues, there⟩ := reported
  refine ⟨firstIssue, ?_, there⟩
  unfold parseSignalEvent
  split
  · rename_i valid
    rw [issues] at valid
    cases valid
  · rename_i first more invalid
    rw [issues] at invalid
    rw [(List.cons.inj invalid).1]

theorem extractSource_of_field {fields : Json.Fields} {source : SignalSource}
    (named : Json.field fields "source" = some (.str source.text)) :
    extractSource (some (.obj fields)) = some source := by
  unfold extractSource
  simp only [named]
  cases source <;> simp [SignalSource.text]

theorem extractSource_of_no_text {fields : Json.Fields} {value : Json}
    (named : Json.field fields "source" = some value) (different : value.typeName ≠ "string") :
    extractSource (some (.obj fields)) = none := by
  unfold extractSource
  simp only [named]
  cases value <;> first
    | exact absurd rfl different
    | rfl

/-- The source a payload names once the value at a path has changed. -/
theorem extractSource_replaceAt {fields : Json.Fields} {source : SignalSource}
    (named : Json.field fields "source" = some (.str source.text)) {path : Zod.Path}
    (inside : path ≠ []) {old replacement : Json} (found : valueAt path (.obj fields) = some old)
    (different : replacement.typeName ≠ old.typeName) :
    extractSource (some (replaceAt replacement path (.obj fields))) =
      if path = [.key "source"] then none else some source := by
  obtain ⟨item, rest, rfl⟩ := List.exists_cons_of_ne_nil inside
  rcases Zod.valueAt_cons_eq_some found with ⟨name, _, inner, rfl, same, there, below⟩ |
    ⟨_, _, _, -, impossible, -⟩
  · obtain rfl := Json.obj.inj same
    unfold replaceAt
    by_cases this : name = "source"
    · subst this
      rw [named] at there
      obtain rfl := Option.some.inj there
      cases rest with
      | nil =>
          obtain rfl := Option.some.inj below
          rw [if_pos rfl]
          apply extractSource_of_no_text _ different
          rw [Zod.field_changeField, if_pos rfl, named]
          rfl
      | cons item more =>
          rcases Zod.valueAt_cons_eq_some below with ⟨_, _, _, -, impossible, -⟩ |
            ⟨_, _, _, -, impossible, -⟩ <;> cases impossible
    · have elsewhere : ¬ Zod.PathItem.key name :: rest = [.key "source"] := by
        simp [this]
      rw [if_neg elsewhere]
      apply extractSource_of_field
      rw [Zod.field_changeField, if_neg (Ne.symm this), named]
  · cases impossible

/-- **Validation errors point at the culprit.** -/
theorem parseSignalEvent_blames_culprit {payload : Json} {event : SignalEvent}
    (valid : parseSignalEvent (some payload) = .ok event) {path : Zod.Path} (inside : path ≠ [])
    {old replacement : Json} (found : valueAt path payload = some old)
    (different : replacement.typeName ≠ old.typeName) :
    ∃ error source, parseSignalEvent (some (replaceAt replacement path payload)) = .error error ∧
      error.offendingField = some path.text ∧
      valueAt [.key "source"] payload = some (.str source.text) ∧
      error.source = if path = [.key "source"] then none else some source := by
  have accepts := (parseSignalEvent_eq_ok.mp valid).1
  have reported : Zod.ReportsFirst (signalEventPayloadSchema.issues
      (some (replaceAt replacement path payload)) []) path :=
    Zod.path_of_first_issue different accepts found []
  obtain ⟨firstIssue, refused, there⟩ := parseSignalEvent_of_reportsFirst reported
  cases payload with
  | obj fields =>
      obtain ⟨source, named, -⟩ := accepts_source accepts
      refine ⟨_, source, refused, ?_, ?_, extractSource_replaceAt named inside found different⟩
      · show formatOffendingField firstIssue = _
        unfold formatOffendingField
        rw [there, if_neg inside]
      · show (Json.field fields "source").bind (valueAt []) = _
        rw [named]
        rfl
  | _ => cases accepts

/-- An arrival with two fans aboard. -/
def demoArrivalJson : Json :=
  .obj [("source", .str "TRANSIT_FEED"), ("signalId", .str "arrival"),
    ("timestamp", .str "2026-06-01T18:00:00Z"), ("receivedAt", .str "2026-06-01T18:00:01Z"),
    ("isStale", .bool false), ("lateArrivalFlag", .bool false),
    ("payload", .obj [("estimatedPassengerCount", .num 40),
      ("fanIds", .arr [.str "fan-1", .str "fan-2"])])]

/-- The second fan is `null`. -/
theorem parseSignalEvent_blames_culprit_demo :
    ∃ error, parseSignalEvent (some (replaceAt .null
        [.key "payload", .key "fanIds", .index 1] demoArrivalJson)) = .error error ∧
      error.offendingField = some "payload.fanIds.1" ∧ error.source = some .transitFeed := by
  have accepts : signalEventPayloadSchema.issues (some demoArrivalJson) [] = [] := by
    decide +kernel
  obtain ⟨event, decoded, -⟩ := decodeEvent?_of_valid accepts
  have valid := parseSignalEvent_eq_ok.mpr
    ⟨(signalEventPayloadSchema.issues_eq_nil _ _).mp accepts, decoded⟩
  have different : Json.null.typeName ≠ (Json.str "fan-2").typeName := by decide
  have found : valueAt [.key "payload", .key "fanIds", .index 1] demoArrivalJson =
      some (.str "fan-2") := rfl
  obtain ⟨error, source, refused, field, named, own⟩ :=
    parseSignalEvent_blames_culprit valid (List.cons_ne_nil _ _) found different
  have text : source.text = SignalSource.transitFeed.text :=
    (Json.str.inj (Option.some.inj named)).symm
  refine ⟨error, refused, field, ?_⟩
  rw [own, SignalSource.text_injective text]
  decide

end Stadium
