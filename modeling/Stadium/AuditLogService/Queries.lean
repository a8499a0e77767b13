import Stadium.Lib.LabelledRange
import Stadium.Lib.Rfc3339
import Stadium.Pipeline.State

/-!
# The queries of the audit log

`queryScores`, `queryActions` and `queryNudges` of the audit store in
`server.ts`. The bounds of a query are date-times, but the store compares them
with the recorded times as strings. Every recorded time is what `toISOString`
writes, so for bounds of that form the order of the strings is the order of
time. A bound spelled otherwise may land elsewhere among the recorded texts:
`12:00:00Z` comes after all of `12:00:00.000Z` to `12:00:00.999Z`.
`queries_by_instant_iff` says which bounds select by instant whatever the
audit holds.
-/

namespace Stadium

open IsoDate Rfc3339

/-- `AuditQueryRange` of `api.ts`. -/
structure AuditQueryRange where
  gateId : Option GateId := none
  fanId : Option FanId := none
  from? : Option String := none
  to? : Option String := none

/-- `id` is the one asked for, if the query asks for one. -/
def matchesId (asked : Option String) (id : String) : Bool :=
  !(truthy asked).any (id ≠ ·)

@[simp] theorem matchesId_none (id : String) : matchesId none id = true := rfl

/-- The time is neither below `from` nor above `to`. -/
def AuditQueryRange.admits (range : AuditQueryRange) (time : String) : Bool :=
  !(truthy range.from?).any (fun lower => Text.Before time lower) &&
    !(truthy range.to?).any (fun upper => Text.Before upper time)

namespace AuditState

def queryScores (s : AuditState) (range : AuditQueryRange) : List ScoreAuditRecord :=
  s.scores.filter fun score => matchesId range.gateId score.gateId && range.admits score.timestamp

def queryActions (s : AuditState) (range : AuditQueryRange) : List RecommendedAction :=
  s.actions.values.filter fun action =>
    matchesId range.gateId action.gateId && range.admits action.generatedAt

def queryNudges (s : AuditState) (range : AuditQueryRange) : List FanNudge :=
  s.nudges.values.filter fun nudge =>
    matchesId range.gateId nudge.originGateId && matchesId range.fanId nudge.fanId &&
      range.admits nudge.generatedAt

end AuditState

/-! ## Selecting by instant -/

/-- The time is what `toISOString` writes in a year of four digits. -/
def IsDated (time : String) : Prop :=
  ∃ instant, earliest ≤ instant ∧ instant ≤ latest ∧ toISOString instant = time

/-- All recorded times are. -/
structure AuditState.Dated (s : AuditState) : Prop where
  scores : ∀ score ∈ s.scores, IsDated score.timestamp
  actions : ∀ action ∈ s.actions.values, IsDated action.generatedAt
  nudges : ∀ nudge ∈ s.nudges.values, IsDated nudge.generatedAt

/-- The query for what happened between two date-times. -/
def rangeQuery (gateId : Option GateId) (fanId : Option FanId) (start stop : Option DateTime) :
    AuditQueryRange where
  gateId
  fanId
  from? := start.map (·.text)
  to? := stop.map (·.text)

@[simp] theorem rangeQuery_gateId (gateId : Option GateId) (fanId : Option FanId)
    (start stop : Option DateTime) : (rangeQuery gateId fanId start stop).gateId = gateId := rfl

/-- The instant of the time lies in the closed interval. -/
def within (start stop : Option DateTime) (time : String) : Bool :=
  (instant? time).any fun instant =>
    start.all (fun lower => lower.instant ≤ instant) &&
      stop.all (fun upper => instant ≤ upper.instant)

/-- The three queries return the records that match the ids and lie in the
interval. -/
structure AuditState.AnswersByInstant (s : AuditState) (gateId : Option GateId)
    (fanId : Option FanId) (start stop : Option DateTime) : Prop where
  scores : s.queryScores (rangeQuery gateId fanId start stop) =
    s.scores.filter fun score => matchesId gateId score.gateId && within start stop score.timestamp
  actions : s.queryActions (rangeQuery gateId fanId start stop) =
    s.actions.values.filter fun action =>
      matchesId gateId action.gateId && within start stop action.generatedAt
  nudges : s.queryNudges (rangeQuery gateId fanId start stop) =
    s.nudges.values.filter fun nudge =>
      matchesId gateId nudge.originGateId && matchesId fanId nudge.fanId &&
        within start stop nudge.generatedAt

/-! ## Which bounds fit -/

/-- The first millisecond of the interval. -/
def firstInstant (start : Option DateTime) : ℤ :=
  start.elim earliest fun lower => max earliest ⌈lower.instant⌉

/-- The last millisecond of the interval. -/
def lastInstant (stop : Option DateTime) : ℤ :=
  stop.elim latest fun upper => min latest ⌊upper.instant⌋

/-- The text of `from` is at most that of the first millisecond of the interval
and above that of the millisecond before, and likewise for `to`. If the interval
holds no millisecond, no text of one lies between the texts of the bounds. -/
def BoundsFit (start stop : Option DateTime) : Prop :=
  if firstInstant start ≤ lastInstant stop then
    (∀ lower ∈ start, ¬ Text.Before (toISOString (firstInstant start)) lower.text ∧
      (earliest < firstInstant start →
        Text.Before (toISOString (firstInstant start - 1)) lower.text)) ∧
    ∀ upper ∈ stop, ¬ Text.Before upper.text (toISOString (lastInstant stop)) ∧
      (lastInstant stop < latest →
        Text.Before upper.text (toISOString (lastInstant stop + 1)))
  else
    ∀ instant, earliest ≤ instant → instant ≤ latest →
      (∃ lower ∈ start, Text.Before (toISOString instant) lower.text) ∨
        ∃ upper ∈ stop, Text.Before upper.text (toISOString instant)

/-- A date-time is not empty. -/
theorem truthy_text (bound : Option DateTime) :
    truthy (bound.map (·.text)) = bound.map (·.text) := by
  cases bound with
  | none => rfl
  | some bound =>
      have nonempty : bound.text ≠ "" := by
        intro empty
        have reads := bound.reads
        rw [empty] at reads
        cases reads
      simp [truthy, nonempty]

/-- The interval over the recorded texts and over the milliseconds. -/
def labelledRange (start stop : Option DateTime) : LabelledRange.Range (List ℕ) where
  lower := start.map fun lower => ⟨Text.codeUnits lower.text.toList, ⌈lower.instant⌉⟩
  upper := stop.map fun upper => ⟨Text.codeUnits upper.text.toList, ⌊upper.instant⌋⟩

/-- The label of a millisecond. -/
def textOf (instant : ℤ) : List ℕ := Text.codeUnits (toISOString instant).toList

theorem admits_iff (gateId : Option GateId) (fanId : Option FanId) (start stop : Option DateTime)
    (instant : ℤ) :
    (rangeQuery gateId fanId start stop).admits (toISOString instant) = true ↔
      (labelledRange start stop).Selects textOf instant := by
  unfold AuditQueryRange.admits rangeQuery
  rw [truthy_text, truthy_text]
  cases start <;> cases stop <;>
    simp [LabelledRange.Range.Selects, labelledRange, textOf, Text.not_before]

theorem within_iff (start stop : Option DateTime) {instant : ℤ} (low : earliest ≤ instant)
    (high : instant ≤ latest) :
    within start stop (toISOString instant) = true ↔
      (labelledRange start stop).Contains instant := by
  unfold within
  rw [instant_toISOString low high]
  cases start <;> cases stop <;>
    simp [LabelledRange.Range.Contains, labelledRange, Int.ceil_le, Int.le_floor]

theorem boundsFit_iff (start stop : Option DateTime) :
    BoundsFit start stop ↔ (labelledRange start stop).Fits textOf earliest latest := by
  have first : (labelledRange start stop).start earliest = firstInstant start := by
    cases start <;> rfl
  have last : (labelledRange start stop).stop latest = lastInstant stop := by
    cases stop <;> rfl
  unfold BoundsFit LabelledRange.Range.Fits
  rw [first, last]
  split
  · cases start <;> cases stop <;> simp [labelledRange, Text.Before, textOf]
  · cases start <;> cases stop <;>
      simp [LabelledRange.Range.Selects, labelledRange, textOf, Text.Before, imp_iff_not_or]

/-- The texts admit a recorded time whenever its instant lies in the interval,
and only then, exactly if the bounds fit. -/
theorem admits_eq_within_iff (start stop : Option DateTime) :
    (∀ instant, earliest ≤ instant → instant ≤ latest →
      (rangeQuery none none start stop).admits (toISOString instant) =
        within start stop (toISOString instant)) ↔ BoundsFit start stop := by
  rw [boundsFit_iff, ← LabelledRange.Range.selects_iff_fits]
  · refine forall_congr' fun instant => forall_congr' fun low => forall_congr' fun high => ?_
    rw [Bool.eq_iff_iff, admits_iff, within_iff start stop low high]
  · intro i j low high less
    exact before_toISOString low high less

/-- An audit with one score. -/
def loneScore (instant : ℤ) : AuditState where
  scores := [{
    gateId := "gate-a"
    timestamp := toISOString instant
    score := 0
    riskLevel := .low
    contributingSignalIds := []
    contributingSignalLateArrivalFlags := ∅ }]

theorem loneScore_dated {instant : ℤ} (low : earliest ≤ instant) (high : instant ≤ latest) :
    (loneScore instant).Dated where
  scores := by
    intro score recorded
    rw [List.mem_singleton.mp recorded]
    exact ⟨instant, low, high, rfl⟩
  actions := List.forall_mem_nil _
  nudges := List.forall_mem_nil _

/-- **When queries select by instant.** Whatever the audit holds and whatever
ids are asked for, all three queries return exactly the matching records of the
closed interval, if and only if its bounds fit. -/
theorem queries_by_instant_iff (start stop : Option DateTime) :
    (∀ s : AuditState, s.Dated → ∀ (gateId : Option GateId) (fanId : Option FanId),
      s.AnswersByInstant gateId fanId start stop) ↔ BoundsFit start stop := by
  rw [← admits_eq_within_iff]
  constructor
  · intro answers instant low high
    have single := (answers (loneScore instant) (loneScore_dated low high) none none).scores
    simp only [AuditState.queryScores, loneScore, rangeQuery_gateId, matchesId_none,
      Bool.true_and] at single
    cases admitted : (rangeQuery none none start stop).admits (toISOString instant) <;>
      cases inside : within start stop (toISOString instant) <;>
      simp [admitted, inside] at single ⊢
  · intro agree s dated gateId fanId
    have times (time : String) (recorded : IsDated time) :
        (rangeQuery gateId fanId start stop).admits time = within start stop time := by
      obtain ⟨instant, low, high, rfl⟩ := recorded
      exact agree instant low high
    refine ⟨?_, ?_, ?_⟩
    · refine List.filter_congr fun score member => ?_
      rw [times score.timestamp (dated.scores score member)]
      rfl
    · refine List.filter_congr fun action member => ?_
      rw [times action.generatedAt (dated.actions action member)]
      rfl
    · refine List.filter_congr fun nudge member => ?_
      rw [times nudge.generatedAt (dated.nudges nudge member)]
      rfl

theorem textOf_le_iff {instant instant' : ℤ} (low : earliest ≤ instant) (high : instant ≤ latest)
    (low' : earliest ≤ instant') (high' : instant' ≤ latest) :
    textOf instant ≤ textOf instant' ↔ instant ≤ instant' := by
  constructor
  · intro le
    by_contra later
    exact absurd le (not_le.mpr (before_toISOString low' high (by omega)))
  · intro le
    rcases lt_or_eq_of_le le with less | rfl
    · exact le_of_lt (before_toISOString low high' less)
    · exact le_refl _

/-- Bounds of the recorded form fit. -/
theorem boundsFit_of_dated {start stop : Option DateTime}
    (lower : ∀ bound ∈ start, IsDated bound.text) (upper : ∀ bound ∈ stop, IsDated bound.text) :
    BoundsFit start stop := by
  have denotes (bound : DateTime) (instant : ℤ) (low : earliest ≤ instant)
      (high : instant ≤ latest) (same : toISOString instant = bound.text) :
      bound.instant = instant := by
    have reads := bound.reads
    rw [← same, instant_toISOString low high] at reads
    exact (Option.some.inj reads).symm
  rw [← admits_eq_within_iff]
  intro instant low high
  rw [Bool.eq_iff_iff, admits_iff, within_iff start stop low high]
  refine and_congr ?_ ?_
  · cases start with
    | none => simp [labelledRange]
    | some bound =>
        obtain ⟨first, low', high', same⟩ := lower bound rfl
        have order := textOf_le_iff low' high' low high
        simpa [labelledRange, denotes bound first low' high' same, ← same, textOf] using order
  · cases stop with
    | none => simp [labelledRange]
    | some bound =>
        obtain ⟨last, low', high', same⟩ := upper bound rfl
        have order := textOf_le_iff low high low' high'
        simpa [labelledRange, denotes bound last low' high' same, ← same, textOf] using order

/-- Noon, without a fraction. -/
def noon : DateTime where
  text := "2026-06-01T12:00:00Z"
  instant := 1780315200000
  reads := by decide +kernel

/-- A score of noon is not found from noon to noon: its text comes before the
bound. -/
theorem noon_not_found :
    (loneScore 1780315200000).queryScores (rangeQuery none none (some noon) (some noon)) = [] ∧
      within (some noon) (some noon) (toISOString 1780315200000) = true ∧
      ¬ (loneScore 1780315200000).AnswersByInstant none none (some noon) (some noon) := by
  refine ⟨by decide +kernel, by decide +kernel, ?_⟩
  intro answers
  have lengths := congrArg List.length answers.scores
  exact absurd lengths (by decide +kernel)

end Stadium
