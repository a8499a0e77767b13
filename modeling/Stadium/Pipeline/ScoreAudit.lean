import Stadium.Infra.Topology
import Stadium.Lib.Trace
import Stadium.Pipeline.Machine

/-!
# What the score audit names

The audit subscriber of `congestion-scores` reads the window of the gate
again when a score is published, two suspensions after the recompute read it,
and takes every event in it. The flags go into an object keyed by the signal
ids, which clients choose, so of two events under one id only the last one's
flag is kept. The record names the events the recompute counted, with their
flags, if nothing was delivered for the gate in between, the window held only
events that count, and those under one id have one flag
(`score_audit_names_counted`); one stale event in the window is enough to make
the record wrong (`stale_event_is_audited`).
-/

namespace Stadium

open Interleaving TaskSystem

/-- The events a computation counted: of the window it has read, those neither
stale nor more than ten minutes old. -/
def Computation.counted (computation : Computation) : List SignalEvent :=
  nonStaleRecent computation.window computation.now

/-- The record a computation is to leave: it has the current point of the
computation's forecast and names the counted events, each with the flag it was
ingested with, and no others. -/
structure Computation.NamedBy (computation : Computation) (record : ScoreAuditRecord) : Prop where
  gate : record.gateId = computation.gate.gateId
  score : ∃ point,
    (forecastOf computation.gate computation.window computation.now).scores.head? = some point ∧
    record.timestamp = point.forecastTime ∧ record.score = point.score ∧
    record.riskLevel = point.riskLevel
  ids : record.contributingSignalIds = computation.counted.map (·.signalId)
  flags : ∀ event ∈ computation.counted,
    record.contributingSignalLateArrivalFlags.get? event.signalId = some event.lateArrivalFlag
  noOthers : ∀ signalId,
    (record.contributingSignalLateArrivalFlags.get? signalId).isSome = true →
      signalId ∈ computation.counted.map (·.signalId)

namespace PipelineTask

/-- The computation a recompute is about to publish. -/
def publishing? : PipelineTask → Option Computation
  | .publishingForecast computation => some computation
  | _ => none

/-- A computation in flight has the result of its window. -/
def CarriesOwnResult : PipelineTask → Prop
  | .savingScore computation _ | .publishingForecast computation =>
      computation.result = forecastOf computation.gate computation.window computation.now
  | _ => True

end PipelineTask

namespace Pipeline

variable (deps : PipelineDependencies)

/-- Notes each computation when it is published. -/
def publications : Observer PipelineState PipelineTask PipelineStimulus Computation where
  onStimulus _ _ := []
  onResume task _ := task.publishing?.toList

/-- The score audit holds one record for each published computation, in order,
and each names what its computation counted. -/
def AuditNamesCounted (startedAt : ℤ) (schedule : Schedule) : Prop :=
  List.Forall₂ Computation.NamedBy
    ((system deps).trace publications ⟨.wired startedAt, []⟩ schedule)
    (after deps startedAt schedule).shared.audit.scores

/-- No two events of a window under one signal id have different flags. -/
def OneFlagPerId (window : List SignalEvent) : Prop :=
  ∀ a ∈ window, ∀ b ∈ window, a.signalId = b.signalId → a.lateArrivalFlag = b.lateArrivalFlag

instance (window : List SignalEvent) : Decidable (OneFlagPerId window) :=
  inferInstanceAs (Decidable (∀ a ∈ window, ∀ b ∈ window, _ → _))

/-- Scores come from recomputes only. When one is published, the window of its
gate is still the one the recompute has read, all of it counted, and a signal
id stands for one flag in it. -/
def PublishesWhatItCounted (c : Config PipelineState PipelineTask) :
    Choice PipelineStimulus → Prop
  | .stimulus (.congestionScore _) => False
  | .stimulus _ => True
  | .resume position =>
      ∀ computation ∈ (c.suspended[position]?).bind PipelineTask.publishing?,
        c.shared.intake.getWindowForGate computation.gate.gateId = computation.window ∧
          (∀ event ∈ computation.window, event.eligible computation.now = true) ∧
          OneFlagPerId computation.window

instance (c : Config PipelineState PipelineTask) :
    ∀ choice, Decidable (PublishesWhatItCounted c choice)
  | .stimulus (.congestionScore _) => isFalse id
  | .stimulus (.advance _) | .stimulus (.handleSignal _) | .stimulus (.signalEvent _)
  | .stimulus (.tick _) | .stimulus (.executeAction ..) => isTrue trivial
  | .resume _ => inferInstanceAs (Decidable (∀ computation ∈ _, _ ∧ _ ∧ _))

/-- The audit so far, against the computations published so far. -/
structure AuditInv (c : Config PipelineState PipelineTask) (published : List Computation) :
    Prop where
  records : List.Forall₂ Computation.NamedBy published c.shared.audit.scores
  genuine : ∀ task ∈ c.suspended, task.CarriesOwnResult

theorem auditInv_wired (startedAt : ℤ) : AuditInv ⟨.wired startedAt, []⟩ [] where
  records := .nil
  genuine _ member := absurd member List.not_mem_nil

/-! ## What a step does to the audit -/

theorem stimulate_scores {stimulus : PipelineStimulus}
    (own : ∀ message, stimulus ≠ .congestionScore message) (s : PipelineState) :
    (stimulate deps stimulus s).1.audit.scores = s.audit.scores ∧
      ∀ task ∈ (stimulate deps stimulus s).2, task.CarriesOwnResult := by
  refine ⟨?_, ?_⟩
  · cases stimulus with
    | congestionScore message => exact absurd rfl (own message)
    | _ => simp [stimulate]
  · intro task member
    cases stimulate_starts deps stimulus s task member <;> trivial

/-- Only a publication writes to the score audit. -/
theorem resume_scores_other {task : PipelineTask} (other : task.publishing? = none)
    (s : PipelineState) : (resume deps task s).shared.audit.scores = s.audit.scores := by
  cases task with
  | computing gate window =>
      rw [resume_computing]
      rfl
  | publishingForecast computation => cases other
  | decidingNudge update fan lastNudgeAt rest generated =>
      exact congrArg (·.audit.scores) (decideNudge_shared deps update fan lastNudgeAt rest
        generated s)
  | locatingAction gateId actionId userId now actions =>
      exact congrArg (·.audit.scores) (locateAction_shared gateId actionId userId now actions s)
  | _ => rfl

/-- A publication appends the record of the window it finds. -/
theorem resume_scores_publishing {computation : Computation}
    (genuine : PipelineTask.CarriesOwnResult (.publishingForecast computation))
    (s : PipelineState) :
    (resume deps (.publishingForecast computation) s).shared.audit.scores =
      s.audit.scores ++ [scoreAuditOf computation.gate
        (currentPointOf computation.gate computation.window computation.now)
        (s.intake.getWindowForGate computation.gate.gateId)] := by
  have current : computation.result.scores.head? =
      some (currentPointOf computation.gate computation.window computation.now) := by
    rw [show computation.result = _ from genuine]
    exact forecastOf_head _ _ _
  simp only [resume, publishForecast, onCongestionScore, auditScore, current]

/-- The record of a window that counted as a whole. -/
theorem namedBy_scoreAuditOf {computation : Computation}
    (counted : ∀ event ∈ computation.window, event.eligible computation.now = true)
    (oneFlag : OneFlagPerId computation.window) :
    computation.NamedBy (scoreAuditOf computation.gate
      (currentPointOf computation.gate computation.window computation.now) computation.window) := by
  have all : computation.counted = computation.window := List.filter_eq_self.mpr counted
  refine ⟨rfl, ⟨_, forecastOf_head _ _ _, rfl, rfl, rfl⟩, by rw [all]; rfl, ?_, ?_⟩
  · intro event listed
    rw [all] at listed
    have kept : ((scoreAuditOf computation.gate (currentPointOf computation.gate computation.window
        computation.now) computation.window).contributingSignalLateArrivalFlags.get?
          event.signalId).isSome = true :=
      OrderedMap.isSome_get?_ofList.mpr (by
        rw [List.map_map]
        exact List.mem_map_of_mem listed)
    obtain ⟨flag, found⟩ := Option.isSome_iff_exists.mp kept
    obtain ⟨other, member, same⟩ := List.mem_map.mp (OrderedMap.mem_of_get?_ofList found)
    obtain ⟨id, rfl⟩ := Prod.mk.inj same
    rw [found, oneFlag other member event listed id]
  · intro signalId named
    have listed := OrderedMap.isSome_get?_ofList.mp named
    rwa [List.map_map, ← all] at listed

/-- A recompute hands its result on unchanged. -/
theorem genuine_inherited {task : PipelineTask} (genuine : task.CarriesOwnResult)
    (s : PipelineState) :
    ∀ next ∈ (resume deps task s).continued.toList ++ (resume deps task s).started,
      next.CarriesOwnResult := by
  intro next member
  cases task with
  | computing gate window =>
      rw [resume_computing] at member
      rw [List.mem_singleton.mp member]
      exact rfl
  | savingScore computation point =>
      rw [List.mem_singleton.mp member]
      exact genuine
  | _ =>
      -- no other task is followed by a recompute
      have follows := resume_follows deps _ s next member
      cases follows <;> trivial

/-- Every guarded resumption keeps the audit in step. -/
theorem AuditInv.resumed {s : PipelineState} {before after : List PipelineTask}
    {task : PipelineTask} {published : List Computation}
    (inv : AuditInv ⟨s, before ++ task :: after⟩ published)
    (guard : PublishesWhatItCounted ⟨s, before ++ task :: after⟩ (.resume before.length)) :
    AuditInv ⟨(resume deps task s).shared,
      before ++ (resume deps task s).continued.toList ++ after ++ (resume deps task s).started⟩
      (published ++ task.publishing?.toList) where
  records := by
    cases publishes : task.publishing? with
    | none =>
        rw [resume_scores_other deps publishes, Option.toList_none, List.append_nil]
        exact inv.records
    | some computation =>
        have shape : task = .publishingForecast computation := by
          cases task <;> simp_all [PipelineTask.publishing?]
        subst shape
        obtain ⟨unchanged, counted, oneFlag⟩ :=
          guard computation (by simp [PipelineTask.publishing?])
        have unchanged : s.intake.getWindowForGate computation.gate.gateId = computation.window :=
          unchanged
        have genuine := inv.genuine (.publishingForecast computation) (by simp)
        rw [resume_scores_publishing deps genuine, unchanged]
        exact List.rel_append inv.records (.cons (namedBy_scoreAuditOf counted oneFlag) .nil)
  genuine := forall_mem_resumed inv.genuine fun genuine => genuine_inherited deps genuine s

/-- **The score audit names what was counted.** In every run of signal events
and ticks in which each score is published from the window its recompute has
read, all of that window counted, and its signal ids stand for one flag each,
every record of the score audit names exactly the events its recompute
counted, with their flags. -/
theorem score_audit_names_counted (startedAt : ℤ) (schedule : Schedule)
    (guarded : (system deps).Guarded PublishesWhatItCounted ⟨.wired startedAt, []⟩ schedule) :
    AuditNamesCounted deps startedAt schedule := by
  suffices inv : AuditInv (after deps startedAt schedule)
      ([] ++ (system deps).trace publications ⟨.wired startedAt, []⟩ schedule) from inv.records
  refine (system deps).run_invariant_traced publications ?_ ?_ (auditInv_wired startedAt) guarded
  · intro s tasks published stimulus inv guard
    have own : ∀ message, stimulus ≠ .congestionScore message := by
      rintro message rfl
      exact guard
    obtain ⟨scores, started⟩ := stimulate_scores deps own s
    refine ⟨?_, ?_⟩
    · show List.Forall₂ _ (published ++ []) (stimulate deps stimulus s).1.audit.scores
      rw [scores, List.append_nil]
      exact inv.records
    · intro task member
      rcases List.mem_append.mp member with old | new
      · exact inv.genuine task old
      · exact started task new
  · intro s before task after published inv guard
    exact inv.resumed deps guard

/-- Two readings of gate A, each published before the next arrives. -/
def twoReadings : Schedule :=
  [.stimulus (.signalEvent (demoReading "first" 50 "1970-01-01T00:00:00.000Z"))] ++ resumes 0 3 ++
    [.stimulus (.signalEvent (demoReading "second" 50 "1970-01-01T00:00:00.000Z"))] ++ resumes 1 3

theorem score_audit_names_counted_demo :
    AuditNamesCounted demoDependencies 0 twoReadings ∧
      (after demoDependencies 0 twoReadings).shared.audit.scores.map (·.contributingSignalIds) =
        [["first"], ["first", "second"]] :=
  ⟨score_audit_names_counted demoDependencies 0 twoReadings (by decide +kernel),
    by decide +kernel⟩

theorem ids_of_namedBy {published : List Computation} {records : List ScoreAuditRecord}
    (named : List.Forall₂ Computation.NamedBy published records) :
    records.map (·.contributingSignalIds) =
      published.map fun computation => computation.counted.map (·.signalId) := by
  induction named with
  | nil => rfl
  | cons first rest ih => rw [List.map_cons, List.map_cons, ih, first.ids]

/-- The recompute of gate A counts nothing, and its audit record names the
stale reading. -/
theorem stale_event_is_audited :
    ¬ AuditNamesCounted demoDependencies 0
      ([.stimulus (.signalEvent staleReading)] ++ resumes 0 3) := by
  intro named
  exact absurd (ids_of_namedBy named) (by decide +kernel)

end Pipeline

end Stadium
