import Stadium.AuditLogService.Queries
import Stadium.Pipeline.Times
import Stadium.Server.Reads

/-!
# The history the server keeps

Every date the server puts on a record is a reading of its clock between the start and
the present (`every_date_is_a_reading`). The score audit only grows, and what it grows
by is dated from the moment the score is computed on. Once all scores computed are
published, the past is therefore settled: however the run goes on, a query for a period
that is over is answered as before (`settled_history`).
-/

namespace Stadium

open Interleaving TaskSystem IsoDate

/-- Nothing in the process is dated otherwise than between the start and the present. -/
theorem Process.dated (deps : PipelineDependencies) (start : ℤ) :
    ∃ ok, (system deps).Guarantee
      (Sum.elim (IngestionStimulus.Within PipelineStimulus.Own)
        (Sum.elim (fun _ => True) fun _ => True))
      (fun w => start ≤ w.pipeline.intake.clock ∧
        ∀ r, w.pipeline.Holds r → DatedBetween start w.pipeline.intake.clock r)
      (fun w w' => NoEarlier w.pipeline w'.pipeline) ok := by
  have operating : (operations deps).Guarantee (fun _ => True) _ _ _ :=
    ((FanNudgeDeliveryWorker.dated start).sum ((DataQualityCheck.dated deps start).sum
      (ShuttleRedirectionApi.dated start))).restrict fun stimulus _ => by
        rcases stimulus with stimulus | stimulus | stimulus <;> trivial
  refine ⟨_, guarantee_of_parts (Pipeline.dated deps start) operating (fun _ => trivial)
    (fun _ => le_rfl) fun s redis inv => ⟨⟨inv.1, fun r has => inv.2 r ?_⟩, le_rfl⟩⟩
  cases r <;> exact has

/-- The current point of a score that is computed and not yet published. -/
def PipelineTask.unpublished? : PipelineTask → Option CongestionScorePoint
  | .savingScore computation _ | .publishingForecast computation => computation.result.scores.head?
  | _ => none

def ProcessTask.unpublished? : ProcessTask → Option CongestionScorePoint
  | .inl (.inl task) => task.unpublished?
  | _ => none

/-- The score audit is that of before, and then what is dated since. -/
def GrownSince (since : ℤ) (old : List ScoreAuditRecord) (s : PipelineState) : Prop :=
  since ≤ s.intake.clock ∧ ∃ new, s.audit.scores = old ++ new ∧
    ∀ record ∈ new, ReadBetween since s.intake.clock record.timestamp

/-- What the task is still to publish is dated since. -/
def UnpublishedSince (since : ℤ) (s : PipelineState) (task : PipelineTask) : Prop :=
  ∀ point, task.unpublished? = some point → ReadBetween since s.intake.clock point.forecastTime

section

variable {since : ℤ} {old : List ScoreAuditRecord} {s t : PipelineState}

/-- Time passes, and nothing is audited. -/
theorem GrownSince.later (grown : GrownSince since old s) (moved : NoEarlier s t)
    (same : t.audit.scores = s.audit.scores) : GrownSince since old t := by
  obtain ⟨begun, new, split, dated⟩ := grown
  exact ⟨begun.trans moved, new, same.trans split, fun record listed =>
    (dated record listed).mono moved⟩

/-- A record dated since is audited. -/
theorem GrownSince.append (grown : GrownSince since old s) (moved : NoEarlier s t)
    {record : ScoreAuditRecord} (appended : t.audit.scores = s.audit.scores ++ [record])
    (read : ReadBetween since t.intake.clock record.timestamp) : GrownSince since old t := by
  obtain ⟨begun, new, split, dated⟩ := grown
  refine ⟨begun.trans moved, new ++ [record], ?_, fun listed member => ?_⟩
  · rw [appended, split, List.append_assoc]
  · rcases List.mem_append.mp member with earlier | last
    · exact (dated listed earlier).mono moved
    · rw [List.mem_singleton.mp last]
      exact read

end

namespace Pipeline

variable (deps : PipelineDependencies) (since : ℤ) (old : List ScoreAuditRecord)

/-- A score is unpublished since it was computed. -/
theorem unpublished_resume {task next : PipelineTask} {s : PipelineState}
    (begun : since ≤ s.intake.clock) (fine : UnpublishedSince since s task)
    (left : next ∈ (resume deps task s).successors) : UnpublishedSince since s next := by
  cases task with
  | computing gate window =>
      rw [resume_computing] at left
      rw [List.mem_singleton.mp left]
      intro point current
      have series : ComputedBetween since s.intake.clock
          (forecastOf gate window s.intake.clock).scores :=
        .forecastOf begun le_rfl gate window
      obtain ⟨first, head, read⟩ := series.current
      have current : (forecastOf gate window s.intake.clock).scores.head? = some point := current
      rw [head] at current
      cases current
      exact read
  | savingScore computation point =>
      rw [List.mem_singleton.mp left]
      exact fine
  | _ =>
      intro point current
      cases resume_follows deps _ s next left <;> cases current

theorem grownSince : (system deps).Guarantee PipelineStimulus.Own (GrownSince since old) NoEarlier
    (UnpublishedSince since) where
  stimulate stimulus s own grown := by
    have moved := noEarlier_stimulate deps stimulus s
    refine ⟨grown.later moved (stimulate_scores deps own.ne s).1, moved, fun task started => ?_⟩
    intro point current
    cases stimulate_starts deps stimulus s task started <;> cases current
  resume task s grown fine := by
    have same : (resume deps task s).shared.intake = s.intake := resume_intake deps task s
    have moved : NoEarlier s (resume deps task s).shared := (congrArg (·.clock) same).symm.le
    refine ⟨?_, moved, fun next left point current => ?_⟩
    · show GrownSince since old (resume deps task s).shared
      cases publishes : task.publishing? with
      | none => exact grown.later moved (resume_scores_other deps publishes s)
      | some computation =>
          have shape : task = .publishingForecast computation := by
            cases task <;> simp_all [PipelineTask.publishing?]
          subst shape
          have audited : (resume deps (.publishingForecast computation) s).shared.audit.scores =
              (auditScore s.audit ⟨computation.gate, computation.result⟩
                (s.intake.getWindowForGate computation.gate.gateId)).scores := rfl
          unfold auditScore at audited
          cases current : computation.result.scores.head? with
          | none =>
              simp only [current] at audited
              exact grown.later moved audited
          | some point =>
              simp only [current] at audited
              exact grown.append moved audited (fine point current)
    · have unpublished := unpublished_resume deps since grown.1 fine left point current
      show ReadBetween since (resume deps task s).shared.intake.clock _
      rw [same]
      exact unpublished
  lasts _ _ _ moved fine point current := (fine point current).mono moved

end Pipeline

theorem Process.operations_noEarlier (deps : PipelineDependencies) :
    (∀ stimulus s, NoEarlier s ((operations deps).stimulate stimulus s).1) ∧
      ∀ task s, NoEarlier s ((operations deps).resume task s).shared := by
  constructor
  · intro stimulus s
    rcases stimulus with ⟨⟩ | stimulus | stimulus
    · exact le_rfl
    · cases stimulus <;> exact le_rfl
    · cases stimulus with
      | advance ms => exact Int.le_add_of_nonneg_right (Int.natCast_nonneg ms)
      | decide decision routeId recommendationId dispatcherId => exact le_rfl
  · intro task s
    rcases task with task | task | task
    · cases task <;> exact le_rfl
    · cases task with
      | readingStatus gateId sources statuses => cases sources <;> exact le_rfl
      | readingAgain gateId sources statuses again => cases sources <;> exact le_rfl
    · exact (congrArg (·.clock) (ShuttleRedirectionApi.resume_clock task s)).symm.le

theorem Process.operations_grownSince (deps : PipelineDependencies) (since : ℤ)
    (old : List ScoreAuditRecord) : (operations deps).Guarantee (fun _ => True)
      (GrownSince since old) NoEarlier (fun _ _ => True) := by
  obtain ⟨stimulated, resumed⟩ := operations_scoreViews deps
  obtain ⟨onwards, resumedLater⟩ := operations_noEarlier deps
  refine ⟨fun stimulus s _ grown => ?_, fun task s grown _ => ?_, fun _ _ _ _ _ => trivial⟩
  · exact ⟨grown.later (onwards stimulus s) (congrArg (·.2.2) (stimulated stimulus s)),
      onwards stimulus s, fun _ _ => trivial⟩
  · exact ⟨grown.later (resumedLater task s) (congrArg (·.2.2) (resumed task s)),
      resumedLater task s, fun _ _ => trivial⟩

/-- What is dated later than the upper bound is not in the answer. -/
theorem queryScores_grown {since last : ℤ} {old : List ScoreAuditRecord} {s : PipelineState}
    {range : AuditQueryRange} (grown : GrownSince since old s)
    (bounded : range.to? = some (toISOString last)) (low : earliest ≤ last) (past : last < since)
    (high : s.intake.clock ≤ latest) :
    s.audit.queryScores range = old.filter fun score =>
      matchesId range.gateId score.gateId && range.admits score.timestamp := by
  obtain ⟨-, new, split, dated⟩ := grown
  have later : ∀ record ∈ new, range.admits record.timestamp = false := by
    intro record listed
    obtain ⟨now, from_, to_, text⟩ := dated record listed
    have before : Text.Before (toISOString last) (toISOString now) :=
      before_toISOString low (to_.trans high) (past.trans_le from_)
    have nonempty : toISOString last ≠ "" := by
      intro empty
      have reads := parse_toISOString last
      rw [empty] at reads
      cases reads
    rw [text]
    simp [AuditQueryRange.admits, bounded, truthy, nonempty, before]
  have none : new.filter (fun score =>
      matchesId range.gateId score.gateId && range.admits score.timestamp) = [] := by
    refine List.filter_eq_nil_iff.mpr fun record listed => ?_
    rw [later record listed, Bool.and_false]
    exact Bool.false_ne_true
  unfold AuditState.queryScores
  rw [split, List.filter_append, none, List.append_nil]

/-- **The past is settled.** Where every score computed is published, a query for scores
up to an instant that is over, with whatever gate and lower bound, is answered as before
however the run goes on: nothing is back-dated, changed or withdrawn. The upper bound is
written as `toISOString` writes it, and it and the clock lie within the years of four
digits, where the order of the texts is that of the instants. -/
theorem settled_history (apiKeys : OrderedMap String (List Role)) (deps : PipelineDependencies)
    (startedAt : ℤ) (earlier later : List (Choice ServerArrival)) (gateId : Option GateId)
    (from? : Option String) (last : ℤ)
    (published : ∀ task ∈ ((Gateway.system apiKeys deps).run ⟨.started startedAt, []⟩
      earlier).suspended, task.unpublished? = none)
    (past : last < ((Gateway.system apiKeys deps).run ⟨.started startedAt, []⟩
      earlier).shared.pipeline.intake.clock)
    (low : earliest ≤ last)
    (high : ((Gateway.system apiKeys deps).run ⟨.started startedAt, []⟩
      (earlier ++ later)).shared.pipeline.intake.clock ≤ latest) :
    ((Gateway.system apiKeys deps).run ⟨.started startedAt, []⟩
        (earlier ++ later)).shared.pipeline.audit.queryScores
          { gateId, from?, to? := some (toISOString last) } =
      ((Gateway.system apiKeys deps).run ⟨.started startedAt, []⟩
        earlier).shared.pipeline.audit.queryScores
          { gateId, from?, to? := some (toISOString last) } := by
  rw [run_append] at high ⊢
  generalize (Gateway.system apiKeys deps).run ⟨.started startedAt, []⟩ earlier = c at *
  have guarantee := Process.guarantee_of_parts
    (Pipeline.grownSince deps c.shared.pipeline.intake.clock c.shared.pipeline.audit.scores)
    (Process.operations_grownSince deps _ _) (fun _ => trivial) (fun _ => le_rfl)
    fun s redis grown => ⟨grown, le_rfl⟩
  have fine : ∀ task ∈ c.suspended,
      Sum.elim (Sum.elim (UnpublishedSince c.shared.pipeline.intake.clock c.shared.pipeline)
        fun _ => True) (Sum.elim (fun _ => True) fun _ => True) task := by
    intro task suspended
    have nothing := published task suspended
    rcases task with (task | handling) | operation | acknowledgement
    · intro point current
      have nothing : task.unpublished? = none := nothing
      rw [nothing] at current
      cases current
    all_goals trivial
  obtain ⟨grown, -, -⟩ := Gateway.keeps guarantee (fun _ => le_rfl)
    (fun _ _ _ first second => le_trans first second) (fun _ _ => Gateway.own_read)
    ⟨le_rfl, [], (List.append_nil _).symm,
      fun _ impossible => absurd impossible List.not_mem_nil⟩ fine later
  exact queryScores_grown grown rfl low past high

/-- A tick of gate A and its recompute. -/
def firstPublication : List (Choice ServerArrival) :=
  [.stimulus (.tick demoGateA.gateId), .resume 0, .resume 0, .resume 0, .stimulus (.advance 1000)]

/-- The next tick, while the subscribers of the first are still at work. -/
def secondPublication : List (Choice ServerArrival) :=
  [.stimulus (.tick demoGateA.gateId), .resume 1, .resume 1, .resume 1]

theorem settled_history_demo :
    ((Gateway.system ∅ demoDependencies).run ⟨.started 0, []⟩
        (firstPublication ++ secondPublication)).shared.pipeline.audit.queryScores
          { to? := some (toISOString 0) } =
      ((Gateway.system ∅ demoDependencies).run ⟨.started 0, []⟩
        firstPublication).shared.pipeline.audit.queryScores { to? := some (toISOString 0) } ∧
      ((Gateway.system ∅ demoDependencies).run ⟨.started 0, []⟩
        (firstPublication ++ secondPublication)).shared.pipeline.audit.scores.length = 2 :=
  ⟨settled_history ∅ demoDependencies 0 _ _ none none 0 (by decide +kernel) (by decide +kernel)
    (by decide) (by decide +kernel), by decide +kernel⟩

end Stadium
