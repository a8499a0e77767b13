import Stadium.Lib.Parts
import Stadium.Pipeline.Flow
import Stadium.Pipeline.Intake
import Stadium.Pipeline.ScoreAudit

/-!
# When things are dated

Every subscriber and every route reads the clock once, when it starts, and hands the
reading down through its awaits. So whatever a record is dated, it is the text of a
reading between the start of the process and the present, never of a moment before the
start and never of one to come. Only the predicted points of a forecast are dated ahead,
each by the minutes it looks ahead.
-/

namespace Stadium

open Interleaving TaskSystem

/-- The text of a reading of the clock between two instants. -/
def ReadBetween (start stop : ℤ) (time : String) : Prop :=
  ∃ now, start ≤ now ∧ now ≤ stop ∧ time = IsoDate.toISOString now

/-- The same of a time that may be missing. -/
def ReadBetween? (start stop : ℤ) (time : Option String) : Prop :=
  ∀ text, time = some text → ReadBetween start stop text

/-- A series computed at a reading of the clock between two instants: one point for each
offset, dated by so many minutes after the reading. -/
def ComputedBetween (start stop : ℤ) (scores : List CongestionScorePoint) : Prop :=
  ∃ now, start ≤ now ∧ now ≤ stop ∧
    scores.map (fun point => (point.offsetMinutes, point.forecastTime)) =
      forecastOffsetsMinutes.map fun (offsetMinutes : ℕ) =>
        (offsetMinutes, IsoDate.toISOString (now + offsetMinutes * 60 * 1000))

/-- Whatever a record is dated. -/
def DatedBetween (start stop : ℤ) : ServerRecord → Prop
  | .computation computation => start ≤ computation.now ∧ computation.now ≤ stop ∧
      computation.result = forecastOf computation.gate computation.window computation.now
  | .message message => ComputedBetween start stop message.result.scores
  | .forecast _ result => ComputedBetween start stop result.scores
  | .series _ scores => ComputedBetween start stop scores
  | .audited record => ReadBetween start stop record.timestamp
  | .alert alert => ReadBetween start stop alert.raisedAt
  | .action action => ReadBetween start stop action.generatedAt ∧
      ReadBetween? start stop action.executedAt
  | .redirection redirection => ReadBetween start stop redirection.generatedAt ∧
      ReadBetween? start stop redirection.acceptedAt ∧
      ReadBetween? start stop redirection.rejectedAt
  | .rejection rejection => ReadBetween start stop rejection.rejectedAt
  | .nudge nudge => ReadBetween start stop nudge.generatedAt ∧
      ReadBetween? start stop nudge.simulatedDeliveryTimestamp
  | .gate _ | .gateId _ | .delivered _ | .signal .. | .fan .. => True

/-! ## Dates last -/

section

variable {start stop later : ℤ}

theorem ReadBetween.mono (grows : stop ≤ later) {time : String}
    (read : ReadBetween start stop time) : ReadBetween start later time := by
  obtain ⟨now, since, until_, text⟩ := read
  exact ⟨now, since, until_.trans grows, text⟩

theorem ReadBetween?.mono (grows : stop ≤ later) {time : Option String}
    (read : ReadBetween? start stop time) : ReadBetween? start later time :=
  fun text given => (read text given).mono grows

theorem ReadBetween?.none : ReadBetween? start stop none := nofun

theorem ReadBetween?.some {time : String} (read : ReadBetween start stop time) :
    ReadBetween? start stop (some time) := by
  rintro text ⟨⟩
  exact read

theorem ComputedBetween.mono (grows : stop ≤ later) {scores : List CongestionScorePoint}
    (computed : ComputedBetween start stop scores) : ComputedBetween start later scores := by
  obtain ⟨now, since, until_, same⟩ := computed
  exact ⟨now, since, until_.trans grows, same⟩

theorem ComputedBetween.forecastOf {now : ℤ} (since : start ≤ now) (until_ : now ≤ stop)
    (gate : Gate) (window : List SignalEvent) :
    ComputedBetween start stop (forecastOf gate window now).scores :=
  ⟨now, since, until_, rfl⟩

/-- The current point of a series is dated when the series was computed. -/
theorem ComputedBetween.current {scores : List CongestionScorePoint}
    (computed : ComputedBetween start stop scores) :
    ∃ point, scores.head? = some point ∧ ReadBetween start stop point.forecastTime := by
  obtain ⟨now, since, until_, same⟩ := computed
  cases scores with
  | nil => cases same
  | cons point rest =>
      obtain ⟨head, -⟩ := List.cons.inj same
      have dated : point.forecastTime = IsoDate.toISOString (now + (0 : ℕ) * 60 * 1000) :=
        congrArg Prod.snd head
      refine ⟨point, rfl, now, since, until_, dated.trans ?_⟩
      congr 1
      omega

theorem DatedBetween.mono (grows : stop ≤ later) {r : ServerRecord}
    (dated : DatedBetween start stop r) : DatedBetween start later r := by
  cases r with
  | computation computation => exact ⟨dated.1, dated.2.1.trans grows, dated.2.2⟩
  | message message => exact ComputedBetween.mono grows dated
  | forecast gateId result => exact ComputedBetween.mono grows dated
  | series gateId scores => exact ComputedBetween.mono grows dated
  | audited record => exact ReadBetween.mono grows dated
  | alert alert => exact ReadBetween.mono grows dated
  | action action => exact ⟨dated.1.mono grows, dated.2.mono grows⟩
  | redirection redirection =>
      exact ⟨dated.1.mono grows, dated.2.1.mono grows, dated.2.2.mono grows⟩
  | rejection rejection => exact ReadBetween.mono grows dated
  | nudge nudge => exact ⟨dated.1.mono grows, dated.2.mono grows⟩
  | _ => trivial

end

/-! ## Readings handed down -/

/-- The reading of the clock a task hands down. -/
def PipelineTask.now? : PipelineTask → Option ℤ
  | .computing .. | .savingScore .. | .publishingForecast _ | .publishingNudges _
  | .writingActions .. | .returningAction _ => none
  | .raisingAlert update | .recommending update _ | .storingActions update _
  | .publishingActions update _ | .advising update | .storingRedirection update _ _
  | .publishingRedirection update _ _ | .readingCooldown update _ _ _
  | .decidingNudge update _ _ _ _ | .settingCooldown update _ _ _ _
  | .enqueueingNudge update _ _ _ | .nudgeEnqueued update _ _ => some update.now
  | .readingActions _ _ _ now | .locatingAction _ _ _ now _ => some now

def DeliveryTask.now? : DeliveryTask → Option ℤ
  | .readingQueue now | .delivering now _ | .updatingNudge now _ _ _ _
  | .recordingOutcome now _ _ _ => some now

def DecisionTask.now? : DecisionTask → Option ℤ
  | .finding _ _ _ _ now | .found _ _ _ now => some now
  | .storing .. | .recordingRejection _ | .returning .. => none

/-- Whatever reading a task hands down was made between the start and the present. -/
def HandsDown {τ : Type} (now? : τ → Option ℤ) (start : ℤ) (s : PipelineState) (task : τ) : Prop :=
  ∀ now, now? task = some now → start ≤ now ∧ now ≤ s.intake.clock

theorem HandsDown.none {τ : Type} {now? : τ → Option ℤ} {start : ℤ} {s : PipelineState} {task : τ}
    (nothing : now? task = .none) : HandsDown now? start s task := by
  intro now given
  rw [nothing] at given
  cases given

/-- Time has not gone back. -/
def NoEarlier (s t : PipelineState) : Prop := s.intake.clock ≤ t.intake.clock

theorem HandsDown.mono {τ : Type} {now? : τ → Option ℤ} {start : ℤ} {s t : PipelineState} {task : τ}
    (moved : NoEarlier s t) (read : HandsDown now? start s task) : HandsDown now? start t task :=
  fun now given => ⟨(read now given).1, (read now given).2.trans moved⟩

namespace Pipeline

variable (deps : PipelineDependencies) (start : ℤ)

theorem noEarlier_stimulate (stimulus : PipelineStimulus) (s : PipelineState) :
    NoEarlier s (stimulate deps stimulus s).1 := by
  unfold NoEarlier
  rw [stimulate_intake]
  cases stimulus with
  | advance ms => exact Int.le_add_of_nonneg_right (Int.natCast_nonneg ms)
  | handleSignal signal =>
      exact (IntakeState.onSignalEvent_clock s.intake _).symm.le
  | signalEvent event => exact (IntakeState.onSignalEvent_clock s.intake event).symm.le
  | _ => exact le_rfl

/-- A reading is handed down as it is; only the subscriber of a new score makes one. -/
theorem now?_resume {task next : PipelineTask} {s : PipelineState}
    (left : next ∈ (resume deps task s).successors) :
    next.now? = none ∨ next.now? = task.now? ∨ next.now? = some s.intake.clock := by
  by_cases publishes : ∃ computation, task = .publishingForecast computation
  · obtain ⟨computation, rfl⟩ := publishes
    rw [List.mem_singleton.mp left]
    exact .inr (.inr rfl)
  · cases resume_follows deps task s next left with
    | published computation now => exact absurd ⟨computation, rfl⟩ publishes
    | computed computation point => exact .inl rfl
    | saved computation point => exact .inl rfl
    | _ => first | exact .inl rfl | exact .inr (.inl rfl)

/-- Readings are handed down in order. -/
theorem handsDown : (system deps).Guarantee PipelineStimulus.Own
    (fun s => start ≤ s.intake.clock) NoEarlier (HandsDown PipelineTask.now? start) where
  stimulate stimulus s own since := by
    have moved := noEarlier_stimulate deps stimulus s
    refine ⟨since.trans moved, moved, fun task started => ?_⟩
    cases stimulus with
    | congestionScore message => exact absurd own id
    | executeAction gateId actionId userId =>
        rw [List.mem_singleton.mp started]
        rintro now ⟨⟩
        exact ⟨since, le_rfl⟩
    | _ => cases stimulate_starts deps _ s task started <;> exact .none rfl
  resume task s since read := by
    have same : (resume deps task s).shared.intake = s.intake := resume_intake deps task s
    refine ⟨same ▸ since, (congrArg (·.clock) same).symm.le, fun next left now given => ?_⟩
    show start ≤ now ∧ now ≤ (resume deps task s).shared.intake.clock
    rw [same]
    rcases now?_resume deps left with nothing | inherited | fresh
    · rw [nothing] at given
      cases given
    · exact read now (inherited ▸ given)
    · rw [fresh] at given
      cases given
      exact ⟨since, le_rfl⟩
  lasts _ _ _ moved read := read.mono moved

/-- What a stimulus brings is not dated by the server. -/
theorem dated_brought {stimulus : PipelineStimulus} {s : PipelineState} {r : ServerRecord}
    {stop : ℤ} (own : stimulus.Own) (brings : stimulus.Brings deps s r) :
    DatedBetween start stop r := by
  have event : ∀ event : SignalEvent, event.Brings deps r → DatedBetween start stop r := by
    intro event brings
    cases r <;> trivial
  cases stimulus with
  | congestionScore message => exact absurd own id
  | handleSignal signal => exact event _ brings
  | signalEvent delivered => exact event delivered brings
  | tick gateId =>
      obtain ⟨gate, -, rfl⟩ := brings
      trivial
  | _ => exact absurd brings id

variable {deps start} {s : PipelineState} {r : ServerRecord}

/-- What is published is dated when it was computed, and an alert when it is raised. -/
theorem dated_publication {computation : Computation} {stop : ℤ} (since : start ≤ s.intake.clock)
    (until_ : s.intake.clock ≤ stop)
    (computed : DatedBetween start stop (.computation computation))
    (makes : (PipelineTask.publishingForecast computation).Makes deps s r) :
    DatedBetween start stop r := by
  obtain ⟨from_, to_, result⟩ := computed
  have series : ComputedBetween start stop computation.result.scores := by
    rw [result]
    exact .forecastOf from_ to_ computation.gate computation.window
  rcases makes with rfl | rfl | rfl | ⟨alert, rfl, -, -, -, -, raised⟩ |
    ⟨point, counted, current, rfl⟩
  · exact series
  · exact series
  · exact series
  · exact ⟨s.intake.clock, since, until_, raised⟩
  · obtain ⟨first, head, read⟩ := series.current
    rw [current] at head
    cases head
    exact read

/-- An action is dated as the current point of the forecast it was generated from. -/
theorem dated_generated {gate : Gate} {forecast : ForecastResult} {window : List SignalEvent}
    {action : RecommendedAction} {stop : ℤ} (computed : ComputedBetween start stop forecast.scores)
    (generated : action ∈ generateRecommendations gate forecast window) :
    DatedBetween start stop (.action action) := by
  obtain ⟨point, head, read⟩ := computed.current
  have dated : forecast.generatedAt = point.forecastTime := by
    unfold ForecastResult.generatedAt
    rw [head]
    rfl
  unfold generateRecommendations at generated
  simp only at generated
  split at generated
  · cases generated
  · obtain ⟨ranked, -, rfl⟩ := List.mem_map.mp generated
    exact ⟨dated ▸ read, .none⟩

theorem dated_nudge {localeCompare : String → String → Ordering} {fan : FanContext}
    {originGate : Gate} {forecastsByGate : OrderedMap GateId ForecastResult}
    {lastNudgeAt : Option ℤ} {now stop : ℤ} {nudge : FanNudge} (since : start ≤ now)
    (until_ : now ≤ stop)
    (generated : generateFanNudge localeCompare fan originGate forecastsByGate lastNudgeAt now =
      some nudge) : DatedBetween start stop (.nudge nudge) := by
  refine ⟨⟨now, since, until_, (generateFanNudge_spec generated).2.2.2⟩, ?_⟩
  unfold generateFanNudge at generated
  split at generated
  · cases generated
  · simp only at generated
    split at generated
    · cases generated
    · cases generated
      exact .none

theorem dated_made {task : PipelineTask} (since : start ≤ s.intake.clock)
    (read : HandsDown PipelineTask.now? start s task)
    (own : ∀ r, task.Carries r → DatedBetween start s.intake.clock r)
    (makes : task.Makes deps s r) : DatedBetween start s.intake.clock r := by
  cases task with
  | computing gate window =>
      obtain rfl := makes
      exact ⟨since, le_rfl, rfl⟩
  | publishingForecast computation =>
      exact dated_publication since le_rfl (own (.computation computation) rfl) makes
  | recommending update window =>
      obtain ⟨action, generated, rfl⟩ := makes
      exact dated_generated (own (.message ⟨update.gate, update.result⟩) (.inl rfl)) generated
  | advising update =>
      obtain ⟨redirection, generated, rfl⟩ := makes
      obtain ⟨-, route, -, -, alternativeGateId, -, -, -, rfl⟩ :=
        mem_generateRedirections.mp generated
      obtain ⟨from_, to_⟩ := read update.now rfl
      exact ⟨⟨update.now, from_, to_, rfl⟩, .none, .none⟩
  | decidingNudge update fan lastNudgeAt rest generated =>
      obtain ⟨nudge, made, rfl⟩ := makes
      obtain ⟨from_, to_⟩ := read update.now rfl
      exact dated_nudge from_ to_ made
  | locatingAction gateId actionId userId now actions =>
      obtain ⟨found, listed, -, rfl⟩ := makes
      obtain ⟨from_, to_⟩ := read now rfl
      exact ⟨(own (.action found) ⟨found, listed, rfl⟩).1, .some ⟨now, from_, to_, rfl⟩⟩
  | _ => exact absurd makes id

variable (deps start)

/-- **What the pipeline dates.** -/
theorem dated : (system deps).Guarantee PipelineStimulus.Own
    (fun s => start ≤ s.intake.clock ∧ ∀ r, s.Holds r → DatedBetween start s.intake.clock r)
    NoEarlier
    (fun s task => HandsDown PipelineTask.now? start s task ∧
      ∀ r, task.Carries r → DatedBetween start s.intake.clock r) := by
  refine (flow deps).guarantee_lasting (handsDown deps start)
    (fun s r => DatedBetween start s.intake.clock r)
    (fun _ _ _ moved dated => dated.mono moved) ?_ ?_
  · intro stimulus s r own since brings
    exact dated_brought deps start own brings
  · intro task s r since read own makes
    have same : (resume deps task s).shared.intake = s.intake := resume_intake deps task s
    show DatedBetween start (resume deps task s).shared.intake.clock r
    rw [same]
    exact dated_made since read own makes

end Pipeline

/-! ## The other tasks -/

namespace FanNudgeDeliveryWorker

variable (start : ℤ)

theorem handsDown : system.Guarantee (fun _ => True) (fun s => start ≤ s.intake.clock) NoEarlier
    (HandsDown DeliveryTask.now? start) where
  stimulate stimulus s _ since := by
    cases stimulus
    refine ⟨since, le_rfl, fun task started => ?_⟩
    rw [List.mem_singleton.mp started]
    rintro now ⟨⟩
    exact ⟨since, le_rfl⟩
  resume task s since read := by
    cases task with
    | delivering now queued =>
        refine ⟨since, le_rfl, fun next left => ?_⟩
        have left : next ∈ (nextNudge s.forecasts.forecastsByGate now queued).toList ++ [] := left
        rw [List.append_nil, Option.mem_toList] at left
        rcases nextNudge_cases s.forecasts.forecastsByGate now queued with done |
            ⟨nudge, -, rest, -, found⟩
        · rw [done] at left
          cases left
        · rw [found] at left
          cases left
          exact read
    | _ =>
        refine ⟨since, le_rfl, fun next left => ?_⟩
        rw [List.mem_singleton.mp left]
        exact read
  lasts _ _ _ moved read := read.mono moved

theorem dated_settled {nudge : FanNudge} {forecastsByGate : OrderedMap GateId ForecastResult}
    {now stop : ℤ} (since : start ≤ now) (until_ : now ≤ stop)
    (dated : DatedBetween start stop (.nudge nudge)) :
    DatedBetween start stop (.nudge (simulateDelivery nudge forecastsByGate now).1) := by
  unfold simulateDelivery
  simp only
  split
  · exact dated
  · exact dated
  · exact ⟨dated.1, .some ⟨now, since, until_, rfl⟩⟩
  · exact ⟨dated.1, .some ⟨now, since, until_, rfl⟩⟩

theorem dated : system.Guarantee (fun _ => True)
    (fun s => start ≤ s.intake.clock ∧ ∀ r, s.Holds r → DatedBetween start s.intake.clock r)
    NoEarlier
    (fun s task => HandsDown DeliveryTask.now? start s task ∧
      ∀ r, task.Carries r → DatedBetween start s.intake.clock r) := by
  refine flow.guarantee_lasting (handsDown start)
    (fun s r => DatedBetween start s.intake.clock r)
    (fun _ _ _ moved dated => dated.mono moved) (fun _ _ _ _ _ brings => absurd brings id) ?_
  intro task s r since read own makes
  cases task with
  | delivering now queued =>
      obtain ⟨nudge, listed, rfl⟩ := makes
      obtain ⟨from_, to_⟩ := read now rfl
      exact dated_settled start from_ to_ (own (.nudge nudge) ⟨nudge, listed, rfl⟩)
  | _ => exact absurd makes id

end FanNudgeDeliveryWorker

theorem DataQualityCheck.dated (deps : PipelineDependencies) (start : ℤ) :
    (system deps.gates).Guarantee (fun _ => True)
      (fun s => start ≤ s.intake.clock ∧ ∀ r, s.Holds r → DatedBetween start s.intake.clock r)
      NoEarlier
      (fun s task => True ∧ ∀ r, task.Carries r → DatedBetween start s.intake.clock r) := by
  have still : ∀ task s, (resume task s).shared.intake = s.intake := by
    intro task s
    cases task with
    | readingStatus gateId sources statuses => cases sources <;> rfl
    | readingAgain gateId sources statuses again => cases sources <;> rfl
  have clocked : (system deps.gates).Guarantee (fun _ => True)
      (fun s => start ≤ s.intake.clock) NoEarlier (fun _ _ => True) := by
    refine ⟨fun stimulus s _ since => ?_, fun task s since _ => ?_, fun _ _ _ _ _ => trivial⟩
    · cases stimulus <;> exact ⟨since, le_rfl, fun _ _ => trivial⟩
    · have same : (resume task s).shared.intake = s.intake := still task s
      exact ⟨same ▸ since, (congrArg (·.clock) same).symm.le, fun _ _ => trivial⟩
  refine (flow deps).guarantee_lasting clocked
    (fun s r => DatedBetween start s.intake.clock r)
    (fun _ _ _ moved dated => dated.mono moved) ?_ ?_
  · intro stimulus s r _ since brings
    cases stimulus with
    | check =>
        obtain ⟨gate, -, rfl⟩ := brings
        trivial
    | markActive sourceType gateOrRouteId => exact absurd brings id
  · intro task s r since _ _ makes
    show DatedBetween start (resume task s).shared.intake.clock r
    rw [still]
    cases task with
    | readingStatus gateId sources statuses => exact absurd makes id
    | readingAgain gateId sources statuses again =>
        obtain ⟨alert, rfl, -, -, raised⟩ := makes
        exact ⟨s.intake.clock, since, le_rfl, raised⟩

namespace ShuttleRedirectionApi

variable (start : ℤ)

theorem resume_clock (task : DecisionTask) (s : PipelineState) :
    (resume task s).shared.intake = s.intake := by
  cases task with
  | finding decision routeId recommendationId dispatcherId now =>
      simp only [resume]
      split <;> rfl
  | storing decision updated => cases decision <;> rfl
  | returning decision updated => cases decision <;> rfl
  | _ => rfl

theorem handsDown : system.Guarantee (fun _ => True) (fun s => start ≤ s.intake.clock) NoEarlier
    (HandsDown DecisionTask.now? start) where
  stimulate stimulus s _ since := by
    cases stimulus with
    | advance ms =>
        have later : s.intake.clock ≤ s.intake.clock + ms :=
          Int.le_add_of_nonneg_right (Int.natCast_nonneg ms)
        exact ⟨since.trans later, later, fun _ impossible => absurd impossible List.not_mem_nil⟩
    | decide decision routeId recommendationId dispatcherId =>
        refine ⟨since, le_rfl, fun task started => ?_⟩
        rw [List.mem_singleton.mp started]
        rintro now ⟨⟩
        exact ⟨since, le_rfl⟩
  resume task s since read := by
    have same : (resume task s).shared.intake = s.intake := resume_clock task s
    refine ⟨same ▸ since, (congrArg (·.clock) same).symm.le, fun next left now given => ?_⟩
    show start ≤ now ∧ now ≤ (resume task s).shared.intake.clock
    rw [same]
    have left : next ∈ (resume task s).successors := left
    cases task with
    | finding decision routeId recommendationId dispatcherId asked =>
        unfold resume at left
        simp only at left
        split at left
        · exact absurd left List.not_mem_nil
        · rw [List.mem_singleton.mp left] at given
          exact read now given
    | found decision recommendation dispatcherId asked =>
        rw [List.mem_singleton.mp left] at given
        cases given
    | storing decision updated =>
        cases decision <;>
          · rw [List.mem_singleton.mp left] at given
            cases given
    | recordingRejection updated =>
        rw [List.mem_singleton.mp left] at given
        cases given
    | returning decision updated => cases decision <;> exact absurd left List.not_mem_nil
  lasts _ _ _ moved read := read.mono moved

theorem dated : system.Guarantee (fun _ => True)
    (fun s => start ≤ s.intake.clock ∧ ∀ r, s.Holds r → DatedBetween start s.intake.clock r)
    NoEarlier
    (fun s task => HandsDown DecisionTask.now? start s task ∧
      ∀ r, task.Carries r → DatedBetween start s.intake.clock r) := by
  refine flow.guarantee_lasting (handsDown start)
    (fun s r => DatedBetween start s.intake.clock r)
    (fun _ _ _ moved dated => dated.mono moved) (fun _ _ _ _ _ brings => absurd brings id) ?_
  intro task s r since read own makes
  show DatedBetween start (resume task s).shared.intake.clock r
  rw [resume_clock]
  cases task with
  | found decision recommendation dispatcherId now =>
      obtain rfl := makes
      obtain ⟨from_, to_⟩ := read now rfl
      obtain ⟨generated, accepted, rejected⟩ := own (.redirection recommendation) rfl
      cases decision with
      | accept => exact ⟨generated, .some ⟨now, from_, to_, rfl⟩, rejected⟩
      | reject => exact ⟨generated, accepted, .some ⟨now, from_, to_, rfl⟩⟩
  | returning decision updated =>
      cases decision with
      | accept => exact absurd makes id
      | reject =>
          obtain rfl := makes
          obtain ⟨-, -, rejected⟩ := own (.redirection updated) rfl
          show ReadBetween start s.intake.clock
            (updated.rejectedAt.getD (IsoDate.toISOString s.intake.clock))
          cases given : updated.rejectedAt with
          | none => exact ⟨s.intake.clock, since, le_rfl, rfl⟩
          | some text => exact rejected text given
  | _ => exact absurd makes id

end ShuttleRedirectionApi

end Stadium
