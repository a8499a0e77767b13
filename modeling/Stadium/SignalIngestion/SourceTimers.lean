import Stadium.Infra.RedisWrappers
import Stadium.SignalIngestion.Service

/-!
# Source timers over runs of signals

An event starts one timer: that of its gate, or of its route when it has no
gate. An event of a gate with a route, or of a route with a destination gate,
is associated with more ids than the one whose timer it starts. A source is
degraded for an id exactly as long as no event that starts the timer of the id
is young enough (`isDegraded_iff`); this is its silence about the id unless
every young event associated with it started another timer
(`degraded_follows_silence_iff`).
-/

namespace Stadium

/-- A raw signal handed in at `now`. -/
structure Submission where
  uuid : String
  rawPayload : Option Json
  now : ℤ

/-- Signals handed in one after another. -/
structure SignalRun where
  submissions : List Submission
  ordered : submissions.Pairwise fun a b => a.now ≤ b.now

/-- An accepted event and the time at which it was handled. -/
structure HandledEvent where
  event : SignalEvent
  time : ℤ

namespace Submission

variable (config : TimingConfig) (submission : Submission)

/-- Handled with every call succeeding. -/
def handle : Handling :=
  handleSignal config {} submission.uuid submission.rawPayload submission.now

def accepted : List HandledEvent :=
  (submission.handle config).published.map fun event => ⟨event, submission.now⟩

/-- What the request does to Redis. -/
def touch (redis : RedisState) : RedisState :=
  (submission.handle config).touched.foldl
    (fun redis timer => redis.markActive timer.1 timer.2 submission.now) redis

end Submission

namespace SignalRun

variable (config : TimingConfig) (run : SignalRun)

def accepted : List HandledEvent := run.submissions.flatMap (·.accepted config)

/-- Redis at `t`: all signals handed in until then have been handled. -/
def redisAt (t : ℤ) : RedisState :=
  (run.submissions.filter (·.now ≤ t)).foldl (fun redis submission =>
    submission.touch config redis) {}

/-- An event of the source that concerns something was handled less than the
timeout before `t`. -/
def Heard (sourceType : SignalSource) (concerns : SignalEvent → Prop) (t : ℤ) : Prop :=
  ∃ handled ∈ run.accepted config, handled.event.source = sourceType ∧
    concerns handled.event ∧ t - sourceTimeoutMs sourceType < handled.time ∧ handled.time ≤ t

end SignalRun

/-- The event is about the gate or route. -/
def SignalEvent.AssociatedWith (event : SignalEvent) (id : String) : Prop :=
  event.gateId = some id ∨ event.routeId = some id ∨ event.destinationGateId = some id

/-! ## The timer an event starts -/

theorem colon_not_mem_text (sourceType : SignalSource) : ':' ∉ sourceType.text.toList := by
  cases sourceType <;> decide

theorem SignalSource.text_injective : Function.Injective SignalSource.text := by
  intro a b same
  cases a <;> cases b <;> first | rfl | exact absurd same (by decide)

/-- The key of the timer of a source for an id. -/
def timerKey (timer : SignalSource × String) : String :=
  RedisState.degradedSourceKey timer.1 timer.2

/-- The text of a source has no colon, so the key tells the source and the id. -/
theorem timerKey_injective : Function.Injective timerKey := by
  intro a b same
  have plain : ∀ timer : SignalSource × String,
      (RedisPair.source timer.1.text timer.2).Plain := fun timer => colon_not_mem_text timer.1
  obtain ⟨types, ids⟩ := RedisPair.source.inj (clientKey_inj_of_plain (plain a) (plain b) same)
  exact Prod.ext (SignalSource.text_injective types) ids

/-- A request that is accepted starts the timer of its target. -/
theorem Submission.touched_eq (config : TimingConfig) (submission : Submission) :
    (submission.handle config).touched =
      (submission.handle config).published.filterMap fun event =>
        event.targetId.map (event.source, ·) := by
  let attempt : Attempt := ⟨{}, submission.uuid, submission.now⟩
  show (attempt.handle config submission.rawPayload).touched =
    (attempt.handle config submission.rawPayload).published.filterMap _
  cases parsed : attempt.parsed submission.rawPayload with
  | error error =>
      obtain ⟨published, touched⟩ := Attempt.clean_of_error config parsed
      rw [published, touched]
      rfl
  | ok event =>
      have own : (event.classified config attempt.now).targetId = event.targetId := rfl
      rw [Attempt.handle_of_ok config parsed]
      cases target : event.targetId with
      | none =>
          show ([] : List (SignalSource × String)) = [event.classified config _].filterMap _
          simp only [List.filterMap_cons, own, target, Option.map_none, List.filterMap_nil]
      | some targetId =>
          show [(event.source, targetId)] = [event.classified config _].filterMap _
          simp only [List.filterMap_cons, own, target, Option.map_some, List.filterMap_nil]
          rfl

theorem Submission.time_of_accepted {config : TimingConfig} {submission : Submission}
    {handled : HandledEvent} (listed : handled ∈ submission.accepted config) :
    handled.time = submission.now := by
  obtain ⟨event, -, rfl⟩ := List.mem_map.mp listed
  rfl

/-- The timers a request starts, with the time at which it starts them. -/
def Submission.marks (config : TimingConfig) (submission : Submission) :
    List ((SignalSource × String) × ℤ) :=
  (submission.handle config).touched.map (·, submission.now)

theorem Submission.mem_marks {config : TimingConfig} {submission : Submission}
    {timer : SignalSource × String} {time : ℤ} :
    (timer, time) ∈ submission.marks config ↔ ∃ handled ∈ submission.accepted config,
      handled.time = time ∧ handled.event.source = timer.1 ∧
        handled.event.targetId = some timer.2 := by
  unfold Submission.marks Submission.accepted
  rw [Submission.touched_eq]
  constructor
  · intro listed
    obtain ⟨started, touched, same⟩ := List.mem_map.mp listed
    obtain ⟨rfl, rfl⟩ := Prod.mk.inj same
    obtain ⟨event, published, target⟩ := List.mem_filterMap.mp touched
    obtain ⟨id, targetId, rfl⟩ := Option.map_eq_some_iff.mp target
    exact ⟨⟨event, submission.now⟩, List.mem_map_of_mem published, rfl, rfl, targetId⟩
  · rintro ⟨handled, listed, rfl, source, targetId⟩
    obtain ⟨event, published, rfl⟩ := List.mem_map.mp listed
    refine List.mem_map.mpr ⟨timer, List.mem_filterMap.mpr ⟨event, published, ?_⟩, rfl⟩
    have target : event.targetId = some timer.2 := targetId
    rw [target]
    exact congrArg (fun source => some (source, timer.2)) source

namespace SignalRun

variable (config : TimingConfig) (run : SignalRun)

/-- The timers started until `t`. -/
def marksUntil (t : ℤ) : List ((SignalSource × String) × ℤ) :=
  (run.submissions.filter (·.now ≤ t)).flatMap (·.marks config)

theorem marksUntil_ordered (t : ℤ) :
    (run.marksUntil config t).Pairwise fun a b => a.2 ≤ b.2 := by
  have times : ∀ (submission : Submission), ∀ mark ∈ submission.marks config,
      mark.2 = submission.now := by
    intro submission mark listed
    obtain ⟨timer, -, rfl⟩ := List.mem_map.mp listed
    rfl
  unfold marksUntil
  rw [List.pairwise_flatMap]
  refine ⟨fun submission _ => ?_, (run.ordered.filter _).imp ?_⟩
  · exact List.pairwise_of_forall_mem_list fun a own b own' =>
      le_of_eq ((times submission a own).trans (times submission b own').symm)
  · intro earlier later order a own b own'
    rw [times earlier a own, times later b own']
    exact order

theorem mem_marksUntil {t time : ℤ} {timer : SignalSource × String} :
    (timer, time) ∈ run.marksUntil config t ↔ ∃ handled ∈ run.accepted config,
      handled.time = time ∧ handled.time ≤ t ∧ handled.event.source = timer.1 ∧
        handled.event.targetId = some timer.2 := by
  unfold marksUntil accepted
  simp only [List.mem_flatMap, List.mem_filter, decide_eq_true_eq, Submission.mem_marks]
  constructor
  · rintro ⟨submission, ⟨made, early⟩, handled, listed, rfl, concerns⟩
    rw [← Submission.time_of_accepted listed] at early
    exact ⟨handled, ⟨submission, made, listed⟩, rfl, early, concerns⟩
  · rintro ⟨handled, ⟨submission, made, listed⟩, rfl, early, concerns⟩
    rw [Submission.time_of_accepted listed] at early
    exact ⟨submission, ⟨made, early⟩, handled, listed, rfl, concerns⟩

/-- Redis holds the marks of the timers. -/
theorem redisAt_sourceTimers (t : ℤ) :
    (run.redisAt config t).sourceTimers =
      ExpiringMap.markAll timerKey (fun timer => sourceTimeoutMs timer.1) "1" ∅
        (run.marksUntil config t) := by
  have touch : ∀ (submission : Submission) (redis : RedisState),
      (submission.touch config redis).sourceTimers =
        ExpiringMap.markAll timerKey (fun timer => sourceTimeoutMs timer.1) "1"
          redis.sourceTimers (submission.marks config) := by
    intro submission redis
    unfold Submission.touch Submission.marks ExpiringMap.markAll
    rw [List.foldl_map]
    refine Eq.symm (List.foldl_hom RedisState.sourceTimers ?_)
    intro redis timer
    rfl
  unfold redisAt marksUntil
  rw [ExpiringMap.markAll, List.foldl_flatMap]
  show _ = List.foldl _ (RedisState.sourceTimers {}) _
  refine Eq.symm (List.foldl_hom RedisState.sourceTimers ?_)
  intro redis submission
  exact (touch submission redis).symm

/-- **A source is degraded exactly after the silence of the events that start
its timer.** -/
theorem isDegraded_iff (t : ℤ) (sourceType : SignalSource) (id : String) :
    (run.redisAt config t).isDegraded sourceType id t = false ↔
      run.Heard config sourceType (·.targetId = some id) t := by
  have read := ExpiringMap.read?_markAll
    (fun timer : SignalSource × String => sourceTimeoutMs timer.1) "1" timerKey_injective
    (run.marksUntil_ordered config t) (sourceType, id) t
  rw [← redisAt_sourceTimers] at read
  have running : (run.redisAt config t).isDegraded sourceType id t = false ↔
      (ExpiringMap.read? (run.redisAt config t).sourceTimers (timerKey (sourceType, id))
        t).isSome = true := by
    rw [← Option.not_isNone, Bool.not_eq_true']
    rfl
  rw [running, read]
  constructor
  · rintro ⟨time, listed, alive⟩
    obtain ⟨handled, accepted, rfl, early, source, target⟩ :=
      (run.mem_marksUntil config).mp listed
    exact ⟨handled, accepted, source, target, sub_lt_iff_lt_add.mpr alive, early⟩
  · rintro ⟨handled, accepted, source, target, recent, early⟩
    exact ⟨handled.time, (run.mem_marksUntil config).mpr
      ⟨handled, accepted, rfl, early, source, target⟩, sub_lt_iff_lt_add.mp recent⟩

theorem Heard.imp {config : TimingConfig} {run : SignalRun} {sourceType : SignalSource}
    {concerns concerns' : SignalEvent → Prop} {t : ℤ}
    (weaker : ∀ event, concerns event → concerns' event)
    (heard : run.Heard config sourceType concerns t) :
    run.Heard config sourceType concerns' t := by
  obtain ⟨handled, accepted, source, about, young⟩ := heard
  exact ⟨handled, accepted, source, weaker _ about, young⟩

end SignalRun

/-- The target of an event is one of the ids it is associated with. -/
theorem SignalEvent.associatedWith_of_target {event : SignalEvent} {id : String}
    (target : event.targetId = some id) : event.AssociatedWith id := by
  unfold SignalEvent.targetId at target
  cases own : event.gateId with
  | some gateId =>
      rw [own] at target
      exact .inl (own.trans target)
  | none =>
      rw [own] at target
      exact .inr (.inl target)

/-- **A source is degraded exactly after its silence about an id, unless each
recent event that breaks the silence started another timer.** -/
theorem degraded_follows_silence_iff (config : TimingConfig) (run : SignalRun) (t : ℤ)
    (sourceType : SignalSource) (id : String) :
    ((run.redisAt config t).isDegraded sourceType id t = false ↔
        run.Heard config sourceType (·.AssociatedWith id) t) ↔
      (run.Heard config sourceType (·.AssociatedWith id) t →
        run.Heard config sourceType (·.targetId = some id) t) := by
  rw [run.isDegraded_iff config t sourceType id]
  constructor
  · intro follows heard
    exact follows.mpr heard
  · intro targeted
    refine ⟨?_, targeted⟩
    exact SignalRun.Heard.imp fun event => event.associatedWith_of_target

/-- A bus of route `route-1` on its way to gate `gate-a`. -/
def busPayload : Json :=
  .obj [("source", .str "TRANSIT_FEED"), ("routeId", .str "route-1"),
    ("timestamp", .str "2026-06-01T18:00:00.000Z"),
    ("payload", .obj [("estimatedPassengerCount", .num 40),
      ("destinationGateId", .str "gate-a")])]

def busRun : SignalRun where
  submissions := [⟨"bus", some busPayload, 1780336800000⟩]
  ordered := List.pairwise_singleton _ _

/-- The bus has just reported, and its feed is degraded for the gate. -/
theorem destination_timer_not_started :
    ¬ ∀ (run : SignalRun) (t : ℤ) (sourceType : SignalSource) (id : String),
      (run.redisAt defaultTimingConfig t).isDegraded sourceType id t = false ↔
        run.Heard defaultTimingConfig sourceType (·.AssociatedWith id) t := by
  intro follows
  have degraded : (busRun.redisAt defaultTimingConfig 1780336800001).isDegraded .transitFeed
      "gate-a" 1780336800001 = true := by decide +kernel
  have heard : (busRun.accepted defaultTimingConfig).map
      (fun handled => (handled.event.source, handled.event.destinationGateId, handled.time)) =
      [(.transitFeed, some "gate-a", 1780336800000)] := by decide +kernel
  obtain ⟨handled, accepted, about⟩ := List.mem_map.mp (heard ▸ List.mem_cons_self)
  obtain ⟨source, destination, time⟩ : _ ∧ _ ∧ _ := by simpa only [Prod.mk.injEq] using about
  rw [(follows busRun 1780336800001 .transitFeed "gate-a").mpr ⟨handled, accepted, source,
    .inr (.inr destination), by rw [time]; decide, by rw [time]; decide⟩] at degraded
  cases degraded

end Stadium
