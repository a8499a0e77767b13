import Stadium.Infra.Topology
import Stadium.Lib.GrantLedger
import Stadium.Pipeline.Machine

/-!
# The cooldown, when its check and its write are not overlapped

A score update reads the cooldown of a fan and a gate, and writes it two
suspensions later. Another update can read in between, and an entry can
expire although the captured `now` of a slow update still lies within its
period: either way two nudges end up too close (`overlapping_updates_nudge`).
Where neither happens, the nudges of a fan about a gate are a period apart
(`cooldown_respected`), because the nudges under one key form a sound ledger
of grants.
-/

namespace Stadium

open Interleaving TaskSystem GrantLedger RedisState

/-- The time a nudge was generated. -/
def FanNudge.time (nudge : FanNudge) : Option ℤ := IsoDate.parse nudge.generatedAt

/-- The cooldown key a nudge falls under. -/
def FanNudge.key (nudge : FanNudge) : String := cooldownKey nudge.fanId nudge.originGateId

/-- Generated at least a cooldown period apart. -/
def FanNudge.CooldownApart (nudge other : FanNudge) : Prop :=
  ∃ t ∈ nudge.time, ∃ t' ∈ other.time, cooldownPeriodMs ≤ |t - t'|

instance (nudge other : FanNudge) : Decidable (nudge.CooldownApart other) :=
  inferInstanceAs (Decidable (∃ t ∈ nudge.time, ∃ t' ∈ other.time, cooldownPeriodMs ≤ |t - t'|))

/-- The nudges enqueued for a fan about a gate. -/
def NudgeState.nudgesFor (s : NudgeState) (fanId : FanId) (gateId : GateId) : List FanNudge :=
  s.enqueued.filter fun nudge => nudge.fanId = fanId ∧ nudge.originGateId = gateId

/-- A call of `getLastNudgeAt` that awaits its turn. -/
structure CooldownRead where
  fanId : FanId
  gateId : GateId
  /-- The captured time of the score update. -/
  now : ℤ

namespace PipelineTask

def cooldownRead? : PipelineTask → Option CooldownRead
  | .readingCooldown update fan _ _ => some ⟨fan.fanId, update.gate.gateId, update.now⟩
  | _ => none

/-- The captured time of a score update that found no cooldown running under
`key` and has not yet written the key. -/
def holds? (key : String) : PipelineTask → Option ℤ
  | .decidingNudge update fan lastNudgeAt _ _ =>
      if cooldownKey fan.fanId update.gate.gateId = key ∧
        inCooldown lastNudgeAt update.now = false then some update.now else none
  | .settingCooldown update fan _ _ _ =>
      if cooldownKey fan.fanId update.gate.gateId = key then some update.now else none
  | _ => none

/-- A nudge under `key` on its way into the store. -/
def entering? (key : String) : PipelineTask → Option FanNudge
  | .enqueueingNudge _ nudge _ _ => if nudge.key = key then some nudge else none
  | _ => none

/-- The nudge a score update carries names its fan, its gate and its time. -/
def CarriesOwnNudge : PipelineTask → Prop
  | .settingCooldown update fan nudge _ _ =>
      nudge.fanId = fan.fanId ∧ nudge.originGateId = update.gate.gateId ∧
        nudge.generatedAt = IsoDate.toISOString update.now
  | _ => True

/-- The stretches that check, write or spend a cooldown. -/
def spendsCooldown : PipelineTask → Bool
  | .readingCooldown .. | .decidingNudge .. | .settingCooldown .. | .enqueueingNudge .. => true
  | _ => false

/-- Neither a holder of the key nor about to enqueue a nudge under it. -/
structure Bystander (key : String) (task : PipelineTask) : Prop where
  idle : task.holds? key = none
  empty : task.entering? key = none
  own : task.CarriesOwnNudge

end PipelineTask

namespace Pipeline

variable (deps : PipelineDependencies)

/-- A read that finds no cooldown running finds nobody between such a read and
the write, and an entry it finds expired was written for a time at least a
period before its own. -/
def ReadsAlone (key : String) (c : Config PipelineState PipelineTask) (read : CooldownRead) :
    Prop :=
  inCooldown (c.shared.redis.getLastNudgeAt read.fanId read.gateId c.shared.intake.clock)
      read.now = false →
    c.suspended.filterMap (·.holds? key) = [] ∧
      (c.shared.redis.getLastNudgeAt read.fanId read.gateId c.shared.intake.clock = none →
        ∀ last ∈ c.shared.redis.lastNudgeWritten key, last + cooldownPeriodMs ≤ read.now)

instance (key : String) (c : Config PipelineState PipelineTask) (read : CooldownRead) :
    Decidable (ReadsAlone key c read) :=
  inferInstanceAs (Decidable (_ → _ ∧ (_ → _)))

/-- The score updates of a fan and a gate read their cooldown alone. -/
def CooldownExclusive (fanId : FanId) (gateId : GateId) (c : Config PipelineState PipelineTask) :
    Choice PipelineStimulus → Prop
  | .stimulus _ => True
  | .resume position =>
      ∀ read ∈ (c.suspended[position]?).bind PipelineTask.cooldownRead?,
        cooldownKey read.fanId read.gateId = cooldownKey fanId gateId →
          ReadsAlone (cooldownKey fanId gateId) c read

instance (fanId : FanId) (gateId : GateId) (c : Config PipelineState PipelineTask) :
    ∀ choice, Decidable (CooldownExclusive fanId gateId c choice)
  | .stimulus _ => isTrue trivial
  | .resume _ => inferInstanceAs (Decidable (∀ read ∈ _, _ → _))

/-! ## The ledger of a key -/

/-- The nudges under a key that are enqueued or on their way into the store. -/
def grants (key : String) (c : Config PipelineState PipelineTask) : List FanNudge :=
  c.shared.nudges.enqueued.filter (·.key = key) ++ c.suspended.filterMap (·.entering? key)

def ledger (key : String) (c : Config PipelineState PipelineTask) : Ledger ℤ where
  last := c.shared.redis.lastNudgeWritten key
  granted := (grants key c).filterMap (·.time)
  holders := c.suspended.filterMap (·.holds? key)

structure CooldownInv (key : String) (c : Config PipelineState PipelineTask) : Prop where
  sound : Sound cooldownPeriodMs (ledger key c)
  timed : ∀ nudge ∈ grants key c, nudge.time.isSome
  own : ∀ task ∈ c.suspended, task.CarriesOwnNudge

variable {key : String}

theorem cooldownInv_wired (startedAt : ℤ) : CooldownInv key ⟨.wired startedAt, []⟩ where
  sound := Sound.empty cooldownPeriodMs
  timed := by simp [grants, PipelineState.wired]
  own := by simp

/-- The invariant depends on the clock of the key, the nudges, the holders and
the nudges that enter. -/
theorem CooldownInv.congr {c c' : Config PipelineState PipelineTask} (inv : CooldownInv key c)
    (written : c'.shared.redis.lastNudgeWritten key = c.shared.redis.lastNudgeWritten key)
    (nudges : c'.shared.nudges = c.shared.nudges)
    (holders : c'.suspended.filterMap (·.holds? key) = c.suspended.filterMap (·.holds? key))
    (entering : c'.suspended.filterMap (·.entering? key) =
      c.suspended.filterMap (·.entering? key))
    (own : ∀ task ∈ c'.suspended, task.CarriesOwnNudge) : CooldownInv key c' := by
  have same : grants key c' = grants key c := by
    unfold grants
    rw [nudges, entering]
  have sameLedger : ledger key c' = ledger key c := by
    unfold ledger
    rw [same, written, holders]
  exact ⟨sameLedger ▸ inv.sound, same ▸ inv.timed, own⟩

/-- What follows a stretch that spends no cooldown is a bystander. -/
theorem bystander_of_follows {task next : PipelineTask} (follows : Follows task next)
    (other : task.spendsCooldown = false) : next.Bystander key := by
  cases follows with
  | asked => cases other
  | due => cases other
  | spared => cases other
  | sparedLast => cases other
  | clocked => cases other
  | enqueued => cases other
  | _ => exact ⟨rfl, rfl, trivial⟩

theorem bystander_nextFan (update : ScoreUpdate) (fans : List FanContext)
    (generated : List FanNudge) : (nextFan update fans generated).Bystander key := by
  rcases nextFan_cases update fans generated with done | ⟨fan, rest, more⟩
  · rw [done]
    exact ⟨rfl, rfl, trivial⟩
  · rw [more]
    exact ⟨rfl, rfl, trivial⟩

theorem holds?_of_bystanders {tasks : List PipelineTask}
    (h : ∀ task ∈ tasks, task.Bystander key) : tasks.filterMap (·.holds? key) = [] :=
  List.filterMap_eq_nil_iff.mpr fun task member => (h task member).idle

theorem entering?_of_bystanders {tasks : List PipelineTask}
    (h : ∀ task ∈ tasks, task.Bystander key) : tasks.filterMap (·.entering? key) = [] :=
  List.filterMap_eq_nil_iff.mpr fun task member => (h task member).empty

/-- A stimulus starts bystanders and leaves cooldowns and nudges alone. -/
theorem stimulate_cooldown (key : String) (stimulus : PipelineStimulus) (s : PipelineState) :
    (stimulate deps stimulus s).1.redis = s.redis ∧
      (stimulate deps stimulus s).1.nudges = s.nudges ∧
      ∀ task ∈ (stimulate deps stimulus s).2, task.Bystander key := by
  refine ⟨?_, ?_, ?_⟩
  · cases stimulus <;> simp [stimulate, onCongestionScore]
  · cases stimulus <;> simp [stimulate, onCongestionScore]
  · intro task member
    cases stimulate_starts deps stimulus s task member <;> exact ⟨rfl, rfl, trivial⟩

/-- A stretch that spends no cooldown leaves cooldowns and nudges alone. -/
theorem resume_cooldown (key : String) {task : PipelineTask} (other : task.spendsCooldown = false)
    (s : PipelineState) :
    (resume deps task s).shared.redis.lastNudgeWritten key = s.redis.lastNudgeWritten key ∧
      (resume deps task s).shared.nudges = s.nudges := by
  cases task with
  | computing gate window =>
      rw [resume_computing]
      exact ⟨rfl, rfl⟩
  | readingCooldown => cases other
  | decidingNudge => cases other
  | settingCooldown => cases other
  | enqueueingNudge => cases other
  | locatingAction gateId actionId userId now actions =>
      have unchanged := locateAction_shared gateId actionId userId now actions s
      exact ⟨congrArg (fun t : PipelineState => t.redis.lastNudgeWritten key) unchanged,
        congrArg (·.nudges) unchanged⟩
  | _ => exact ⟨rfl, rfl⟩

/-- A task outside the cooldown loop holds nothing. -/
theorem idle_of_other (key : String) {task : PipelineTask} (other : task.spendsCooldown = false) :
    task.holds? key = none ∧ task.entering? key = none := by
  cases task with
  | decidingNudge => cases other
  | settingCooldown => cases other
  | enqueueingNudge => cases other
  | _ => exact ⟨rfl, rfl⟩

/-! ## One lemma for each stretch of the loop -/

section Stretches

variable {s s' : PipelineState} {before after : List PipelineTask} {task next : PipelineTask}

/-- A task that neither wrote the clock nor enqueued anything moves on. -/
theorem CooldownInv.move (inv : CooldownInv key ⟨s, before ++ task :: after⟩)
    (own : next.CarriesOwnNudge) (entering : next.entering? key = task.entering? key)
    (sound : Sound cooldownPeriodMs
      { ledger key ⟨s, before ++ task :: after⟩ with
        holders := (before ++ next :: after).filterMap (·.holds? key) }) :
    CooldownInv key ⟨s, before ++ next :: after⟩ := by
  have same : grants key ⟨s, before ++ next :: after⟩ =
      grants key ⟨s, before ++ task :: after⟩ := by
    unfold grants
    rw [filterMap_middle, filterMap_middle, entering]
  refine ⟨?_, ?_, forall_mem_replace inv.own own⟩
  · unfold ledger at sound ⊢
    rw [same]
    exact sound
  · rw [same]
    exact inv.timed

/-- A task that holds as much as before moves on. -/
theorem CooldownInv.keep (inv : CooldownInv key ⟨s, before ++ task :: after⟩)
    (own : next.CarriesOwnNudge) (entering : next.entering? key = task.entering? key)
    (holds : next.holds? key = task.holds? key) :
    CooldownInv key ⟨s, before ++ next :: after⟩ := by
  refine inv.move own entering ?_
  have sound := inv.sound
  unfold ledger at sound
  rw [filterMap_middle] at sound ⊢
  rw [holds]
  exact sound

/-- No nudge is due: the call gives up what it may hold. -/
theorem CooldownInv.spare (inv : CooldownInv key ⟨s, before ++ task :: after⟩)
    (idle : task.entering? key = none) (bystander : next.Bystander key) :
    CooldownInv key ⟨s, before ++ next :: after⟩ := by
  refine inv.move bystander.own (bystander.empty.trans idle.symm) (inv.sound.release ?_)
  unfold ledger
  rw [filterMap_middle, filterMap_middle, bystander.idle]
  exact ((List.nil_sublist _).append_left _).append_right _

variable {update : ScoreUpdate} {fan : FanContext} {rest : List FanContext}
  {generated : List FanNudge} {lastNudgeAt : Option ℤ} {nudge : FanNudge}

/-- The answer of Redis: a call that finds no cooldown running becomes the
only holder. -/
theorem CooldownInv.read
    (inv : CooldownInv key ⟨s, before ++ .readingCooldown update fan rest generated :: after⟩)
    (answer : s.redis.getLastNudgeAt fan.fanId update.gate.gateId s.intake.clock = lastNudgeAt)
    (alone : cooldownKey fan.fanId update.gate.gateId = key →
      ReadsAlone key ⟨s, before ++ .readingCooldown update fan rest generated :: after⟩
        ⟨fan.fanId, update.gate.gateId, update.now⟩) :
    CooldownInv key
      ⟨s, before ++ .decidingNudge update fan lastNudgeAt rest generated :: after⟩ := by
  by_cases holder : cooldownKey fan.fanId update.gate.gateId = key ∧
      inCooldown lastNudgeAt update.now = false
  · refine inv.move trivial rfl ?_
    obtain ⟨free, expired⟩ := alone holder.1 (answer.symm ▸ holder.2)
    rw [filterMap_middle, List.append_eq_nil_iff, List.append_eq_nil_iff] at free
    rw [filterMap_middle, free.1.1, free.2, PipelineTask.holds?, if_pos holder]
    refine inv.sound.acquire ?_
    intro last written
    cases lastNudgeAt with
    | none => exact expired answer last written
    | some found =>
        have current := lastNudgeWritten_of_get answer
        rw [holder.1] at current
        have same : found = last := Option.some.inj (current.symm.trans written)
        rw [← same]
        exact inCooldown_eq_false.mp holder.2
  · exact inv.keep trivial rfl (if_neg holder)

/-- A nudge is due: the call keeps its hold. -/
theorem CooldownInv.due
    (inv : CooldownInv key
      ⟨s, before ++ .decidingNudge update fan lastNudgeAt rest generated :: after⟩)
    (nudging : generateFanNudge deps.localeCompare fan update.gate s.forecasts.forecastsByGate
      lastNudgeAt update.now = some nudge) :
    CooldownInv key ⟨s, before ++ .settingCooldown update fan nudge rest generated :: after⟩ := by
  obtain ⟨passed, own⟩ := generateFanNudge_spec nudging
  refine inv.keep own rfl ?_
  unfold PipelineTask.holds?
  simp only [passed, and_true]

/-- Redis takes the time of a nudge: the holder makes its grant. -/
theorem CooldownInv.clock
    (inv : CooldownInv key
      ⟨s, before ++ .settingCooldown update fan nudge rest generated :: after⟩) :
    CooldownInv key
      ⟨{ s with
          redis := s.redis.setLastNudgeAt fan.fanId update.gate.gateId update.now
            cooldownPeriodMs s.intake.clock },
        before ++ .enqueueingNudge update nudge rest generated :: after⟩ := by
  obtain ⟨sameFan, sameGate, time⟩ := inv.own (.settingCooldown update fan nudge rest generated)
    (by simp)
  have named : nudge.key = cooldownKey fan.fanId update.gate.gateId := by
    rw [FanNudge.key, sameFan, sameGate]
  have timed : nudge.time = some update.now := by
    rw [FanNudge.time, time, IsoDate.parse_toISOString]
  have own : ∀ task ∈ before ++ .enqueueingNudge update nudge rest generated :: after,
      task.CarriesOwnNudge := forall_mem_replace inv.own trivial
  have sound := inv.sound
  have known := inv.timed
  unfold ledger at sound
  by_cases mine : cooldownKey fan.fanId update.gate.gateId = key
  · have held : PipelineTask.holds? key (.settingCooldown update fan nudge rest generated) =
        some update.now := if_pos mine
    have entering : PipelineTask.entering? key (.enqueueingNudge update nudge rest generated) =
        some nudge := if_pos (named.trans mine)
    -- the grant comes somewhere among the earlier ones
    have granted : (nudge ::
        grants key ⟨s, before ++ .settingCooldown update fan nudge rest generated :: after⟩).Perm
        (grants key ⟨s, before ++ .enqueueingNudge update nudge rest generated :: after⟩) := by
      unfold grants
      rw [filterMap_middle, filterMap_middle, entering, List.append_assoc, List.append_assoc]
      refine List.perm_middle.symm.trans (List.Perm.append_left _ ?_)
      exact List.perm_middle.symm
    have alone := sound.single
    rw [filterMap_middle, held] at alone
    simp only [List.length_append, Option.toList_some, List.length_singleton] at alone
    refine ⟨?_, ?_, own⟩
    · have times := granted.filterMap (·.time)
      rw [List.filterMap_cons_some timed] at times
      have holder : update.now ∈ (before ++ .settingCooldown update fan nudge rest generated ::
          after).filterMap (·.holds? key) := by
        rw [filterMap_middle, held]
        simp
      have next := (sound.grant (by decide) holder).reorder times
      unfold ledger
      rw [lastNudgeWritten_set, if_pos mine.symm, filterMap_middle,
        List.length_eq_zero_iff.mp (show (before.filterMap _).length = 0 by omega),
        List.length_eq_zero_iff.mp (show (after.filterMap _).length = 0 by omega)]
      exact next
    · intro other member
      rcases List.mem_cons.mp (granted.mem_iff.mpr member) with rfl | earlier
      · rw [timed]
        rfl
      · exact known other earlier
  · have other : nudge.key ≠ key := fun same => mine (named.symm.trans same)
    have step : CooldownInv key
        ⟨s, before ++ .enqueueingNudge update nudge rest generated :: after⟩ :=
      inv.keep trivial (if_neg other) (if_neg mine).symm
    refine ⟨?_, step.timed, own⟩
    have unchanged := step.sound
    unfold ledger at unchanged ⊢
    rw [lastNudgeWritten_set, if_neg (Ne.symm mine)]
    exact unchanged

/-- The store takes a nudge that was on its way. -/
theorem CooldownInv.enqueue
    (inv : CooldownInv key ⟨s, before ++ .enqueueingNudge update nudge rest generated :: after⟩) :
    CooldownInv key
      ⟨{ s with nudges := s.nudges.enqueue nudge },
        before ++ .nudgeEnqueued update rest (generated ++ [nudge]) :: after⟩ := by
  have same : (grants key
      ⟨s, before ++ .enqueueingNudge update nudge rest generated :: after⟩).Perm
      (grants key ⟨{ s with nudges := s.nudges.enqueue nudge },
        before ++ .nudgeEnqueued update rest (generated ++ [nudge]) :: after⟩) := by
    unfold grants NudgeState.enqueue
    rw [filterMap_middle, filterMap_middle, List.filter_append, List.append_assoc,
      List.append_assoc, List.append_assoc]
    refine List.Perm.append_left _ ?_
    by_cases mine : nudge.key = key
    · have entering : PipelineTask.entering? key (.enqueueingNudge update nudge rest generated) =
          some nudge := if_pos mine
      rw [entering, List.filter_singleton, decide_eq_true mine]
      exact List.perm_middle
    · have entering : PipelineTask.entering? key (.enqueueingNudge update nudge rest generated) =
          none := if_neg mine
      rw [entering, List.filter_singleton, decide_eq_false mine]
      exact List.Perm.refl _
  refine ⟨?_, ?_, forall_mem_replace inv.own trivial⟩
  · have times := same.filterMap FanNudge.time
    have sound := inv.sound.reorder times
    unfold ledger at sound ⊢
    rw [filterMap_middle] at sound ⊢
    exact sound
  · exact fun other member => inv.timed other (same.mem_iff.mpr member)

end Stretches

/-! ## Runs -/

/-- A stretch that spends no cooldown. -/
theorem cooldownInv_other {s : PipelineState} {before after : List PipelineTask}
    {task : PipelineTask} (inv : CooldownInv key ⟨s, before ++ task :: after⟩)
    (other : task.spendsCooldown = false) :
    CooldownInv key ⟨(resume deps task s).shared,
      before ++ (resume deps task s).continued.toList ++ after ++
        (resume deps task s).started⟩ := by
  obtain ⟨written, enqueued⟩ := resume_cooldown deps key other s
  obtain ⟨idle, empty⟩ := idle_of_other key other
  have bystander : ∀ next ∈ (resume deps task s).continued.toList ++
      (resume deps task s).started, next.Bystander key := fun next member =>
    bystander_of_follows (resume_follows deps task s next member) other
  have left := fun next member => bystander next (List.mem_append_left _ member)
  have started := fun next member => bystander next (List.mem_append_right _ member)
  refine inv.congr written enqueued ?_ ?_ ?_
  · rw [filterMap_middle, idle, List.filterMap_append, List.filterMap_append,
      List.filterMap_append, holds?_of_bystanders left, holds?_of_bystanders started,
      List.append_nil]
    rfl
  · rw [filterMap_middle, empty, List.filterMap_append, List.filterMap_append,
      List.filterMap_append, entering?_of_bystanders left, entering?_of_bystanders started,
      List.append_nil]
    rfl
  · exact forall_mem_resumed inv.own fun _ next new => (bystander next new).own

/-- A stimulus starts bystanders only. -/
theorem cooldownInv_stimulate {s : PipelineState} {tasks : List PipelineTask}
    (inv : CooldownInv key ⟨s, tasks⟩) (stimulus : PipelineStimulus) :
    CooldownInv key
      ⟨(stimulate deps stimulus s).1, tasks ++ (stimulate deps stimulus s).2⟩ := by
  obtain ⟨redis, nudges, bystander⟩ := stimulate_cooldown deps key stimulus s
  refine inv.congr (congrArg (fun r : RedisState => r.lastNudgeWritten key) redis) nudges
    ?_ ?_ ?_
  · rw [List.filterMap_append, holds?_of_bystanders bystander, List.append_nil]
  · rw [List.filterMap_append, entering?_of_bystanders bystander, List.append_nil]
  · intro task member
    rcases List.mem_append.mp member with old | new
    · exact inv.own task old
    · exact (bystander task new).own

theorem cooldownInv_after {startedAt : ℤ} {schedule : Schedule} {fanId : FanId} {gateId : GateId}
    (exclusive : (system deps).Guarded (CooldownExclusive fanId gateId) ⟨.wired startedAt, []⟩
      schedule) :
    CooldownInv (cooldownKey fanId gateId) (after deps startedAt schedule) := by
  refine (system deps).run_invariant ?_ ?_ (cooldownInv_wired startedAt) exclusive
  · exact fun s tasks stimulus inv _ => cooldownInv_stimulate deps inv stimulus
  · intro s before task after inv guard
    cases task with
    | readingCooldown update fan rest generated =>
        have step := inv.read rfl (fun mine =>
          guard ⟨fan.fanId, update.gate.gateId, update.now⟩ (by simp [PipelineTask.cooldownRead?])
            mine)
        simpa [system, resume, continueWith] using step
    | decidingNudge update fan lastNudgeAt rest generated =>
        show CooldownInv _ ⟨(decideNudge deps update fan lastNudgeAt rest generated s).shared,
          before ++ (decideNudge deps update fan lastNudgeAt rest generated s).continued.toList ++
            after ++ (decideNudge deps update fan lastNudgeAt rest generated s).started⟩
        unfold decideNudge
        cases nudging : generateFanNudge deps.localeCompare fan update.gate
            s.forecasts.forecastsByGate lastNudgeAt update.now with
        | none =>
            simpa [continueWith] using inv.spare rfl (bystander_nextFan update rest generated)
        | some nudge => simpa [continueWith] using inv.due deps nudging
    | settingCooldown update fan nudge rest generated =>
        simpa [system, resume, continueWith] using inv.clock
    | enqueueingNudge update nudge rest generated =>
        simpa [system, resume, continueWith] using inv.enqueue
    | _ => exact cooldownInv_other deps inv rfl

/-- **The cooldown holds** between any two nudges to a fan about a gate, if
its score updates read the cooldown alone. -/
theorem cooldown_respected (startedAt : ℤ) (schedule : Schedule) (fanId : FanId) (gateId : GateId)
    (exclusive : (system deps).Guarded (CooldownExclusive fanId gateId) ⟨.wired startedAt, []⟩
      schedule) :
    ((after deps startedAt schedule).shared.nudges.nudgesFor fanId gateId).Pairwise
      FanNudge.CooldownApart := by
  have inv := cooldownInv_after deps exclusive
  have spaced := List.pairwise_filterMap.mp inv.sound.spaced
  have part : ((after deps startedAt schedule).shared.nudges.nudgesFor fanId gateId).Sublist
      (grants (cooldownKey fanId gateId) (after deps startedAt schedule)) := by
    refine List.Sublist.trans ?_ (List.sublist_append_left _ _)
    refine List.monotone_filter_right _ ?_
    intro nudge own
    simp only [decide_eq_true_iff] at own ⊢
    rw [FanNudge.key, own.1, own.2]
  refine (spaced.sublist part).imp_of_mem ?_
  intro nudge other mine others apart
  obtain ⟨t, time⟩ := Option.isSome_iff_exists.mp (inv.timed nudge (part.subset mine))
  obtain ⟨t', time'⟩ := Option.isSome_iff_exists.mp (inv.timed other (part.subset others))
  exact ⟨t, time, t', time', apart t time t' time'⟩

/-- A score update of a crowded gate A nudges a fan; another does so five
minutes later. -/
def spacedUpdates : Schedule :=
  ([.stimulus (.signalEvent (demoScan "scan" "fan-1" "1970-01-01T00:00:00.000Z")),
    .stimulus (.signalEvent (demoReading "crowd" 400 "1970-01-01T00:00:00.000Z"))] : Schedule) ++
    List.replicate 13 (Choice.resume 1) ++
    ([.stimulus (.advance 300000),
      .stimulus (.signalEvent (demoReading "crowd-2" 450 "1970-01-01T00:05:00.000Z"))] :
        Schedule) ++
    List.replicate 13 (Choice.resume 2)

/-- Both nudges go out, and they are a period apart. -/
theorem cooldown_respected_demo :
    ((after demoDependencies 0 spacedUpdates).shared.nudges.nudgesFor "fan-1" "gate-a").length =
        2 ∧
      ((after demoDependencies 0 spacedUpdates).shared.nudges.nudgesFor "fan-1"
        "gate-a").Pairwise FanNudge.CooldownApart :=
  ⟨by decide +kernel,
    cooldown_respected demoDependencies 0 spacedUpdates "fan-1" "gate-a" (by decide +kernel)⟩

/-- Two score updates of gate A, a millisecond apart. Both read the cooldown
of the fan before either writes it. -/
def overlappingUpdates : Schedule :=
  ([.stimulus (.signalEvent (demoReading "crowd" 400 "1970-01-01T00:00:00.000Z")),
    .stimulus (.signalEvent (demoScan "scan" "fan-1" "1970-01-01T00:00:00.000Z")),
    -- the first recompute publishes, then the second
    .resume 0, .resume 0, .resume 0,
    .stimulus (.advance 1),
    .resume 0, .resume 0, .resume 0] : Schedule) ++
    -- either update reads the cooldown
    List.replicate 6 (Choice.resume 0) ++ List.replicate 6 (Choice.resume 1) ++
    -- and then goes on to its nudge
    List.replicate 3 (Choice.resume 0) ++ List.replicate 3 (Choice.resume 1)

/-- The fan gets two nudges about gate A within a millisecond. -/
theorem overlapping_updates_nudge :
    ¬ ((after demoDependencies 0 overlappingUpdates).shared.nudges.nudgesFor "fan-1"
      "gate-a").Pairwise FanNudge.CooldownApart := by
  decide +kernel

end Pipeline

end Stadium
