import Stadium.Lib.Interleaving

/-!
# Fan-out to receivers that may throw

A hub sends an event to its connections one after another, in the order in
which they registered. A send that throws ends the loop, and the exception
goes on to the stretch that broadcasts. By then the stretch has had its
effects; it leaves and starts no task any more, and unless somebody catches
the exception the process goes down with it.

`streaming` is a task system whose stretches broadcast, and `QuietStep` says of
a step that no send of it throws. Leaving some connections out of a hub is an
operation every quiet step commutes with (`step_without`), so along a quiet
schedule these connections make no difference to anybody else (`run_without`).
-/

namespace Interleaving

variable {σ τ ε γ β ν : Type*}

/-- The connections a hub sends to, in the order in which they registered, and
what they have been sent. -/
structure Hub (γ β : Type*) where
  connections : List γ := []
  /-- The sends that throw at the moment. -/
  throws : γ → β → Bool := fun _ _ => false
  /-- Every send that returned, in order. -/
  received : List (γ × β) := []

namespace Hub

/-- A connection that is registered keeps its place. -/
def register [DecidableEq γ] (h : Hub γ β) (connection : γ) : Hub γ β :=
  if connection ∈ h.connections then h
  else { h with connections := h.connections ++ [connection] }

def unregister [DecidableEq γ] (h : Hub γ β) (connection : γ) : Hub γ β :=
  { h with connections := h.connections.filter (· ≠ connection) }

/-- The loop over the connections: those it has sent to, and whether it came to
its end. -/
def fanOut (throws : γ → β → Bool) (event : β) : List γ → List γ × Bool
  | [] => ([], true)
  | connection :: rest =>
      if throws connection event then ([], false)
      else
        let (sent, completed) := fanOut throws event rest
        (connection :: sent, completed)

/-- Send an event to all connections; the flag is false if a send has thrown. -/
def broadcast (h : Hub γ β) (event : β) : Hub γ β × Bool :=
  let (sent, completed) := fanOut h.throws event h.connections
  ({ h with received := h.received ++ sent.map (·, event) }, completed)

/-- What a connection has received. -/
def receivedBy [DecidableEq γ] (h : Hub γ β) (connection : γ) : List β :=
  (h.received.filter (·.1 = connection)).map Prod.snd

/-- The hub without some connections, as if they had never been there. -/
def without (broken : γ → Bool) (h : Hub γ β) : Hub γ β :=
  { h with
    connections := h.connections.filter (!broken ·)
    received := h.received.filter (!broken ·.1) }

/-- No send of the event throws. -/
def Quiet (h : Hub γ β) (event : β) : Prop :=
  ∀ connection ∈ h.connections, h.throws connection event = false

instance (h : Hub γ β) (event : β) : Decidable (h.Quiet event) :=
  inferInstanceAs (Decidable (∀ connection ∈ h.connections, h.throws connection event = false))

theorem fanOut_quiet {throws : γ → β → Bool} {event : β} {connections : List γ}
    (quiet : ∀ connection ∈ connections, throws connection event = false) :
    fanOut throws event connections = (connections, true) := by
  induction connections with
  | nil => rfl
  | cons connection rest ih =>
      obtain ⟨here, later⟩ := List.forall_mem_cons.mp quiet
      rw [fanOut, if_neg (by simp [here]), ih later]

/-- The loop comes to its end exactly if no send throws. -/
theorem fanOut_completed_iff {throws : γ → β → Bool} {event : β} {connections : List γ} :
    (fanOut throws event connections).2 = true ↔
      ∀ connection ∈ connections, throws connection event = false := by
  constructor
  · intro completed
    induction connections with
    | nil => exact List.forall_mem_nil _
    | cons connection rest ih =>
        rw [fanOut] at completed
        split at completed
        · cases completed
        · rename_i returned
          exact List.forall_mem_cons.mpr ⟨eq_false_of_ne_true returned, ih completed⟩
  · intro quiet
    rw [fanOut_quiet quiet]

theorem broadcast_quiet {h : Hub γ β} {event : β} (quiet : h.Quiet event) :
    h.broadcast event =
      ({ h with received := h.received ++ h.connections.map (·, event) }, true) := by
  rw [broadcast, fanOut_quiet quiet]

theorem broadcast_completed_iff {h : Hub γ β} {event : β} :
    (h.broadcast event).2 = true ↔ h.Quiet event :=
  fanOut_completed_iff

theorem Quiet.without {h : Hub γ β} {event : β} (quiet : h.Quiet event) (broken : γ → Bool) :
    (h.without broken).Quiet event := by
  intro connection kept
  exact quiet connection (List.mem_of_mem_filter kept)

/-- Where no send throws, the others receive what they receive without the
broken connections. -/
theorem broadcast_without {h : Hub γ β} {event : β} (quiet : h.Quiet event)
    (broken : γ → Bool) :
    (h.without broken).broadcast event = ((h.broadcast event).1.without broken, true) := by
  rw [broadcast_quiet quiet, broadcast_quiet (quiet.without broken)]
  simp [Hub.without, List.filter_append, List.filter_map, Function.comp_def]

section

variable [DecidableEq γ]

theorem register_without_of_broken {broken : γ → Bool} {connection : γ} (h : Hub γ β)
    (omitted : broken connection = true) :
    (h.register connection).without broken = h.without broken := by
  unfold register
  split
  · rfl
  · simp [Hub.without, List.filter_append, omitted]

theorem register_without {broken : γ → Bool} {connection : γ} (h : Hub γ β)
    (kept : broken connection = false) :
    (h.register connection).without broken = (h.without broken).register connection := by
  have same : connection ∈ (h.without broken).connections ↔ connection ∈ h.connections := by
    simp [Hub.without, kept]
  unfold register
  by_cases present : connection ∈ h.connections
  · rw [if_pos present, if_pos (same.mpr present)]
  · rw [if_neg present, if_neg (mt same.mp present)]
    simp [Hub.without, List.filter_append, kept]

theorem unregister_without (broken : γ → Bool) (h : Hub γ β) (connection : γ) :
    (h.unregister connection).without broken = (h.without broken).unregister connection := by
  simp [unregister, Hub.without, List.filter_filter, Bool.and_comm]

/-- Leaving connections out takes nothing from the others. -/
theorem receivedBy_without {broken : γ → Bool} {connection : γ} (h : Hub γ β)
    (kept : broken connection = false) :
    (h.without broken).receivedBy connection = h.receivedBy connection := by
  unfold receivedBy Hub.without
  simp only
  rw [List.filter_filter]
  congr 1
  apply List.filter_congr
  intro send _
  by_cases own : send.1 = connection
  · simp [own, kept]
  · simp [own]

end

end Hub

/-! ## A system that broadcasts -/

/-- A broadcast of a stretch, and whether somebody catches what it throws. -/
structure Broadcast (β : Type*) where
  event : β
  caught : Bool

/-- Which stretches of a system broadcast, each after its effects. A task may
carry local variables `ν` that only its broadcasts read. -/
structure BroadcastSites (S : TaskSystem σ τ ε) (β ν : Type*) where
  onStimulus : ε → σ → Option (Broadcast β)
  onResume : ν → τ → σ → Option (Broadcast β)
  /-- The variables a task starts with. -/
  initial : ν
  /-- The variables after the task has been resumed. -/
  next : ν → τ → ν

/-- The shared state beside a hub; once the process is down nothing happens any
more. -/
structure Streamed (σ γ β : Type*) where
  shared : σ
  hub : Hub γ β := {}
  up : Bool := true

/-- What reaches a system that broadcasts. -/
inductive StreamStimulus (ε γ β : Type*) where
  | event (e : ε)
  | register (connection : γ)
  | unregister (connection : γ)
  /-- From now on exactly these sends throw. -/
  | faults (throws : γ → β → Bool)

namespace Streamed

/-- A stretch that broadcasts, if it does, after its effects. -/
def broadcasting (s : Streamed σ γ β) (site : Option (Broadcast β)) (stretch : Stretch σ τ) :
    Stretch (Streamed σ γ β) τ :=
  match site with
  | none => ⟨{ s with shared := stretch.shared }, stretch.continued, stretch.started⟩
  | some site =>
      match s.hub.broadcast site.event with
      | (hub, true) =>
          ⟨{ s with shared := stretch.shared, hub }, stretch.continued, stretch.started⟩
      -- a send has thrown: what the stretch would leave and start is gone
      | (hub, false) => ⟨⟨stretch.shared, hub, site.caught⟩, none, []⟩

def without (broken : γ → Bool) (s : Streamed σ γ β) : Streamed σ γ β :=
  { s with hub := s.hub.without broken }

/-- No send of the broadcast throws. -/
def Quiet (s : Streamed σ γ β) (site : Option (Broadcast β)) : Prop :=
  ∀ broadcast ∈ site, s.hub.Quiet broadcast.event

instance (s : Streamed σ γ β) (site : Option (Broadcast β)) : Decidable (s.Quiet site) :=
  inferInstanceAs (Decidable (∀ broadcast ∈ site, s.hub.Quiet broadcast.event))

/-- A send that throws takes with it what the stretch would leave and start. -/
theorem broadcasting_loud {s : Streamed σ γ β} {site : Broadcast β}
    (loud : ¬ s.hub.Quiet site.event) (stretch : Stretch σ τ) :
    s.broadcasting (some site) stretch =
      ⟨⟨stretch.shared, (s.hub.broadcast site.event).1, site.caught⟩, none, []⟩ := by
  have thrown : (s.hub.broadcast site.event).2 = false := by
    rw [← Bool.not_eq_true, Hub.broadcast_completed_iff]
    exact loud
  simp only [broadcasting]
  split
  · rename_i sent
    rw [sent] at thrown
    cases thrown
  · rename_i sent
    rw [sent]

theorem broadcasting_without {s : Streamed σ γ β} {site : Option (Broadcast β)}
    (quiet : s.Quiet site) (broken : γ → Bool) (stretch : Stretch σ τ) :
    (s.without broken).broadcasting site stretch =
      ⟨(s.broadcasting site stretch).shared.without broken,
        (s.broadcasting site stretch).continued, (s.broadcasting site stretch).started⟩ := by
  cases site with
  | none => rfl
  | some site =>
      have quiet := quiet site rfl
      simp only [broadcasting, without, Hub.broadcast_without quiet broken,
        Hub.broadcast_quiet quiet]

end Streamed

namespace TaskSystem

variable [DecidableEq γ] (S : TaskSystem σ τ ε) (B : BroadcastSites S β ν)

/-- The system with a hub its stretches broadcast on. -/
def streaming : TaskSystem (Streamed σ γ β) (ν × τ) (StreamStimulus ε γ β) where
  stimulate stimulus s :=
    if !s.up then (s, [])
    else
      match stimulus with
      | .event e =>
          let (shared, started) := S.stimulate e s.shared
          let stretch := s.broadcasting (B.onStimulus e s.shared)
            ⟨shared, none, started.map (B.initial, ·)⟩
          (stretch.shared, stretch.started)
      | .register connection => ({ s with hub := s.hub.register connection }, [])
      | .unregister connection => ({ s with hub := s.hub.unregister connection }, [])
      | .faults throws => ({ s with hub := { s.hub with throws } }, [])
  resume task s :=
    if !s.up then ⟨s, some task, []⟩
    else
      let (locals, task) := task
      let stretch := S.resume task s.shared
      s.broadcasting (B.onResume locals task s.shared)
        ⟨stretch.shared, stretch.continued.map (B.next locals task, ·),
          stretch.started.map (B.initial, ·)⟩

/-- No send of this step throws. -/
def QuietStep (c : Config (Streamed σ γ β) (ν × τ)) : Choice (StreamStimulus ε γ β) → Prop
  | .stimulus (.event e) => c.shared.Quiet (B.onStimulus e c.shared.shared)
  | .stimulus _ => True
  | .resume position =>
      ∀ task ∈ c.suspended[position]?, c.shared.Quiet (B.onResume task.1 task.2 c.shared.shared)

/-- Whether a step is quiet can be decided. -/
instance decidableQuietStep (c : Config (Streamed σ γ β) (ν × τ)) :
    ∀ choice, Decidable (QuietStep S B c choice)
  | .stimulus (.event e) =>
      inferInstanceAs (Decidable (c.shared.Quiet (B.onStimulus e c.shared.shared)))
  | .stimulus (.register _) | .stimulus (.unregister _) | .stimulus (.faults _) => isTrue trivial
  | .resume position =>
      inferInstanceAs (Decidable (∀ task ∈ c.suspended[position]?,
        c.shared.Quiet (B.onResume task.1 task.2 c.shared.shared)))

/-- The choice does not register a broken connection. -/
def registersOthers (broken : γ → Bool) : Choice (StreamStimulus ε γ β) → Bool
  | .stimulus (.register connection) => !broken connection
  | _ => true

/-- The configuration without some connections. -/
def withoutConnections (broken : γ → Bool) (c : Config (Streamed σ γ β) (ν × τ)) :
    Config (Streamed σ γ β) (ν × τ) :=
  ⟨c.shared.without broken, c.suspended⟩

omit [DecidableEq γ] in
/-- Only registrations of broken connections are left out. -/
theorem eq_register_of_not_registersOthers {broken : γ → Bool}
    {choice : Choice (StreamStimulus ε γ β)} (omitted : registersOthers broken choice = false) :
    ∃ connection, choice = .stimulus (.register connection) ∧ broken connection = true := by
  cases choice with
  | resume position => cases omitted
  | stimulus stimulus =>
      cases stimulus with
      | register connection =>
          refine ⟨connection, rfl, ?_⟩
          simpa [registersOthers] using omitted
      | event e => cases omitted
      | unregister connection => cases omitted
      | faults throws => cases omitted

/-- Registering a broken connection changes nothing for the others. -/
theorem step_registers_broken {broken : γ → Bool} {choice : Choice (StreamStimulus ε γ β)}
    (omitted : registersOthers broken choice = false) (c : Config (Streamed σ γ β) (ν × τ)) :
    withoutConnections broken ((S.streaming B).step c choice) = withoutConnections broken c := by
  obtain ⟨connection, rfl, isBroken⟩ := eq_register_of_not_registersOthers omitted
  obtain ⟨⟨shared, hub, up⟩, suspended⟩ := c
  cases up with
  | false => simp [step, streaming]
  | true =>
      simp [step, streaming, withoutConnections, Streamed.without,
        Hub.register_without_of_broken hub isBroken]

theorem stimulate_without {broken : γ → Bool} {stimulus : StreamStimulus ε γ β}
    (kept : registersOthers broken (.stimulus stimulus) = true) {s : Streamed σ γ β}
    {suspended : List (ν × τ)} (quiet : QuietStep S B ⟨s, suspended⟩ (.stimulus stimulus)) :
    (S.streaming B).stimulate stimulus (s.without broken) =
      (((S.streaming B).stimulate stimulus s).1.without broken,
        ((S.streaming B).stimulate stimulus s).2) := by
  obtain ⟨shared, hub, up⟩ := s
  cases up with
  | false => rfl
  | true =>
      cases stimulus with
      | event e =>
          have quiet : Streamed.Quiet ⟨shared, hub, true⟩ (B.onStimulus e shared) := quiet
          have same := Streamed.broadcasting_without quiet broken
            (⟨(S.stimulate e shared).1, none, (S.stimulate e shared).2.map (B.initial, ·)⟩ :
              Stretch σ (ν × τ))
          have left := congrArg Stretch.shared same
          have begun := congrArg Stretch.started same
          exact Prod.ext left begun
      | register connection =>
          have others : broken connection = false := by
            simpa [registersOthers] using kept
          simp [streaming, Streamed.without, Hub.register_without hub others]
      | unregister connection =>
          simp [streaming, Streamed.without, Hub.unregister_without broken hub]
      | faults throws => rfl

theorem resume_without (broken : γ → Bool) {task : ν × τ} {s : Streamed σ γ β}
    (quiet : s.Quiet (B.onResume task.1 task.2 s.shared)) :
    (S.streaming B).resume task (s.without broken) =
      ⟨((S.streaming B).resume task s).shared.without broken,
        ((S.streaming B).resume task s).continued, ((S.streaming B).resume task s).started⟩ := by
  obtain ⟨shared, hub, up⟩ := s
  cases up with
  | false => rfl
  | true => exact Streamed.broadcasting_without quiet broken _

/-- **Every quiet step** takes the configuration without the broken connections
to the one it leads to, again without them. -/
theorem step_without {broken : γ → Bool} {choice : Choice (StreamStimulus ε γ β)}
    (kept : registersOthers broken choice = true) {c : Config (Streamed σ γ β) (ν × τ)}
    (quiet : QuietStep S B c choice) :
    (S.streaming B).step (withoutConnections broken c) choice =
      withoutConnections broken ((S.streaming B).step c choice) := by
  cases choice with
  | stimulus stimulus =>
      have same := S.stimulate_without B kept quiet
      simp only [step, withoutConnections, same]
  | resume position =>
      cases found : c.suspended[position]? with
      | none => simp only [step, withoutConnections, found]
      | some task =>
          have same := S.resume_without B broken (quiet task found)
          simp only [step, withoutConnections, found, same]

/-- **Connections nobody misses.** Along a quiet schedule everybody else's
configuration is the one reached without registering the broken connections. -/
theorem run_without (broken : γ → Bool) {c : Config (Streamed σ γ β) (ν × τ)}
    {schedule : List (Choice (StreamStimulus ε γ β))}
    (quiet : (S.streaming B).Guarded (QuietStep S B) c schedule) :
    (S.streaming B).run (withoutConnections broken c)
        (schedule.filter (registersOthers broken)) =
      withoutConnections broken ((S.streaming B).run c schedule) := by
  induction schedule generalizing c with
  | nil => rfl
  | cons choice rest ih =>
      obtain ⟨now, later⟩ := quiet
      cases kept : registersOthers broken choice with
      | true =>
          rw [List.filter_cons_of_pos kept, run_cons, run_cons, S.step_without B kept now]
          exact ih later
      | false =>
          rw [List.filter_cons_of_neg (by simp [kept]), run_cons,
            ← S.step_registers_broken B kept]
          exact ih later

end TaskSystem

end Interleaving
