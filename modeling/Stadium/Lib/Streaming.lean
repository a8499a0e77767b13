import Stadium.Lib.FanOut
import Stadium.Lib.Parts

/-!
# What is heard of a system that broadcasts

Two rules for `streaming`. If every broadcast says what is so by then, and what is so
stays so, then nobody ever hears anything else, whichever sends throw
(`Guarantee.streaming`). If a log of the system grows by what is broadcast, then a
registered connection hears what the log grows by, in its order and once, as long as no
send throws (`Feeds.run`).
-/

namespace Interleaving

variable {σ τ ε γ β ν α : Type*}

namespace Hub

theorem mem_fanOut {throws : γ → β → Bool} {event : β} {connections : List γ} {connection : γ}
    (sent : connection ∈ (fanOut throws event connections).1) : connection ∈ connections := by
  induction connections with
  | nil => exact sent
  | cons first rest ih =>
      rw [fanOut] at sent
      split at sent
      · cases sent
      · rcases List.mem_cons.mp sent with rfl | later
        · exact List.mem_cons_self
        · exact List.mem_cons_of_mem _ (ih later)

/-- A send is of before, or it is of the event and to a registered connection. -/
theorem mem_received_broadcast {h : Hub γ β} {event : β} {send : γ × β}
    (sent : send ∈ (h.broadcast event).1.received) :
    send ∈ h.received ∨ (send.1 ∈ h.connections ∧ send.2 = event) := by
  rcases List.mem_append.mp sent with old | new
  · exact .inl old
  · obtain ⟨connection, reached, rfl⟩ := List.mem_map.mp new
    exact .inr ⟨mem_fanOut reached, rfl⟩

theorem receivedBy_broadcast [DecidableEq γ] {h : Hub γ β} {event : β} {connection : γ}
    (quiet : h.Quiet event) (once : h.connections.Nodup)
    (registered : connection ∈ h.connections) :
    (h.broadcast event).1.receivedBy connection = h.receivedBy connection ++ [event] := by
  -- it is registered once, so the loop comes by once
  have own : h.connections.filter (fun other => other = connection) = [connection] := by
    have all := List.filter_eq (l := h.connections) connection
    rw [List.count_eq_one_of_mem once registered] at all
    simpa [eq_comm] using all
  rw [broadcast_quiet quiet]
  unfold receivedBy
  simp only [List.filter_append, List.map_append, List.filter_map, Function.comp_def,
    List.map_map, own]
  rfl

theorem nodup_register [DecidableEq γ] {h : Hub γ β} (once : h.connections.Nodup)
    (connection : γ) : (h.register connection).connections.Nodup := by
  unfold register
  split
  · exact once
  · rename_i absent
    exact List.nodup_append.mpr ⟨once, List.nodup_singleton _, fun a listed b own same =>
      absent (List.mem_singleton.mp own ▸ same ▸ listed)⟩

theorem mem_register [DecidableEq γ] {h : Hub γ β} {connection other : γ} :
    other ∈ (h.register connection).connections ↔ other ∈ h.connections ∨ other = connection := by
  unfold register
  split
  · rename_i present
    constructor
    · exact .inl
    · rintro (listed | rfl)
      · exact listed
      · exact present
  · simp

@[simp] theorem received_register [DecidableEq γ] (h : Hub γ β) (connection : γ) :
    (h.register connection).received = h.received := by
  unfold register
  split <;> rfl

end Hub

namespace Streamed

variable {s : Streamed σ γ β} {site : Option (Broadcast β)} {stretch : Stretch σ τ}

/-- Where no send throws, all is as the stretch leaves it. -/
theorem broadcasting_quiet {broadcast : Broadcast β} (quiet : s.hub.Quiet broadcast.event) :
    s.broadcasting (some broadcast) stretch =
      ⟨{ s with shared := stretch.shared, hub := (s.hub.broadcast broadcast.event).1 },
        stretch.continued, stretch.started⟩ := by
  simp only [broadcasting, Hub.broadcast_quiet quiet]

/-- The effects stay, whatever throws. -/
theorem shared_broadcasting : (s.broadcasting site stretch).shared.shared = stretch.shared := by
  cases site with
  | none => rfl
  | some broadcast =>
      by_cases quiet : s.hub.Quiet broadcast.event
      · rw [broadcasting_quiet quiet]
      · rw [broadcasting_loud quiet]

theorem connections_broadcasting :
    (s.broadcasting site stretch).shared.hub.connections = s.hub.connections := by
  cases site with
  | none => rfl
  | some broadcast =>
      by_cases quiet : s.hub.Quiet broadcast.event
      · rw [broadcasting_quiet quiet]
        rfl
      · rw [broadcasting_loud quiet]
        rfl

/-- A stretch that broadcasts leaves and starts nothing else. -/
theorem mem_successors_broadcasting {task : τ}
    (member : task ∈ (s.broadcasting site stretch).successors) : task ∈ stretch.successors := by
  cases site with
  | none => exact member
  | some broadcast =>
      by_cases quiet : s.hub.Quiet broadcast.event
      · rw [broadcasting_quiet quiet] at member
        exact member
      · rw [broadcasting_loud quiet] at member
        exact absurd member List.not_mem_nil

/-- What has been received by then was received before, or is what is broadcast. -/
theorem mem_received_broadcasting {send : γ × β}
    (sent : send ∈ (s.broadcasting site stretch).shared.hub.received) :
    send ∈ s.hub.received ∨ ∃ broadcast, site = some broadcast ∧
      send.1 ∈ s.hub.connections ∧ send.2 = broadcast.event := by
  cases site with
  | none => exact .inl sent
  | some broadcast =>
      have sent : send ∈ (s.hub.broadcast broadcast.event).1.received := by
        by_cases quiet : s.hub.Quiet broadcast.event
        · rw [broadcasting_quiet quiet] at sent
          exact sent
        · rw [broadcasting_loud quiet] at sent
          exact sent
      exact (Hub.mem_received_broadcast sent).imp id fun new => ⟨broadcast, rfl, new⟩

end Streamed

/-- What may reach the system and its hub. -/
def StreamStimulus.Within (allowed : ε → Prop) (admitted : γ → Prop) :
    StreamStimulus ε γ β → Prop
  | .event e => allowed e
  | .register connection => admitted connection
  | .unregister _ | .faults _ => True

namespace TaskSystem

variable {S : TaskSystem σ τ ε} {B : BroadcastSites S β ν} {allowed : ε → Prop}
  {Inv : σ → Prop} {moves : σ → σ → Prop} {ok : σ → τ → Prop}

/-- Every broadcast says what is so by then. The variables a task carries for its
broadcasts may have to be known for that. -/
structure Truthful (S : TaskSystem σ τ ε) (B : BroadcastSites S β ν) (allowed : ε → Prop)
    (Inv : σ → Prop) (moves : σ → σ → Prop) (ok : σ → τ → Prop) (knows : σ → ν → τ → Prop)
    (so : σ → β → Prop) : Prop where
  lasts : ∀ s t event, moves s t → so s event → so t event
  known : ∀ s t locals task, moves s t → knows s locals task → knows t locals task
  begins : ∀ s task, knows s B.initial task
  continues : ∀ s locals task, Inv s → ok s task → knows s locals task →
    ∀ next ∈ (S.resume task s).continued,
      knows (S.resume task s).shared (B.next locals task) next
  onStimulus : ∀ e s site, allowed e → Inv s → B.onStimulus e s = some site →
    so (S.stimulate e s).1 site.event
  onResume : ∀ locals task s site, Inv s → ok s task → knows s locals task →
    B.onResume locals task s = some site → so (S.resume task s).shared site.event

variable {knows : σ → ν → τ → Prop} {so : σ → β → Prop}

/-- What was sent is so, and was sent to connections that had been admitted. -/
structure HeardSo (so : σ → β → Prop) (admitted : γ → Prop) (s : Streamed σ γ β) : Prop where
  once : s.hub.connections.Nodup
  connected : ∀ connection ∈ s.hub.connections, admitted connection
  sent : ∀ send ∈ s.hub.received, admitted send.1 ∧ so s.shared send.2

/-- A stretch of which the broadcast is so. -/
theorem HeardSo.broadcasting {admitted : γ → Prop} {s : Streamed σ γ β}
    (heard : HeardSo so admitted s) {site : Option (Broadcast β)}
    {stretch : Stretch σ (ν × τ)} (lasts : ∀ event, so s.shared event → so stretch.shared event)
    (fresh : ∀ broadcast, site = some broadcast → so stretch.shared broadcast.event) :
    HeardSo so admitted (s.broadcasting site stretch).shared where
  once := by
    rw [Streamed.connections_broadcasting]
    exact heard.once
  connected connection listed := by
    rw [Streamed.connections_broadcasting] at listed
    exact heard.connected connection listed
  sent send listed := by
    rw [Streamed.shared_broadcasting]
    rcases Streamed.mem_received_broadcasting listed with old | ⟨broadcast, due, reached, same⟩
    · exact ⟨(heard.sent send old).1, lasts _ (heard.sent send old).2⟩
    · exact ⟨heard.connected _ reached, same ▸ fresh broadcast due⟩

theorem HeardSo.register [DecidableEq γ] {admitted : γ → Prop} {s : Streamed σ γ β}
    (heard : HeardSo so admitted s) {connection : γ} (now : admitted connection) :
    HeardSo so admitted { s with hub := s.hub.register connection } where
  once := Hub.nodup_register heard.once connection
  connected other listed := by
    rcases Hub.mem_register.mp listed with before | rfl
    · exact heard.connected other before
    · exact now
  sent send listed := by
    rw [Hub.received_register] at listed
    exact heard.sent send listed

theorem HeardSo.unregister [DecidableEq γ] {admitted : γ → Prop} {s : Streamed σ γ β}
    (heard : HeardSo so admitted s) (connection : γ) :
    HeardSo so admitted { s with hub := s.hub.unregister connection } where
  once := heard.once.filter _
  connected other listed := heard.connected other (List.mem_of_mem_filter listed)
  sent := heard.sent

/-- What a stretch guarantees, it guarantees with its broadcast, whether or not a send
throws. -/
theorem HeardSo.carries {admitted : γ → Prop} {s : Streamed σ γ β} (heard : HeardSo so admitted s)
    (site : Option (Broadcast β)) (stretch : Stretch σ (ν × τ)) (fine : σ → ν × τ → Prop)
    (lasts : ∀ s t event, moves s t → so s event → so t event)
    (fresh : ∀ broadcast, site = some broadcast → so stretch.shared broadcast.event)
    (kept : Inv stretch.shared) (moved : moves s.shared stretch.shared)
    (left : ∀ next ∈ stretch.successors, fine stretch.shared next) :
    (Inv (s.broadcasting site stretch).shared.shared ∧
        HeardSo so admitted (s.broadcasting site stretch).shared) ∧
      moves s.shared (s.broadcasting site stretch).shared.shared ∧
      ∀ next ∈ (s.broadcasting site stretch).successors,
        fine (s.broadcasting site stretch).shared.shared next := by
  have heard := heard.broadcasting (fun event => lasts _ _ event moved) fresh
  rw [Streamed.shared_broadcasting]
  refine ⟨⟨kept, heard⟩, moved, fun next member => ?_⟩
  exact left next (Streamed.mem_successors_broadcasting member)

/-- **Nobody hears what is not so.** -/
theorem Guarantee.streaming [DecidableEq γ] (G : S.Guarantee allowed Inv moves ok)
    (refl : ∀ s, moves s s) (T : S.Truthful B allowed Inv moves ok knows so) (admitted : γ → Prop) :
    (S.streaming B).Guarantee (StreamStimulus.Within allowed admitted)
      (fun s => Inv s.shared ∧ HeardSo so admitted s) (fun s t => moves s.shared t.shared)
      (fun s task => ok s.shared task.2 ∧ knows s.shared task.1 task.2) where
  stimulate stimulus s now inv := by
    obtain ⟨inv, heard⟩ := inv
    obtain ⟨shared, hub, up⟩ := s
    cases up with
    | false => exact ⟨⟨inv, heard⟩, refl _, List.forall_mem_nil _⟩
    | true =>
        cases stimulus with
        | event e =>
            obtain ⟨kept, moved, started⟩ := G.stimulate e shared now inv
            obtain ⟨inv, moved, left⟩ := heard.carries (B.onStimulus e shared)
              ⟨(S.stimulate e shared).1, none, (S.stimulate e shared).2.map (B.initial, ·)⟩
              (fun s task => ok s task.2 ∧ knows s task.1 task.2) T.lasts
              (fun broadcast due => T.onStimulus e shared broadcast now inv due) kept moved
              fun task begun => by
                obtain ⟨own, listed, rfl⟩ := List.mem_map.mp begun
                exact ⟨started own listed, T.begins _ own⟩
            -- a stimulus has nothing to continue with, so its successors are what it starts
            exact ⟨inv, moved, fun task member => left task (List.mem_append_right _ member)⟩
        | register connection =>
            exact ⟨⟨inv, heard.register now⟩, refl _, List.forall_mem_nil _⟩
        | unregister connection =>
            exact ⟨⟨inv, heard.unregister connection⟩, refl _, List.forall_mem_nil _⟩
        | faults throws =>
            exact ⟨⟨inv, heard.once, heard.connected, heard.sent⟩, refl _, List.forall_mem_nil _⟩
  resume task s inv fine := by
    obtain ⟨inv, heard⟩ := inv
    obtain ⟨locals, task⟩ := task
    obtain ⟨shared, hub, up⟩ := s
    cases up with
    | false =>
        -- the task stays suspended for ever
        refine ⟨⟨inv, heard⟩, refl _, fun next left => ?_⟩
        obtain rfl := List.mem_singleton.mp left
        exact fine
    | true =>
        obtain ⟨kept, moved, left⟩ := G.resume task shared inv fine.1
        refine heard.carries (B.onResume locals task shared) _
          (fun s task => ok s task.2 ∧ knows s task.1 task.2) T.lasts
          (fun broadcast due => T.onResume locals task shared broadcast inv fine.1 fine.2 due)
          kept moved fun next member => ?_
        rcases List.mem_append.mp member with went | begun
        · obtain ⟨own, goes, rfl⟩ := Option.map_eq_some_iff.mp (Option.mem_toList.mp went)
          have listed : own ∈ (S.resume task shared).successors :=
            List.mem_append_left _ (Option.mem_toList.mpr goes)
          exact ⟨left own listed, T.continues shared locals task inv fine.1 fine.2 own goes⟩
        · obtain ⟨own, listed, rfl⟩ := List.mem_map.mp begun
          exact ⟨left own (List.mem_append_right _ listed), T.begins _ own⟩
  lasts s t task moved fine :=
    ⟨G.lasts _ _ _ moved fine.1, T.known _ _ _ _ moved fine.2⟩

/-! ## Feeds -/

/-- What a stretch announces of a feed, if anything. -/
def announced (pick : β → Option α) (site : Option (Broadcast β)) : List α :=
  (site.bind fun broadcast => pick broadcast.event).toList

/-- The log grows by what is announced. -/
structure Feeds (S : TaskSystem σ τ ε) (B : BroadcastSites S β ν) (allowed : ε → Prop)
    (Inv : σ → Prop) (ok : σ → τ → Prop) (log : σ → List α) (pick : β → Option α) : Prop where
  onStimulus : ∀ e s, allowed e → Inv s →
    log (S.stimulate e s).1 = log s ++ announced pick (B.onStimulus e s)
  onResume : ∀ locals task s, Inv s → ok s task →
    log (S.resume task s).shared = log s ++ announced pick (B.onResume locals task s)

section

variable [DecidableEq γ] (log : σ → List α) (pick : β → Option α) (connection : γ)

/-- The connection has heard of the feed as much more as the log has grown. -/
structure Fed (first s : Streamed σ γ β) : Prop where
  up : s.up = true
  once : s.hub.connections.Nodup
  registered : connection ∈ s.hub.connections
  heard : ∃ new, log s.shared = log first.shared ++ new ∧
    (s.hub.receivedBy connection).filterMap pick =
      (first.hub.receivedBy connection).filterMap pick ++ new

variable {log pick connection}

/-- A stretch no send of which throws. -/
theorem Fed.broadcasting {first s : Streamed σ γ β} (fed : Fed log pick connection first s)
    {site : Option (Broadcast β)} (quiet : s.Quiet site) {stretch : Stretch σ (ν × τ)}
    (grown : log stretch.shared = log s.shared ++ announced pick site) :
    Fed log pick connection first (s.broadcasting site stretch).shared := by
  obtain ⟨up, once, registered, new, logged, heard⟩ := fed
  cases site with
  | none =>
      have same : log stretch.shared = log s.shared := by simpa [announced] using grown
      exact ⟨up, once, registered, new, same.trans logged, heard⟩
  | some broadcast =>
      have quiet : s.hub.Quiet broadcast.event := quiet broadcast rfl
      rw [Streamed.broadcasting_quiet quiet]
      refine ⟨up, once, registered, new ++ announced pick (some broadcast), ?_, ?_⟩
      · show log stretch.shared = _
        rw [grown, logged, List.append_assoc]
      · show ((s.hub.broadcast broadcast.event).1.receivedBy connection).filterMap pick = _
        rw [Hub.receivedBy_broadcast quiet once registered, List.filterMap_append, heard,
          List.append_assoc]
        cases own : pick broadcast.event <;> simp [announced, own]

theorem Fed.register {first s : Streamed σ γ β} (fed : Fed log pick connection first s)
    (other : γ) : Fed log pick connection first { s with hub := s.hub.register other } where
  up := fed.up
  once := Hub.nodup_register fed.once other
  registered := Hub.mem_register.mpr (.inl fed.registered)
  heard := by
    obtain ⟨new, logged, heard⟩ := fed.heard
    refine ⟨new, logged, ?_⟩
    unfold Hub.receivedBy at heard ⊢
    rw [Hub.received_register]
    exact heard

theorem Fed.unregister {first s : Streamed σ γ β} (fed : Fed log pick connection first s)
    {other : γ} (stays : other ≠ connection) :
    Fed log pick connection first { s with hub := s.hub.unregister other } where
  up := fed.up
  once := fed.once.filter _
  registered := List.mem_filter.mpr ⟨fed.registered, by simpa using stays.symm⟩
  heard := fed.heard

/-- The connection is not unregistered, and no send throws. -/
def Attended (S : TaskSystem σ τ ε) (B : BroadcastSites S β ν) (allowed : ε → Prop)
    (connection : γ) (c : Config (Streamed σ γ β) (ν × τ))
    (choice : Choice (StreamStimulus ε γ β)) : Prop :=
  QuietStep S B c choice ∧ (∀ e, choice = .stimulus (.event e) → allowed e) ∧
    choice ≠ .stimulus (.unregister connection)

/-- **A registered connection misses nothing.** -/
theorem Feeds.run (F : S.Feeds B allowed Inv ok log pick) (G : S.Guarantee allowed Inv moves ok)
    (refl : ∀ s, moves s s) {c : Config (Streamed σ γ β) (ν × τ)}
    {schedule : List (Choice (StreamStimulus ε γ β))} (inv : Inv c.shared.shared)
    (fine : ∀ task ∈ c.suspended, ok c.shared.shared task.2) (up : c.shared.up = true)
    (once : c.shared.hub.connections.Nodup) (registered : connection ∈ c.shared.hub.connections)
    (attended : (S.streaming B).Guarded (Attended S B allowed connection) c schedule) :
    Fed log pick connection c.shared ((S.streaming B).run c schedule).shared := by
  -- of the rule for streams only the invariant of the system and of its tasks is needed
  have truthful : S.Truthful B allowed Inv moves ok (fun _ _ _ => True) (fun _ _ => True) := by
    constructor <;> intros <;> trivial
  have all := G.streaming refl truthful fun _ : γ => True
  refine all.run_guarded ?_ ?_ ?_
    ⟨inv, once, fun _ _ => trivial, fun _ _ => ⟨trivial, trivial⟩⟩
    (fun task suspended => ⟨fine task suspended, trivial⟩)
    ⟨up, once, registered, [], (List.append_nil _).symm, (List.append_nil _).symm⟩ attended
  · rintro d stimulus ⟨-, permitted, -⟩
    cases stimulus with
    | event e => exact permitted e rfl
    | _ => trivial
  · rintro stimulus ⟨shared, hub, up⟩ tasks ⟨quiet, permitted, stays⟩ ⟨inv, -⟩ fed
    obtain rfl : up = true := fed.up
    cases stimulus with
    | event e => exact fed.broadcasting quiet (F.onStimulus e shared (permitted e rfl) inv)
    | register other => exact fed.register other
    | unregister other => exact fed.unregister fun same => stays (same ▸ rfl)
    | faults throws => exact ⟨fed.up, fed.once, fed.registered, fed.heard⟩
  · rintro ⟨shared, hub, up⟩ before ⟨locals, task⟩ after ⟨quiet, -, -⟩ ⟨inv, -⟩ ⟨fine, -⟩ fed
    obtain rfl : up = true := fed.up
    have quiet : Streamed.Quiet ⟨shared, hub, true⟩ (B.onResume locals task shared) :=
      quiet (locals, task) (by simp)
    exact fed.broadcasting quiet (F.onResume locals task shared inv fine)

end

end TaskSystem

end Interleaving
