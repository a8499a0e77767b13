import Stadium.Lib.Highest
import Stadium.SignalIngestion.QueueDiscipline

/-!
# Shedding is optimal

A full queue that is offered an item loses one: the first item of the lowest
level below the newcomer's, or the newcomer. Either way nothing of a lower
Risk_Level stays. So a queue that is only filled holds, at any time, the
highest Risk_Levels of all that were offered, as many as fit
(`shedding_optimal`).
-/

namespace Stadium

open Highest (highest Separated)

/-- The order of the levels, the highest first. -/
def riskDescending (a b : RiskLevel) : Prop := riskPriority b ≤ riskPriority a

instance : DecidableRel riskDescending := fun _ _ => Nat.decLe _ _

instance : Std.Total riskDescending := ⟨fun _ _ => Nat.le_total _ _⟩

instance : IsTrans RiskLevel riskDescending := ⟨fun _ _ _ first second => second.trans first⟩

instance : Std.Antisymm riskDescending where
  antisymm a b first second := by
    have same : riskPriority a = riskPriority b := le_antisymm second first
    cases a <;> cases b <;> first | rfl | cases same

/-- The order of the items by their levels. -/
def itemDescending (a b : QueuedSignalEvent) : Prop :=
  riskDescending a.gateRiskLevel b.gateRiskLevel

instance : IsTrans QueuedSignalEvent itemDescending :=
  ⟨fun _ _ _ first second => second.trans first⟩

namespace PriorityIntakeQueue

theorem levelsBelow_ascending (incoming : RiskLevel) :
    (levelsBelow incoming).Pairwise fun a b => riskPriority a ≤ riskPriority b := by
  cases incoming <;> decide

/-- What is shed lies below the newcomer, and nothing held lies below it. -/
theorem shed_lowest {q rest : PriorityIntakeQueue} {incoming : RiskLevel}
    {lost : QueuedSignalEvent} (h : q.shedLowestPriority incoming = some (lost, rest)) :
    riskDescending incoming lost.gateRiskLevel ∧ ∀ other ∈ q.held, itemDescending other lost := by
  obtain ⟨before, level, after, split, empty, found⟩ :=
    Buckets.shiftFirst_first (shift_eq_some h).1
  have own : lost.gateRiskLevel = level := q.banded level lost found
  have below : riskPriority level < riskPriority incoming := by
    apply mem_levelsBelow.mp
    rw [split]
    exact List.mem_append_right before List.mem_cons_self
  have ascending := levelsBelow_ascending incoming
  rw [split] at ascending
  have later := (List.pairwise_cons.mp (List.pairwise_append.mp ascending).2.1).1
  refine ⟨?_, ?_⟩
  · show riskPriority lost.gateRiskLevel ≤ riskPriority incoming
    rw [own]
    exact below.le
  · intro other held
    obtain ⟨i, -, inBucket⟩ := Buckets.mem_contents.mp held
    show riskPriority lost.gateRiskLevel ≤ riskPriority other.gateRiskLevel
    rw [own, q.banded i other inBucket]
    by_cases searched : riskPriority i < riskPriority incoming
    · have listed := mem_levelsBelow.mpr searched
      rw [split] at listed
      rcases List.mem_append.mp listed with passed | rest
      · rw [empty i passed] at inBucket
        cases inBucket
      · rcases List.mem_cons.mp rest with rfl | rest
        · exact le_rfl
        · exact later i rest
    · omega

end PriorityIntakeQueue

namespace QueueHistory

open PriorityIntakeQueue

/-- The item an `enqueue` loses: the one it hands back, or the one it sheds. -/
def lostBy (q : PriorityIntakeQueue) (item : QueuedSignalEvent) : Option QueuedSignalEvent :=
  (q.enqueue item).2 <|> shedBy q item

/-- **One step.** A full queue loses one item, and none that stays is of a lower
level. -/
theorem enqueue_full {q : PriorityIntakeQueue} (full : q.isFull) (item : QueuedSignalEvent) :
    ∃ lost, lostBy q item = some lost ∧
      (item :: q.held).Perm (lost :: (q.enqueue item).1.held) ∧
      ∀ kept ∈ (q.enqueue item).1.held, itemDescending kept lost := by
  unfold lostBy shedBy enqueue
  rw [if_pos full, if_pos full]
  cases shedding : q.shedLowestPriority item.gateRiskLevel with
  | none =>
      refine ⟨item, rfl, .refl _, ?_⟩
      intro kept held
      exact not_lt.mp (shed_eq_none.mp shedding kept held)
  | some found =>
      obtain ⟨lost, rest⟩ := found
      obtain ⟨below, lowest⟩ := shed_lowest shedding
      have removed : q.held.Perm (lost :: rest.held) := held_shift shedding
      have pushed : (rest.push item).held.Perm (item :: rest.held) := held_push rest item
      refine ⟨lost, rfl, ?_, ?_⟩
      · calc (item :: q.held).Perm (item :: lost :: rest.held) := removed.cons item
          _ |>.Perm (lost :: item :: rest.held) := .swap lost item _
          _ |>.Perm (lost :: (rest.push item).held) := pushed.symm.cons lost
      · intro kept held
        rcases List.mem_cons.mp (pushed.subset held) with rfl | stood
        · exact below
        · exact lowest kept (removed.symm.subset (List.mem_cons_of_mem lost stood))

theorem enqueue_room {q : PriorityIntakeQueue} (room : ¬ q.isFull) (item : QueuedSignalEvent) :
    lostBy q item = none ∧ ((q.enqueue item).1.held).Perm (item :: q.held) := by
  unfold lostBy shedBy enqueue
  rw [if_neg room, if_neg room]
  exact ⟨rfl, held_push q item⟩

/-- The offered items are split into those held and those lost; the lost ones lie
below, and the queue is full if there are any. -/
structure Sifted (capacity : ℕ) (offered lost : List QueuedSignalEvent)
    (q : PriorityIntakeQueue) : Prop where
  within : q.Within capacity
  parts : offered.Perm (q.held ++ lost)
  separated : Separated itemDescending q.held lost
  filled : lost ≠ [] → q.held.length = capacity

theorem sifted_enqueue {capacity : ℕ} {offered lost : List QueuedSignalEvent}
    {q : PriorityIntakeQueue} (sifted : Sifted capacity offered lost q)
    (item : QueuedSignalEvent) :
    Sifted capacity (offered ++ [item]) (lost ++ (lostBy q item).toList) (q.enqueue item).1 := by
  have within := within_enqueue sifted.within item
  have offered' : (offered ++ [item]).Perm (item :: q.held ++ lost) :=
    (List.perm_append_singleton item offered).trans (sifted.parts.cons item)
  by_cases full : q.isFull
  · obtain ⟨gone, named, moved, below⟩ := enqueue_full full item
    rw [named]
    refine ⟨within, ?_, sifted.separated.exchange moved below, fun _ => ?_⟩
    · refine offered'.trans ((moved.append_right lost).trans ?_)
      refine (List.perm_append_singleton gone _).symm.trans ?_
      show (((q.enqueue item).1.held ++ lost) ++ [gone]).Perm _
      rw [List.append_assoc]
      exact .refl _
    · have count := moved.length_eq
      have size := q.size_eq
      rw [show Buckets.contents servedOrder q.buffers = q.held from rfl] at size
      simp only [List.length_cons] at count
      have most := sifted.within.2
      have least : (capacity : ℤ) ≤ q.size := by
        have reached : q.capacity ≤ q.size := of_decide_eq_true full
        rw [sifted.within.1] at reached
        exact_mod_cast reached
      omega
  · obtain ⟨none, pushed⟩ := enqueue_room full item
    have nothing : lost = [] := by
      by_contra some
      have held := sifted.filled some
      have free := sifted.within.free full
      have size := q.size_eq
      rw [show Buckets.contents servedOrder q.buffers = q.held from rfl] at size
      omega
    rw [none, nothing]
    subst nothing
    refine ⟨within, ?_, ?_, fun impossible => absurd rfl impossible⟩
    · rw [List.append_nil] at offered'
      simpa using offered'.trans pushed.symm
    · intro x _ y impossible
      cases impossible

/-- **One run.** Whatever is offered to a new queue is sifted. -/
theorem sifted_after (capacity : ℕ) (items : List QueuedSignalEvent) :
    ∃ lost, Sifted capacity items lost (after capacity (items.map .enqueue)).queue := by
  induction items using List.reverseRecOn with
  | nil =>
      refine ⟨[], ⟨⟨rfl, Int.natCast_nonneg capacity⟩, .refl _, ?_, fun impossible =>
        absurd rfl impossible⟩⟩
      intro x _ y impossible
      cases impossible
  | append_singleton earlier item ih =>
      obtain ⟨lost, sifted⟩ := ih
      have last : (after capacity ((earlier ++ [item]).map .enqueue)).queue =
          ((after capacity (earlier.map .enqueue)).queue.enqueue item).1 := by
        simp [after, step]
      rw [last]
      exact ⟨_, sifted_enqueue sifted item⟩

/-- **Shedding under overload is optimal.** A full queue loses an item of a level
no higher than that of any item that remains; and a queue of capacity `c` that
is offered `n` items holds the `min c n` highest levels among them. -/
theorem shedding_optimal :
    (∀ (capacity : ℚ) (calls : List QueueCall) (item : QueuedSignalEvent),
      (after capacity calls).queue.isFull →
      ∃ lost, lostBy (after capacity calls).queue item = some lost ∧
        (item :: (after capacity calls).queue.held).Perm
          (lost :: ((after capacity calls).queue.enqueue item).1.held) ∧
        ∀ kept ∈ ((after capacity calls).queue.enqueue item).1.held,
          riskPriority lost.gateRiskLevel ≤ riskPriority kept.gateRiskLevel) ∧
    ∀ (capacity : ℕ) (items : List QueuedSignalEvent),
      ((after capacity (items.map .enqueue)).queue.held.map (·.gateRiskLevel)).Perm
        (highest riskDescending (min capacity items.length) (items.map (·.gateRiskLevel))) := by
  constructor
  · intro capacity calls item full
    exact enqueue_full full item
  · intro capacity items
    obtain ⟨lost, sifted⟩ := sifted_after capacity items
    generalize (after capacity (items.map .enqueue)).queue = q at sifted
    have parts := sifted.parts.map (·.gateRiskLevel)
    rw [List.map_append] at parts
    have separated : Separated riskDescending (q.held.map (·.gateRiskLevel))
        (lost.map (·.gateRiskLevel)) := by
      intro level member level' gone
      obtain ⟨item, held, rfl⟩ := List.mem_map.mp member
      obtain ⟨other, given, rfl⟩ := List.mem_map.mp gone
      exact sifted.separated item held other given
    have count : (q.held.map (·.gateRiskLevel)).length = min capacity items.length := by
      have total := sifted.parts.length_eq
      have most := sifted.within.2
      have size := q.size_eq
      rw [show Buckets.contents servedOrder q.buffers = q.held from rfl] at size
      rw [List.length_append] at total
      rw [List.length_map]
      cases lost with
      | nil =>
          rw [List.length_nil] at total
          omega
      | cons first rest =>
          have held := sifted.filled (List.cons_ne_nil _ _)
          omega
    rw [← count]
    exact Highest.perm_highest parts separated

end QueueHistory

end Stadium
