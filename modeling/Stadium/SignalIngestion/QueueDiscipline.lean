import Stadium.SignalIngestion.PriorityQueue

/-!
# The discipline of the intake queue

The intake queue is a bounded stable priority queue. Items enter a bucket at
its back and leave it, taken or shed, at its front: so after any sequence of
calls a bucket is the latest part of the items of its level that were ever
accepted, in order of acceptance (`bucket_suffix`). Under a natural capacity
the size never exceeds it (`within_after`).

`Drains` is the `while` loop of `drainInPriorityOrder` without a bound on its
rounds. It ends from every queue, with one outcome: the buckets from CRITICAL
to LOW, each in its own order, and an empty queue.
-/

namespace Stadium

namespace PriorityIntakeQueue

/-- A shift is a shift of the buckets; one item less is counted. -/
theorem shift_eq_some {q rest : PriorityIntakeQueue} {levels : List RiskLevel}
    {item : QueuedSignalEvent} (h : q.shift levels = some (item, rest)) :
    q.buffers.shiftFirst levels = some (item, rest.buffers) ∧
      rest.capacity = q.capacity ∧ rest.size = q.size - 1 := by
  unfold shift at h
  split at h
  · cases h
  · rename_i found
    cases h
    exact ⟨found, rfl, rfl⟩

/-- What a shift leaves of a bucket is its latest part. -/
theorem shift_suffix {q rest : PriorityIntakeQueue} {levels : List RiskLevel}
    {item : QueuedSignalEvent} (h : q.shift levels = some (item, rest)) (level : RiskLevel) :
    rest.buffers level <:+ q.buffers level := by
  obtain ⟨i, -, tail, bucket, after⟩ := Buckets.shiftFirst_eq_some (shift_eq_some h).1
  rw [after]
  by_cases same : level = i
  · rw [same, Function.update_self, bucket]
    exact List.suffix_cons item tail
  · rw [Function.update_of_ne same]

theorem push_buffers (q : PriorityIntakeQueue) (item : QueuedSignalEvent) (level : RiskLevel) :
    (q.push item).buffers level =
      q.buffers level ++ [item].filter (·.gateRiskLevel = level) := by
  show Function.update q.buffers item.gateRiskLevel _ level = _
  by_cases same : level = item.gateRiskLevel
  · subst same
    rw [Function.update_self, List.filter_singleton, decide_eq_true rfl]
    rfl
  · rw [Function.update_of_ne same, List.filter_singleton, decide_eq_false (Ne.symm same)]
    exact (List.append_nil _).symm

/-- `enqueue` refuses the item, or pushes it: on the queue if that has room,
else on what shedding leaves. -/
theorem enqueue_cases (q : PriorityIntakeQueue) (item : QueuedSignalEvent) :
    q.enqueue item = (q, some item) ∨
    (¬ q.isFull ∧ q.enqueue item = (q.push item, none)) ∨
    ∃ shed rest, q.shedLowestPriority item.gateRiskLevel = some (shed, rest) ∧
      q.enqueue item = (rest.push item, none) := by
  unfold enqueue
  by_cases full : q.isFull
  · rw [if_pos full]
    cases shedding : q.shedLowestPriority item.gateRiskLevel with
    | none => exact .inl rfl
    | some found => exact .inr (.inr ⟨found.1, found.2, rfl, rfl⟩)
  · rw [if_neg full]
    exact .inr (.inl ⟨full, rfl⟩)

theorem drainLoop_suffix (rounds : ℕ) (q : PriorityIntakeQueue) (level : RiskLevel) :
    (drainLoop rounds q).2.buffers level <:+ q.buffers level := by
  induction rounds generalizing q with
  | zero => exact List.suffix_rfl
  | succ rounds ih =>
      unfold drainLoop
      split
      · exact List.suffix_rfl
      · rename_i next rest taken
        exact (ih rest).trans (shift_suffix taken level)

/-! ## The capacity -/

/-- The queue has this capacity and holds no more. -/
def Within (capacity : ℕ) (q : PriorityIntakeQueue) : Prop :=
  q.capacity = capacity ∧ q.size ≤ capacity

theorem within_shift {capacity : ℕ} {q rest : PriorityIntakeQueue} {levels : List RiskLevel}
    {item : QueuedSignalEvent} (within : q.Within capacity)
    (h : q.shift levels = some (item, rest)) : rest.Within capacity ∧ rest.size < capacity := by
  obtain ⟨-, capacityEq, sizeEq⟩ := shift_eq_some h
  obtain ⟨own, bound⟩ := within
  have smaller : rest.size < capacity := by omega
  exact ⟨⟨capacityEq.trans own, smaller.le⟩, smaller⟩

theorem within_push {capacity : ℕ} {q : PriorityIntakeQueue} (within : q.Within capacity)
    (free : q.size < capacity) (item : QueuedSignalEvent) : (q.push item).Within capacity := by
  refine ⟨within.1, ?_⟩
  show q.size + 1 ≤ capacity
  omega

/-- A queue that is not full has a free place. -/
theorem Within.free {capacity : ℕ} {q : PriorityIntakeQueue} (within : q.Within capacity)
    (notFull : ¬ q.isFull) : q.size < capacity := by
  unfold isFull at notFull
  rw [within.1, decide_eq_true_iff, not_le] at notFull
  exact_mod_cast notFull

theorem within_enqueue {capacity : ℕ} {q : PriorityIntakeQueue} (within : q.Within capacity)
    (item : QueuedSignalEvent) : (q.enqueue item).1.Within capacity := by
  rcases enqueue_cases q item with refused | ⟨notFull, pushed⟩ | ⟨shed, rest, shedding, pushed⟩
  · rw [refused]
    exact within
  · rw [pushed]
    exact within_push within (within.free notFull) item
  · obtain ⟨within, free⟩ := within_shift within shedding
    rw [pushed]
    exact within_push within free item

theorem within_drainLoop {capacity : ℕ} (rounds : ℕ) {q : PriorityIntakeQueue}
    (within : q.Within capacity) : (drainLoop rounds q).2.Within capacity := by
  induction rounds generalizing q with
  | zero => exact within
  | succ rounds ih =>
      unfold drainLoop
      split
      · exact within
      · rename_i next rest taken
        exact ih (within_shift within taken).1

/-! ## The drain loop -/

/-- `while (next) { result.push(next); next = this.dequeue(); }`: the loop
started on one queue ends, with these items, in another. -/
inductive Drains : PriorityIntakeQueue → List QueuedSignalEvent → PriorityIntakeQueue → Prop
  | done {q} : q.dequeue = none → Drains q [] q
  | next {q item rest items final} : q.dequeue = some (item, rest) → Drains rest items final →
      Drains q (item :: items) final

/-- The next item served is the first one held. -/
theorem held_dequeue {q rest : PriorityIntakeQueue} {item : QueuedSignalEvent}
    (h : q.dequeue = some (item, rest)) : q.held = item :: rest.held :=
  Buckets.contents_eq_cons_of_shiftFirst servedOrder_nodup (shift_eq_some h).1

/-- The loop returns exactly the items held, and leaves none. -/
theorem Drains.eq_held {q final : PriorityIntakeQueue} {items : List QueuedSignalEvent}
    (drains : Drains q items final) : items = q.held ∧ final.held = [] := by
  induction drains with
  | done empty =>
      have nothing := dequeue_eq_none.mp empty
      exact ⟨nothing.symm, nothing⟩
  | next taken _ ih => exact ⟨by rw [held_dequeue taken, ih.1], ih.2⟩

/-- `dequeue` is a function, so the loop has one outcome. -/
theorem Drains.unique {q final final' : PriorityIntakeQueue} {items items' : List QueuedSignalEvent}
    (drains : Drains q items final) (drains' : Drains q items' final') :
    items = items' ∧ final = final' := by
  induction drains generalizing items' final' with
  | done empty =>
      cases drains' with
      | done => exact ⟨rfl, rfl⟩
      | next taken => rw [empty] at taken; cases taken
  | next taken _ ih =>
      cases drains' with
      | done empty => rw [empty] at taken; cases taken
      | next taken' drains' =>
          rw [taken] at taken'
          cases taken'
          obtain ⟨rfl, rfl⟩ := ih drains'
          exact ⟨rfl, rfl⟩

theorem drains_drainLoop (rounds : ℕ) (q : PriorityIntakeQueue) (enough : q.held.length ≤ rounds) :
    Drains q (drainLoop rounds q).1 (drainLoop rounds q).2 := by
  induction rounds generalizing q with
  | zero =>
      apply Drains.done
      exact dequeue_eq_none.mpr (List.length_eq_zero_iff.mp (Nat.le_zero.mp enough))
  | succ rounds ih =>
      unfold drainLoop
      split
      · rename_i nothing
        exact .done nothing
      · rename_i next rest taken
        rw [held_dequeue taken, List.length_cons] at enough
        exact .next taken (ih rest (by omega))

/-- **The loop ends** from every queue, with what `drainInPriorityOrder`
returns. -/
theorem drains_drainInPriorityOrder (q : PriorityIntakeQueue) :
    Drains q q.drainInPriorityOrder.1 q.drainInPriorityOrder.2 :=
  drains_drainLoop _ q le_rfl

/-! ## Order -/

/-- Everything held, from CRITICAL to LOW. -/
theorem held_descending (q : PriorityIntakeQueue) :
    q.held.Pairwise fun a b => riskPriority b.gateRiskLevel ≤ riskPriority a.gateRiskLevel :=
  Buckets.pairwise_contents (r := fun i j => riskPriority j ≤ riskPriority i)
    (fun _ => le_rfl) q.banded (by decide)

/-- The items held of one level are its bucket. -/
theorem held_filter (q : PriorityIntakeQueue) (level : RiskLevel) :
    q.held.filter (·.gateRiskLevel = level) = q.buffers level :=
  Buckets.filter_contents q.banded servedOrder_nodup (mem_servedOrder level)

end PriorityIntakeQueue

namespace QueueHistory

open PriorityIntakeQueue

/-- The item a call lets into the queue, if any: `enqueue` returns nothing. -/
def acceptedBy (q : PriorityIntakeQueue) : QueueCall → Option QueuedSignalEvent
  | .enqueue item => if (q.enqueue item).2 = none then some item else none
  | .dequeue | .drainInPriorityOrder => none

/-- The items the calls let in, in order of acceptance. -/
def acceptedFrom (h : QueueHistory) : List QueueCall → List QueuedSignalEvent
  | [] => []
  | call :: rest => (acceptedBy h.queue call).toList ++ acceptedFrom (h.step call) rest

/-- The items accepted by a new queue. -/
def accepted (capacity : ℚ) (calls : List QueueCall) : List QueuedSignalEvent :=
  acceptedFrom { queue := .new capacity } calls

/-- One call lets at most its own item in at the back of a bucket, and takes
from the front. -/
theorem step_suffix (h : QueueHistory) (call : QueueCall) (level : RiskLevel) :
    (h.step call).queue.buffers level <:+
      h.queue.buffers level ++
        (acceptedBy h.queue call).toList.filter (·.gateRiskLevel = level) := by
  cases call with
  | enqueue item =>
      show (h.queue.enqueue item).1.buffers level <:+ _
      unfold acceptedBy
      rcases enqueue_cases h.queue item with refused | ⟨-, pushed⟩ | ⟨shed, rest, shedding, pushed⟩
      · simp only [refused, reduceCtorEq, if_false, Option.toList_none, List.filter_nil,
          List.append_nil]
        exact List.suffix_rfl
      · simp only [pushed, if_true, Option.toList_some]
        rw [push_buffers]
      · obtain ⟨front, bucket⟩ := shift_suffix shedding level
        simp only [pushed, if_true, Option.toList_some]
        rw [push_buffers, ← bucket, List.append_assoc]
        exact List.suffix_append _ _
  | dequeue =>
      show _ <:+ h.queue.buffers level ++ []
      rw [List.append_nil]
      unfold step
      cases taken : h.queue.dequeue with
      | none => exact List.suffix_rfl
      | some found => exact shift_suffix taken level
  | drainInPriorityOrder =>
      show _ <:+ h.queue.buffers level ++ []
      rw [List.append_nil]
      exact drainLoop_suffix _ _ level

/-- What the buckets hold and the calls let in is all the buckets can hold
afterwards. -/
theorem foldl_suffix (calls : List QueueCall) (h : QueueHistory) (level : RiskLevel) :
    (calls.foldl step h).queue.buffers level <:+
      h.queue.buffers level ++ (acceptedFrom h calls).filter (·.gateRiskLevel = level) := by
  induction calls generalizing h with
  | nil =>
      show _ <:+ h.queue.buffers level ++ []
      rw [List.append_nil]
      exact List.suffix_rfl
  | cons call rest ih =>
      obtain ⟨front, bucket⟩ := step_suffix h call level
      have later := ih (h.step call)
      show _ <:+ _ ++ ((acceptedBy h.queue call).toList ++
        acceptedFrom (h.step call) rest).filter _
      rw [List.filter_append, ← List.append_assoc, ← bucket, List.append_assoc]
      exact later.trans (List.suffix_append _ _)

/-- **Every bucket is in order of acceptance**: the latest part of the
accepted items of its level. -/
theorem bucket_suffix (capacity : ℚ) (calls : List QueueCall) (level : RiskLevel) :
    (after capacity calls).queue.buffers level <:+
      (accepted capacity calls).filter (·.gateRiskLevel = level) :=
  foldl_suffix calls { queue := .new capacity } level

theorem within_step {capacity : ℕ} {h : QueueHistory} (within : h.queue.Within capacity)
    (call : QueueCall) : (h.step call).queue.Within capacity := by
  cases call with
  | enqueue item => exact within_enqueue within item
  | dequeue =>
      unfold step
      cases taken : h.queue.dequeue with
      | none => exact within
      | some found => exact (within_shift within taken).1
  | drainInPriorityOrder => exact within_drainLoop _ within

/-- **The capacity is never exceeded.** -/
theorem within_after (capacity : ℕ) (calls : List QueueCall) :
    (after capacity calls).queue.Within capacity := by
  unfold after
  suffices kept : ∀ h : QueueHistory, h.queue.Within capacity →
      (calls.foldl step h).queue.Within capacity from
    kept _ ⟨rfl, Int.natCast_nonneg capacity⟩
  induction calls with
  | nil => exact fun h within => within
  | cons call rest ih => exact fun h within => ih (h.step call) (within_step within call)

/-- The queue agrees with its capacity and with the items accepted so far. -/
structure Disciplined (capacity : ℕ) (acceptedItems : List QueuedSignalEvent)
    (q : PriorityIntakeQueue) : Prop where
  size : q.currentSize = (servedOrder.map fun level => (q.buffers level).length).sum
  bounded : q.currentSize ≤ capacity
  banded : ∀ level, ∀ item ∈ q.buffers level, item.gateRiskLevel = level
  in_order : ∀ level, q.buffers level <:+ acceptedItems.filter (·.gateRiskLevel = level)

/-- Draining the queue ends: it returns each item held exactly once, by
descending Risk_Level and in the order of the bucket within a level, and
leaves nothing. -/
structure DrainsInOrder (q : PriorityIntakeQueue) (drained : List QueuedSignalEvent)
    (rest : PriorityIntakeQueue) : Prop where
  ends : Drains q drained rest
  once : drained.Perm (servedOrder.flatMap q.buffers)
  descending : drained.Pairwise fun a b =>
    riskPriority b.gateRiskLevel ≤ riskPriority a.gateRiskLevel
  fifo : ∀ level, drained.filter (·.gateRiskLevel = level) = q.buffers level
  empty : ∀ level, rest.buffers level = []
  size_zero : rest.currentSize = 0

/-- **The intake queue is a bounded stable priority queue**, after every
sequence of calls. -/
theorem bounded_stable_priority_queue (capacity : ℕ) (calls : List QueueCall) :
    Disciplined capacity (accepted capacity calls) (after capacity calls).queue ∧
      DrainsInOrder (after capacity calls).queue
        (after capacity calls).queue.drainInPriorityOrder.1
        (after capacity calls).queue.drainInPriorityOrder.2 := by
  generalize found : (after capacity calls).queue = q
  have drains := drains_drainInPriorityOrder q
  obtain ⟨whole, nothing⟩ := drains.eq_held
  constructor
  · constructor
    · show q.size = _
      rw [q.size_eq, Buckets.contents, List.length_flatMap]
    · rw [← found]
      exact (within_after capacity calls).2
    · exact q.banded
    · rw [← found]
      exact bucket_suffix capacity calls
  · refine ⟨drains, ?_, ?_, ?_, ?_, ?_⟩
    · rw [whole]
      exact .refl _
    · rw [whole]
      exact held_descending q
    · rw [whole]
      exact held_filter q
    · intro level
      exact List.flatMap_eq_nil_iff.mp nothing level (mem_servedOrder level)
    · have none := q.drainInPriorityOrder.2.size_eq
      rw [show Buckets.contents servedOrder q.drainInPriorityOrder.2.buffers = [] from nothing]
        at none
      exact none

end QueueHistory

end Stadium
