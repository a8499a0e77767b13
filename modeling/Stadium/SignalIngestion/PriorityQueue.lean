import Stadium.Types.Models
import Stadium.Lib.Buckets

/-!
# The bounded intake queue

`priority-queue.ts`: four FIFO buckets, one for each Risk_Level, under a
common capacity. A full queue makes room by shedding the oldest item of the
lowest level below the incoming one, or refuses the incoming item.

`QueueHistory` follows a sequence of calls and records what the caller sees:
the items offered, the items taken out again and the items handed back by
`enqueue`. The items shed along the way are recorded too, although no caller
ever sees them. Every call keeps the balance
`offered = held + taken + handed back + shed` (`step_balance`), so a sequence
loses nothing silently exactly when it sheds nothing.
-/

namespace Stadium

/-- `RISK_PRIORITY`. -/
def riskPriority : RiskLevel → ℕ
  | .critical => 3
  | .high => 2
  | .moderate => 1
  | .low => 0

structure QueuedSignalEvent where
  event : SignalEvent
  gateRiskLevel : RiskLevel
  enqueuedAt : ℤ
  deriving DecidableEq

/-- The levels in the order in which `dequeue` serves them. -/
def servedOrder : List RiskLevel := [.critical, .high, .moderate, .low]

theorem servedOrder_nodup : servedOrder.Nodup := by decide

theorem mem_servedOrder (level : RiskLevel) : level ∈ servedOrder := by
  cases level <;> decide

/-- The queue. Its size is the number of items held, and every bucket holds
only items of its own level. -/
structure PriorityIntakeQueue where
  capacity : ℚ
  buffers : Buckets RiskLevel QueuedSignalEvent
  size : ℤ
  size_eq : size = (buffers.contents servedOrder).length
  banded : ∀ level, ∀ item ∈ buffers level, item.gateRiskLevel = level

namespace PriorityIntakeQueue

def new (capacity : ℚ) : PriorityIntakeQueue where
  capacity
  buffers := fun _ => []
  size := 0
  size_eq := rfl
  banded := by simp

def currentSize (q : PriorityIntakeQueue) : ℤ := q.size

def isFull (q : PriorityIntakeQueue) : Bool := decide (q.capacity ≤ q.size)

/-- Everything queued. -/
def held (q : PriorityIntakeQueue) : List QueuedSignalEvent := q.buffers.contents servedOrder

/-- `buffers.get(item.gateRiskLevel).push(item); size += 1`. -/
def push (q : PriorityIntakeQueue) (item : QueuedSignalEvent) : PriorityIntakeQueue where
  capacity := q.capacity
  buffers := q.buffers.push item.gateRiskLevel item
  size := q.size + 1
  size_eq := by
    have pushed := Buckets.contents_push servedOrder_nodup q.buffers
      (mem_servedOrder item.gateRiskLevel) item
    rw [pushed.length_eq, q.size_eq, List.length_cons, Nat.cast_succ]
  banded := by
    intro level other member
    unfold Buckets.push at member
    by_cases same : level = item.gateRiskLevel
    · subst same
      rw [Function.update_self, List.mem_append, List.mem_singleton] at member
      rcases member with old | rfl
      · exact q.banded _ other old
      · rfl
    · rw [Function.update_of_ne same] at member
      exact q.banded level other member

/-- Shift the first non-empty bucket among `levels`; `size -= 1`. -/
def shift (q : PriorityIntakeQueue) (levels : List RiskLevel) :
    Option (QueuedSignalEvent × PriorityIntakeQueue) :=
  match found : q.buffers.shiftFirst levels with
  | none => none
  | some (item, buffers) =>
      some (item,
        { capacity := q.capacity
          buffers
          size := q.size - 1
          size_eq := by
            have shifted := Buckets.contents_shiftFirst servedOrder_nodup
              (fun level _ => mem_servedOrder level) found
            rw [q.size_eq, shifted.length_eq, List.length_cons]
            omega
          banded := by
            intro level other member
            obtain ⟨i, -, tail, bucket, rfl⟩ := Buckets.shiftFirst_eq_some found
            by_cases same : level = i
            · subst same
              rw [Function.update_self] at member
              exact q.banded level other (by rw [bucket]; exact List.mem_cons_of_mem _ member)
            · rw [Function.update_of_ne same] at member
              exact q.banded level other member })

/-- The levels strictly below the incoming one, lowest first: the loop of
`shedLowestPriority` breaks at the first level that is not. -/
def levelsBelow (incoming : RiskLevel) : List RiskLevel :=
  [RiskLevel.low, .moderate, .high, .critical].takeWhile fun level =>
    decide (riskPriority level < riskPriority incoming)

def shedLowestPriority (q : PriorityIntakeQueue) (incoming : RiskLevel) :
    Option (QueuedSignalEvent × PriorityIntakeQueue) :=
  q.shift (levelsBelow incoming)

/-- Returns the queue afterwards and what the caller gets back. -/
def enqueue (q : PriorityIntakeQueue) (item : QueuedSignalEvent) :
    PriorityIntakeQueue × Option QueuedSignalEvent :=
  if q.isFull then
    match q.shedLowestPriority item.gateRiskLevel with
    | none => (q, some item)
    -- the shed item is dropped here: the caller gets `undefined`
    | some (_, rest) => (rest.push item, none)
  else (q.push item, none)

def dequeue (q : PriorityIntakeQueue) : Option (QueuedSignalEvent × PriorityIntakeQueue) :=
  q.shift servedOrder

/-- The `while` loop of `drainInPriorityOrder`, with a bound on its rounds. -/
def drainLoop : ℕ → PriorityIntakeQueue → List QueuedSignalEvent × PriorityIntakeQueue
  | 0, q => ([], q)
  | rounds + 1, q =>
      match q.dequeue with
      | none => ([], q)
      | some (next, rest) =>
          (next :: (drainLoop rounds rest).1, (drainLoop rounds rest).2)

/-- One round for each held item; `drain_complete` shows that these suffice. -/
def drainInPriorityOrder (q : PriorityIntakeQueue) :
    List QueuedSignalEvent × PriorityIntakeQueue :=
  drainLoop q.held.length q

/-! ## What the operations do to the items held -/

theorem held_push (q : PriorityIntakeQueue) (item : QueuedSignalEvent) :
    (q.push item).held.Perm (item :: q.held) :=
  Buckets.contents_push servedOrder_nodup q.buffers (mem_servedOrder _) item

theorem shift_eq_none {q : PriorityIntakeQueue} {levels : List RiskLevel} :
    q.shift levels = none ↔ ∀ level ∈ levels, q.buffers level = [] := by
  rw [← Buckets.shiftFirst_eq_none]
  unfold shift
  split <;> simp_all

theorem held_shift {q rest : PriorityIntakeQueue} {levels : List RiskLevel}
    {item : QueuedSignalEvent} (h : q.shift levels = some (item, rest)) :
    q.held.Perm (item :: rest.held) := by
  unfold shift at h
  split at h
  · cases h
  · rename_i found
    cases h
    exact Buckets.contents_shiftFirst servedOrder_nodup
      (fun level _ => mem_servedOrder level) found

theorem mem_levelsBelow {level incoming : RiskLevel} :
    level ∈ levelsBelow incoming ↔ riskPriority level < riskPriority incoming := by
  cases level <;> cases incoming <;> decide

/-- Nothing can be shed exactly when nothing held is of a lower level. -/
theorem shed_eq_none {q : PriorityIntakeQueue} {incoming : RiskLevel} :
    q.shedLowestPriority incoming = none ↔
      ∀ item ∈ q.held, ¬ riskPriority item.gateRiskLevel < riskPriority incoming := by
  unfold shedLowestPriority held
  rw [shift_eq_none]
  constructor
  · intro empty item member below
    obtain ⟨level, -, inBucket⟩ := Buckets.mem_contents.mp member
    rw [q.banded level item inBucket] at below
    rw [empty level (mem_levelsBelow.mpr below)] at inBucket
    exact absurd inBucket List.not_mem_nil
  · intro none level below
    rw [List.eq_nil_iff_forall_not_mem]
    intro item inBucket
    refine none item (Buckets.mem_contents.mpr ⟨level, mem_servedOrder level, inBucket⟩) ?_
    rw [q.banded level item inBucket]
    exact mem_levelsBelow.mp below

theorem dequeue_eq_none {q : PriorityIntakeQueue} : q.dequeue = none ↔ q.held = [] := by
  unfold dequeue held Buckets.contents
  rw [shift_eq_none, List.flatMap_eq_nil_iff]

theorem held_drainLoop (rounds : ℕ) (q : PriorityIntakeQueue) :
    q.held.Perm ((drainLoop rounds q).1 ++ (drainLoop rounds q).2.held) := by
  induction rounds generalizing q with
  | zero => exact .refl _
  | succ rounds ih =>
      unfold drainLoop
      split
      · exact .refl _
      · rename_i next rest taken
        exact (held_shift taken).trans ((ih rest).cons next)

/-- **The loop ends**: after one round for each held item nothing is left. -/
theorem drain_complete (q : PriorityIntakeQueue) : q.drainInPriorityOrder.2.held = [] := by
  suffices enough : ∀ rounds (q : PriorityIntakeQueue), q.held.length = rounds →
      (drainLoop rounds q).2.held = [] from enough _ q rfl
  intro rounds
  induction rounds with
  | zero => exact fun q empty => List.length_eq_zero_iff.mp empty
  | succ rounds ih =>
      intro q count
      unfold drainLoop
      split
      · rename_i nothing
        exact dequeue_eq_none.mp nothing
      · rename_i next rest taken
        refine ih rest ?_
        have shorter := (held_shift taken).length_eq
        rw [List.length_cons] at shorter
        omega

end PriorityIntakeQueue

/-! ## Sequences of calls -/

/-- One call on the queue. -/
inductive QueueCall where
  | enqueue (item : QueuedSignalEvent)
  | dequeue
  | drainInPriorityOrder

/-- The queue with what its callers passed in and got out. `shed` holds the
items that shedding removed; no caller sees them. -/
structure QueueHistory where
  queue : PriorityIntakeQueue
  offered : List QueuedSignalEvent := []
  taken : List QueuedSignalEvent := []
  handedBack : List QueuedSignalEvent := []
  shed : List QueuedSignalEvent := []

namespace QueueHistory

open PriorityIntakeQueue

/-- The item an `enqueue` of `item` sheds, if any. -/
def shedBy (q : PriorityIntakeQueue) (item : QueuedSignalEvent) : Option QueuedSignalEvent :=
  if q.isFull then (q.shedLowestPriority item.gateRiskLevel).map Prod.fst else none

def step (h : QueueHistory) : QueueCall → QueueHistory
  | .enqueue item =>
      { h with
        queue := (h.queue.enqueue item).1
        offered := h.offered ++ [item]
        handedBack := h.handedBack ++ (h.queue.enqueue item).2.toList
        shed := h.shed ++ (shedBy h.queue item).toList }
  | .dequeue =>
      match h.queue.dequeue with
      | none => h
      | some (item, rest) => { h with queue := rest, taken := h.taken ++ [item] }
  | .drainInPriorityOrder =>
      { h with
        queue := h.queue.drainInPriorityOrder.2
        taken := h.taken ++ h.queue.drainInPriorityOrder.1 }

/-- The history of a sequence of calls on a new queue. -/
def after (capacity : ℚ) (calls : List QueueCall) : QueueHistory :=
  calls.foldl step { queue := .new capacity }

/-- Every item offered is, exactly once, still queued, taken out, or handed
back to the caller of `enqueue`. -/
def NothingLost (h : QueueHistory) : Prop :=
  h.offered.Perm (h.queue.held ++ h.taken ++ h.handedBack)

/-- The balance that counts the shed items too. -/
def Balanced (h : QueueHistory) : Prop :=
  h.offered.Perm (h.queue.held ++ h.taken ++ h.handedBack ++ h.shed)

/-- An enqueue puts the item in the queue or hands it back, at the price of
the item it sheds. -/
theorem enqueue_balance (q : PriorityIntakeQueue) (item : QueuedSignalEvent) :
    (item :: q.held).Perm
      ((q.enqueue item).1.held ++ (q.enqueue item).2.toList ++ (shedBy q item).toList) := by
  unfold enqueue shedBy
  by_cases full : q.isFull
  · rw [if_pos full, if_pos full]
    cases shedding : q.shedLowestPriority item.gateRiskLevel with
    | none => simpa using (List.perm_append_singleton item q.held).symm
    | some found =>
        obtain ⟨lost, rest⟩ := found
        have removed : q.held.Perm (lost :: rest.held) := held_shift shedding
        have pushed : (rest.push item).held.Perm (item :: rest.held) := held_push rest item
        show (item :: q.held).Perm ((rest.push item).held ++ [] ++ [lost])
        rw [List.append_nil]
        calc (item :: q.held).Perm (item :: lost :: rest.held) := removed.cons item
          _ |>.Perm (lost :: item :: rest.held) := .swap lost item _
          _ |>.Perm (lost :: (rest.push item).held) := pushed.symm.cons lost
          _ |>.Perm ((rest.push item).held ++ [lost]) :=
            (List.perm_append_singleton lost _).symm
  · rw [if_neg full, if_neg full]
    simpa using (held_push q item).symm

theorem step_balance {h : QueueHistory} (balanced : h.Balanced) (call : QueueCall) :
    (h.step call).Balanced := by
  unfold Balanced at balanced ⊢
  rw [← Multiset.coe_eq_coe] at balanced ⊢
  cases call with
  | enqueue item =>
      have moved := enqueue_balance h.queue item
      rw [← Multiset.coe_eq_coe] at moved
      simp only [step, ← Multiset.coe_add, ← Multiset.cons_coe, ← Multiset.singleton_add]
        at balanced moved ⊢
      rw [balanced, Multiset.coe_nil, add_zero]
      calc _ = ({item} + (h.queue.held : Multiset QueuedSignalEvent)) + h.taken +
            h.handedBack + h.shed := by abel
        _ = _ := by rw [moved]; abel
  | dequeue =>
      unfold step
      cases taken : h.queue.dequeue with
      | none => exact balanced
      | some found =>
          obtain ⟨item, rest⟩ := found
          have moved := held_shift taken
          rw [← Multiset.coe_eq_coe] at moved
          simp only [← Multiset.coe_add, ← Multiset.cons_coe, ← Multiset.singleton_add]
            at balanced moved ⊢
          rw [balanced, moved, Multiset.coe_nil]
          abel
  | drainInPriorityOrder =>
      have moved : h.queue.held.Perm (h.queue.drainInPriorityOrder.1 ++
          h.queue.drainInPriorityOrder.2.held) := held_drainLoop _ _
      rw [← Multiset.coe_eq_coe] at moved
      simp only [step, ← Multiset.coe_add] at balanced moved ⊢
      rw [balanced, moved]
      abel

/-- **The balance of every sequence of calls.** -/
theorem after_balanced (capacity : ℚ) (calls : List QueueCall) :
    (after capacity calls).Balanced := by
  unfold after
  suffices kept : ∀ h : QueueHistory, h.Balanced → (calls.foldl step h).Balanced from
    kept _ (.refl _)
  induction calls with
  | nil => exact fun h balanced => balanced
  | cons call rest ih => exact fun h balanced => ih (h.step call) (step_balance balanced call)

/-- Nothing is lost exactly when nothing was shed: the shed items are the
whole difference. -/
theorem nothingLost_iff_shed_nil {h : QueueHistory} (balanced : h.Balanced) :
    h.NothingLost ↔ h.shed = [] := by
  unfold Balanced at balanced
  constructor
  · intro kept
    have lengths := balanced.length_eq
    rw [List.length_append, ← kept.length_eq] at lengths
    exact List.length_eq_zero_iff.mp (by omega)
  · intro none
    rw [none, List.append_nil] at balanced
    exact balanced

/-- A call sheds when it enqueues into a full queue that holds an item of a
strictly lower Risk_Level. -/
def Sheds (q : PriorityIntakeQueue) (call : QueueCall) : Prop :=
  ∃ item, call = .enqueue item ∧ q.isFull ∧
    ∃ queued ∈ q.held, riskPriority queued.gateRiskLevel < riskPriority item.gateRiskLevel

/-- The item a call sheds, if any. -/
def shedByCall (q : PriorityIntakeQueue) : QueueCall → Option QueuedSignalEvent
  | .enqueue item => shedBy q item
  | .dequeue | .drainInPriorityOrder => none

theorem step_shed (h : QueueHistory) (call : QueueCall) :
    (h.step call).shed = h.shed ++ (shedByCall h.queue call).toList := by
  cases call with
  | enqueue item => rfl
  | dequeue =>
      show (match h.queue.dequeue with
        | none => h
        | some (item, rest) => { h with queue := rest, taken := h.taken ++ [item] }).shed = _
      rw [shedByCall, Option.toList_none, List.append_nil]
      split <;> rfl
  | drainInPriorityOrder => exact (List.append_nil _).symm

theorem shedByCall_eq_none {q : PriorityIntakeQueue} {call : QueueCall} :
    shedByCall q call = none ↔ ¬ Sheds q call := by
  cases call with
  | enqueue item =>
      show shedBy q item = none ↔ _
      unfold shedBy Sheds
      by_cases full : q.isFull
      · rw [if_pos full, Option.map_eq_none_iff, shed_eq_none]
        constructor
        · rintro nothing ⟨_, same, -, queued, member, below⟩
          cases same
          exact nothing queued member below
        · intro nothing queued member below
          exact nothing ⟨item, rfl, full, queued, member, below⟩
      · rw [if_neg full]
        refine iff_of_true rfl ?_
        rintro ⟨_, -, full', -⟩
        exact full full'
  | dequeue => exact iff_of_true rfl fun ⟨_, other, _⟩ => by cases other
  | drainInPriorityOrder => exact iff_of_true rfl fun ⟨_, other, _⟩ => by cases other

theorem step_shed_eq (h : QueueHistory) (call : QueueCall) :
    (h.step call).shed = h.shed ↔ ¬ Sheds h.queue call := by
  rw [step_shed, List.append_right_eq_self, Option.toList_eq_nil_iff, shedByCall_eq_none]

/-- What was shed stays recorded. -/
theorem shed_prefix (h : QueueHistory) (calls : List QueueCall) :
    h.shed <+: (calls.foldl step h).shed := by
  induction calls generalizing h with
  | nil => exact List.prefix_rfl
  | cons call rest ih =>
      refine List.IsPrefix.trans ?_ (ih (h.step call))
      rw [step_shed]
      exact List.prefix_append _ _

/-- A sequence sheds nothing exactly when none of its calls sheds. -/
theorem shed_nil_iff (capacity : ℚ) (calls : List QueueCall) :
    (after capacity calls).shed = [] ↔
      ∀ earlier call later, calls = earlier ++ call :: later →
        ¬ Sheds (after capacity earlier).queue call := by
  constructor
  · rintro nothing earlier call later rfl
    have grown := shed_prefix ((after capacity earlier).step call) later
    have before := shed_prefix (after capacity earlier) [call]
    have whole : later.foldl step ((after capacity earlier).step call) =
        after capacity (earlier ++ call :: later) := by
      simp [after]
    rw [whole, nothing, List.prefix_nil] at grown
    rw [List.foldl_cons, List.foldl_nil, grown, List.prefix_nil] at before
    rw [← step_shed_eq, grown, before]
  · induction calls using List.reverseRecOn with
    | nil => exact fun _ => rfl
    | append_singleton earlier call ih =>
        intro quiet
        have last : (after capacity (earlier ++ [call])) = (after capacity earlier).step call := by
          simp [after]
        rw [last, (step_shed_eq _ call).mpr (quiet earlier call [] rfl)]
        refine ih fun first other rest split => ?_
        exact quiet first other (rest ++ [call]) (by rw [split]; simp)

/-- **Nothing is lost silently exactly when nothing is shed**: no `enqueue`
of the sequence meets a full queue that holds an item of a strictly lower
Risk_Level. -/
theorem nothing_lost_iff_never_sheds (capacity : ℚ) (calls : List QueueCall) :
    (after capacity calls).NothingLost ↔
      ∀ earlier call later, calls = earlier ++ call :: later →
        ¬ Sheds (after capacity earlier).queue call :=
  (nothingLost_iff_shed_nil (after_balanced capacity calls)).trans (shed_nil_iff capacity calls)

/-- A reading of a counter that names no gate. -/
def anonymousReading (signalId : String) : SignalEvent where
  signalId
  gateId := none
  routeId := none
  timestamp := "2026-06-01T12:00:00.000Z"
  receivedAt := "2026-06-01T12:00:00.000Z"
  payload := .gateCounter 1 30
  isStale := false
  lateArrivalFlag := false

/-- A queue of capacity one sheds its only, low item for a high one: the
caller of `enqueue` gets nothing back and the low item is gone. -/
theorem shed_item_is_lost :
    ¬ (after 1 [.enqueue ⟨anonymousReading "low", .low, 0⟩,
        .enqueue ⟨anonymousReading "high", .high, 1⟩]).NothingLost := by
  unfold NothingLost
  decide +kernel

end QueueHistory

end Stadium
