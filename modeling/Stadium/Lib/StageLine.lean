import Mathlib

/-!
# Lines of work in progress

A list of items that were started in this order and each stand at some stage.
The line is in order when no item is at a later stage than an item started
before it. An item that moves on only while all items before it are strictly
ahead keeps the line in order (`InOrder.promote`), and at that moment nothing
before it shares its stage and nothing after it is ahead.
-/

namespace StageLine

variable {α : Type*} (stage : α → ℕ)

/-- Earlier items are at least as far. -/
def InOrder (line : List α) : Prop := line.Pairwise fun a b => stage b ≤ stage a

variable {stage} {before after : List α} {x : α}

theorem InOrder.nil : InOrder stage [] := List.Pairwise.nil

theorem InOrder.split (h : InOrder stage (before ++ x :: after)) :
    InOrder stage before ∧ InOrder stage after ∧ (∀ b ∈ after, stage b ≤ stage x) ∧
      ∀ a ∈ before, ∀ b ∈ after, stage b ≤ stage a := by
  unfold InOrder at h
  rw [List.pairwise_append, List.pairwise_cons] at h
  obtain ⟨first, ⟨least, last⟩, across⟩ := h
  exact ⟨first, last, least, fun a ha b hb => across a ha b (List.mem_cons_of_mem x hb)⟩

theorem InOrder.join (first : InOrder stage before) (last : InOrder stage after)
    (across : ∀ a ∈ before, ∀ b ∈ after, stage b ≤ stage a) :
    InOrder stage (before ++ after) :=
  List.pairwise_append.mpr ⟨first, last, across⟩

/-- An item moves on by one stage behind items that are all further. -/
theorem InOrder.promote (h : InOrder stage (before ++ x :: after)) {y : α}
    (ahead : ∀ a ∈ before, stage x < stage a) (next : stage y = stage x + 1) :
    InOrder stage (before ++ y :: after) := by
  obtain ⟨first, last, least, across⟩ := h.split
  refine first.join (List.pairwise_cons.mpr ⟨?_, last⟩) ?_
  · intro b hb
    have bound := least b hb
    omega
  · intro a ha b hb
    rcases List.mem_cons.mp hb with rfl | later
    · have bound := ahead a ha
      omega
    · exact across a ha b later

/-- A new item joins at the end, at the first stage. -/
theorem InOrder.start {line : List α} (h : InOrder stage line) (first : stage x = 0) :
    InOrder stage (line ++ [x]) := by
  refine h.join (List.pairwise_singleton _ x) ?_
  intro a _ b hb
  rw [List.mem_singleton.mp hb, first]
  exact Nat.zero_le _

end StageLine
