import Mathlib

/-!
# Grants under a check-then-set clock

A clock keeps the time of the last grant. A caller reads it, may go on when
that grant is at least a period old, and writes its own time later; between
its check and its write it *holds* the clock. Nothing in such a clock excludes
a second holder. While there is at most one, and it is a period away from the
time written, all grants are a period apart (`Sound`).
-/

namespace GrantLedger

/-- The clock, the grants made under it, and the times of its holders. -/
structure Ledger (τ : Type*) where
  last : Option τ
  granted : List τ
  holders : List τ

variable {τ : Type*} [AddCommGroup τ] [LinearOrder τ]

/-- At least a period apart. -/
def Apart (period a b : τ) : Prop := period ≤ |a - b|

structure Sound (period : τ) (l : Ledger τ) : Prop where
  spaced : l.granted.Pairwise (Apart period)
  recorded : ∀ t ∈ l.granted, ∃ last, l.last = some last ∧ t ≤ last
  single : l.holders.length ≤ 1
  due : ∀ t ∈ l.holders, ∀ last, l.last = some last → last + period ≤ t

variable {period t : τ} {l : Ledger τ}

theorem Apart.symm {a b : τ} (h : Apart period a b) : Apart period b a := by
  unfold Apart at h ⊢
  rwa [abs_sub_comm]

theorem Sound.empty (period : τ) : Sound period ⟨none, [], []⟩ where
  spaced := List.Pairwise.nil
  recorded := by simp
  single := by simp
  due := by simp

/-- The order of the grants does not matter. -/
theorem Sound.reorder (h : Sound period l) {granted : List τ} (same : l.granted.Perm granted) :
    Sound period { l with granted } where
  spaced := (same.pairwise_iff Apart.symm).mp h.spaced
  recorded := fun t member => h.recorded t (same.mem_iff.mpr member)
  single := h.single
  due := h.due

/-- A caller passes its check while nobody holds the clock. -/
theorem Sound.acquire (h : Sound period l)
    (due : ∀ last, l.last = some last → last + period ≤ t) :
    Sound period { l with holders := [t] } where
  spaced := h.spaced
  recorded := h.recorded
  single := le_rfl
  due := by
    intro t' holder
    rw [List.mem_singleton.mp holder]
    exact due

/-- A holder gives up. -/
theorem Sound.release (h : Sound period l) {holders : List τ} (fewer : holders.Sublist l.holders) :
    Sound period { l with holders } where
  spaced := h.spaced
  recorded := h.recorded
  single := fewer.length_le.trans h.single
  due := fun t holder => h.due t (fewer.subset holder)

/-- The holder writes its time and makes its grant. -/
theorem Sound.grant [IsOrderedAddMonoid τ] (h : Sound period l) (nonneg : 0 ≤ period)
    (holder : t ∈ l.holders) : Sound period ⟨some t, t :: l.granted, []⟩ := by
  have old : ∀ a ∈ l.granted, a + period ≤ t := by
    intro a member
    obtain ⟨last, written, bound⟩ := h.recorded a member
    exact (add_le_add_left bound period).trans (h.due t holder last written)
  refine ⟨List.pairwise_cons.mpr ⟨?_, h.spaced⟩, ?_, Nat.zero_le 1, by simp⟩
  · intro a member
    exact (le_sub_iff_add_le'.mpr (old a member)).trans (le_abs_self _)
  · intro a member
    refine ⟨t, rfl, ?_⟩
    rcases List.mem_cons.mp member with rfl | earlier
    · exact le_rfl
    · exact (le_add_of_nonneg_right nonneg).trans (old a earlier)

end GrantLedger
