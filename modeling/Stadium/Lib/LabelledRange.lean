import Mathlib

/-!
# Ranges of labels and ranges of positions

The positions from `first` to `last` carry labels that increase with them. A
range may be given by labels, where it takes the positions whose labels lie
between two others, or by positions. The two agree on all positions exactly if
they agree at the ends: the label of a bound is at most that of the first
position it should take, and above that of the position before
(`selects_iff_fits`). Only when no position lies in the range there is nothing
to compare with, and no label may lie between the bounds.
-/

namespace LabelledRange

variable {β : Type*}

/-- A bound of a range, as a label and as a position. -/
structure Bound (β : Type*) where
  label : β
  position : ℤ

/-- The lower and the upper bound of a range, where there are any. -/
structure Range (β : Type*) where
  lower : Option (Bound β)
  upper : Option (Bound β)

variable (label : ℤ → β) (first last : ℤ) (range : Range β)

namespace Range

/-- The position lies in the range. -/
def Contains (i : ℤ) : Prop :=
  (∀ bound ∈ range.lower, bound.position ≤ i) ∧ ∀ bound ∈ range.upper, i ≤ bound.position

/-- The first position of the range. -/
def start : ℤ := range.lower.elim first fun bound => max first bound.position

/-- The last position of the range. -/
def stop : ℤ := range.upper.elim last fun bound => min last bound.position

theorem contains_iff {i : ℤ} (low : first ≤ i) (high : i ≤ last) :
    range.Contains i ↔ range.start first ≤ i ∧ i ≤ range.stop last := by
  unfold Contains start stop
  cases range.lower with
  | none =>
      cases range.upper with
      | none => simp [low, high]
      | some upper => simp [low, high]
  | some lower =>
      cases range.upper with
      | none => simp [low, high]
      | some upper => simp [low, high]

theorem first_le_start : first ≤ range.start first := by
  unfold start
  cases range.lower with
  | none => exact le_refl first
  | some lower => exact le_max_left first lower.position

theorem stop_le_last : range.stop last ≤ last := by
  unfold stop
  cases range.upper with
  | none => exact le_refl last
  | some upper => exact min_le_left last upper.position

variable [LinearOrder β]

/-- The position is taken by its label. -/
def Selects (i : ℤ) : Prop :=
  (∀ bound ∈ range.lower, bound.label ≤ label i) ∧ ∀ bound ∈ range.upper, label i ≤ bound.label

/-- The labels of the bounds fit in at the ends of the range. -/
def Fits : Prop :=
  if range.start first ≤ range.stop last then
    (∀ bound ∈ range.lower, bound.label ≤ label (range.start first) ∧
      (first < range.start first → label (range.start first - 1) < bound.label)) ∧
    ∀ bound ∈ range.upper, label (range.stop last) ≤ bound.label ∧
      (range.stop last < last → bound.label < label (range.stop last + 1))
  else ∀ i, first ≤ i → i ≤ last → ¬ range.Selects label i

theorem fits_of_selects (increasing : ∀ i j, first ≤ i → j ≤ last → i < j → label i < label j)
    (agree : ∀ i, first ≤ i → i ≤ last → (range.Selects label i ↔ range.Contains i)) :
    range.Fits label first last := by
  have low := range.first_le_start first
  have high := range.stop_le_last last
  unfold Fits
  split
  · next inhabited =>
      have chosen (i : ℤ) (above : range.start first ≤ i) (below : i ≤ range.stop last) :
          range.Selects label i :=
        (agree i (by omega) (by omega)).mpr
          ((range.contains_iff first last (by omega) (by omega)).mpr ⟨above, below⟩)
      have atStart := chosen (range.start first) (le_refl _) inhabited
      have atStop := chosen (range.stop last) inhabited (le_refl _)
      refine ⟨?_, ?_⟩
      · intro bound given
        refine ⟨atStart.1 bound given, ?_⟩
        intro inner
        -- the position before is not in the range, and it is its lower bound that keeps it out
        by_contra taken
        have less : label (range.start first - 1) < label (range.start first) :=
          increasing _ _ (by omega) (by omega) (by omega)
        have selected : range.Selects label (range.start first - 1) := by
          refine ⟨?_, ?_⟩
          · intro other given'
            obtain rfl := Option.mem_unique given given'
            exact not_lt.mp taken
          · intro other given'
            exact le_trans (le_of_lt less) (atStart.2 other given')
        have inside := (range.contains_iff first last (by omega) (by omega)).mp
          ((agree _ (by omega) (by omega)).mp selected)
        omega
      · intro bound given
        refine ⟨atStop.2 bound given, ?_⟩
        intro inner
        by_contra taken
        have less : label (range.stop last) < label (range.stop last + 1) :=
          increasing _ _ (by omega) (by omega) (by omega)
        have selected : range.Selects label (range.stop last + 1) := by
          refine ⟨?_, ?_⟩
          · intro other given'
            exact le_trans (atStop.1 other given') (le_of_lt less)
          · intro other given'
            obtain rfl := Option.mem_unique given given'
            exact not_lt.mp taken
        have inside := (range.contains_iff first last (by omega) (by omega)).mp
          ((agree _ (by omega) (by omega)).mp selected)
        omega
  · next empty =>
      intro i above below selected
      have inside := (range.contains_iff first last above below).mp
        ((agree i above below).mp selected)
      omega

theorem selects_of_fits (increasing : ∀ i j, first ≤ i → j ≤ last → i < j → label i < label j)
    (fits : range.Fits label first last) {i : ℤ} (above : first ≤ i) (below : i ≤ last) :
    range.Selects label i ↔ range.Contains i := by
  have low := range.first_le_start first
  have high := range.stop_le_last last
  have atMost (j k : ℤ) (hj : first ≤ j) (hk : k ≤ last) (le : j ≤ k) : label j ≤ label k := by
    rcases lt_or_eq_of_le le with less | rfl
    · exact le_of_lt (increasing j k hj hk less)
    · exact le_refl _
  rw [range.contains_iff first last above below]
  unfold Fits at fits
  split at fits
  · next inhabited =>
      obtain ⟨lower, upper⟩ := fits
      constructor
      · rintro ⟨reached, kept⟩
        constructor
        · by_contra early
          cases given : range.lower with
          | none =>
              have start : range.start first = first := by simp [start, given]
              omega
          | some bound =>
              have before := (lower bound given).2 (by omega)
              have behind := atMost i (range.start first - 1) above (by omega) (by omega)
              exact absurd (reached bound given) (not_le.mpr (lt_of_le_of_lt behind before))
        · by_contra late
          cases given : range.upper with
          | none =>
              have stop : range.stop last = last := by simp [stop, given]
              omega
          | some bound =>
              have after := (upper bound given).2 (by omega)
              have ahead := atMost (range.stop last + 1) i (by omega) below (by omega)
              exact absurd (kept bound given) (not_le.mpr (lt_of_lt_of_le after ahead))
      · rintro ⟨late, early⟩
        refine ⟨fun bound given => ?_, fun bound given => ?_⟩
        · exact le_trans (lower bound given).1 (atMost _ i low below late)
        · exact le_trans (atMost i _ above high early) (upper bound given).1
  · next empty =>
      constructor
      · intro selected
        exact absurd selected (fits i above below)
      · rintro ⟨late, early⟩
        omega

/-- **Labels select the range** exactly if the labels of its bounds fit. -/
theorem selects_iff_fits (increasing : ∀ i j, first ≤ i → j ≤ last → i < j → label i < label j) :
    (∀ i, first ≤ i → i ≤ last → (range.Selects label i ↔ range.Contains i)) ↔
      range.Fits label first last :=
  ⟨range.fits_of_selects label first last increasing,
    fun fits _ above below => range.selects_of_fits label first last increasing fits above below⟩

end Range

end LabelledRange
