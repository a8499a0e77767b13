import Mathlib.Data.List.Sort

/-!
# The highest of a collection

`highest r k xs` are the `k` entries of `xs` that come first in a total order
`r`. A part of a collection is the highest of its size if the rest lies below
it (`perm_highest`); so a selection made one entry at a time is the highest as
long as every entry given up lies below every entry kept.
-/

namespace Highest

variable {α : Type*} (r : α → α → Prop) [DecidableRel r]

def highest (k : ℕ) (xs : List α) : List α := (xs.insertionSort r).take k

/-- Every entry given up lies below every entry kept. -/
def Separated (r : α → α → Prop) (kept lost : List α) : Prop := ∀ x ∈ kept, ∀ y ∈ lost, r x y

variable {r}

omit [DecidableRel r] in
theorem Separated.of_perm {kept kept' lost lost' : List α} (separated : Separated r kept lost)
    (sameKept : kept'.Perm kept) (sameLost : lost'.Perm lost) : Separated r kept' lost' :=
  fun x member y gone => separated x (sameKept.mem_iff.mp member) y (sameLost.mem_iff.mp gone)

omit [DecidableRel r] in
/-- **Exchange.** An entry comes in and another one, or the same, is given up that
lies below all that stay. -/
theorem Separated.exchange [IsTrans α r] {kept kept' lost : List α} {new gone : α}
    (separated : Separated r kept lost) (moved : (new :: kept).Perm (gone :: kept'))
    (below : ∀ x ∈ kept', r x gone) : Separated r kept' (lost ++ [gone]) := by
  intro x member y given
  rcases List.mem_append.mp given with before | now
  · rcases List.mem_cons.mp (moved.symm.subset (List.mem_cons_of_mem gone member)) with came | old
    · rcases List.mem_cons.mp (moved.symm.subset List.mem_cons_self) with itself | stood
      · -- the newcomer is the one given up, so those that stay are those of before
        rw [itself] at moved
        exact separated x (moved.cons_inv.mem_iff.mpr member) y before
      · exact IsTrans.trans x gone y (below x member) (separated gone stood y before)
    · exact separated x old y before
  · rw [List.mem_singleton.mp now]
    exact below x member

/-- **The highest.** What is kept of a collection, with the rest below it, are its
highest entries. -/
theorem perm_highest [Std.Total r] [IsTrans α r] [Std.Antisymm r] {xs kept lost : List α}
    (parts : xs.Perm (kept ++ lost)) (separated : Separated r kept lost) :
    kept.Perm (highest r kept.length xs) := by
  have apart : (kept.insertionSort r ++ lost.insertionSort r).Pairwise r := by
    apply List.pairwise_append.mpr
    refine ⟨List.pairwise_insertionSort r kept, List.pairwise_insertionSort r lost, ?_⟩
    exact separated.of_perm (List.perm_insertionSort r kept) (List.perm_insertionSort r lost)
  have same : xs.insertionSort r = kept.insertionSort r ++ lost.insertionSort r := by
    apply List.Perm.eq_of_pairwise' (List.pairwise_insertionSort r xs) apart
    refine (List.perm_insertionSort r xs).trans (parts.trans ?_)
    exact ((List.perm_insertionSort r kept).append (List.perm_insertionSort r lost)).symm
  unfold highest
  rw [same, List.take_left' (List.length_insertionSort r kept)]
  exact (List.perm_insertionSort r kept).symm

end Highest
