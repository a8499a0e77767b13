import Mathlib

/-!
# The first least entry of a list

Sorting a list by a comparator and taking the head picks the first entry that
no other entry precedes. `head?_insertionSort` states this for a total
preorder, and `IsFirstLeast.unique` that there is only one such entry, so the
pick can be described without the sort.
-/

namespace FirstLeast

variable {α : Type*} (le : α → α → Prop)

/-- `x` comes before everything after it and strictly before everything
ahead of it. -/
def IsFirstLeast (x : α) (xs : List α) : Prop :=
  ∃ ahead behind, xs = ahead ++ x :: behind ∧ (∀ y ∈ ahead, ¬ le y x) ∧ ∀ y ∈ behind, le x y

variable {le}

theorem IsFirstLeast.mem {x : α} {xs : List α} (h : IsFirstLeast le x xs) : x ∈ xs := by
  obtain ⟨ahead, behind, rfl, -, -⟩ := h
  simp

/-- No entry is strictly below the first least one. -/
theorem IsFirstLeast.le_of_mem [Std.Total le] {x : α} {xs : List α}
    (h : IsFirstLeast le x xs) {y : α} (member : y ∈ xs) : le x y := by
  obtain ⟨ahead, behind, rfl, strict, least⟩ := h
  rcases List.mem_append.mp member with earlier | later
  · exact (Std.Total.total x y).resolve_right (strict y earlier)
  · rcases List.mem_cons.mp later with rfl | later
    · exact or_self_iff.mp (Std.Total.total y y)
    · exact least y later

/-- A new head is the first least entry unless the old one lies strictly below. -/
theorem IsFirstLeast.cons [Std.Total le] [IsTrans α le] {x : α} {xs : List α}
    (h : IsFirstLeast le x xs) (a : α) :
    (le a x → IsFirstLeast le a (a :: xs)) ∧ (¬ le a x → IsFirstLeast le x (a :: xs)) := by
  constructor
  · intro below
    refine ⟨[], xs, rfl, by simp, ?_⟩
    intro y member
    exact IsTrans.trans a x y below (h.le_of_mem member)
  · intro above
    obtain ⟨ahead, behind, rfl, strict, least⟩ := h
    refine ⟨a :: ahead, behind, rfl, ?_, least⟩
    intro y member
    rcases List.mem_cons.mp member with rfl | member
    · exact above
    · exact strict y member

theorem IsFirstLeast.unique {x y : α} {xs : List α} (hx : IsFirstLeast le x xs)
    (hy : IsFirstLeast le y xs) : x = y := by
  induction xs with
  | nil => simpa using hx.mem
  | cons a rest ih =>
      obtain ⟨ahead, behind, split, strict, least⟩ := hx
      obtain ⟨ahead', behind', split', strict', least'⟩ := hy
      cases ahead with
      | nil =>
          obtain ⟨rfl, rfl⟩ := List.cons.inj split
          cases ahead' with
          | nil => exact (List.cons.inj split').1
          | cons b more =>
              obtain ⟨rfl, tail⟩ := List.cons.inj split'
              -- `y` lies behind `x`, so `x` is not strictly above it
              refine absurd (least y ?_) (strict' a List.mem_cons_self)
              rw [tail]
              simp
      | cons b more =>
          obtain ⟨rfl, tail⟩ := List.cons.inj split
          cases ahead' with
          | nil =>
              obtain ⟨rfl, rfl⟩ := List.cons.inj split'
              refine absurd (least' x ?_) (strict a List.mem_cons_self)
              rw [tail]
              simp
          | cons b' more' =>
              obtain ⟨rfl, tail'⟩ := List.cons.inj split'
              apply ih
              · exact ⟨more, behind, tail, fun z hz => strict z (List.mem_cons_of_mem _ hz), least⟩
              · exact ⟨more', behind', tail', fun z hz => strict' z (List.mem_cons_of_mem _ hz),
                  least'⟩

/-- The order of a comparator is total. -/
instance total_of_compare (cmp : α → α → Ordering) [Std.OrientedCmp cmp] :
    Std.Total fun a b => cmp a b ≠ .gt where
  total a b := by
    have swapped : cmp a b = (cmp b a).swap := Std.OrientedCmp.eq_swap
    rw [swapped]
    cases cmp b a <;> simp

/-- The order of a transitive comparator is transitive. -/
instance trans_of_compare (cmp : α → α → Ordering) [Std.TransCmp cmp] :
    IsTrans α fun a b => cmp a b ≠ .gt where
  trans a b c first second := by
    apply Ordering.ne_gt_iff_isLE.mpr
    exact Std.TransCmp.isLE_trans (Ordering.ne_gt_iff_isLE.mp first)
      (Ordering.ne_gt_iff_isLE.mp second)

variable [DecidableRel le]

/-- The head of an insertion. -/
theorem head?_orderedInsert (a : α) (xs : List α) :
    (xs.orderedInsert le a).head? =
      some (match xs.head? with
        | none => a
        | some x => if le a x then a else x) := by
  cases xs with
  | nil => rfl
  | cons x rest =>
      by_cases below : le a x <;> simp [below]

/-- **The head of the sorted list is the first least entry.** -/
theorem head?_insertionSort [Std.Total le] [IsTrans α le] {xs : List α} {x : α} :
    (xs.insertionSort le).head? = some x ↔ IsFirstLeast le x xs := by
  suffices found : ∀ y, (xs.insertionSort le).head? = some y → IsFirstLeast le y xs by
    refine ⟨found x, fun least => ?_⟩
    cases picked : (xs.insertionSort le).head? with
    | none =>
        rw [List.head?_eq_none_iff] at picked
        have member := (List.mem_insertionSort le).mpr least.mem
        rw [picked] at member
        exact absurd member List.not_mem_nil
    | some y => rw [(found y picked).unique least]
  induction xs with
  | nil => simp
  | cons a rest ih =>
      intro y picked
      rw [List.insertionSort_cons, head?_orderedInsert, Option.some.injEq] at picked
      cases previous : (rest.insertionSort le).head? with
      | none =>
          have alone : rest = [] := by
            have sorted := List.head?_eq_none_iff.mp previous
            have perm := List.perm_insertionSort le rest
            rw [sorted] at perm
            exact perm.symm.eq_nil
          rw [previous] at picked
          subst alone picked
          exact ⟨[], [], rfl, by simp, by simp⟩
      | some x =>
          rw [previous] at picked
          have least := (ih x previous).cons a
          subst picked
          show IsFirstLeast le (if le a x then a else x) (a :: rest)
          by_cases below : le a x
          · rw [if_pos below]
            exact least.1 below
          · rw [if_neg below]
            exact least.2 below

/-- **The head is related to every entry** if the relation agrees with the order on the
entries and is a preorder there. -/
theorem rel_of_head? {R : α → α → Prop} {xs : List α}
    (below : ∀ a ∈ xs, ∀ b ∈ xs, le a b → R a b)
    (above : ∀ a ∈ xs, ∀ b ∈ xs, ¬ le a b → R b a)
    (refl : ∀ a ∈ xs, R a a)
    (trans : ∀ a ∈ xs, ∀ b ∈ xs, ∀ c ∈ xs, R a b → R b c → R a c)
    {x : α} (first : (xs.insertionSort le).head? = some x) :
    ∀ y ∈ xs, R x y := by
  induction xs generalizing x with
  | nil => cases first
  | cons a rest ih =>
      rw [List.insertionSort_cons, head?_orderedInsert, Option.some.injEq] at first
      have tail : ∀ {c}, c ∈ rest → c ∈ a :: rest := fun member => List.mem_cons_of_mem a member
      cases previous : (rest.insertionSort le).head? with
      | none =>
          rw [previous] at first
          subst first
          have alone := (List.perm_insertionSort le rest).symm
          rw [List.head?_eq_none_iff.mp previous] at alone
          intro y member
          rw [alone.eq_nil] at member
          rw [List.mem_singleton.mp member]
          exact refl a List.mem_cons_self
      | some b =>
          rw [previous] at first
          replace first : (if le a b then a else b) = x := first
          have listed : b ∈ rest := (List.mem_insertionSort le).mp (List.mem_of_head? previous)
          have least := ih (fun c hc d hd => below c (tail hc) d (tail hd))
            (fun c hc d hd => above c (tail hc) d (tail hd)) (fun c hc => refl c (tail hc))
            (fun c hc d hd e he => trans c (tail hc) d (tail hd) e (tail he)) previous
          intro y member
          split_ifs at first with order
          · subst first
            rcases List.mem_cons.mp member with rfl | later
            · exact refl y List.mem_cons_self
            · apply trans a List.mem_cons_self b (tail listed) y (tail later)
              · exact below a List.mem_cons_self b (tail listed) order
              · exact least y later
          · subst first
            rcases List.mem_cons.mp member with rfl | later
            · exact above y List.mem_cons_self b (tail listed) order
            · exact least y later

/-- **The head has the least key** if the order respects the keys, whatever it does
among entries of one key. -/
theorem key_le_of_head? {κ : Type*} [Preorder κ] {key : α → κ}
    (below : ∀ a b, le a b → key a ≤ key b) (above : ∀ a b, ¬ le a b → key b ≤ key a)
    {xs : List α} {x : α} (first : (xs.insertionSort le).head? = some x) :
    ∀ y ∈ xs, key x ≤ key y := by
  apply rel_of_head? (R := fun a b => key a ≤ key b) ?_ ?_ ?_ ?_ first
  · exact fun a _ b _ => below a b
  · exact fun a _ b _ => above a b
  · exact fun a _ => le_rfl
  · exact fun a _ b _ c _ => le_trans

end FirstLeast
