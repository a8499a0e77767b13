import Mathlib

/-!
# FIFO buckets

A family of first-in-first-out lists, one for each index. `push` appends to
one bucket and `shiftFirst` takes the oldest item of the first non-empty
bucket among some indices. `contents` lists everything held, bucket by
bucket, and both operations are described by what they do to it: nothing but
the pushed item comes in and nothing but the shifted item goes out.
-/

/-- One list for each index, oldest item first. -/
abbrev Buckets (ι α : Type*) := ι → List α

namespace Buckets

variable {ι α : Type*} [DecidableEq ι]

def push (b : Buckets ι α) (i : ι) (item : α) : Buckets ι α :=
  Function.update b i (b i ++ [item])

/-- The oldest item of the first non-empty bucket, and the rest. -/
def shiftFirst (b : Buckets ι α) : List ι → Option (α × Buckets ι α)
  | [] => none
  | i :: rest =>
      match b i with
      | [] => shiftFirst b rest
      | head :: tail => some (head, Function.update b i tail)

/-- Everything held, in the given order of the buckets. -/
def contents (order : List ι) (b : Buckets ι α) : List α := order.flatMap b

omit [DecidableEq ι] in
theorem mem_contents {order : List ι} {b : Buckets ι α} {item : α} :
    item ∈ contents order b ↔ ∃ i ∈ order, item ∈ b i :=
  List.mem_flatMap

/-- Bring one bucket to the front. -/
theorem contents_perm_cons {order : List ι} (b : Buckets ι α) {i : ι} (listed : i ∈ order) :
    (contents order b).Perm (b i ++ contents (order.erase i) b) :=
  (List.perm_cons_erase listed).flatMap_right b

/-- Buckets outside the order do not count. -/
theorem contents_update_of_notMem {order : List ι} (b : Buckets ι α) {i : ι} (other : i ∉ order)
    (items : List α) : contents order (Function.update b i items) = contents order b := by
  refine List.flatMap_congr fun j listed => ?_
  rw [Function.update_of_ne]
  rintro rfl
  exact other listed

theorem contents_update {order : List ι} (nodup : order.Nodup) (b : Buckets ι α) {i : ι}
    (listed : i ∈ order) (items : List α) :
    (contents order (Function.update b i items)).Perm
      (items ++ contents (order.erase i) b) := by
  refine (contents_perm_cons _ listed).trans ?_
  rw [Function.update_self]
  rw [contents_update_of_notMem b nodup.not_mem_erase]

theorem contents_push {order : List ι} (nodup : order.Nodup) (b : Buckets ι α) {i : ι}
    (listed : i ∈ order) (item : α) :
    (contents order (b.push i item)).Perm (item :: contents order b) := by
  refine (contents_update nodup b listed _).trans ?_
  rw [List.append_assoc]
  refine List.perm_middle.trans (.cons item ?_)
  exact (contents_perm_cons b listed).symm

theorem shiftFirst_eq_none {b : Buckets ι α} {levels : List ι} :
    shiftFirst b levels = none ↔ ∀ i ∈ levels, b i = [] := by
  induction levels with
  | nil => simp [shiftFirst]
  | cons i rest ih =>
      cases bucket : b i with
      | nil => simp [shiftFirst, bucket, ih]
      | cons head tail => simp [shiftFirst, bucket]

/-- The shifted item heads its bucket, and every bucket searched before it
is empty. -/
theorem shiftFirst_eq_some {b b' : Buckets ι α} {levels : List ι} {item : α}
    (h : shiftFirst b levels = some (item, b')) :
    ∃ i ∈ levels, ∃ tail, b i = item :: tail ∧ b' = Function.update b i tail := by
  induction levels with
  | nil => cases h
  | cons i rest ih =>
      cases bucket : b i with
      | nil =>
          simp only [shiftFirst, bucket] at h
          obtain ⟨j, searched, found⟩ := ih h
          exact ⟨j, List.mem_cons_of_mem i searched, found⟩
      | cons head tail =>
          simp only [shiftFirst, bucket] at h
          cases h
          exact ⟨i, List.mem_cons_self, tail, bucket, rfl⟩

/-- The buckets searched before the one that is shifted are empty. -/
theorem shiftFirst_first {b b' : Buckets ι α} {levels : List ι} {item : α}
    (h : shiftFirst b levels = some (item, b')) :
    ∃ before i after, levels = before ++ i :: after ∧ (∀ j ∈ before, b j = []) ∧ item ∈ b i := by
  induction levels with
  | nil => cases h
  | cons i rest ih =>
      cases bucket : b i with
      | nil =>
          simp only [shiftFirst, bucket] at h
          obtain ⟨before, j, after, split, empty, found⟩ := ih h
          refine ⟨i :: before, j, after, congrArg (i :: ·) split, ?_, found⟩
          exact List.forall_mem_cons.mpr ⟨bucket, empty⟩
      | cons head tail =>
          simp only [shiftFirst, bucket] at h
          cases h
          refine ⟨[], i, rest, rfl, fun _ impossible => absurd impossible List.not_mem_nil, ?_⟩
          rw [bucket]
          exact List.mem_cons_self

theorem contents_shiftFirst {order levels : List ι} (nodup : order.Nodup)
    (sub : levels ⊆ order) {b b' : Buckets ι α} {item : α}
    (h : shiftFirst b levels = some (item, b')) :
    (contents order b).Perm (item :: contents order b') := by
  obtain ⟨i, searched, tail, bucket, rfl⟩ := shiftFirst_eq_some h
  have before := contents_perm_cons b (sub searched)
  rw [bucket, List.cons_append] at before
  exact before.trans (.cons item (contents_update nodup b (sub searched) tail).symm)

/-- Searched in the order of the contents, the shifted item is their head. -/
theorem contents_eq_cons_of_shiftFirst {order : List ι} (nodup : order.Nodup)
    {b b' : Buckets ι α} {item : α} (h : shiftFirst b order = some (item, b')) :
    contents order b = item :: contents order b' := by
  induction order with
  | nil => cases h
  | cons i rest ih =>
      obtain ⟨other, nodup⟩ := List.nodup_cons.mp nodup
      cases bucket : b i with
      | nil =>
          simp only [shiftFirst, bucket] at h
          obtain ⟨j, searched, tail, -, rfl⟩ := shiftFirst_eq_some h
          have apart : i ≠ j := by
            rintro rfl
            exact other searched
          show b i ++ contents rest b =
            item :: (Function.update b j tail i ++ contents rest (Function.update b j tail))
          rw [Function.update_of_ne apart, bucket]
          exact ih nodup h
      | cons head tail =>
          simp only [shiftFirst, bucket] at h
          cases h
          show b i ++ contents rest b =
            item :: (Function.update b i tail i ++ contents rest (Function.update b i tail))
          rw [Function.update_self, contents_update_of_notMem b other, bucket]
          rfl

/-! ## Buckets that hold their own class -/

section

variable {classify : α → ι} {b : Buckets ι α} {order : List ι}

/-- The contents of one class are its bucket. -/
theorem filter_contents (banded : ∀ i, ∀ item ∈ b i, classify item = i) (nodup : order.Nodup)
    {i : ι} (listed : i ∈ order) :
    (contents order b).filter (classify · = i) = b i := by
  induction order with
  | nil => cases listed
  | cons j rest ih =>
      obtain ⟨other, nodup⟩ := List.nodup_cons.mp nodup
      show (b j ++ contents rest b).filter (classify · = i) = b i
      rw [List.filter_append]
      by_cases same : j = i
      · subst same
        have own : (b j).filter (classify · = j) = b j := by
          rw [List.filter_eq_self]
          exact fun item member => decide_eq_true (banded j item member)
        have none : (contents rest b).filter (classify · = j) = [] := by
          rw [List.filter_eq_nil_iff]
          intro item member
          obtain ⟨k, searched, inBucket⟩ := mem_contents.mp member
          rw [banded k item inBucket, decide_eq_true_eq]
          rintro rfl
          exact other searched
        rw [own, none, List.append_nil]
      · have none : (b j).filter (classify · = i) = [] := by
          rw [List.filter_eq_nil_iff]
          intro item member
          rw [banded j item member, decide_eq_true_eq]
          exact same
        rw [none, List.nil_append]
        exact ih nodup (List.mem_of_ne_of_mem (Ne.symm same) listed)

omit [DecidableEq ι] in
/-- The contents follow the order of the classes. -/
theorem pairwise_contents {r : ι → ι → Prop} (reflexive : ∀ i, r i i)
    (banded : ∀ i, ∀ item ∈ b i, classify item = i) (sorted : order.Pairwise r) :
    (contents order b).Pairwise fun x y => r (classify x) (classify y) := by
  unfold contents
  rw [List.pairwise_flatMap]
  constructor
  · intro i _
    apply List.pairwise_of_forall_mem_list
    intro x xIn y yIn
    rw [banded i x xIn, banded i y yIn]
    exact reflexive i
  · refine sorted.imp fun {i j} related x xIn y yIn => ?_
    rw [banded i x xIn, banded j y yIn]
    exact related

end

end Buckets
