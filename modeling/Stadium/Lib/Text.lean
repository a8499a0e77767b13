import Mathlib

/-!
# Text

Two parts joined by a separator can be told apart when the first part, or the
second one, does not contain it. Otherwise a pair may read like another one,
cut at another separator (`join_eq_join_iff`).

The length of a text in UTF-16 code units adds up over its parts and is zero
only for the empty text. Its UTF-8 bytes determine it, and a text whose bytes
continue those of another one continues that text. Texts are sequences of
Unicode scalar values: a lone surrogate has no encoding.
-/

namespace Text

/-- Cut at the first separator. -/
theorem join_injective_left {sep : Char} {a a' b b' : List Char} (plain : sep ∉ a)
    (plain' : sep ∉ a') (same : a ++ sep :: b = a' ++ sep :: b') : a = a' ∧ b = b' := by
  induction a generalizing a' with
  | nil =>
      cases a' with
      | nil => exact ⟨rfl, (List.cons.inj same).2⟩
      | cons c rest =>
          obtain ⟨rfl, -⟩ := List.cons.inj same
          exact absurd List.mem_cons_self plain'
  | cons c rest ih =>
      cases a' with
      | nil =>
          obtain ⟨rfl, -⟩ := List.cons.inj same
          exact absurd List.mem_cons_self plain
      | cons c' rest' =>
          obtain ⟨rfl, tails⟩ := List.cons.inj same
          obtain ⟨rfl, rfl⟩ := ih (List.not_mem_of_not_mem_cons plain)
            (List.not_mem_of_not_mem_cons plain') tails
          exact ⟨rfl, rfl⟩

/-- Cut at the last separator. -/
theorem join_injective_right {sep : Char} {a a' b b' : List Char} (plain : sep ∉ b)
    (plain' : sep ∉ b') (same : a ++ sep :: b = a' ++ sep :: b') : a = a' ∧ b = b' := by
  have reversed : b.reverse ++ sep :: a.reverse = b'.reverse ++ sep :: a'.reverse := by
    simpa using congrArg List.reverse same
  obtain ⟨second, first⟩ := join_injective_left (by simpa using plain) (by simpa using plain')
    reversed
  exact ⟨List.reverse_injective first, List.reverse_injective second⟩

/-- Two texts joined by a separator. -/
def join (sep : Char) (a b : String) : String := a ++ sep.toString ++ b

theorem append_join (label : String) (sep : Char) (a b : String) :
    label ++ join sep a b = label ++ a ++ sep.toString ++ b := by
  simp only [join, String.append_assoc]

theorem toList_join (sep : Char) (a b : String) :
    (join sep a b).toList = a.toList ++ sep :: b.toList := by
  simp [join]

theorem join_inj_of_plain_left {sep : Char} {a a' b b' : String} (plain : sep ∉ a.toList)
    (plain' : sep ∉ a'.toList) : join sep a b = join sep a' b' ↔ a = a' ∧ b = b' := by
  constructor
  · intro same
    have lists := congrArg String.toList same
    rw [toList_join, toList_join] at lists
    obtain ⟨first, second⟩ := join_injective_left plain plain' lists
    exact ⟨String.toList_inj.mp first, String.toList_inj.mp second⟩
  · rintro ⟨rfl, rfl⟩
    rfl

theorem join_inj_of_plain_right {sep : Char} {a a' b b' : String} (plain : sep ∉ b.toList)
    (plain' : sep ∉ b'.toList) : join sep a b = join sep a' b' ↔ a = a' ∧ b = b' := by
  constructor
  · intro same
    have lists := congrArg String.toList same
    rw [toList_join, toList_join] at lists
    obtain ⟨first, second⟩ := join_injective_right plain plain' lists
    exact ⟨String.toList_inj.mp first, String.toList_inj.mp second⟩
  · rintro ⟨rfl, rfl⟩
    rfl

/-- One pair reads like the other with the separator in between: they are the same
pair, or one of them is cut at a later separator. -/
def ReadsLike (sep : Char) (a b a' b' : String) : Prop :=
  a = a' ∧ b = b' ∨ (∃ x, a' = join sep a x ∧ b = join sep x b') ∨
    ∃ x, a = join sep a' x ∧ b' = join sep x b

/-- **Ambiguity of a separator.** -/
theorem join_eq_join_iff {sep : Char} {a b a' b' : String} :
    join sep a b = join sep a' b' ↔ ReadsLike sep a b a' b' := by
  unfold ReadsLike
  simp only [← String.toList_inj, toList_join]
  constructor
  · intro same
    rcases List.append_eq_append_iff.mp same with ⟨rest, first, second⟩ | ⟨rest, first, second⟩
    · cases rest with
      | nil =>
          rw [List.append_nil] at first
          exact .inl ⟨first.symm, (List.cons.inj second).2⟩
      | cons c x =>
          obtain ⟨rfl, tail⟩ := List.cons.inj second
          exact .inr (.inl ⟨String.ofList x, by simpa using first, by simpa using tail⟩)
    · cases rest with
      | nil =>
          rw [List.append_nil] at first
          exact .inl ⟨first, (List.cons.inj second).2.symm⟩
      | cons c x =>
          obtain ⟨rfl, tail⟩ := List.cons.inj second
          exact .inr (.inr ⟨String.ofList x, by simpa using first, by simpa using tail⟩)
  · rintro (⟨first, second⟩ | ⟨x, first, second⟩ | ⟨x, first, second⟩)
    · rw [first, second]
    · simp [first, second]
    · simp [first, second]

/-! ## Parts between separators -/

theorem notMem_of_mem_splitOn {sep : Char} {text part : List Char}
    (listed : part ∈ text.splitOn sep) : sep ∉ part := by
  unfold List.splitOn at listed
  induction text generalizing part with
  | nil =>
      rw [List.splitOnP_nil, List.mem_singleton] at listed
      rw [listed]
      exact List.not_mem_nil
  | cons c rest ih =>
      rw [List.splitOnP_cons_eq_if_modifyHead] at listed
      split at listed
      · rcases List.mem_cons.mp listed with rfl | later
        · exact List.not_mem_nil
        · exact ih later
      · next other =>
          cases parts : rest.splitOnP (· == sep) with
          | nil => exact absurd parts (List.splitOnP_ne_nil _ rest)
          | cons first others =>
              rw [parts] at listed ih
              rcases List.mem_cons.mp listed with rfl | later
              · refine List.not_mem_cons_of_ne_of_not_mem ?_ (ih List.mem_cons_self)
                rintro rfl
                exact other (beq_self_eq_true _)
              · exact ih (List.mem_cons_of_mem first later)

theorem notMem_take_of_idxOf? {sep : Char} {text : List Char} {position : ℕ}
    (first : text.idxOf? sep = some position) : sep ∉ text.take position := by
  obtain ⟨inside, -, earlier⟩ := List.idxOf?_eq_some_iff.mp first
  intro listed
  obtain ⟨j, before, same⟩ := List.mem_take_iff_getElem.mp listed
  exact earlier j (by omega) same

/-! ## White space -/

/-- The characters `String.prototype.trim` removes. -/
def isWhiteSpace (c : Char) : Bool :=
  c ∈ ['\u0009', '\u000A', '\u000B', '\u000C', '\u000D', '\u0020', '\u00A0', '\u1680', '\u2028',
    '\u2029', '\u202F', '\u205F', '\u3000', '\uFEFF'] || ('\u2000' ≤ c && c ≤ '\u200A')

def trim (text : List Char) : List Char :=
  (text.dropWhile isWhiteSpace).rdropWhile isWhiteSpace

/-! ## Lengths and encodings -/

/-- The UTF-16 code units of a character. -/
def unitsOf (c : Char) : ℕ := if c.toNat < 0x10000 then 1 else 2

/-- The length of a text in UTF-16 code units. -/
def utf16Length (text : String) : ℕ := (text.toList.map unitsOf).sum

/-- The UTF-8 encoding of a text. -/
def utf8Bytes (text : String) : List UInt8 := text.toList.flatMap String.utf8EncodeChar

theorem utf16Length_append (a b : String) :
    utf16Length (a ++ b) = utf16Length a + utf16Length b := by
  unfold utf16Length
  rw [String.toList_append, List.map_append, List.sum_append]

theorem utf8Bytes_append (a b : String) : utf8Bytes (a ++ b) = utf8Bytes a ++ utf8Bytes b := by
  unfold utf8Bytes
  rw [String.toList_append, List.flatMap_append]

theorem unitsOf_pos (c : Char) : 0 < unitsOf c := by
  unfold unitsOf
  split <;> omega

/-- Of two texts of one length, one is no proper beginning of the other. -/
theorem eq_of_prefix_of_utf16Length {a b : String} (continues : a.toList <+: b.toList)
    (same : utf16Length a = utf16Length b) : a = b := by
  obtain ⟨rest, split⟩ := continues
  have none : (rest.map unitsOf).sum = 0 := by
    unfold utf16Length at same
    rw [← split, List.map_append, List.sum_append] at same
    omega
  have empty : rest = [] := by
    cases rest with
    | nil => rfl
    | cons c rest =>
        have positive := unitsOf_pos c
        rw [List.map_cons, List.sum_cons] at none
        omega
  rw [empty, List.append_nil] at split
  exact String.toList_inj.mp split

/-- UTF-8 is a prefix code. -/
theorem prefix_of_utf8Bytes {a b : String} (continues : utf8Bytes a <+: utf8Bytes b) :
    a.toList <+: b.toList := by
  obtain ⟨rest, split⟩ := continues
  apply List.isPrefix_of_utf8Encode_append_eq_utf8Encode rest.toByteArray
  show (utf8Bytes a).toByteArray ++ rest.toByteArray = (utf8Bytes b).toByteArray
  rw [← split, List.toByteArray_append]

end Text
