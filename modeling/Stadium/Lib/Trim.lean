import Stadium.Lib.Text

/-!
# Trimmed texts

A text that neither begins nor ends with a blank is what `trim` leaves of it, whatever
blanks stand around it.
-/

namespace Text

/-- A text neither begins nor ends with a blank. -/
def Bare (text : List Char) : Prop :=
  (∀ c ∈ text.head?, isWhiteSpace c = false) ∧ ∀ c ∈ text.getLast?, isWhiteSpace c = false

theorem dropWhile_bare {text : List Char} (head : ∀ c ∈ text.head?, isWhiteSpace c = false)
    (after : List Char) (nonempty : text ≠ []) :
    (text ++ after).dropWhile isWhiteSpace = text ++ after := by
  cases text with
  | nil => exact absurd rfl nonempty
  | cons first rest =>
      have solid := head first rfl
      simp [solid]

theorem rdropWhile_append_blank {after : List Char} (blank : ∀ c ∈ after, isWhiteSpace c = true)
    (text : List Char) :
    (text ++ after).rdropWhile isWhiteSpace = text.rdropWhile isWhiteSpace := by
  induction after using List.reverseRecOn with
  | nil => rw [List.append_nil]
  | append_singleton earlier last ih =>
      rw [← List.append_assoc, List.rdropWhile_concat_pos _ _ _ (blank last (by simp))]
      exact ih fun c listed => blank c (by simp [listed])

theorem rdropWhile_bare {text : List Char}
    (last : ∀ c ∈ text.getLast?, isWhiteSpace c = false) :
    text.rdropWhile isWhiteSpace = text := by
  rw [List.rdropWhile_eq_self_iff]
  intro nonempty
  rw [last _ (List.getLast?_eq_getLast_of_ne_nil nonempty)]
  exact Bool.false_ne_true

theorem trim_padded {text before after : List Char} (bare : Bare text) (nonempty : text ≠ [])
    (blankBefore : ∀ c ∈ before, isWhiteSpace c = true)
    (blankAfter : ∀ c ∈ after, isWhiteSpace c = true) :
    trim (before ++ (text ++ after)) = text := by
  unfold trim
  rw [List.dropWhile_append_of_pos blankBefore, dropWhile_bare bare.1 after nonempty,
    rdropWhile_append_blank blankAfter, rdropWhile_bare bare.2]

theorem trim_bare {text : List Char} (bare : Bare text) : trim text = text := by
  by_cases empty : text = []
  · rw [empty]
    rfl
  · have padded : trim ([] ++ (text ++ [])) = text := trim_padded bare empty nofun nofun
    rwa [List.nil_append, List.append_nil] at padded

/-- A trimmed text is bare. -/
theorem bare_of_trim_eq {text : List Char} (trimmed : trim text = text) : Bare text := by
  unfold trim at trimmed
  have shorter : (text.dropWhile isWhiteSpace).length ≤ text.length :=
    (List.dropWhile_sublist isWhiteSpace).length_le
  have kept : text.dropWhile isWhiteSpace = text := by
    have longer := (List.rdropWhile_prefix isWhiteSpace (l := text.dropWhile
      isWhiteSpace)).length_le
    rw [trimmed] at longer
    exact (List.dropWhile_sublist isWhiteSpace).eq_of_length (le_antisymm shorter longer)
  rw [kept] at trimmed
  constructor
  · intro c first
    cases text with
    | nil => cases first
    | cons head rest =>
        cases first
        cases blank : isWhiteSpace c with
        | false => rfl
        | true =>
            rw [List.dropWhile_cons_of_pos blank] at kept
            have length := congrArg List.length kept
            have := (List.dropWhile_sublist isWhiteSpace (l := rest)).length_le
            rw [List.length_cons] at length
            omega
  · intro c last
    have nonempty : text ≠ [] := by
      rintro rfl
      cases last
    have solid := List.rdropWhile_eq_self_iff.mp trimmed nonempty
    rw [List.getLast?_eq_getLast_of_ne_nil nonempty] at last
    cases last
    simpa using solid

/-- What is trimmed is bare. -/
theorem bare_trim (text : List Char) : Bare (trim text) := by
  have front : trim text <+: text.dropWhile isWhiteSpace := List.rdropWhile_prefix _ _
  constructor
  · intro c first
    obtain ⟨rest, split⟩ := front
    have head : (text.dropWhile isWhiteSpace).head? = some c := by
      rw [← split, List.head?_append, Option.mem_def.mp first]
      rfl
    have solid := List.head?_dropWhile_not isWhiteSpace text
    rw [head] at solid
    simpa using solid
  · intro c last
    have nonempty : trim text ≠ [] := by
      rintro none
      rw [none] at last
      cases last
    rw [List.getLast?_eq_getLast_of_ne_nil nonempty] at last
    cases last
    have solid := List.rdropWhile_last_not isWhiteSpace (text.dropWhile isWhiteSpace) nonempty
    exact Bool.eq_false_of_not_eq_true solid

theorem trim_subset (text : List Char) : trim text ⊆ text := fun _ listed =>
  (List.dropWhile_suffix isWhiteSpace).subset ((List.rdropWhile_prefix _ _).subset listed)

/-- What stands between two bare texts does not matter to the ends. -/
theorem Bare.around {first last : List Char} (bareFirst : Bare first)
    (bareLast : Bare last) (someFirst : first ≠ []) (someLast : last ≠ [])
    (middle : List Char) : Bare (first ++ (middle ++ last)) := by
  constructor
  · rw [List.head?_append_of_ne_nil _ someFirst]
    exact bareFirst.1
  · rw [List.getLast?_append_of_ne_nil _ (by simp [someLast]),
      List.getLast?_append_of_ne_nil _ someLast]
    exact bareLast.2

theorem intercalate_solid (sep : List Char) {texts : List (List Char)}
    (solid : ∀ text ∈ texts, text ≠ [] ∧ Bare text) (nonempty : texts ≠ []) :
    sep.intercalate texts ≠ [] ∧ Bare (sep.intercalate texts) := by
  induction texts with
  | nil => exact absurd rfl nonempty
  | cons first rest ih =>
      obtain ⟨someFirst, bareFirst⟩ := solid first List.mem_cons_self
      cases rest with
      | nil =>
          rw [List.intercalate_singleton]
          exact ⟨someFirst, bareFirst⟩
      | cons second others =>
          obtain ⟨someRest, bareRest⟩ := ih
            (fun text listed => solid text (List.mem_cons_of_mem first listed))
            (List.cons_ne_nil second others)
          rw [List.intercalate_cons_cons, List.append_assoc]
          exact ⟨by simp [someFirst], bareFirst.around bareRest someFirst someRest sep⟩

theorem mem_intercalate {sep : List Char} {texts : List (List Char)} {c : Char}
    (listed : c ∈ sep.intercalate texts) : c ∈ sep ∨ ∃ text ∈ texts, c ∈ text := by
  induction texts with
  | nil => cases listed
  | cons first rest ih =>
      cases rest with
      | nil =>
          rw [List.intercalate_singleton] at listed
          exact .inr ⟨first, List.mem_cons_self, listed⟩
      | cons second others =>
          rw [List.intercalate_cons_cons, List.append_assoc] at listed
          rcases List.mem_append.mp listed with own | later
          · exact .inr ⟨first, List.mem_cons_self, own⟩
          · rcases List.mem_append.mp later with between | behind
            · exact .inl between
            · rcases ih behind with between | ⟨text, member, inside⟩
              · exact .inl between
              · exact .inr ⟨text, List.mem_cons_of_mem first member, inside⟩

/-- Blanks have no case. -/
theorem toLower_blank {c : Char} (blank : isWhiteSpace c = true) : c.toLower = c := by
  unfold isWhiteSpace at blank
  rw [Bool.or_eq_true, Bool.and_eq_true, decide_eq_true_eq, decide_eq_true_eq,
    decide_eq_true_eq] at blank
  rcases blank with listed | ⟨least, -⟩
  · simp only [List.mem_cons, List.not_mem_nil, or_false] at listed
    rcases listed with rfl | rfl | rfl | rfl | rfl | rfl | rfl | rfl | rfl | rfl | rfl | rfl |
      rfl | rfl <;> rfl
  · unfold Char.toLower
    split
    · next upper =>
      have least : 0x2000 ≤ c.val.toNat := least
      have most : c.val.toNat ≤ 0x5A := upper.2
      omega
    · rfl

/-! ## Code units and bytes -/

theorem utf16Length_le (text : String) : utf16Length text ≤ (utf8Bytes text).length := by
  unfold utf16Length utf8Bytes
  rw [List.length_flatMap]
  refine List.sum_le_sum fun c _ => ?_
  rw [String.length_utf8EncodeChar]
  unfold unitsOf
  split
  · exact c.utf8Size_pos
  · next large =>
      unfold Char.utf8Size
      have size : 0x10000 ≤ c.val.toNat := by
        unfold Char.toNat at large
        omega
      simp only [UInt32.le_iff_toNat_le]
      split_ifs <;> simp_all
      omega

end Text
