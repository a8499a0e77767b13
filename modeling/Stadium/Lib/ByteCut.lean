import Stadium.Lib.Text

/-!
# Texts cut at a number of bytes

`within room text` is what of a text lies in its first `room` bytes of UTF-8. A text that
is longer has a twin: another text of the same length in UTF-16 code units whose first
`room` bytes are the same, which begins alike and goes on in harmless characters
(`exists_twin`). The cut may go through a character; its twin is a character of the same
block of 64, which differs from it in the last byte alone.
-/

namespace Text

/-- The UTF-8 encoding of a sequence of characters. -/
def bytes (text : List Char) : List UInt8 := text.flatMap String.utf8EncodeChar

@[simp] theorem bytes_nil : bytes [] = [] := rfl

@[simp] theorem bytes_cons (c : Char) (rest : List Char) :
    bytes (c :: rest) = String.utf8EncodeChar c ++ bytes rest := List.flatMap_cons

@[simp] theorem bytes_append (a b : List Char) : bytes (a ++ b) = bytes a ++ bytes b :=
  List.flatMap_append

theorem utf8Bytes_ofList (text : List Char) : utf8Bytes (String.ofList text) = bytes text := by
  unfold utf8Bytes
  rw [String.toList_ofList]
  rfl

/-- The characters that lie as a whole within the first `room` bytes. -/
def within : ℕ → List Char → List Char
  | _, [] => []
  | room, c :: rest =>
      if c.utf8Size ≤ room then c :: within (room - c.utf8Size) rest else []

theorem within_prefix (room : ℕ) (text : List Char) : within room text <+: text := by
  induction text generalizing room with
  | nil => exact List.prefix_rfl
  | cons c rest ih =>
      rw [within]
      split
      · exact List.cons_prefix_cons.mpr ⟨rfl, ih _⟩
      · exact List.nil_prefix

theorem length_within (room : ℕ) (text : List Char) : (bytes (within room text)).length ≤ room := by
  induction text generalizing room with
  | nil => exact Nat.zero_le _
  | cons c rest ih =>
      rw [within]
      split
      · next fits =>
          have later := ih (room - c.utf8Size)
          rw [bytes_cons, List.length_append, String.length_utf8EncodeChar]
          omega
      · exact Nat.zero_le _

/-- The cut goes through the character behind what lies within, or in front of it. -/
theorem split_within {room : ℕ} {text : List Char} (longer : room < (bytes text).length) :
    ∃ c rest, text = within room text ++ c :: rest ∧
      room < (bytes (within room text)).length + c.utf8Size := by
  induction text generalizing room with
  | nil => exact absurd longer (Nat.not_lt_zero _)
  | cons c rest ih =>
      rw [bytes_cons, List.length_append, String.length_utf8EncodeChar] at longer
      rw [within]
      split
      · next fits =>
          have longer : room - c.utf8Size < (bytes rest).length := by omega
          obtain ⟨last, after, same, cut⟩ := ih longer
          refine ⟨last, after, congrArg (c :: ·) same, ?_⟩
          rw [bytes_cons, List.length_append, String.length_utf8EncodeChar]
          omega
      · next tooLong => exact ⟨c, rest, rfl, by simpa using tooLong⟩

/-! ## Characters that differ in their last byte -/

/-- The character of the same block of 64 with the last six bits 48, or 49 where they
are 48 already. -/
def twin (c : Char) : Char :=
  .ofNat (64 * (c.toNat / 64) + if c.toNat % 64 = 48 then 49 else 48)

/-- A block of 64 has only characters or none. -/
theorem toNat_twin (c : Char) :
    (twin c).toNat = 64 * (c.toNat / 64) + if c.toNat % 64 = 48 then 49 else 48 := by
  have valid : c.toNat.isValidChar := c.valid
  have block : (64 * (c.toNat / 64) + if c.toNat % 64 = 48 then 49 else 48).isValidChar := by
    unfold Nat.isValidChar at valid ⊢
    split <;> omega
  unfold twin Char.ofNat
  rw [dif_pos block]
  rfl

theorem twin_ne (c : Char) : twin c ≠ c := by
  intro same
  have value := congrArg Char.toNat same
  rw [toNat_twin] at value
  split at value <;> omega

theorem block_twin (c : Char) : (twin c).toNat / 64 = c.toNat / 64 := by
  rw [toNat_twin]
  split <;> omega

section

variable {a b : Char} (block : a.toNat / 64 = b.toNat / 64)

include block

/-- The sizes of encodings change between blocks only. -/
theorem le_iff_of_block (bound : ℕ) (between : 64 ∣ bound + 1) :
    a.val.toNat ≤ bound ↔ b.val.toNat ≤ bound := by
  unfold Char.toNat at block
  omega

theorem utf8Size_eq_of_block : a.utf8Size = b.utf8Size := by
  have one := le_iff_of_block block 0x7f (by decide)
  have two := le_iff_of_block block 0x7ff (by decide)
  have three := le_iff_of_block block 0xffff (by decide)
  unfold Char.utf8Size
  simp only [UInt32.le_iff_toNat_le, UInt32.toNat_ofNatLT, one, two, three]

theorem unitsOf_eq_of_block : unitsOf a = unitsOf b := by
  have same : a.toNat < 0x10000 ↔ b.toNat < 0x10000 := by omega
  unfold unitsOf
  simp only [same]

/-- All but the last byte of an encoding depends on the block alone. -/
theorem dropLast_utf8EncodeChar_of_block :
    (String.utf8EncodeChar a).dropLast = (String.utf8EncodeChar b).dropLast := by
  have one := le_iff_of_block block 0x7f (by decide)
  have two := le_iff_of_block block 0x7ff (by decide)
  have three := le_iff_of_block block 0xffff (by decide)
  unfold Char.toNat at block
  have second : a.val.toNat / 4096 = b.val.toNat / 4096 := by omega
  have third : a.val.toNat / 262144 = b.val.toNat / 262144 := by omega
  unfold String.utf8EncodeChar
  simp only [one, two, three, block, second, third]
  split_ifs <;> rfl

end

/-- A character of a twin's kind: no blank, no comma, no colon. -/
def Harmless (c : Char) : Prop := c.toNat % 64 = 48 ∨ c.toNat % 64 = 49

instance (c : Char) : Decidable (Harmless c) := inferInstanceAs (Decidable (_ ∨ _))

theorem harmless_twin (c : Char) : Harmless (twin c) := by
  unfold Harmless
  rw [toNat_twin]
  split <;> omega

theorem Harmless.isWhiteSpace {c : Char} (harmless : Harmless c) : isWhiteSpace c = false := by
  rw [← Bool.not_eq_true]
  intro blank
  unfold Text.isWhiteSpace at blank
  rw [Bool.or_eq_true, Bool.and_eq_true, decide_eq_true_eq, decide_eq_true_eq,
    decide_eq_true_eq] at blank
  unfold Harmless at harmless
  rcases blank with listed | ⟨least, most⟩
  · simp only [List.mem_cons, List.not_mem_nil, or_false] at listed
    rcases listed with rfl | rfl | rfl | rfl | rfl | rfl | rfl | rfl | rfl | rfl | rfl | rfl |
      rfl | rfl <;> exact absurd harmless (by decide)
  · have least : 0x2000 ≤ c.toNat := least
    have most : c.toNat ≤ 0x200A := most
    omega

/-! ## Texts that are cut alike -/

/-- **A text that is cut has a twin**: it begins with what lies within, goes on in
harmless characters, has the same length in code units and the same first bytes. -/
theorem exists_twin {room : ℕ} {text : List Char} (longer : room < (bytes text).length) :
    ∃ rest, (∀ c ∈ rest, Harmless c) ∧ rest ≠ [] ∧ within room text ++ rest ≠ text ∧
      ((within room text ++ rest).map unitsOf).sum = (text.map unitsOf).sum ∧
      room ≤ (bytes (within room text ++ rest)).length ∧
      (bytes (within room text ++ rest)).take room = (bytes text).take room := by
  obtain ⟨c, after, same, cut⟩ := split_within longer
  have fits := length_within room text
  generalize within room text = start at *
  subst same
  let units := (after.map unitsOf).sum
  have size : (twin c).utf8Size = c.utf8Size := utf8Size_eq_of_block (block_twin c)
  refine ⟨twin c :: List.replicate units '0', ?_, List.cons_ne_nil _ _, ?_, ?_, ?_, ?_⟩
  · intro d listed
    rcases List.mem_cons.mp listed with rfl | filled
    · exact harmless_twin c
    · rw [List.eq_of_mem_replicate filled]
      exact .inl rfl
  · intro same
    exact twin_ne c (List.cons.inj (List.append_cancel_left same)).1
  · simp only [List.map_append, List.map_cons, List.map_replicate, List.sum_append, List.sum_cons,
      List.sum_replicate, unitsOf_eq_of_block (block_twin c)]
    simp [unitsOf, units]
  · rw [bytes_append, bytes_cons, List.length_append, List.length_append,
      String.length_utf8EncodeChar, size]
    omega
  · -- of the character that is cut only bytes other than its last remain
    have remains : ∀ d : Char, d.utf8Size = c.utf8Size → ∀ more : List UInt8,
        (bytes start ++ (String.utf8EncodeChar d ++ more)).take room =
          bytes start ++ (String.utf8EncodeChar d).dropLast.take (room - (bytes start).length) := by
      intro d sameSize more
      have length : (String.utf8EncodeChar d).length = c.utf8Size := by
        rw [String.length_utf8EncodeChar, sameSize]
      rw [List.take_append, List.take_of_length_le fits,
        List.take_append_of_le_length (by omega), List.dropLast_eq_take, List.take_take,
        min_eq_left (by omega)]
    rw [bytes_append, bytes_append, bytes_cons, bytes_cons, remains (twin c) size,
      remains c rfl, dropLast_utf8EncodeChar_of_block (block_twin c)]

end Text
