import Stadium.Lib.IsoDate

/-!
# The order of texts

`a < b` on strings compares their UTF-16 code units from the left. Texts made
of decimal fields of fixed widths, each with its own separator, compare like
the lists of their numbers.
-/

namespace Text

/-- The UTF-16 code units of a character; beyond the first 65536 characters a
pair of surrogates. -/
def codeUnitsOf (c : Char) : List ℕ :=
  if c.toNat < 0x10000 then [c.toNat]
  else [0xD800 + (c.toNat - 0x10000) / 0x400, 0xDC00 + (c.toNat - 0x10000) % 0x400]

def codeUnits (text : List Char) : List ℕ := text.flatMap codeUnitsOf

/-- `a < b` on strings. -/
def Before (a b : String) : Prop := codeUnits a.toList < codeUnits b.toList

instance (a b : String) : Decidable (Before a b) :=
  inferInstanceAs (Decidable (codeUnits a.toList < codeUnits b.toList))

theorem not_before {a b : String} :
    ¬ Before a b ↔ codeUnits b.toList ≤ codeUnits a.toList :=
  not_lt

theorem codeUnits_append (first second : List Char) :
    codeUnits (first ++ second) = codeUnits first ++ codeUnits second :=
  List.flatMap_append

theorem codeUnits_cons (c : Char) (rest : List Char) :
    codeUnits (c :: rest) = codeUnitsOf c ++ codeUnits rest :=
  List.flatMap_cons

/-- The first difference decides, whatever follows it. -/
theorem append_lt_append {a b : List ℕ} (same : a.length = b.length) (less : a < b)
    (x y : List ℕ) : a ++ x < b ++ y := by
  induction a generalizing b with
  | nil =>
      obtain rfl := List.eq_nil_of_length_eq_zero same.symm
      exact absurd less (lt_irrefl _)
  | cons m a ih =>
      cases b with
      | nil => cases same
      | cons n b =>
          rw [List.cons_append, List.cons_append, List.cons_lt_cons_iff]
          rcases List.cons_lt_cons_iff.mp less with now | ⟨rfl, later⟩
          · exact .inl now
          · exact .inr ⟨rfl, ih (Nat.succ.inj same) later⟩

/-! ## Decimal fields -/

open IsoDate

theorem codeUnitsOf_digitChar {d : ℕ} (h : d < 10) :
    codeUnitsOf (Nat.digitChar d) = [48 + d] := by
  interval_cases d <;> decide

theorem codeUnits_padDigits_succ (width n : ℕ) :
    codeUnits (padDigits (width + 1) n) =
      codeUnits (padDigits width (n / 10)) ++ [48 + n % 10] := by
  rw [padDigits, codeUnits_append, codeUnits_cons,
    codeUnitsOf_digitChar (Nat.mod_lt n (by omega))]
  rfl

theorem codeUnits_padDigits_length (width n : ℕ) :
    (codeUnits (padDigits width n)).length = width := by
  induction width generalizing n with
  | zero => rfl
  | succ width ih =>
      rw [codeUnits_padDigits_succ, List.length_append, ih]
      rfl

/-- Fields of one width compare like their numbers. -/
theorem codeUnits_padDigits_lt {width n m : ℕ} (small : m < 10 ^ width) (less : n < m) :
    codeUnits (padDigits width n) < codeUnits (padDigits width m) := by
  induction width generalizing n m with
  | zero => omega
  | succ width ih =>
      rw [codeUnits_padDigits_succ, codeUnits_padDigits_succ]
      have lengths : (codeUnits (padDigits width (n / 10))).length =
          (codeUnits (padDigits width (m / 10))).length := by
        rw [codeUnits_padDigits_length, codeUnits_padDigits_length]
      rw [pow_succ] at small
      rcases Nat.lt_or_ge (n / 10) (m / 10) with front | front
      · have next : m / 10 < 10 ^ width := by omega
        exact append_lt_append lengths (ih next front) _ _
      · -- the fields differ in the last digit only
        have same : n / 10 = m / 10 := by omega
        rw [same]
        apply List.append_left_lt
        rw [List.cons_lt_cons_iff]
        exact .inl (by omega)

/-- Numbers in decimal fields of given widths, each followed by its
separator. -/
def render : List (ℕ × Char) → List ℕ → List Char
  | (width, separator) :: shape, n :: ns => padDigits width n ++ separator :: render shape ns
  | _, _ => []

/-- The numbers fit into the fields. -/
def Fit (shape : List (ℕ × Char)) (numbers : List ℕ) : Prop :=
  List.Forall₂ (fun field n => n < 10 ^ field.1) shape numbers

/-- **Texts of one shape compare like the lists of their numbers.** -/
theorem codeUnits_render_lt {shape : List (ℕ × Char)} {ns ms : List ℕ} (fits : Fit shape ns)
    (fits' : Fit shape ms) (less : ns < ms) :
    codeUnits (render shape ns) < codeUnits (render shape ms) := by
  unfold Fit at fits fits'
  induction fits generalizing ms with
  | nil =>
      cases fits'
      exact absurd less (lt_irrefl _)
  | @cons field n shape ns small _ ih =>
      obtain ⟨width, separator⟩ := field
      cases fits' with
      | @cons _ m _ ms small' fits' =>
          rw [render, render, codeUnits_append, codeUnits_append]
          rcases List.cons_lt_cons_iff.mp less with now | ⟨rfl, later⟩
          · refine append_lt_append ?_ (codeUnits_padDigits_lt small' now) _ _
            rw [codeUnits_padDigits_length, codeUnits_padDigits_length]
          · apply List.append_left_lt
            rw [codeUnits_cons, codeUnits_cons]
            exact List.append_left_lt (ih fits' later)

end Text
