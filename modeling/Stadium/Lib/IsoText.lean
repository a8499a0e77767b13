import Stadium.Lib.IsoDate
import Stadium.Lib.Text

/-!
# Instants inside longer texts

`toISOString` writes different instants differently, and no instant reads like
some text and a hyphen before another instant. A text may therefore be put
before an instant with a hyphen, whatever hyphens either contains.
-/

namespace IsoDate

theorem toISOString_injective : Function.Injective toISOString := by
  intro a b same
  have parsed := parse_toISOString a
  rw [same, parse_toISOString, Option.some_inj] at parsed
  exact parsed.symm

/-- Everything after the year, with its hyphen. -/
def afterYear (instant : ℤ) : List Char :=
  let date := civilFromDays (instant / 86400000)
  let ms := (instant % 86400000).toNat
  '-' :: padDigits 2 date.month.toNat ++ '-' ::
    padDigits 2 date.day.toNat ++ 'T' :: padDigits 2 (ms / 3600000) ++ ':' ::
    padDigits 2 (ms / 60000 % 60) ++ ':' :: padDigits 2 (ms / 1000 % 60) ++ '.' ::
    padDigits 3 (ms % 1000) ++ ['Z']

theorem toISOChars_eq (instant : ℤ) :
    toISOChars instant =
      yearText (civilFromDays (instant / 86400000)).year ++ afterYear instant := by
  simp [toISOChars, afterYear]

theorem afterYear_length (instant : ℤ) : (afterYear instant).length = 20 := by
  simp [afterYear, padDigits_length]

/-- A digit is no hyphen. -/
theorem dash_notMem_padDigits (width n : ℕ) : '-' ∉ padDigits width n := by
  intro member
  exact absurd (padDigits_isDigit width n '-' member) (by decide)

/-- No year ends in another year behind a hyphen: an unsigned year is all digits,
and a sign stands before six of them. -/
theorem yearText_ne (x : List Char) (y y' : ℤ) : yearText y ≠ x ++ '-' :: yearText y' := by
  intro same
  have dash : '-' ∈ x ++ '-' :: yearText y' := by simp
  rw [← same] at dash
  unfold yearText at same dash
  split at same
  · rename_i short
    rw [if_pos short] at dash
    exact dash_notMem_padDigits _ _ dash
  · cases x with
    | cons c x =>
        have digits := (List.cons.inj same).2
        apply dash_notMem_padDigits (max 6 (Nat.log 10 y.natAbs + 1)) y.natAbs
        rw [digits]
        simp
    | nil =>
        have digits := (List.cons.inj same).2
        split at digits
        · -- four digits are not six
          have length := congrArg List.length digits
          rw [padDigits_length, padDigits_length] at length
          omega
        · -- a sign is no digit
          have sign : (if 0 ≤ y' then '+' else '-') ∈
              padDigits (max 6 (Nat.log 10 y.natAbs + 1)) y.natAbs := by
            rw [digits]
            exact List.mem_cons_self
          have digit := padDigits_isDigit _ _ _ sign
          split at digit <;> exact absurd digit (by decide)

/-- No instant reads like something before another instant. -/
theorem toISOString_ne_join (x : String) (a b : ℤ) :
    toISOString a ≠ Text.join '-' x (toISOString b) := by
  intro same
  have chars := congrArg String.toList same
  rw [Text.toList_join, toISOString, toISOString, String.toList_ofList, String.toList_ofList,
    toISOChars_eq, toISOChars_eq, ← List.cons_append, ← List.append_assoc] at chars
  obtain ⟨years, -⟩ := List.append_inj' chars (by rw [afterYear_length, afterYear_length])
  exact yearText_ne _ _ _ years

/-- Texts before two instants can be told apart. -/
theorem join_toISOString_inj {x y : String} {a b : ℤ} :
    Text.join '-' x (toISOString a) = Text.join '-' y (toISOString b) ↔ x = y ∧ a = b := by
  rw [Text.join_eq_join_iff]
  constructor
  · rintro (⟨rfl, same⟩ | ⟨z, -, same⟩ | ⟨z, -, same⟩)
    · exact ⟨rfl, toISOString_injective same⟩
    · exact absurd same (toISOString_ne_join z a b)
    · exact absurd same (toISOString_ne_join z b a)
  · rintro ⟨rfl, rfl⟩
    exact .inl ⟨rfl, rfl⟩

end IsoDate
