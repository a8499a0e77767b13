import Stadium.Lib.IsoOrder

/-!
# RFC 3339 date-times

The `date-time` format of the API: a date with a year of four digits, a time
with any number of fractional digits, and `Z` or an offset from UTC. Letters
may be small. A text denotes an exact instant in milliseconds, which need not
be whole; a leap second counts as the first second after it.

`DateTime` is a text together with its instant. What `toISOString` writes of an
instant with a year of four digits is such a text and denotes that instant
(`instant_toISOString`).
-/

namespace Rfc3339

open IsoDate

/-- The calendar has the date: counting its days leads back to it. -/
def IsDate (year month day : ℤ) : Prop :=
  (civilFromDays (daysFromCivil year month day)).fields = [year, month, day]

instance (year month day : ℤ) : Decidable (IsDate year month day) :=
  inferInstanceAs (Decidable (_ = _))

/-- Read a letter, in either case. -/
def letter (upper lower : Char) : List Char → Option (List Char)
  | head :: rest => if head = upper ∨ head = lower then some rest else none
  | [] => none

/-- The optional fraction of a second, in milliseconds. -/
def fraction : List Char → Option (ℚ × List Char)
  | '.' :: text =>
      if (digitRun text).1 = [] then none
      else some (digitsValue (digitRun text).1 * 1000 / 10 ^ (digitRun text).1.length,
        (digitRun text).2)
  | text => some (0, text)

/-- The offset from UTC, as minutes east of it; nothing may follow it. -/
def offset : List Char → Option ℤ
  | [sign, h1, h0, ':', m1, m0] => zone.offset sign [h1, h0] [m1, m0]
  | text => (letter 'Z' 'z' text).bind fun rest => if rest = [] then some 0 else none

/-- The instant a `date-time` denotes. -/
def instantOfChars (text : List Char) : Option ℚ := do
  let (y, text) ← number 4 text
  let (mo, text) ← number 2 (← expect '-' text)
  let (d, text) ← number 2 (← expect '-' text)
  let (h, text) ← number 2 (← letter 'T' 't' text)
  let (mi, text) ← number 2 (← expect ':' text)
  let (s, text) ← number 2 (← expect ':' text)
  let (ms, text) ← fraction text
  let east ← offset text
  if IsDate y mo d ∧ h ≤ 23 ∧ mi ≤ 59 ∧ s ≤ 60 then
    some (daysFromCivil y mo d * 86400000 + h * 3600000 + mi * 60000 + s * 1000 + ms -
      east * 60000)
  else none

/-- The instant a text denotes; nothing when it is no `date-time`. -/
def instant? (text : String) : Option ℚ := instantOfChars text.toList

/-- A valid `date-time`. -/
structure DateTime where
  text : String
  instant : ℚ
  reads : instant? text = some instant

/-! ## The texts of `toISOString` -/

theorem fraction_padDigits {n : ℕ} (h : n < 1000) :
    fraction ('.' :: (padDigits 3 n ++ ['Z'])) = some ((n : ℚ), ['Z']) := by
  have run := digitRun_append (padDigits_isDigit 3 n) (by decide : Char.isDigit 'Z' = false) []
  have three := padDigits_length 3 n
  have nonempty : padDigits 3 n ≠ [] := by
    intro empty
    rw [empty] at three
    cases three
  simp only [fraction, run, if_neg nonempty, three, digitsValue_padDigits 3 n h]
  norm_num

theorem offset_utc : offset ['Z'] = some 0 := rfl

theorem letter_cons (upper lower : Char) (rest : List Char) :
    letter upper lower (upper :: rest) = some rest :=
  if_pos (.inl rfl)

/-- A text is read field by field. -/
theorem instantOfChars_eq {y mo d h mi s : ℕ} {ms : ℚ}
    {text date days hours minutes seconds time : List Char}
    (years : number 4 text = some (y, '-' :: date))
    (months : number 2 date = some (mo, '-' :: days))
    (dayField : number 2 days = some (d, 'T' :: hours))
    (hourField : number 2 hours = some (h, ':' :: minutes))
    (minuteField : number 2 minutes = some (mi, ':' :: seconds))
    (secondField : number 2 seconds = some (s, time))
    (fractionField : fraction time = some (ms, ['Z']))
    (valid : IsDate y mo d ∧ h ≤ 23 ∧ mi ≤ 59 ∧ s ≤ 60) :
    instantOfChars text =
      some (daysFromCivil y mo d * 86400000 + h * 3600000 + mi * 60000 + s * 1000 + ms) := by
  refine Option.bind_eq_some_iff.mpr ⟨_, years, ?_⟩
  refine Option.bind_eq_some_iff.mpr ⟨_, expect_cons '-' date, ?_⟩
  refine Option.bind_eq_some_iff.mpr ⟨_, months, ?_⟩
  refine Option.bind_eq_some_iff.mpr ⟨_, expect_cons '-' days, ?_⟩
  refine Option.bind_eq_some_iff.mpr ⟨_, dayField, ?_⟩
  refine Option.bind_eq_some_iff.mpr ⟨_, letter_cons 'T' 't' hours, ?_⟩
  refine Option.bind_eq_some_iff.mpr ⟨_, hourField, ?_⟩
  refine Option.bind_eq_some_iff.mpr ⟨_, expect_cons ':' minutes, ?_⟩
  refine Option.bind_eq_some_iff.mpr ⟨_, minuteField, ?_⟩
  refine Option.bind_eq_some_iff.mpr ⟨_, expect_cons ':' seconds, ?_⟩
  refine Option.bind_eq_some_iff.mpr ⟨_, secondField, ?_⟩
  refine Option.bind_eq_some_iff.mpr ⟨_, fractionField, ?_⟩
  refine Option.bind_eq_some_iff.mpr ⟨_, offset_utc, ?_⟩
  rw [if_pos valid, Int.cast_zero, zero_mul, sub_zero]

/-- **The text of an instant denotes it.** -/
theorem instant_toISOString {instant : ℤ} (low : earliest ≤ instant) (high : instant ≤ latest) :
    instant? (toISOString instant) = some (instant : ℚ) := by
  obtain ⟨yearLow, yearHigh⟩ := year_bounds low high
  obtain ⟨monthLow, monthHigh, dayLow, dayHigh, counted⟩ :=
    civilFromDays_spec (instant / 86400000)
  obtain ⟨date, hdate⟩ : ∃ date, date = civilFromDays (instant / 86400000) := ⟨_, rfl⟩
  obtain ⟨ms, hms⟩ : ∃ ms, ms = (instant % 86400000).toNat := ⟨_, rfl⟩
  have text : (toISOString instant).toList =
      padDigits 4 date.year.toNat ++ '-' :: (padDigits 2 date.month.toNat ++ '-' ::
        (padDigits 2 date.day.toNat ++ 'T' :: (padDigits 2 (ms / 3600000) ++ ':' ::
        (padDigits 2 (ms / 60000 % 60) ++ ':' :: (padDigits 2 (ms / 1000 % 60) ++ '.' ::
        (padDigits 3 (ms % 1000) ++ ['Z'])))))) := by
    subst hdate hms
    simp [toISOString, toISOChars, yearText, yearLow, yearHigh]
  rw [← hdate] at yearLow yearHigh monthLow monthHigh dayLow dayHigh counted
  have dash : Char.isDigit '-' = false := by decide
  have tee : Char.isDigit 'T' = false := by decide
  have colon : Char.isDigit ':' = false := by decide
  have dot : Char.isDigit '.' = false := by decide
  have bounded : ms < 86400000 := by omega
  have year : ((date.year.toNat : ℕ) : ℤ) = date.year := Int.toNat_of_nonneg yearLow
  have month : ((date.month.toNat : ℕ) : ℤ) = date.month := Int.toNat_of_nonneg (by omega)
  have day : ((date.day.toNat : ℕ) : ℤ) = date.day := Int.toNat_of_nonneg (by omega)
  have valid : IsDate date.year.toNat date.month.toNat date.day.toNat ∧ ms / 3600000 ≤ 23 ∧
      ms / 60000 % 60 ≤ 59 ∧ ms / 1000 % 60 ≤ 60 := by
    refine ⟨?_, by omega, by omega, by omega⟩
    unfold IsDate
    rw [year, month, day, counted, ← hdate]
    rfl
  have total : ms / 3600000 * 3600000 + ms / 60000 % 60 * 60000 + ms / 1000 % 60 * 1000 +
      ms % 1000 = ms := by omega
  have split : instant = instant / 86400000 * 86400000 + ms := by omega
  rw [instant?, text, instantOfChars_eq (number_padDigits (by omega : date.year.toNat < 10 ^ 4)
      dash _)
    (number_padDigits (by omega : date.month.toNat < 10 ^ 2) dash _)
    (number_padDigits (by omega : date.day.toNat < 10 ^ 2) tee _)
    (number_padDigits (by omega : ms / 3600000 < 10 ^ 2) colon _)
    (number_padDigits (by omega : ms / 60000 % 60 < 10 ^ 2) colon _)
    (number_padDigits (by omega : ms / 1000 % 60 < 10 ^ 2) dot _)
    (fraction_padDigits (Nat.mod_lt ms (by omega))) valid, year, month, day, counted,
    Option.some_inj]
  have whole : (instant : ℚ) = (instant / 86400000 : ℤ) * 86400000 + (ms : ℚ) := by
    exact_mod_cast split
  have parts : ((ms / 3600000 : ℕ) : ℚ) * 3600000 + ((ms / 60000 % 60 : ℕ) : ℚ) * 60000 +
      ((ms / 1000 % 60 : ℕ) : ℚ) * 1000 + ((ms % 1000 : ℕ) : ℚ) = ms := by
    exact_mod_cast total
  rw [whole, ← parts]
  ring

example : instant? "2026-06-01t14:30:00.1239+02:30" = some (1780315200123 + 9 / 10) := by
  decide +kernel

example : instant? "2026-02-30T12:00:00Z" = none := by decide +kernel

end Rfc3339
