import Mathlib

/-!
# ISO 8601 instants

Instants are milliseconds since 1970-01-01T00:00:00Z. `toISOString` renders
an instant in UTC with millisecond precision (`2026-06-01T12:00:00.000Z`,
years outside 0..9999 with a sign and at least six digits), and `parse`
reads a date-time with optional fraction and with `Z` or a numeric offset
back. `parse_toISOString` is the round trip; it needs no bound on the
instant.

Calendar dates are converted by counting days in 400-year eras whose years
begin in March, so that the leap day is the last day of its year.
-/

namespace IsoDate

/-! ## The calendar -/

/-- Days from 1970-01-01 to a date of the proleptic Gregorian calendar. -/
def daysFromCivil (year month day : ℤ) : ℤ :=
  let y := if month ≤ 2 then year - 1 else year
  let era := y / 400
  let yoe := y - era * 400
  let doy := (153 * (if 2 < month then month - 3 else month + 9) + 2) / 5 + day - 1
  era * 146097 + (yoe * 365 + yoe / 4 - yoe / 100 + doy) - 719468

/-- A calendar date. -/
structure Civil where
  year : ℤ
  month : ℤ
  day : ℤ

/-- The date a number of days after 1970-01-01: peel off the era, then whole
centuries, four-year cycles and years (the last of each may be a day longer,
hence the caps). -/
def civilFromDays (days : ℤ) : Civil :=
  let era := (days + 719468) / 146097
  let doe := days + 719468 - era * 146097
  let centuries := min (doe / 36524) 3
  let doc := doe - centuries * 36524
  let cycles := doc / 1461
  let years := min ((doc - cycles * 1461) / 365) 3
  let doy := doc - cycles * 1461 - years * 365
  let mp := (5 * doy + 2) / 153
  let month := if mp < 10 then mp + 3 else mp - 9
  { year := 100 * centuries + 4 * cycles + years + era * 400 + (if month ≤ 2 then 1 else 0)
    month
    day := doy - (153 * mp + 2) / 5 + 1 }

/-- Counting the days of an era date back gives the day of the era. -/
theorem era_roundtrip {doe centuries doc cycles years doy : ℤ} (low : 0 ≤ doe)
    (high : doe ≤ 146096) (hcenturies : centuries = min (doe / 36524) 3)
    (hdoc : doc = doe - centuries * 36524) (hcycles : cycles = doc / 1461)
    (hyears : years = min ((doc - cycles * 1461) / 365) 3)
    (hdoy : doy = doc - cycles * 1461 - years * 365) :
    0 ≤ 100 * centuries + 4 * cycles + years ∧
    100 * centuries + 4 * cycles + years ≤ 399 ∧ 0 ≤ doy ∧ doy ≤ 365 ∧
    (100 * centuries + 4 * cycles + years) * 365 +
      (100 * centuries + 4 * cycles + years) / 4 -
      (100 * centuries + 4 * cycles + years) / 100 + doy = doe := by
  have docBounds : 0 ≤ doc ∧ doc ≤ 36524 := by omega
  have yearBounds : 0 ≤ years ∧ years ≤ 3 ∧ 0 ≤ doy ∧ doy ≤ 365 := by omega
  have fourth : (100 * centuries + 4 * cycles + years) / 4 = 25 * centuries + cycles := by omega
  have hundredth : (100 * centuries + 4 * cycles + years) / 100 = centuries := by omega
  rw [fourth, hundredth]
  omega

/-- The date of a day has a month and a day in range and counts back to that
day. -/
theorem civilFromDays_spec (days : ℤ) :
    1 ≤ (civilFromDays days).month ∧ (civilFromDays days).month ≤ 12 ∧
    1 ≤ (civilFromDays days).day ∧ (civilFromDays days).day ≤ 31 ∧
    daysFromCivil (civilFromDays days).year (civilFromDays days).month
      (civilFromDays days).day = days := by
  obtain ⟨era, hera⟩ : ∃ era, era = (days + 719468) / 146097 := ⟨_, rfl⟩
  obtain ⟨doe, hdoe⟩ : ∃ doe, doe = days + 719468 - era * 146097 := ⟨_, rfl⟩
  obtain ⟨centuries, hcenturies⟩ : ∃ n, n = min (doe / 36524) 3 := ⟨_, rfl⟩
  obtain ⟨doc, hdoc⟩ : ∃ doc, doc = doe - centuries * 36524 := ⟨_, rfl⟩
  obtain ⟨cycles, hcycles⟩ : ∃ n, n = doc / 1461 := ⟨_, rfl⟩
  obtain ⟨years, hyears⟩ : ∃ n, n = min ((doc - cycles * 1461) / 365) 3 := ⟨_, rfl⟩
  obtain ⟨doy, hdoy⟩ : ∃ doy, doy = doc - cycles * 1461 - years * 365 := ⟨_, rfl⟩
  obtain ⟨mp, hmp⟩ : ∃ mp, mp = (5 * doy + 2) / 153 := ⟨_, rfl⟩
  obtain ⟨yoe, hyoe⟩ : ∃ yoe, yoe = 100 * centuries + 4 * cycles + years := ⟨_, rfl⟩
  have eq : civilFromDays days =
      { year := yoe + era * 400 + (if (if mp < 10 then mp + 3 else mp - 9) ≤ 2 then 1 else 0)
        month := if mp < 10 then mp + 3 else mp - 9
        day := doy - (153 * mp + 2) / 5 + 1 } := by
    subst hmp hyoe hdoy hyears hcycles hdoc hcenturies hdoe hera
    rfl
  obtain ⟨yoeLow, yoeHigh, doyLow, doyHigh, counted⟩ :=
    era_roundtrip (by omega) (by omega) hcenturies hdoc hcycles hyears hdoy
  rw [← hyoe] at yoeLow yoeHigh counted
  have mpBounds : 0 ≤ mp ∧ mp ≤ 11 := by omega
  have dayBounds : 1 ≤ doy - (153 * mp + 2) / 5 + 1 ∧ doy - (153 * mp + 2) / 5 + 1 ≤ 31 := by
    omega
  have eraBack : (yoe + era * 400) / 400 = era := by omega
  rw [eq]
  by_cases early : mp < 10
  · -- March to December: the civil year is the year of the era
    simp only [daysFromCivil, if_pos early]
    refine ⟨by omega, by omega, dayBounds.1, dayBounds.2, ?_⟩
    simp only [if_neg (by omega : ¬ mp + 3 ≤ 2), if_pos (by omega : 2 < mp + 3), add_zero,
      add_sub_cancel_right, eraBack]
    omega
  · -- January and February belong to the year of the era before
    simp only [daysFromCivil, if_neg early]
    refine ⟨by omega, by omega, dayBounds.1, dayBounds.2, ?_⟩
    simp only [if_pos (by omega : mp - 9 ≤ 2), if_neg (by omega : ¬ 2 < mp - 9),
      add_sub_cancel_right, eraBack]
    omega

/-! ## Decimal fields -/

/-- The decimal digits of `n`, exactly `width` of them. -/
def padDigits : ℕ → ℕ → List Char
  | 0, _ => []
  | width + 1, n => padDigits width (n / 10) ++ [Nat.digitChar (n % 10)]

/-- The number a digit string denotes. -/
def digitsValue (digits : List Char) : ℕ :=
  digits.foldl (fun value c => 10 * value + (c.toNat - '0'.toNat)) 0

theorem digitChar_spec {d : ℕ} (h : d < 10) :
    (Nat.digitChar d).isDigit = true ∧ (Nat.digitChar d).toNat - '0'.toNat = d := by
  interval_cases d <;> decide

theorem padDigits_length (width n : ℕ) : (padDigits width n).length = width := by
  induction width generalizing n with
  | zero => rfl
  | succ width ih => simp [padDigits, ih]

theorem padDigits_isDigit (width n : ℕ) : ∀ c ∈ padDigits width n, c.isDigit = true := by
  induction width generalizing n with
  | zero => simp [padDigits]
  | succ width ih =>
      intro c member
      rcases List.mem_append.mp member with earlier | last
      · exact ih (n / 10) c earlier
      · rw [List.mem_singleton.mp last]
        exact (digitChar_spec (Nat.mod_lt n (by omega))).1

theorem digitsValue_padDigits (width n : ℕ) (h : n < 10 ^ width) :
    digitsValue (padDigits width n) = n := by
  induction width generalizing n with
  | zero => simpa [padDigits, digitsValue] using (Nat.lt_one_iff.mp h).symm
  | succ width ih =>
      have quotient : n / 10 < 10 ^ width := by
        rw [Nat.div_lt_iff_lt_mul (by omega)]
        rwa [pow_succ] at h
      have front : (padDigits width (n / 10)).foldl
          (fun value c => 10 * value + (c.toNat - '0'.toNat)) 0 = n / 10 := ih (n / 10) quotient
      rw [digitsValue, padDigits, List.foldl_append, front]
      simp only [List.foldl_cons, List.foldl_nil]
      rw [(digitChar_spec (Nat.mod_lt n (by omega))).2]
      omega

/-- Read a run of digits. -/
def digitRun (text : List Char) : List Char × List Char :=
  text.span Char.isDigit

/-- Read the character `c`. -/
def expect (c : Char) : List Char → Option (List Char)
  | head :: rest => if head = c then some rest else none
  | [] => none

/-- Read a decimal field of exactly `width` digits. -/
def number (width : ℕ) (text : List Char) : Option (ℕ × List Char) :=
  if (digitRun text).1.length = width then
    some (digitsValue (digitRun text).1, (digitRun text).2)
  else none

theorem digitRun_append {digits : List Char} (h : ∀ c ∈ digits, c.isDigit = true)
    {c : Char} (stop : c.isDigit = false) (rest : List Char) :
    digitRun (digits ++ c :: rest) = (digits, c :: rest) := by
  rw [digitRun, List.span_eq_takeWhile_dropWhile,
    List.takeWhile_append_of_pos h, List.dropWhile_append_of_pos h]
  simp [stop]

theorem number_padDigits {width n : ℕ} (h : n < 10 ^ width) {c : Char}
    (stop : c.isDigit = false) (rest : List Char) :
    number width (padDigits width n ++ c :: rest) = some (n, c :: rest) := by
  rw [number, digitRun_append (padDigits_isDigit width n) stop rest,
    if_pos (padDigits_length width n), digitsValue_padDigits width n h]

/-! ## Rendering -/

/-- The year field: four digits, or a sign and at least six. -/
def yearText (year : ℤ) : List Char :=
  if 0 ≤ year ∧ year ≤ 9999 then padDigits 4 year.toNat
  else (if 0 ≤ year then '+' else '-') ::
    padDigits (max 6 (Nat.log 10 year.natAbs + 1)) year.natAbs

/-- `YYYY-MM-DDTHH:mm:ss.sssZ`, in UTC. -/
def toISOChars (instant : ℤ) : List Char :=
  let date := civilFromDays (instant / 86400000)
  let ms := (instant % 86400000).toNat
  yearText date.year ++ '-' :: padDigits 2 date.month.toNat ++ '-' ::
    padDigits 2 date.day.toNat ++ 'T' :: padDigits 2 (ms / 3600000) ++ ':' ::
    padDigits 2 (ms / 60000 % 60) ++ ':' :: padDigits 2 (ms / 1000 % 60) ++ '.' ::
    padDigits 3 (ms % 1000) ++ ['Z']

/-- The UTC text of an instant. -/
def toISOString (instant : ℤ) : String := String.ofList (toISOChars instant)

/-! ## Parsing -/

/-- The year field: exactly four digits, or a sign and at least six. -/
def year : List Char → Option (ℤ × List Char)
  | '+' :: text =>
      if 6 ≤ (digitRun text).1.length then
        some (digitsValue (digitRun text).1, (digitRun text).2)
      else none
  | '-' :: text =>
      if 6 ≤ (digitRun text).1.length then
        some (-(digitsValue (digitRun text).1 : ℤ), (digitRun text).2)
      else none
  | text => (number 4 text).map fun field => ((field.1 : ℤ), field.2)

/-- The optional fraction of a second, truncated to milliseconds. -/
def fraction : List Char → Option (ℕ × List Char)
  | '.' :: text =>
      if (digitRun text).1 = [] then none
      else some (digitsValue (((digitRun text).1 ++ ['0', '0']).take 3), (digitRun text).2)
  | text => some (0, text)

/-- The time zone, as minutes east of UTC; nothing may follow it. -/
def zone : List Char → Option ℤ
  | ['Z'] => some 0
  | [sign, h1, h0, m1, m0] => offset sign [h1, h0] [m1, m0]
  | [sign, h1, h0, ':', m1, m0] => offset sign [h1, h0] [m1, m0]
  | _ => none
where
  /-- A numeric offset from UTC. -/
  offset (sign : Char) (hours minutes : List Char) : Option ℤ :=
    if (hours ++ minutes).all Char.isDigit = true ∧ digitsValue hours ≤ 23 ∧
        digitsValue minutes ≤ 59 then
      if sign = '+' then some (digitsValue hours * 60 + digitsValue minutes)
      else if sign = '-' then some (-(digitsValue hours * 60 + digitsValue minutes : ℤ))
      else none
    else none

/-- The instant a date-time text denotes; nothing when it is not a date-time
or one of its fields is out of range. -/
def parseChars (text : List Char) : Option ℤ := do
  let (y, text) ← year text
  let (mo, text) ← number 2 (← expect '-' text)
  let (d, text) ← number 2 (← expect '-' text)
  let (h, text) ← number 2 (← expect 'T' text)
  let (mi, text) ← number 2 (← expect ':' text)
  let (s, text) ← number 2 (← expect ':' text)
  let (ms, text) ← fraction text
  let east ← zone text
  if 1 ≤ mo ∧ mo ≤ 12 ∧ 1 ≤ d ∧ d ≤ 31 ∧ h ≤ 23 ∧ mi ≤ 59 ∧ s ≤ 59 then
    some (daysFromCivil y mo d * 86400000 + (h * 3600000 + mi * 60000 + s * 1000 + ms : ℕ) -
      east * 60000)
  else none

/-- The instant a date-time text denotes. -/
def parse (text : String) : Option ℤ := parseChars text.toList

/-! ## The round trip -/

theorem year_yearText (y : ℤ) (rest : List Char) :
    year (yearText y ++ '-' :: rest) = some (y, '-' :: rest) := by
  have stop : Char.isDigit '-' = false := by decide
  unfold yearText
  split
  · -- a four-digit year starts with a digit, so the signed readings do not apply
    have small : y.toNat < 10 ^ 4 := by omega
    obtain ⟨first, digits, shape⟩ : ∃ first digits, padDigits 4 y.toNat = first :: digits :=
      List.exists_cons_of_length_pos (by rw [padDigits_length]; omega)
    have digit : first.isDigit = true :=
      padDigits_isDigit 4 y.toNat first (by rw [shape]; exact List.mem_cons_self)
    have read := number_padDigits small stop rest
    rw [shape] at read ⊢
    have notSigned : first ≠ '+' ∧ first ≠ '-' := by
      constructor <;> (rintro rfl; revert digit; decide)
    rw [List.cons_append, year.eq_3 _ (fun _ h => notSigned.1 (List.cons.inj h).1)
      (fun _ h => notSigned.2 (List.cons.inj h).1), ← List.cons_append, read]
    simp only [Option.map_some, Int.toNat_of_nonneg (by omega : 0 ≤ y)]
  · have wide : y.natAbs < 10 ^ max 6 (Nat.log 10 y.natAbs + 1) :=
      lt_of_lt_of_le (Nat.lt_pow_succ_log_self (by omega) _)
        (Nat.pow_le_pow_right (by omega) (le_max_right _ _))
    have run := digitRun_append
      (padDigits_isDigit (max 6 (Nat.log 10 y.natAbs + 1)) y.natAbs) stop rest
    by_cases positive : 0 ≤ y
    · rw [if_pos positive, List.cons_append, year, run, padDigits_length,
        if_pos (le_max_left _ _), digitsValue_padDigits _ _ wide]
      simp only [Option.some.injEq, Prod.mk.injEq, and_true]
      omega
    · rw [if_neg positive, List.cons_append, year, run, padDigits_length,
        if_pos (le_max_left _ _), digitsValue_padDigits _ _ wide]
      simp only [Option.some.injEq, Prod.mk.injEq, and_true]
      omega

theorem expect_cons (c : Char) (rest : List Char) : expect c (c :: rest) = some rest :=
  if_pos rfl

theorem zone_utc : zone ['Z'] = some 0 := rfl

theorem fraction_padDigits {n : ℕ} (h : n < 1000) :
    fraction ('.' :: (padDigits 3 n ++ ['Z'])) = some (n, ['Z']) := by
  have run := digitRun_append (padDigits_isDigit 3 n) (by decide : Char.isDigit 'Z' = false) []
  have three := padDigits_length 3 n
  have nonempty : padDigits 3 n ≠ [] := by
    intro empty
    rw [empty] at three
    cases three
  have cut : (padDigits 3 n ++ ['0', '0']).take 3 = padDigits 3 n :=
    List.take_left' three
  simp only [fraction, run, if_neg nonempty, cut, digitsValue_padDigits 3 n h]

/-- A text is parsed field by field. -/
theorem parseChars_eq {y : ℤ} {mo d h mi s ms : ℕ} {text date days hours minutes seconds time :
      List Char}
    (years : year text = some (y, '-' :: date))
    (months : number 2 date = some (mo, '-' :: days))
    (dayField : number 2 days = some (d, 'T' :: hours))
    (hourField : number 2 hours = some (h, ':' :: minutes))
    (minuteField : number 2 minutes = some (mi, ':' :: seconds))
    (secondField : number 2 seconds = some (s, time))
    (fractionField : fraction time = some (ms, ['Z']))
    (range : 1 ≤ mo ∧ mo ≤ 12 ∧ 1 ≤ d ∧ d ≤ 31 ∧ h ≤ 23 ∧ mi ≤ 59 ∧ s ≤ 59) :
    parseChars text =
      some (daysFromCivil y mo d * 86400000 +
        (h * 3600000 + mi * 60000 + s * 1000 + ms : ℕ)) := by
  refine Option.bind_eq_some_iff.mpr ⟨_, years, ?_⟩
  refine Option.bind_eq_some_iff.mpr ⟨_, expect_cons '-' date, ?_⟩
  refine Option.bind_eq_some_iff.mpr ⟨_, months, ?_⟩
  refine Option.bind_eq_some_iff.mpr ⟨_, expect_cons '-' days, ?_⟩
  refine Option.bind_eq_some_iff.mpr ⟨_, dayField, ?_⟩
  refine Option.bind_eq_some_iff.mpr ⟨_, expect_cons 'T' hours, ?_⟩
  refine Option.bind_eq_some_iff.mpr ⟨_, hourField, ?_⟩
  refine Option.bind_eq_some_iff.mpr ⟨_, expect_cons ':' minutes, ?_⟩
  refine Option.bind_eq_some_iff.mpr ⟨_, minuteField, ?_⟩
  refine Option.bind_eq_some_iff.mpr ⟨_, expect_cons ':' seconds, ?_⟩
  refine Option.bind_eq_some_iff.mpr ⟨_, secondField, ?_⟩
  refine Option.bind_eq_some_iff.mpr ⟨_, fractionField, ?_⟩
  refine Option.bind_eq_some_iff.mpr ⟨_, zone_utc, ?_⟩
  rw [if_pos range, zero_mul, sub_zero]

/-- **Round trip.** Parsing the text of an instant gives the instant back. -/
theorem parse_toISOString (instant : ℤ) : parse (toISOString instant) = some instant := by
  obtain ⟨monthLow, monthHigh, dayLow, dayHigh, counted⟩ :=
    civilFromDays_spec (instant / 86400000)
  obtain ⟨date, hdate⟩ : ∃ date, date = civilFromDays (instant / 86400000) := ⟨_, rfl⟩
  obtain ⟨ms, hms⟩ : ∃ ms, ms = (instant % 86400000).toNat := ⟨_, rfl⟩
  rw [← hdate] at monthLow monthHigh dayLow dayHigh counted
  have text : (toISOString instant).toList =
      yearText date.year ++ '-' :: (padDigits 2 date.month.toNat ++ '-' ::
        (padDigits 2 date.day.toNat ++ 'T' :: (padDigits 2 (ms / 3600000) ++ ':' ::
        (padDigits 2 (ms / 60000 % 60) ++ ':' :: (padDigits 2 (ms / 1000 % 60) ++ '.' ::
        (padDigits 3 (ms % 1000) ++ ['Z'])))))) := by
    subst hdate hms
    simp [toISOString, toISOChars]
  have dash : Char.isDigit '-' = false := by decide
  have tee : Char.isDigit 'T' = false := by decide
  have colon : Char.isDigit ':' = false := by decide
  have dot : Char.isDigit '.' = false := by decide
  have bounded : ms < 86400000 := by omega
  have range : 1 ≤ date.month.toNat ∧ date.month.toNat ≤ 12 ∧ 1 ≤ date.day.toNat ∧
      date.day.toNat ≤ 31 ∧ ms / 3600000 ≤ 23 ∧ ms / 60000 % 60 ≤ 59 ∧ ms / 1000 % 60 ≤ 59 := by
    omega
  have total : ms / 3600000 * 3600000 + ms / 60000 % 60 * 60000 + ms / 1000 % 60 * 1000 +
      ms % 1000 = ms := by omega
  rw [parse, text, parseChars_eq (year_yearText date.year _)
    (number_padDigits (by omega : date.month.toNat < 10 ^ 2) dash _)
    (number_padDigits (by omega : date.day.toNat < 10 ^ 2) tee _)
    (number_padDigits (by omega : ms / 3600000 < 10 ^ 2) colon _)
    (number_padDigits (by omega : ms / 60000 % 60 < 10 ^ 2) colon _)
    (number_padDigits (by omega : ms / 1000 % 60 < 10 ^ 2) dot _)
    (fraction_padDigits (Nat.mod_lt ms (by omega))) range, total,
    Int.toNat_of_nonneg (by omega : 0 ≤ date.month),
    Int.toNat_of_nonneg (by omega : 0 ≤ date.day), counted, hms,
    Int.toNat_of_nonneg (Int.emod_nonneg _ (by decide)), mul_comm, Int.mul_ediv_add_emod]

example : toISOString 1780315200000 = "2026-06-01T12:00:00.000Z" := by decide +kernel

example : parse "2026-06-01T14:30:00.1239+02:30" = some 1780315200123 := by decide +kernel

end IsoDate
