import Stadium.Lib.TextOrder

/-!
# Texts of instants in order of time

For instants with a year of four digits the text that `toISOString` writes is
made of fields of fixed widths, from the year down to the millisecond. The
texts of such instants therefore compare like the instants
(`before_toISOString`). A year has five or six months of 31 days and a leap
day now and then, so most of the work is in the calendar: later days have
later dates. Years are counted from March, as in `civilFromDays`.
-/

namespace IsoDate

/-! ## The calendar is monotone -/

/-- Days from 1970-01-01 to the first of March of a year. -/
def marchFirst (year : ℤ) : ℤ := 365 * year + year / 4 - year / 100 + year / 400 - 719468

/-- The date some days after the first of March of a year. -/
def marchDate (year doy : ℤ) : Civil :=
  let mp := (5 * doy + 2) / 153
  let month := if mp < 10 then mp + 3 else mp - 9
  { year := year + (if month ≤ 2 then 1 else 0)
    month
    day := doy - (153 * mp + 2) / 5 + 1 }

theorem marchFirst_le {year year' : ℤ} (h : year ≤ year') : marchFirst year ≤ marchFirst year' := by
  unfold marchFirst
  omega

/-- The years of an era are full: its last day comes before the next March. -/
theorem era_full {doe centuries doc cycles years doy : ℤ} (low : 0 ≤ doe) (high : doe ≤ 146096)
    (hcenturies : centuries = min (doe / 36524) 3) (hdoc : doc = doe - centuries * 36524)
    (hcycles : cycles = doc / 1461) (hyears : years = min ((doc - cycles * 1461) / 365) 3)
    (hdoy : doy = doc - cycles * 1461 - years * 365) (yoe : ℤ)
    (hyoe : yoe = 100 * centuries + 4 * cycles + years) :
    doe < (yoe + 1) * 365 + (yoe + 1) / 4 - (yoe + 1) / 100 + (yoe + 1) / 400 := by
  have docBounds : 0 ≤ doc ∧ doc ≤ 36524 := by omega
  have yearBounds : 0 ≤ years ∧ years ≤ 3 ∧ 0 ≤ doy ∧ doy ≤ 365 := by omega
  have cycleBounds : 0 ≤ cycles ∧ cycles ≤ 24 := by omega
  have centuryBounds : 0 ≤ centuries ∧ centuries ≤ 3 := by omega
  by_cases short : years < 3
  · have fourth : (yoe + 1) / 4 = 25 * centuries + cycles := by omega
    have hundredth : (yoe + 1) / 100 = centuries := by omega
    have whole : (yoe + 1) / 400 = 0 := by omega
    omega
  · -- the last year of a cycle has a leap day
    have fourth : (yoe + 1) / 4 = 25 * centuries + cycles + 1 := by omega
    by_cases inner : cycles < 24
    · have hundredth : (yoe + 1) / 100 = centuries := by omega
      have whole : (yoe + 1) / 400 = 0 := by omega
      omega
    · -- unless it ends a century, and then again if it ends the era
      have hundredth : (yoe + 1) / 100 = centuries + 1 := by omega
      by_cases early : centuries < 3
      · have whole : (yoe + 1) / 400 = 0 := by omega
        omega
      · have whole : (yoe + 1) / 400 = 1 := by omega
        omega

/-- Shifting a year by eras shifts its first of March by their days. -/
theorem marchFirst_era (year era : ℤ) :
    marchFirst (year + era * 400) = marchFirst year + era * 146097 := by
  have fourth : (year + era * 400) / 4 = year / 4 + era * 100 := by omega
  have hundredth : (year + era * 400) / 100 = year / 100 + era * 4 := by omega
  have whole : (year + era * 400) / 400 = year / 400 + era := by omega
  unfold marchFirst
  omega

/-- A day as the day of its year from March on. -/
theorem civilFromDays_march (days : ℤ) :
    ∃ year doy, 0 ≤ doy ∧ doy ≤ 365 ∧ days = marchFirst year + doy ∧
      days < marchFirst (year + 1) ∧ civilFromDays days = marchDate year doy := by
  obtain ⟨era, hera⟩ : ∃ era, era = (days + 719468) / 146097 := ⟨_, rfl⟩
  obtain ⟨doe, hdoe⟩ : ∃ doe, doe = days + 719468 - era * 146097 := ⟨_, rfl⟩
  obtain ⟨centuries, hcenturies⟩ : ∃ n, n = min (doe / 36524) 3 := ⟨_, rfl⟩
  obtain ⟨doc, hdoc⟩ : ∃ doc, doc = doe - centuries * 36524 := ⟨_, rfl⟩
  obtain ⟨cycles, hcycles⟩ : ∃ n, n = doc / 1461 := ⟨_, rfl⟩
  obtain ⟨years, hyears⟩ : ∃ n, n = min ((doc - cycles * 1461) / 365) 3 := ⟨_, rfl⟩
  obtain ⟨doy, hdoy⟩ : ∃ doy, doy = doc - cycles * 1461 - years * 365 := ⟨_, rfl⟩
  obtain ⟨yoe, hyoe⟩ : ∃ yoe, yoe = 100 * centuries + 4 * cycles + years := ⟨_, rfl⟩
  obtain ⟨yoeLow, yoeHigh, doyLow, doyHigh, counted⟩ :=
    era_roundtrip (by omega) (by omega) hcenturies hdoc hcycles hyears hdoy
  have full := era_full (by omega) (by omega) hcenturies hdoc hcycles hyears hdoy yoe hyoe
  rw [← hyoe] at yoeLow yoeHigh counted
  refine ⟨yoe + era * 400, doy, doyLow, doyHigh, ?_, ?_, ?_⟩
  · rw [marchFirst_era, marchFirst]
    omega
  · rw [show yoe + era * 400 + 1 = yoe + 1 + era * 400 by ring, marchFirst_era, marchFirst]
    omega
  · subst hyoe hdoy hyears hcycles hdoc hcenturies hdoe hera
    rfl

/-- Year, month and day of a date. -/
def Civil.fields (date : Civil) : List ℤ := [date.year, date.month, date.day]

/-- Dates compare by their months, counted through the years, and then by their
days. -/
theorem Civil.fields_lt {a b : Civil} (low : 1 ≤ a.month ∧ a.month ≤ 12)
    (high : 1 ≤ b.month ∧ b.month ≤ 12)
    (less : 12 * a.year + a.month < 12 * b.year + b.month ∨
      12 * a.year + a.month = 12 * b.year + b.month ∧ a.day < b.day) : a.fields < b.fields := by
  unfold fields
  rw [List.cons_lt_cons_iff, List.cons_lt_cons_iff, List.cons_lt_cons_iff]
  omega

theorem marchDate_month (year : ℤ) {doy : ℤ} (low : 0 ≤ doy) (high : doy ≤ 365) :
    (1 ≤ (marchDate year doy).month ∧ (marchDate year doy).month ≤ 12) ∧
      12 * (marchDate year doy).year + (marchDate year doy).month =
        12 * year + (5 * doy + 2) / 153 + 3 := by
  have bounds : 0 ≤ (5 * doy + 2) / 153 ∧ (5 * doy + 2) / 153 ≤ 11 := by omega
  by_cases early : (5 * doy + 2) / 153 < 10
  · simp only [marchDate, if_pos early]
    omega
  · simp only [marchDate, if_neg early]
    omega

/-- **Later days have later dates.** -/
theorem civilFromDays_lt {days days' : ℤ} (less : days < days') :
    (civilFromDays days).fields < (civilFromDays days').fields := by
  obtain ⟨year, doy, low, high, counted, ends, date⟩ := civilFromDays_march days
  obtain ⟨year', doy', low', high', counted', ends', date'⟩ := civilFromDays_march days'
  obtain ⟨range, months⟩ := marchDate_month year low high
  obtain ⟨range', months'⟩ := marchDate_month year' low' high'
  rw [date, date']
  apply Civil.fields_lt range range'
  rw [months, months']
  rcases lt_trichotomy year year' with before | same | behind
  · exact .inl (by omega)
  · subst same
    have later : doy < doy' := by omega
    rcases lt_or_eq_of_le (show (5 * doy + 2) / 153 ≤ (5 * doy' + 2) / 153 by omega) with
      month | month
    · exact .inl (by omega)
    · refine .inr ⟨by omega, ?_⟩
      show doy - (153 * ((5 * doy + 2) / 153) + 2) / 5 + 1 <
        doy' - (153 * ((5 * doy' + 2) / 153) + 2) / 5 + 1
      rw [month]
      omega
  · -- then the days of `year'` are all gone before `year` begins
    have gone := marchFirst_le (show year' + 1 ≤ year by omega)
    omega

/-! ## Instants with a year of four digits -/

/-- 0000-01-01T00:00:00.000Z -/
def earliest : ℤ := -62167219200000

/-- 9999-12-31T23:59:59.999Z -/
def latest : ℤ := 253402300799999

theorem civilFromDays_le {days days' : ℤ} (h : days ≤ days') :
    (civilFromDays days).fields ≤ (civilFromDays days').fields := by
  rcases lt_or_eq_of_le h with less | rfl
  · exact le_of_lt (civilFromDays_lt less)
  · exact le_refl _

/-- An instant from `earliest` to `latest` has a year of four digits. -/
theorem year_bounds {instant : ℤ} (low : earliest ≤ instant) (high : instant ≤ latest) :
    0 ≤ (civilFromDays (instant / 86400000)).year ∧
      (civilFromDays (instant / 86400000)).year ≤ 9999 := by
  unfold earliest at low
  unfold latest at high
  have first := civilFromDays_le (show -719528 ≤ instant / 86400000 by omega)
  have last := civilFromDays_le (show instant / 86400000 ≤ 2932896 by omega)
  rw [show (civilFromDays (-719528)).fields = [0, 1, 1] by decide] at first
  rw [show (civilFromDays 2932896).fields = [9999, 12, 31] by decide] at last
  unfold Civil.fields at first last
  rw [← not_lt, List.cons_lt_cons_iff] at first last
  omega

/-- The fields of the text of an instant. -/
def isoShape : List (ℕ × Char) :=
  [(4, '-'), (2, '-'), (2, 'T'), (2, ':'), (2, ':'), (2, '.'), (3, 'Z')]

/-- Hours, minutes, seconds and milliseconds. -/
def clockFields (ms : ℕ) : List ℕ := [ms / 3600000, ms / 60000 % 60, ms / 1000 % 60, ms % 1000]

/-- The numbers in the fields. -/
def isoFields (instant : ℤ) : List ℕ :=
  (civilFromDays (instant / 86400000)).fields.map Int.toNat ++
    clockFields (instant % 86400000).toNat

theorem toISOChars_eq_render {instant : ℤ} (low : earliest ≤ instant) (high : instant ≤ latest) :
    toISOChars instant = Text.render isoShape (isoFields instant) := by
  have year := year_bounds low high
  simp [toISOChars, yearText, year, isoShape, isoFields, clockFields, Civil.fields, Text.render]

theorem isoFields_fit {instant : ℤ} (low : earliest ≤ instant) (high : instant ≤ latest) :
    Text.Fit isoShape (isoFields instant) := by
  have year := year_bounds low high
  obtain ⟨-, month, -, day, -⟩ := civilFromDays_spec (instant / 86400000)
  simp only [Text.Fit, isoShape, isoFields, clockFields, Civil.fields, List.map_cons, List.map_nil,
    List.cons_append, List.nil_append, List.forall₂_cons, List.Forall₂.nil, and_true]
  omega

theorem clockFields_lt {ms ms' : ℕ} (less : ms < ms') : clockFields ms < clockFields ms' := by
  unfold clockFields
  rw [List.cons_lt_cons_iff, List.cons_lt_cons_iff, List.cons_lt_cons_iff, List.cons_lt_cons_iff]
  omega

theorem isoFields_lt {instant instant' : ℤ} (low : earliest ≤ instant) (high : instant' ≤ latest)
    (less : instant < instant') : isoFields instant < isoFields instant' := by
  unfold isoFields
  by_cases days : instant / 86400000 < instant' / 86400000
  · -- on different days the dates decide
    have dates := civilFromDays_lt days
    have year := year_bounds low (le_trans (le_of_lt less) high)
    have year' := year_bounds (le_trans low (le_of_lt less)) high
    obtain ⟨month, -, day, -, -⟩ := civilFromDays_spec (instant / 86400000)
    obtain ⟨month', -, day', -, -⟩ := civilFromDays_spec (instant' / 86400000)
    refine Text.append_lt_append (by simp [Civil.fields]) ?_ _ _
    simp only [Civil.fields, List.map_cons, List.map_nil, List.cons_lt_cons_iff,
      List.not_lt_nil, and_false, or_false] at dates ⊢
    omega
  · -- on one day the clock decides
    have same : instant / 86400000 = instant' / 86400000 := by omega
    rw [same]
    apply List.append_left_lt
    apply clockFields_lt
    omega

/-- **The texts of instants compare like the instants.** -/
theorem before_toISOString {instant instant' : ℤ} (low : earliest ≤ instant)
    (high : instant' ≤ latest) (less : instant < instant') :
    Text.Before (toISOString instant) (toISOString instant') := by
  have high' : instant ≤ latest := by omega
  have low' : earliest ≤ instant' := by omega
  unfold Text.Before toISOString
  rw [String.toList_ofList, String.toList_ofList, toISOChars_eq_render low high',
    toISOChars_eq_render low' high]
  exact Text.codeUnits_render_lt (isoFields_fit low high') (isoFields_fit low' high)
    (isoFields_lt low high less)

end IsoDate
