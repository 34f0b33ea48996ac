import Mathlib.Data.Nat.Init
import Mathlib.Data.List.Lex
import Mathlib.Order.Nat
import SearchFilter.Calendar

namespace SearchFilter

open Calendar

namespace Calendar

variable {year month : Nat}

theorem isLeapYear_iff : isLeapYear year = true ↔ 4 ∣ year ∧ (¬ 100 ∣ year ∨ 400 ∣ year) := by
  simp [isLeapYear, Nat.dvd_iff_mod_eq_zero]

theorem daysBeforeYear_succ (year : Nat) (positive : 1 ≤ year) :
    daysBeforeYear (year + 1) = daysBeforeYear year + if isLeapYear year then 366 else 365 := by
  obtain ⟨past, rfl⟩ := Nat.exists_eq_add_of_le' positive
  have fewer : past / 100 ≤ past / 4 := Nat.div_le_div_left (by decide) (by decide)
  have centuries : 100 ∣ past + 1 → 4 ∣ past + 1 := Nat.dvd_trans (by decide)
  have cycles : 400 ∣ past + 1 → 100 ∣ past + 1 := Nat.dvd_trans (by decide)
  simp only [daysBeforeYear, Nat.add_sub_cancel, Nat.succ_div, isLeapYear_iff]
  by_cases four : 4 ∣ past + 1
  · by_cases hundred : 100 ∣ past + 1
    · by_cases fourHundred : 400 ∣ past + 1
      · simp only [four, hundred, fourHundred, ↓reduceIte, not_true, false_or, and_self]
        omega
      · simp only [four, hundred, fourHundred, ↓reduceIte, not_true, false_or, and_false]
        omega
    · have fourHundred : ¬ 400 ∣ past + 1 := mt cycles hundred
      simp only [four, hundred, fourHundred, ↓reduceIte, not_false_iff, true_or, and_self]
      omega
  · have hundred : ¬ 100 ∣ past + 1 := mt centuries four
    have fourHundred : ¬ 400 ∣ past + 1 := mt cycles hundred
    simp only [four, hundred, fourHundred, ↓reduceIte, false_and]
    omega

theorem daysBeforeYear_le {later : Nat} (positive : 1 ≤ year) (less : year < later) :
    daysBeforeYear year + (if isLeapYear year then 366 else 365) ≤ daysBeforeYear later := by
  rw [← daysBeforeYear_succ year positive]
  induction later, less using Nat.le_induction with
  | base => exact le_rfl
  | succ later reached ih =>
    have next := daysBeforeYear_succ later (by omega)
    omega

theorem daysBeforeMonth_succ (year month : Nat) (positive : 1 ≤ month) :
    daysBeforeMonth year (month + 1) = daysBeforeMonth year month + daysInMonth year month := by
  have whole : (List.range (month + 1)).drop 1 = (List.range month).drop 1 ++ [month] := by
    rw [List.range_succ, List.drop_append_of_le_length (by simpa using positive)]
  rw [daysBeforeMonth, whole, List.foldl_append]
  rfl

theorem daysBeforeMonth_le (year : Nat) {later : Nat} (positive : 1 ≤ month) (less : month < later) :
    daysBeforeMonth year month + daysInMonth year month ≤ daysBeforeMonth year later := by
  rw [← daysBeforeMonth_succ year month positive]
  induction later, less using Nat.le_induction with
  | base => exact le_rfl
  | succ later reached ih =>
    have next := daysBeforeMonth_succ year later (by omega)
    omega

theorem daysBeforeMonth_end (year : Nat) :
    daysBeforeMonth year 13 = if isLeapYear year then 366 else 365 := by
  cases leap : isLeapYear year <;>
    simp [daysBeforeMonth, daysInMonth, leap, List.range_succ]

end Calendar

namespace Date

variable {d e : Date}

/-- A date that the calendar has. -/
structure Valid (d : Date) : Prop where
  year : 1 ≤ d.year ∧ d.year ≤ 9999
  month : 1 ≤ d.month ∧ d.month ≤ 12
  day : 1 ≤ d.day ∧ d.day ≤ daysInMonth d.year d.month

/-- The dates of the calendar are those that pass the check of their fields. -/
theorem valid_iff : d.Valid ↔ ofParts d.year d.month d.day = .ok d := by
  constructor
  · rintro ⟨year, month, day⟩
    rw [ofParts, if_neg (by omega), if_neg (by omega), if_neg (by omega)]
  · intro made
    unfold ofParts at made
    split at made
    · cases made
    · split at made
      · cases made
      · split at made
        · cases made
        · exact ⟨by omega, by omega, by omega⟩

/-- The year, the month and the day of a date, in the order in which they count. -/
def fields (d : Date) : List Nat :=
  [d.year, d.month, d.day]

theorem ordinal_lt_of_fields_lt (validD : d.Valid) (validE : e.Valid) (less : d.fields < e.fields) :
    d.ordinal < e.ordinal := by
  obtain ⟨⟨yearD, _⟩, ⟨monthD, endD⟩, dayD⟩ := validD
  obtain ⟨-, ⟨monthE, _⟩, dayE⟩ := validE
  simp only [fields, List.cons_lt_cons_iff, List.not_lt_nil, and_false, or_false] at less
  simp only [ordinal]
  rcases less with year | ⟨year, month | ⟨month, day⟩⟩
  · have years := daysBeforeYear_le yearD year
    have months := daysBeforeMonth_le d.year monthD (by omega : d.month < 13)
    rw [daysBeforeMonth_end] at months
    omega
  · have months := daysBeforeMonth_le d.year monthD month
    rw [← year]
    omega
  · rw [← year, ← month]
    omega

/-- A date is before another exactly if its first different field is less. -/
theorem ordinal_lt_iff (validD : d.Valid) (validE : e.Valid) :
    d.ordinal < e.ordinal ↔ d.fields < e.fields := by
  constructor
  · intro before
    rcases lt_trichotomy d.fields e.fields with less | same | greater
    · exact less
    · simp only [fields, List.cons.injEq, and_true] at same
      simp only [ordinal, same] at before
      omega
    · have := ordinal_lt_of_fields_lt validE validD greater
      omega
  · exact ordinal_lt_of_fields_lt validD validE

end Date

namespace TimeOfDay

variable {t u : TimeOfDay}

/-- A time that a clock shows. -/
structure Valid (t : TimeOfDay) : Prop where
  hour : t.hour ≤ 23
  minute : t.minute ≤ 59
  second : t.second ≤ 59
  microsecond : t.microsecond ≤ 999999

theorem sinceMidnight_lt (valid : t.Valid) : t.sinceMidnight < 86400000000 := by
  obtain ⟨hour, minute, second, microsecond⟩ := valid
  simp only [sinceMidnight]
  omega

/-- The hour, the minute, the second and the microsecond, in the order in which they count. -/
def fields (t : TimeOfDay) : List Nat :=
  [t.hour, t.minute, t.second, t.microsecond]

theorem sinceMidnight_lt_iff (validT : t.Valid) (validU : u.Valid) :
    t.sinceMidnight < u.sinceMidnight ↔ t.fields < u.fields := by
  obtain ⟨hourT, minuteT, secondT, microsecondT⟩ := validT
  obtain ⟨hourU, minuteU, secondU, microsecondU⟩ := validU
  simp only [sinceMidnight, fields, List.cons_lt_cons_iff, List.not_lt_nil, and_false, or_false]
  omega

end TimeOfDay

namespace Moment

variable {m n : Moment}

/-- A moment with a date of the calendar, a time of the clock, and a distance from universal time of
less than a day if it knows one. -/
structure Valid (m : Moment) : Prop where
  date : m.date.Valid
  time : m.time.Valid
  offset : ∀ seconds ∈ m.offset, seconds.natAbs < 86400

/-- Microseconds by calendar and clock alone, wherever these are. -/
def reading (m : Moment) : Int :=
  (m.date.ordinal : Int) * 86400000000 + m.time.sinceMidnight

theorem instant_eq (m : Moment) : m.instant = m.reading - m.offset.getD 0 * 1000000 := rfl

/-- The fields of the date and of the time, in the order in which they count. -/
def fields (m : Moment) : List Nat :=
  m.date.fields ++ m.time.fields

theorem fields_lt_iff : m.fields < n.fields ↔ m.date.fields < n.date.fields ∨
    m.date.fields = n.date.fields ∧ m.time.fields < n.time.fields := by
  simp only [fields, Date.fields, List.cons_append, List.nil_append, List.cons_lt_cons_iff,
    List.cons.injEq, List.not_lt_nil, and_true, and_false, or_false]
  tauto

/-- The reading of a moment is before that of another exactly if its first different field is
less. -/
theorem reading_lt_iff (validM : m.Valid) (validN : n.Valid) :
    m.reading < n.reading ↔ m.fields < n.fields := by
  have dates := Date.ordinal_lt_iff validM.date validN.date
  have datesBack := Date.ordinal_lt_iff validN.date validM.date
  have dayM := TimeOfDay.sinceMidnight_lt validM.time
  have dayN := TimeOfDay.sinceMidnight_lt validN.time
  rw [fields_lt_iff, ← TimeOfDay.sinceMidnight_lt_iff validM.time validN.time, ← dates]
  simp only [reading]
  rcases lt_trichotomy m.date.fields n.date.fields with less | same | greater
  · have := dates.mpr less
    omega
  · have day : m.date.ordinal = n.date.ordinal := by
      have notBefore := mt dates.mp (same ▸ lt_irrefl _)
      have notAfter := mt datesBack.mp (same ▸ lt_irrefl _)
      omega
    simp only [day, same, true_and]
    omega
  · have := datesBack.mpr greater
    have different := greater.ne'
    simp only [different, false_and, or_false]
    omega

theorem reading_eq_iff (validM : m.Valid) (validN : n.Valid) :
    m.reading = n.reading ↔ m.fields = n.fields := by
  have before := reading_lt_iff validM validN
  have after := reading_lt_iff validN validM
  constructor
  · intro same
    have notBefore := mt before.mpr (by omega)
    have notAfter := mt after.mpr (by omega)
    exact le_antisymm (not_lt.mp notAfter) (not_lt.mp notBefore)
  · intro same
    have notBefore := mt before.mp (same ▸ lt_irrefl _)
    have notAfter := mt after.mp (same ▸ lt_irrefl _)
    omega

end Moment

end SearchFilter
