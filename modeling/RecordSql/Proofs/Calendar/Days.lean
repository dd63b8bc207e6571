import Mathlib.Tactic.IntervalCases
import RecordSql.Calendar.Date

namespace RecordSql.Calendar.Date

variable {days year day : Int}

-- Days of the years before a year, counted from the start of year zero. Here years start in
-- March, so that a leap day is the last day of its year.
def daysBefore (year : Int) : Int := 365 * year + year / 4 - year / 100 + year / 400

-- The days of such a year, from zero on. Only a year that ends in a leap day has the last one.
structure IsMarchDay (year day : Int) : Prop where
  nonneg : 0 ≤ day
  le : day ≤ 365
  leap : day = 365 → isLeapYear (year + 1) = true

-- Days of such a year before a month of it, where March is the month zero.
def daysBeforeMonth (month : Int) : Int := (153 * month + 2) / 5

-- The date of a day in a month, where both count from zero and the month is one from March on.
def ofMarch (year month dayOfMonth : Int) : Date :=
  { year := if month < 10 then year else year + 1
    month := if month < 10 then month + 3 else month - 9
    day := dayOfMonth + 1 }

theorem daysInMonth_le (year month : Int) : daysInMonth year month ≤ 31 := by
  rw [daysInMonth]
  split
  · split <;> decide
  · split <;> decide

theorem isLeapYear_iff :
    isLeapYear year = true ↔ year % 4 = 0 ∧ (year % 100 ≠ 0 ∨ year % 400 = 0) := by
  simp [isLeapYear]

theorem IsMarchDay.add_era (h : IsMarchDay year day) (era : Int) :
    IsMarchDay (year + 400 * era) day := by
  obtain ⟨hnonneg, hle, hleap⟩ := h
  refine ⟨hnonneg, hle, fun hday => ?_⟩
  have hyear := isLeapYear_iff.mp (hleap hday)
  exact isLeapYear_iff.mpr (by omega)

theorem daysBefore_add_era (year era : Int) :
    daysBefore (year + 400 * era) = daysBefore year + 146097 * era := by
  simp only [daysBefore]
  omega

-- A day of an era, where centuries, groups of four years and single years are all of one
-- length except for the last ones. The last day of an era is in none of them.
structure IsEraDay (dayOfEra century four rest : Int) : Prop where
  eq : dayOfEra = 36524 * century + 1461 * four + rest
  century_bounds : 0 ≤ century ∧ century ≤ 3
  four_bounds : 0 ≤ four ∧ four ≤ 24
  rest_bounds : 0 ≤ rest ∧ rest ≤ 1460
  short : four = 24 → rest < 1460

section Era

variable {dayOfEra century four rest last : Int}

theorem isEraDay (hnonneg : 0 ≤ dayOfEra) (hlt : dayOfEra < 146096) :
    IsEraDay dayOfEra (dayOfEra / 36524) (dayOfEra % 36524 / 1461) (dayOfEra % 36524 % 1461) := by
  constructor <;> omega

-- The corrections make all years equally long.
theorem IsEraDay.year_eq (h : IsEraDay dayOfEra century four rest)
    (hyear : year = (dayOfEra - dayOfEra / 1460 + dayOfEra / 36524 - dayOfEra / 146096) / 365) :
    year = 100 * century + 4 * four + min (rest / 365) 3 := by
  obtain ⟨heq, hcentury, hfour, hrest, hshort⟩ := h
  have hcenturies : dayOfEra / 36524 = century := by omega
  have hera : dayOfEra / 146096 = 0 := by omega
  by_cases hcarry : 24 * century + four + rest < 1460
  · have hfours : dayOfEra / 1460 = 25 * century + four := by omega
    omega
  · have hfours : dayOfEra / 1460 = 25 * century + four + 1 := by omega
    omega

theorem IsEraDay.day_eq (h : IsEraDay dayOfEra century four rest) (hlast : 0 ≤ last ∧ last ≤ 3)
    (hyear : year = 100 * century + 4 * four + last) :
    dayOfEra - (365 * year + year / 4 - year / 100) = rest - 365 * last := by
  obtain ⟨heq, hcentury, hfour, -, -⟩ := h
  have hfours : year / 4 = 25 * century + four := by omega
  have hcenturies : year / 100 = century := by omega
  omega

-- Only the last of four years ends in a leap day, and the last year of a century does not.
theorem IsEraDay.isMarchDay (h : IsEraDay dayOfEra century four rest) :
    IsMarchDay (100 * century + 4 * four + min (rest / 365) 3)
      (rest - 365 * min (rest / 365) 3) := by
  obtain ⟨-, -, hfour, hrest, hshort⟩ := h
  refine ⟨by omega, by omega, fun hday => isLeapYear_iff.mpr ?_⟩
  have hlast : min (rest / 365) 3 = 3 := by omega
  omega

theorem isMarchDay_dayOfEra (hnonneg : 0 ≤ dayOfEra) (hlt : dayOfEra < 146097)
    (hyear : year = (dayOfEra - dayOfEra / 1460 + dayOfEra / 36524 - dayOfEra / 146096) / 365) :
    0 ≤ year ∧ year < 400 ∧ IsMarchDay year (dayOfEra - (365 * year + year / 4 - year / 100)) := by
  by_cases hend : dayOfEra = 146096
  · subst hend
    obtain rfl : year = 399 := by omega
    exact ⟨by decide, by decide, by decide, by decide, by decide⟩
  · have h := isEraDay hnonneg (by omega)
    have hparts := h.year_eq hyear
    have hday := h.isMarchDay
    generalize dayOfEra / 36524 = century at *
    generalize dayOfEra % 36524 / 1461 = four at *
    generalize dayOfEra % 36524 % 1461 = rest at *
    have hmin : 0 ≤ min (rest / 365) 3 ∧ min (rest / 365) 3 ≤ 3 := by
      have hrest := h.rest_bounds
      omega
    generalize min (rest / 365) 3 = last at *
    have hcentury := h.century_bounds
    have hfour := h.four_bounds
    rw [h.day_eq hmin hparts]
    exact ⟨by omega, by omega, by rwa [hparts]⟩

end Era

section Month

variable {month dayOfMonth : Int}

-- The month of a day is the one that has begun while the next one has not.
theorem daysBeforeMonth_bounds (hmonth : month = (5 * day + 2) / 153) :
    daysBeforeMonth month ≤ day ∧ day < daysBeforeMonth (month + 1) := by
  simp only [daysBeforeMonth]
  omega

theorem toDays_ofMarch (hmonth : 0 ≤ month ∧ month ≤ 11) :
    (ofMarch year month dayOfMonth).toDays =
      daysBefore year + daysBeforeMonth month + dayOfMonth - 719468 := by
  by_cases hsame : month < 10
  · have hmarch : (month + 3 + 9) % 12 = month := by omega
    have hlate : ¬ month + 3 ≤ 2 := by omega
    simp only [ofMarch, toDays, daysBefore, daysBeforeMonth, if_pos hsame, if_neg hlate, hmarch]
    omega
  · have hmarch : (month - 9 + 9) % 12 = month := by omega
    have hearly : month - 9 ≤ 2 := by omega
    simp only [ofMarch, toDays, daysBefore, daysBeforeMonth, if_neg hsame, if_pos hearly, hmarch]
    omega

-- All months but February have the same length in each year.
theorem daysInMonth_march (hnonneg : 0 ≤ month) (hlt : month < 11) :
    daysInMonth (ofMarch year month dayOfMonth).year (ofMarch year month dayOfMonth).month =
      daysBeforeMonth (month + 1) - daysBeforeMonth month := by
  obtain ⟨n, rfl⟩ := Int.eq_ofNat_of_zero_le hnonneg
  have hn : n < 11 := by omega
  interval_cases n <;> rfl

theorem daysInMonth_february :
    daysInMonth (ofMarch year 11 dayOfMonth).year (ofMarch year 11 dayOfMonth).month =
      if isLeapYear (year + 1) then 29 else 28 := rfl

theorem isValid_ofMarch (h : IsMarchDay year day) (hmonth : month = (5 * day + 2) / 153) :
    (ofMarch year month (day - daysBeforeMonth month)).isValid = true := by
  obtain ⟨hnonneg, hle, hleap⟩ := h
  have hbounds := daysBeforeMonth_bounds hmonth
  have hnumber : 1 ≤ (ofMarch year month (day - daysBeforeMonth month)).month ∧
      (ofMarch year month (day - daysBeforeMonth month)).month ≤ 12 := by
    simp only [ofMarch]
    split <;> omega
  have hlength : day - daysBeforeMonth month + 1 ≤ daysInMonth
      (ofMarch year month (day - daysBeforeMonth month)).year
      (ofMarch year month (day - daysBeforeMonth month)).month := by
    by_cases hfebruary : month = 11
    · subst hfebruary
      have hbefore : daysBeforeMonth 11 = 337 := rfl
      rw [daysInMonth_february, hbefore]
      split
      · omega
      · rename_i hcommon
        have hday : day ≠ 365 := fun hday => hcommon (hleap hday)
        omega
    · rw [daysInMonth_march (by omega) (by omega)]
      omega
  have hday : 1 ≤ day - daysBeforeMonth month + 1 := by omega
  simp only [isValid, Bool.and_eq_true, decide_eq_true_eq]
  exact ⟨⟨hnumber, hday⟩, hlength⟩

-- January and February belong to the year after the one that they end.
theorem ofMarch_eq (hmonth : 0 ≤ month ∧ month ≤ 11) :
    ofMarch year month dayOfMonth =
      let named := if month < 10 then month + 3 else month - 9
      ⟨if named ≤ 2 then year + 1 else year, named, dayOfMonth + 1⟩ := by
  by_cases hsame : month < 10
  · have hlate : ¬ month + 3 ≤ 2 := by omega
    simp only [ofMarch, if_pos hsame, if_neg hlate]
  · have hearly : month - 9 ≤ 2 := by omega
    simp only [ofMarch, if_neg hsame, if_pos hearly]

theorem ofDays_eq_ofMarch (days : Int) :
    ∃ year day month, IsMarchDay year day ∧ month = (5 * day + 2) / 153 ∧
      ofDays days = ofMarch year month (day - daysBeforeMonth month) ∧
      daysBefore year + day = days + 719468 := by
  have hnonneg := Int.emod_nonneg (days + 719468) (show (146097 : Int) ≠ 0 by decide)
  have hlt := Int.emod_lt_of_pos (days + 719468) (show (0 : Int) < 146097 by decide)
  have hera := Int.mul_ediv_add_emod (days + 719468) 146097
  obtain ⟨hyear, hlast, hday⟩ := isMarchDay_dayOfEra hnonneg hlt rfl
  refine ⟨_, _, _, hday.add_era ((days + 719468) / 146097), rfl, ?_, ?_⟩
  · have hnonneg := hday.nonneg
    have hle := hday.le
    exact (ofMarch_eq (by omega)).symm
  · rw [daysBefore_add_era]
    clear hday
    generalize (_ : Int) / 365 = year at *
    have hfirst : year / 400 = 0 := by omega
    rw [daysBefore, hfirst]
    omega

end Month

-- Each count of days is that of one date.
theorem toDays_ofDays (days : Int) : (ofDays days).toDays = days := by
  obtain ⟨year, day, month, hday, hmonth, hdate, hdays⟩ := ofDays_eq_ofMarch days
  have hnonneg := hday.nonneg
  have hle := hday.le
  rw [hdate, toDays_ofMarch (by omega)]
  omega

-- The date is one that the calendar has.
theorem isValid_ofDays (days : Int) : (ofDays days).isValid = true := by
  obtain ⟨year, day, month, hday, hmonth, hdate, -⟩ := ofDays_eq_ofMarch days
  rw [hdate]
  exact isValid_ofMarch hday hmonth

theorem daysBefore_mono {before after : Int} (h : before ≤ after) :
    daysBefore before ≤ daysBefore after := by
  simp only [daysBefore]
  omega

theorem IsMarchDay.lt (h : IsMarchDay year day) : daysBefore year + day < daysBefore (year + 1) := by
  obtain ⟨hnonneg, hle, hleap⟩ := h
  simp only [daysBefore]
  by_cases hday : day = 365
  · have hyear := isLeapYear_iff.mp (hleap hday)
    omega
  · omega

-- Years do not overlap.
theorem IsMarchDay.unique {other otherDay : Int} (h : IsMarchDay year day)
    (hother : IsMarchDay other otherDay)
    (heq : daysBefore year + day = daysBefore other + otherDay) : year = other ∧ day = otherDay := by
  have hnonneg := h.nonneg
  have hlt := h.lt
  have hotherNonneg := hother.nonneg
  have hotherLt := hother.lt
  have hyear : year = other := by
    by_contra hne
    rcases Int.lt_or_gt_of_ne hne with hbefore | hafter
    · have hmono := daysBefore_mono (Int.add_one_le_of_lt hbefore)
      omega
    · have hmono := daysBefore_mono (Int.add_one_le_of_lt hafter)
      omega
  subst hyear
  exact ⟨rfl, by omega⟩

theorem exists_ofMarch {d : Date} (hmonth : 1 ≤ d.month ∧ d.month ≤ 12) :
    ∃ year month dayOfMonth, (0 ≤ month ∧ month ≤ 11) ∧ d = ofMarch year month dayOfMonth := by
  obtain ⟨year, month, dayOfMonth⟩ := d
  dsimp only at hmonth
  by_cases hearly : month ≤ 2
  · refine ⟨year - 1, month + 9, dayOfMonth - 1, by omega, ?_⟩
    simp only [ofMarch, if_neg (show ¬month + 9 < 10 by omega), mk.injEq]
    omega
  · refine ⟨year, month - 3, dayOfMonth - 1, by omega, ?_⟩
    simp only [ofMarch, if_pos (show month - 3 < 10 by omega), mk.injEq, true_and]
    omega

-- A day of a month that has it is a day of the year from March on, and lies in that month of it.
theorem isMarchDay_of_isValid {month dayOfMonth : Int} (hmonth : 0 ≤ month ∧ month ≤ 11)
    (h : (ofMarch year month dayOfMonth).isValid = true) :
    IsMarchDay year (daysBeforeMonth month + dayOfMonth) ∧
      month = (5 * (daysBeforeMonth month + dayOfMonth) + 2) / 153 := by
  simp only [isValid, Bool.and_eq_true, decide_eq_true_eq] at h
  obtain ⟨⟨-, hfirst⟩, hlength⟩ := h
  have hday : 0 ≤ dayOfMonth := by
    simp only [ofMarch] at hfirst
    omega
  have hlast : dayOfMonth + 1 ≤ daysInMonth (ofMarch year month dayOfMonth).year
    (ofMarch year month dayOfMonth).month := hlength
  by_cases hfebruary : month = 11
  · subst hfebruary
    have hbefore : daysBeforeMonth 11 = 337 := rfl
    rw [daysInMonth_february] at hlast
    rw [hbefore]
    split at hlast
    · rename_i hleap
      exact ⟨⟨by omega, by omega, fun _ => hleap⟩, by omega⟩
    · exact ⟨⟨by omega, by omega, fun hend => by omega⟩, by omega⟩
  · rw [daysInMonth_march hmonth.1 (by omega)] at hlast
    simp only [daysBeforeMonth] at hlast ⊢
    exact ⟨⟨by omega, by omega, fun hend => by omega⟩, by omega⟩

-- Each date of the calendar has one count of days.
theorem ofDays_toDays {d : Date} (h : d.isValid = true) : ofDays d.toDays = d := by
  have hbounds : 1 ≤ d.month ∧ d.month ≤ 12 := by
    simp only [isValid, Bool.and_eq_true, decide_eq_true_eq] at h
    exact h.1.1
  obtain ⟨year, month, dayOfMonth, hrange, rfl⟩ := exists_ofMarch hbounds
  obtain ⟨hday, hmonth⟩ := isMarchDay_of_isValid hrange h
  obtain ⟨other, otherDay, otherMonth, hother, hotherMonth, hdate, hdays⟩ :=
    ofDays_eq_ofMarch (ofMarch year month dayOfMonth).toDays
  rw [toDays_ofMarch hrange] at hdays
  obtain ⟨rfl, rfl⟩ := hday.unique hother (by omega)
  have hback : daysBeforeMonth month + dayOfMonth - daysBeforeMonth month = dayOfMonth := by omega
  rw [hdate, hotherMonth, ← hmonth, hback]

end RecordSql.Calendar.Date
