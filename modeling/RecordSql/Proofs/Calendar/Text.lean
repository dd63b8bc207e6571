import Mathlib.Data.Nat.Notation
import RecordSql.Calendar.Reader
import RecordSql.Proofs.Calendar.Days

namespace RecordSql.Calendar

section Number

variable {width n : Nat}

theorem ofDigitChars_padded (width n : Nat) : Nat.ofDigitChars 10 (padded width n) 0 = n := by
  rw [padded, Nat.ofDigitChars_append, Nat.ofDigitChars_replicate_zero, Nat.mul_zero,
    Nat.ofDigitChars_ten_toDigits]

theorem isDigit_padded {c : Char} (h : c ∈ padded width n) : c.isDigit = true := by
  rw [padded, List.mem_append] at h
  obtain hzero | hdigit := h
  · rw [List.eq_of_mem_replicate hzero]
    rfl
  · exact Nat.isDigit_of_mem_toDigits (by decide) (by decide) hdigit

theorem length_padded (hpos : 0 < width) (hn : n < 10 ^ width) :
    (padded width n).length = width := by
  have hlength := (Nat.length_toDigits_le_iff (b := 10) (by decide) hpos).mpr hn
  rw [padded, List.length_append, List.length_replicate]
  omega

-- A number that fits is read back, and what stands after it is left over.
theorem scanExactly_padded (hpos : 0 < width) (hn : n < 10 ^ width) (rest : List Char) :
    scanExactly width (padded width n ++ rest) = some (n, rest) := by
  have hlength := length_padded hpos hn
  have htake : (padded width n ++ rest).take width = padded width n := List.take_left' hlength
  have hdigits : (padded width n).all Char.isDigit = true :=
    List.all_eq_true.mpr fun _ hc => isDigit_padded hc
  rw [scanExactly, htake, List.drop_left' hlength]
  simp only [hlength, hdigits, ofDigitChars_padded, and_self, if_true]

end Number

section Reading

variable {α : Type} {width n : Nat} (rest : List Char)

theorem bind_scanExactly (hpos : 0 < width) (hn : n < 10 ^ width)
    (f : Nat × List Char → Option α) :
    scanExactly width (padded width n ++ rest) >>= f = f (n, rest) := by
  rw [scanExactly_padded hpos hn]
  rfl

theorem bind_scanChar (c : Char) (f : List Char → Option α) :
    (scanChar c (c :: rest)).toOption >>= f = f rest := by
  rw [scanChar, if_pos rfl]
  rfl

theorem bind_colon (f : List Char → Option α) : colon (':' :: rest) >>= f = f rest :=
  bind_scanChar rest ':' f

end Reading

-- The strict form to the second, with a zero offset.
theorem readTimestamp?_padded {year month day hour minute second : Nat} (hyear : year < 10 ^ 4)
    (hmonth : month < 10 ^ 2) (hday : day < 10 ^ 2) (hhour : hour < 10 ^ 2)
    (hminute : minute < 10 ^ 2) (hsecond : second < 10 ^ 2) :
    readTimestamp? (padded 4 year ++ '-' :: (padded 2 month ++ '-' :: (padded 2 day ++
        'T' :: (padded 2 hour ++ ':' :: (padded 2 minute ++ ':' :: (padded 2 second ++ ['Z'])))))) =
      moment? ⟨year, month, day⟩ ⟨hour, minute, second, 0⟩ 0 := by
  have hpos : 0 < 2 := by decide
  refine (bind_scanExactly _ (by decide) hyear _).trans ?_
  refine (bind_scanChar _ '-' _).trans ?_
  refine (bind_scanExactly _ hpos hmonth _).trans ?_
  refine (bind_scanChar _ '-' _).trans ?_
  refine (bind_scanExactly _ hpos hday _).trans ?_
  refine (if_pos (.inl rfl)).trans ?_
  refine (bind_scanExactly _ hpos hhour _).trans ?_
  refine (bind_colon _ _).trans ?_
  refine (bind_scanExactly _ hpos hminute _).trans ?_
  refine (bind_colon _ _).trans ?_
  exact bind_scanExactly _ hpos hsecond _

namespace Timestamp

variable {t : Timestamp}

-- What a clock in UTC shows, to the second.
def clock (t : Timestamp) : Clock :=
  { hour := (t.secondOfDay / 3600).toNat
    minute := (t.secondOfDay / 60 % 60).toNat
    second := (t.secondOfDay % 60).toNat
    nanos := 0 }

theorem secondOfDay_bounds (t : Timestamp) : 0 ≤ t.secondOfDay ∧ t.secondOfDay < 86400 :=
  ⟨Int.emod_nonneg _ (by decide), Int.emod_lt_of_pos _ (by decide)⟩

theorem clock_bounds (t : Timestamp) :
    t.clock.hour ≤ 23 ∧ t.clock.minute ≤ 59 ∧ t.clock.second ≤ 59 := by
  have hsecond := t.secondOfDay_bounds
  simp only [clock]
  omega

theorem secondOfDay_clock (t : Timestamp) :
    3600 * (t.clock.hour : Int) + 60 * t.clock.minute + t.clock.second = t.secondOfDay := by
  have hsecond := t.secondOfDay_bounds
  simp only [clock]
  omega

theorem date_toDays (t : Timestamp) :
    t.date.toDays * secondsPerDay + t.secondOfDay = t.seconds := by
  rw [date, Date.toDays_ofDays, secondOfDay, Int.mul_comm]
  exact Int.mul_ediv_add_emod t.seconds secondsPerDay

theorem date_bounds (t : Timestamp) :
    (1 ≤ t.date.month ∧ t.date.month ≤ 12) ∧ 1 ≤ t.date.day ∧ t.date.day ≤ 31 := by
  have hvalid := Date.isValid_ofDays (t.seconds / secondsPerDay)
  simp only [Date.isValid, Bool.and_eq_true, decide_eq_true_eq] at hvalid
  obtain ⟨⟨hmonth, hfirst⟩, hlast⟩ := hvalid
  exact ⟨hmonth, hfirst, hlast.trans (Date.daysInMonth_le _ _)⟩

-- The date and the clock of a moment stand for its second.
theorem moment?_clock (hyear : t.date.hasYearInRange = true) :
    moment? t.date t.clock 0 = some t.truncated := by
  obtain ⟨hhour, hminute, hsecond⟩ := t.clock_bounds
  have hleap : ¬ t.clock.second = 60 := by omega
  have hseconds : t.date.toDays * secondsPerDay +
      (3600 * (t.clock.hour : Int) + 60 * t.clock.minute + t.clock.second) = t.seconds := by
    rw [t.secondOfDay_clock, t.date_toDays]
  have hdate : t.date.isValid = true := Date.isValid_ofDays _
  have hclock : t.clock.isValid = true := by
    simp only [Clock.isValid, Bool.and_eq_true, decide_eq_true_eq]
    omega
  have hrange : t.truncated.isInRange = true := hyear
  simp only [moment?, if_neg hleap, Int.sub_zero, hseconds]
  rw [hdate, hyear, hclock]
  exact if_pos hrange

-- A moment in a year of four digits and outside of a leap second is written with its date and
-- its clock.
theorem text_eq (hyear : 0 ≤ t.date.year ∧ t.date.year ≤ 9999) (hnanos : t.nanos < nanosPerSecond) :
    t.text = padded 4 t.date.year.toNat ++ '-' :: (padded 2 t.date.month.toNat ++ '-' ::
      (padded 2 t.date.day.toNat ++ 'T' :: (padded 2 t.clock.hour ++ ':' ::
        (padded 2 t.clock.minute ++ ':' :: (padded 2 t.clock.second ++ ['Z']))))) := by
  rw [text, Date.text, yearText, if_pos hyear, clockText, Nat.div_eq_of_lt hnanos]
  simp only [List.append_assoc, List.cons_append, List.nil_append]
  rfl

theorem hasYearInRange_date (hyear : 0 ≤ t.date.year ∧ t.date.year ≤ 9999) :
    t.date.hasYearInRange = true := by
  rw [Date.hasYearInRange, Date.leastYear, Date.greatestYear, Bool.and_eq_true,
    decide_eq_true_eq, decide_eq_true_eq]
  omega

theorem toNat_date (hyear : 0 ≤ t.date.year) :
    (⟨t.date.year.toNat, t.date.month.toNat, t.date.day.toNat⟩ : Date) = t.date := by
  obtain ⟨hmonth, hday⟩ := t.date_bounds
  rw [Int.toNat_of_nonneg hyear, Int.toNat_of_nonneg (by omega), Int.toNat_of_nonneg (by omega)]

theorem readTimestamp?_text (hyear : 0 ≤ t.date.year ∧ t.date.year ≤ 9999)
    (hnanos : t.nanos < nanosPerSecond) : readTimestamp? t.text = some t.truncated := by
  obtain ⟨hhour, hminute, hsecond⟩ := t.clock_bounds
  obtain ⟨hmonth, hday⟩ := t.date_bounds
  rw [text_eq hyear hnanos, readTimestamp?_padded (by omega) (by omega) (by omega) (by omega)
    (by omega) (by omega), toNat_date hyear.1]
  exact moment?_clock (hasYearInRange_date hyear)

end Timestamp

end RecordSql.Calendar
