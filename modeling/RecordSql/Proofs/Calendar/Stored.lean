import RecordSql.Proofs.Calendar.Text

namespace RecordSql.Calendar

-- The years that a date may have lie close to 1970.
theorem Date.toDays_bounds {d : Date} (hvalid : d.isValid = true) (hyear : d.hasYearInRange = true) :
    -97000000 ≤ d.toDays ∧ d.toDays ≤ 96000000 := by
  have hday := Date.daysInMonth_le d.year d.month
  simp only [isValid, hasYearInRange, Bool.and_eq_true, decide_eq_true_eq] at hvalid hyear
  rw [leastYear, greatestYear] at hyear
  simp only [toDays]
  split <;> omega

namespace Timestamp

variable {d : Date} {t : Timestamp}

-- Midnight of a day lies on the day.
theorem date_ofDate (hvalid : d.isValid = true) : (ofDate d).date = d := by
  have hdays : d.toDays * secondsPerDay / secondsPerDay = d.toDays :=
    Int.mul_ediv_cancel _ (by decide)
  rw [date, ofDate, hdays, Date.ofDays_toDays hvalid]

theorem isInRange_ofDate (hvalid : d.isValid = true) (hyear : d.hasYearInRange = true) :
    (ofDate d).isInRange = true := by
  rw [isInRange, date_ofDate hvalid, hyear]

theorem seconds_bounds (h : t.isInRange = true) :
    -97000000 * 86400 ≤ t.seconds ∧ t.seconds < 96000001 * 86400 := by
  have hdays := Date.toDays_bounds (Date.isValid_ofDays _) h
  have hsecond := t.secondOfDay_bounds
  have hseconds : t.date.toDays * 86400 + t.secondOfDay = t.seconds := t.date_toDays
  rw [date] at hseconds
  omega

theorem toStoredMicros_eq (t : Timestamp) : t.toStoredMicros =
    ((t.seconds - 10957 * 86400) * 1000000000 + t.nanos).tdiv 1000 := rfl

-- All that is dropped is a part of a microsecond.
theorem toStoredMicros_whole {micros : Nat} (h : t.nanos = 1000 * micros) :
    t.toStoredMicros = (t.seconds - 10957 * 86400) * 1000000 + micros := by
  have hsplit : (t.seconds - 10957 * 86400) * 1000000000 + (t.nanos : Int) =
      ((t.seconds - 10957 * 86400) * 1000000 + micros) * 1000 := by
    omega
  rw [toStoredMicros_eq, hsplit, Int.mul_tdiv_cancel _ (by decide)]

theorem toStoredMicros_truncated (t : Timestamp) :
    t.truncated.toStoredMicros = (t.seconds - 10957 * 86400) * 1000000 :=
  (toStoredMicros_whole (show t.truncated.nanos = 1000 * 0 from rfl)).trans (Int.add_zero _)

-- Every moment can be stored, also one in a leap second.
theorem toStoredMicros_bounds (h : t.isInRange = true) (hnanos : t.nanos < 2 * nanosPerSecond) :
    -9223372036854775808 ≤ t.toStoredMicros ∧ t.toStoredMicros ≤ 9223372036854775807 := by
  have hseconds := seconds_bounds h
  have hfraction : t.nanos < 2000000000 := hnanos
  have hsign : Int.sign 1000 = 1 := rfl
  rw [toStoredMicros_eq, Int.tdiv_eq_ediv, hsign]
  split <;> omega

-- A moment on a whole microsecond comes back of what is stored.
theorem ofStoredMicros_toStoredMicros (hwhole : 1000 ∣ t.nanos) (hnanos : t.nanos < nanosPerSecond) :
    ofStoredMicros t.toStoredMicros = t := by
  obtain ⟨seconds, nanos⟩ := t
  obtain ⟨micros, rfl⟩ := hwhole
  have hmicros : 1000 * micros < 1000000000 := hnanos
  have hsecond : ((seconds - 10957 * 86400) * 1000000 + (micros : Int)) / 1000000 =
      seconds - 10957 * 86400 := by omega
  have hfraction : ((seconds - 10957 * 86400) * 1000000 + (micros : Int)) % 1000000 = micros := by
    omega
  rw [toStoredMicros_whole rfl, ofStoredMicros]
  simp only [hsecond, hfraction, storedEpochDays, secondsPerDay, mk.injEq]
  omega

end Timestamp

end RecordSql.Calendar
