import RecordSql.Bind
import RecordSql.Proofs.Calendar.Stored
import RecordSql.Proofs.Wire.TwosComplement

namespace RecordSql

variable {t : Calendar.Timestamp}

open Calendar (Timestamp)

namespace Bind

-- Every moment is sent, as its microseconds since 2000.
theorem moment_eq_ok (h : t.isInRange = true) (hnanos : t.nanos < 2 * Timestamp.nanosPerSecond) :
    ∃ bytes, moment t = .ok bytes ∧ Wire.TwosComplement 8 t.toStoredMicros bytes := by
  have hbounds := Timestamp.toStoredMicros_bounds h hnanos
  have hrange : (IntegerRange.signed 64).contains t.toStoredMicros = true :=
    IntegerRange.contains_iff.mpr hbounds
  exact ⟨_, if_pos hrange, Wire.twosComplement_signed (by decide) (by omega) (by omega)⟩

theorem moment_truncated (hyear : 0 ≤ t.date.year ∧ t.date.year ≤ 9999) :
    ∃ bytes, moment t.truncated = .ok bytes ∧
      Wire.TwosComplement 8 ((t.seconds - 10957 * 86400) * 1000000) bytes := by
  have hrange : t.truncated.isInRange = true := Timestamp.hasYearInRange_date hyear
  rw [← t.toStoredMicros_truncated]
  exact moment_eq_ok hrange (show 0 < 2 * Timestamp.nanosPerSecond by decide)

theorem readMoment_text (hyear : 0 ≤ t.date.year ∧ t.date.year ≤ 9999)
    (hnanos : t.nanos < Timestamp.nanosPerSecond) :
    readMoment (Value.timestamp t).encode = .ok t.truncated := by
  rw [readMoment, Value.encode, String.toList_ofList, Timestamp.readTimestamp?_text hyear hnanos]

end Bind

namespace Value

-- The canonical text of a moment is bound as the second in which the moment lies, the same as
-- that second itself. What is dropped is always later than what is kept, also before the years
-- from which seconds and stored times count.
theorem bind_timestampText (t : Timestamp) (hyear : 0 ≤ t.date.year ∧ t.date.year ≤ 9999)
    (hnanos : t.nanos < Timestamp.nanosPerSecond) (type : ParsedType)
    (htype : type = .timestamptz ∨ type = .timestamp) :
    ∃ bytes, (text (timestamp t).encode).bind (.parsed type) = .ok (some bytes) ∧
      (timestamp t.truncated).bind (.parsed type) = .ok (some bytes) ∧
      Wire.TwosComplement 8 ((t.seconds - 10957 * 86400) * 1000000) bytes := by
  obtain ⟨bytes, hmoment, hbytes⟩ := Bind.moment_truncated hyear
  have htext : Bind.text (timestamp t).encode (.parsed type) = .ok bytes := by
    have hread : ((Bind.readMoment (timestamp t).encode).bind Bind.moment) = .ok bytes := by
      rw [Bind.readMoment_text hyear hnanos]
      exact hmoment
    obtain rfl | rfl := htype <;> exact hread
  have hnative : (timestamp t.truncated).bindPresent (.parsed type) = .ok bytes := by
    obtain rfl | rfl := htype <;> exact hmoment
  refine ⟨bytes, ?_, ?_, hbytes⟩
  · rw [bind_text, htext]
    rfl
  · rw [bind_eq (by simp), hnative]
    rfl

-- The last second of the leap day of year zero, shortly before it is over.
theorem bind_timestampText_leapDay :
    let t : Timestamp := ⟨-62162035201, 999999999⟩
    (0 ≤ t.date.year ∧ t.date.year ≤ 9999) ∧ t.nanos < Timestamp.nanosPerSecond ∧
      (timestamp t).encode = "0000-02-29T23:59:59Z" ∧
      ∃ bytes, (text (timestamp t).encode).bind (.parsed .timestamptz) = .ok (some bytes) ∧
        (timestamp t.truncated).bind (.parsed .timestamptz) = .ok (some bytes) ∧
        Wire.TwosComplement 8 ((t.seconds - 10957 * 86400) * 1000000) bytes := by
  intro t
  have hyear : 0 ≤ t.date.year ∧ t.date.year ≤ 9999 := by decide +kernel
  have hnanos : t.nanos < Timestamp.nanosPerSecond := by decide
  exact ⟨hyear, hnanos, by decide +kernel, bind_timestampText t hyear hnanos _ (.inl rfl)⟩

end Value

end RecordSql
