import RecordSql.Proofs.Bind.TimestampText
import RecordSql.Proofs.Calendar.Scan

namespace RecordSql

open Calendar (Date Timestamp)

namespace Bind

variable {s : String} {d : Date}

theorem readDay_eq_ok_iff : readDay s = .ok d ↔ Calendar.readDate s.toList = .ok d := by
  rw [readDay]
  cases Calendar.readDate s.toList <;> simp [withError]

-- Every date is sent, as its days since 2000.
theorem day_eq_ok (hvalid : d.isValid = true) (hyear : d.hasYearInRange = true) :
    ∃ bytes, day d = .ok bytes ∧ Wire.TwosComplement 4 (d.toDays - 10957) bytes := by
  have hbounds := Date.toDays_bounds hvalid hyear
  have hrange : (IntegerRange.signed 32).contains (d.toDays - 10957) = true := by
    rw [IntegerRange.contains_iff]
    show -2147483648 ≤ _ ∧ _ ≤ (2147483647 : Int)
    omega
  exact ⟨_, if_pos hrange, Wire.twosComplement_signed (by decide) (by omega) (by omega)⟩

-- Midnight is sent as the days since 2000, counted in microseconds.
theorem moment_ofDate (hvalid : d.isValid = true) (hyear : d.hasYearInRange = true) :
    ∃ bytes, moment (.ofDate d) = .ok bytes ∧
      Wire.TwosComplement 8 ((d.toDays - 10957) * 86400000000) bytes := by
  have hmicros : (Timestamp.ofDate d).toStoredMicros = (d.toDays - 10957) * 86400000000 := by
    have hwhole := Timestamp.toStoredMicros_truncated (.ofDate d)
    have hseconds : (Timestamp.ofDate d).seconds = d.toDays * 86400 := rfl
    rw [hseconds] at hwhole
    exact hwhole.trans (by omega)
  rw [← hmicros]
  exact moment_eq_ok (Timestamp.isInRange_ofDate hvalid hyear)
    (show 0 < 2 * Timestamp.nanosPerSecond by decide)

-- What is a date is never a moment with its offset as well, so that it stands for its midnight.
theorem readMoment_of_readDay (h : readDay s = .ok d) : readMoment s = .ok (.ofDate d) := by
  rw [readMoment, Calendar.readTimestamp?_of_readDate (readDay_eq_ok_iff.mp h), h]
  rfl

end Bind

namespace Value

-- Both types of timestamps read a text alike, and a text that is a day to one type is the midnight
-- at the start of that day to the others.
theorem bind_dateText (s : String) :
    ((text s).bind (.parsed .timestamp)).toOption =
        ((text s).bind (.parsed .timestamptz)).toOption ∧
      ∀ payload, (text s).bind (.parsed .date) = .ok payload →
        ∃ days date midnight, payload = some date ∧ Wire.TwosComplement 4 days date ∧
          Wire.TwosComplement 8 (days * 86400000000) midnight ∧
          (text s).bind (.parsed .timestamp) = .ok (some midnight) ∧
          (text s).bind (.parsed .timestamptz) = .ok (some midnight) := by
  refine ⟨rfl, fun payload hpayload => ?_⟩
  rw [bind_text] at hpayload
  obtain ⟨day, hday, rfl⟩ := map_eq_ok_iff.mp hpayload
  obtain ⟨d, hread, hsent⟩ := bind_eq_ok_iff.mp hday
  obtain ⟨hvalid, hyear⟩ := Calendar.checked_of_readDate (Bind.readDay_eq_ok_iff.mp hread)
  obtain ⟨days, hdays, hcount⟩ := Bind.day_eq_ok hvalid hyear
  obtain rfl : days = day := Except.ok.inj (hdays.symm.trans hsent)
  obtain ⟨midnight, hmoment, hmicros⟩ := Bind.moment_ofDate hvalid hyear
  have hbound : (Bind.readMoment s).bind Bind.moment = .ok midnight := by
    rw [Bind.readMoment_of_readDay hread]
    exact hmoment
  refine ⟨_, days, midnight, rfl, hcount, hmicros, ?_, ?_⟩
  · rw [bind_text, Bind.text, Bind.parsed, hbound]
    rfl
  · rw [bind_text, Bind.text, Bind.parsed, hbound]
    rfl

-- The first day of all, with a blank in front of its month.
theorem bind_dateText_firstDay :
    (text "-262143- 1-01").bind (.parsed .date) = .ok (some [0xfa, 0x3f, 0xe3, 0xa7]) ∧
      ∃ days date midnight, some [0xfa, 0x3f, 0xe3, 0xa7] = some date ∧
        Wire.TwosComplement 4 days date ∧ Wire.TwosComplement 8 (days * 86400000000) midnight ∧
        (text "-262143- 1-01").bind (.parsed .timestamp) = .ok (some midnight) ∧
        (text "-262143- 1-01").bind (.parsed .timestamptz) = .ok (some midnight) := by
  have hday : (text "-262143- 1-01").bind (.parsed .date) =
      .ok (some [0xfa, 0x3f, 0xe3, 0xa7]) := by decide +kernel
  exact ⟨hday, (bind_dateText _).2 _ hday⟩

end Value

end RecordSql
