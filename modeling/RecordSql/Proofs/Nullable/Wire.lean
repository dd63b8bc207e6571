import RecordSql.Nullable
import RecordSql.Proofs.Bind.TimestampText
import RecordSql.Proofs.Outcome

namespace RecordSql

open Calendar (Timestamp)

theorem Wire.ofUtf8?_utf8 (text : String) : ofUtf8? (utf8 text) = some text := by
  have hbytes : (⟨text.toByteArray.data.toList.toArray⟩ : ByteArray) = text.toByteArray := by
    rw [Array.toArray_toList]
  rw [ofUtf8?, utf8, hbytes, String.fromUTF8?, dif_pos text.isValidUTF8]
  rfl

namespace ScalarKind

-- Columns hold every scalar in full, but of the moments, which all lie in the years of the calendar,
-- only those on a whole microsecond and outside of leap seconds.
def Stored : (k : ScalarKind) → k.Carrier → Prop
  | .time, t => t.isInRange = true ∧ t.nanos < Timestamp.nanosPerSecond ∧ 1000 ∣ t.nanos
  | _, _ => True

variable {type : ColumnType}

theorem readUtf8_utf8 (text : String) : readUtf8 (Wire.utf8 text) = .ok text := by
  rw [readUtf8, Wire.ofUtf8?_utf8]

-- The version byte is cut off by the types that put it in front.
theorem readCharacters_characters (type : ColumnType) (text : String) :
    readCharacters type (Bind.characters (isVersioned type) text) = .ok text := by
  unfold readCharacters Bind.characters
  cases isVersioned type with
  | false => exact readUtf8_utf8 text
  | true => exact readUtf8_utf8 text

theorem eightBytes_eq_ok {surplus : BindError} {bytes : List UInt8} (h : bytes.length = 8) :
    eightBytes surplus bytes = .ok () := by
  rw [eightBytes, if_neg (by omega), if_neg (by omega)]

theorem read_write_int (n : Int64) : read .int type (Bind.integer 8 n.toInt) = .ok n := by
  have hbytes : Wire.TwosComplement 8 n.toInt (Bind.integer 8 n.toInt) :=
    Wire.twosComplement_signed (by decide) n.le_toInt n.toInt_lt
  rw [read, eightBytes_eq_ok hbytes.length, hbytes.spelled]
  exact congrArg Except.ok (Int64.ofInt_toInt n)

theorem read_write_bool (b : Bool) : read .bool type (Bind.boolean b) = .ok b := by
  cases b <;> rfl

-- Every pattern of bits comes back, so that no NaN and no zero is taken for another.
theorem read_write_float (x : Binary.Double) :
    read .float type (Wire.bigEndian 8 x.bits.toNat) = .ok x := by
  have hbits : Wire.ofBigEndian (Wire.bigEndian 8 x.bits.toNat) = x.bits.toNat := by
    rw [Wire.ofBigEndian_bigEndian]
    exact Nat.mod_eq_of_lt x.bits.toNat_lt
  rw [read, eightBytes_eq_ok (Wire.bigEndian_length 8 _), hbits, Binary.Double.ofBitsNat,
    UInt64.ofNat_toNat]
  rfl

theorem read_write_time {t : Timestamp} (ht : time.Stored t) :
    ∃ bytes, Bind.moment t = .ok bytes ∧ read .time type bytes = .ok t := by
  obtain ⟨hrange, hnanos, hwhole⟩ := ht
  obtain ⟨bytes, hmoment, hbytes⟩ := Bind.moment_eq_ok hrange (Nat.lt_trans hnanos (by decide))
  refine ⟨bytes, hmoment, ?_⟩
  rw [read, eightBytes_eq_ok hbytes.length]
  change readMoment bytes = .ok t
  rw [readMoment, hbytes.spelled, Timestamp.ofStoredMicros_toStoredMicros hwhole hnanos]
  exact if_pos hrange

theorem exists_read_write (k : ScalarKind) (c : k.Carrier) (type : ColumnType) (hc : k.Stored c) :
    ∃ bytes, k.write c type = .ok bytes ∧ k.read type bytes = .ok c := by
  cases k with
  | text => exact ⟨_, rfl, readCharacters_characters type c⟩
  | int => exact ⟨_, rfl, read_write_int c⟩
  | bool => exact ⟨_, rfl, read_write_bool c⟩
  | float => exact ⟨_, rfl, read_write_float c⟩
  | time => exact read_write_time hc

end ScalarKind

namespace Nullable

variable {k : ScalarKind}

-- What is written to a column that holds scalars of the kind is read from it again. Nothing is
-- sent only where nothing is there: the empty text is sent as no bytes.
theorem read_write (n : Nullable k) (type : ColumnType) (htype : k.accepts type = true)
    (hn : ∀ c ∈ n.content, k.Stored c) :
    ∃ payload, n.write type = .ok payload ∧ read type payload = .ok n ∧
      (payload = none ↔ n.content = none) ∧
      n.writeChecked type = .ok payload ∧ readChecked type payload = .ok n := by
  have hpayload : ∃ payload, n.write type = .ok payload ∧ read type payload = .ok n ∧
      (payload = none ↔ n.content = none) := by
    obtain ⟨content⟩ := n
    cases content with
    | none => exact ⟨none, rfl, rfl, by simp⟩
    | some c =>
      obtain ⟨bytes, hwrite, hread⟩ := k.exists_read_write c type (hn c rfl)
      exact ⟨some bytes, map_eq_ok_iff.mpr ⟨bytes, hwrite, rfl⟩,
        map_eq_ok_iff.mpr ⟨c, hread, rfl⟩, by simp⟩
  obtain ⟨payload, hwrite, hread, hnull⟩ := hpayload
  exact ⟨payload, hwrite, hread, hnull, (if_pos htype).trans hwrite, (if_pos htype).trans hread⟩

-- The last microsecond before 1970, from which both epochs are counted back.
theorem read_write_beforeEpoch :
    let n : Nullable .time := ⟨some ⟨-1, 999999000⟩⟩
    ScalarKind.time.accepts (.parsed .timestamptz) = true ∧
      (∀ c ∈ n.content, ScalarKind.time.Stored c) ∧
      n.write (.parsed .timestamptz) =
        .ok (some [0xff, 0xfc, 0xa2, 0xfe, 0xc4, 0xc8, 0x1f, 0xff]) ∧
      ∃ payload, n.write (.parsed .timestamptz) = .ok payload ∧
        read (.parsed .timestamptz) payload = .ok n ∧ (payload = none ↔ n.content = none) ∧
        n.writeChecked (.parsed .timestamptz) = .ok payload ∧
        readChecked (.parsed .timestamptz) payload = .ok n := by
  intro n
  have hn : ∀ c ∈ n.content, ScalarKind.time.Stored c := by
    intro c hc
    obtain rfl : ⟨-1, 999999000⟩ = c := Option.some.inj hc
    exact ⟨by decide, by decide, by decide⟩
  exact ⟨rfl, hn, by decide +kernel, read_write n _ rfl hn⟩

end Nullable

end RecordSql
