import RecordSql.Nullable
import RecordSql.Proofs.Calendar.Scan
import RecordSql.Proofs.Json.Scalar

namespace RecordSql

open Calendar (Timestamp)

namespace ScalarKind

-- The scalars whose JSON text is read again. A moment must lie in a year of four digits and outside
-- of leap seconds. Doubles are left out, since a decimal is rounded more than once when it is read.
def Spelled : (k : ScalarKind) → k.Carrier → Prop
  | .time, t => (0 ≤ t.date.year ∧ t.date.year ≤ 9999) ∧ t.nanos < Timestamp.nanosPerSecond
  | .float, _ => False
  | _, _ => True

-- What a JSON text keeps: of a moment its second, and of an absent number a zero.
def kept : (k : ScalarKind) → Option k.Carrier → Option k.Carrier
  | .time, content => content.map Timestamp.truncated
  | .int, content => some (content.getD 0)
  | .float, content => some (content.getD (Binary.Double.ofBitsNat 0))
  | _, content => content

theorem int64?_toInt (n : Int64) : int64? n.toInt = some n := by
  rw [int64?, if_pos (IntegerRange.contains_toInt n), Int64.ofInt_toInt]

theorem ofJson?_integer (n : Int64) :
    ScalarKind.int.ofJson? (.number ⟨n.toInt < 0, Nat.toDigits 10 n.toInt.natAbs, none, none⟩) =
      some n := by
  have hl := n.le_toInt
  have hg := n.toInt_lt
  rw [ofJson?, Json.integer?_decimal (by omega) (by omega)]
  exact int64?_toInt n

-- A scalar is written as a JSON value of its own, which null is not.
theorem exists_read?_writeJson (k : ScalarKind) (depth : Nat) (c : k.Carrier) (hc : k.Spelled c) :
    ∃ value, Json.read? depth (String.ofList (k.writeJson c)) = some value ∧ value ≠ .null ∧
      k.ofJson? value = k.kept (some c) := by
  cases k with
  | text =>
    refine ⟨_, Json.read?_writeText depth c.toList, by simp, ?_⟩
    exact congrArg some String.ofList_toList
  | int => exact ⟨_, Json.read?_integer depth c.toInt, by simp, ofJson?_integer c⟩
  | bool => cases c <;> exact ⟨_, rfl, by simp, rfl⟩
  | float => exact hc.elim
  | time =>
    refine ⟨_, Json.read?_writeText depth c.text, by simp, ?_⟩
    rw [ofJson?, String.toList_ofList]
    exact Timestamp.readLooseTimestamp?_text hc.1 hc.2

end ScalarKind

namespace Nullable

variable {k : ScalarKind} {value : Json} {json : String}

theorem ofJson?_of_read (hread : Json.read? Json.usualDepth json = some value)
    (hvalue : value ≠ .null) :
    (ofJson? json : Option (Nullable k)) = (k.ofJson? value).map fun c => ⟨some c⟩ := by
  rw [ofJson?, hread]
  cases value with
  | null => exact absurd rfl hvalue
  | _ => rfl

theorem ofJson?_absentJson (k : ScalarKind) :
    (ofJson? (String.ofList k.absentJson) : Option (Nullable k)) = some ⟨k.kept none⟩ := by
  cases k <;> rfl

-- What is written as a JSON text is read from it again, as far as the text keeps it.
theorem ofJson?_toJson (n : Nullable k) (hn : ∀ c ∈ n.content, k.Spelled c) :
    ofJson? n.toJson = some ⟨k.kept n.content⟩ := by
  obtain ⟨content⟩ := n
  cases content with
  | none => exact ofJson?_absentJson k
  | some c =>
    obtain ⟨value, hread, hvalue, hkept⟩ :=
      k.exists_read?_writeJson Json.usualDepth c (hn c rfl)
    refine (ofJson?_of_read hread hvalue).trans ?_
    rw [hkept]
    -- Of a scalar that is there, every kind keeps one.
    cases k <;> rfl

-- Half a second before 1970, which is cut back to the second before.
theorem ofJson?_toJson_beforeEpoch :
    let n : Nullable .time := ⟨some ⟨-1, 500000000⟩⟩
    (∀ c ∈ n.content, ScalarKind.time.Spelled c) ∧ n.toJson = "\"1969-12-31T23:59:59Z\"" ∧
      ScalarKind.time.kept n.content = some ⟨-1, 0⟩ ∧
      ofJson? n.toJson = some ⟨ScalarKind.time.kept n.content⟩ := by
  intro n
  have hn : ∀ c ∈ n.content, ScalarKind.time.Spelled c := by
    intro c hc
    obtain rfl : ⟨-1, 500000000⟩ = c := Option.some.inj hc
    exact ⟨by decide, by decide⟩
  exact ⟨hn, by decide +kernel, rfl, ofJson?_toJson n hn⟩

end Nullable

end RecordSql
