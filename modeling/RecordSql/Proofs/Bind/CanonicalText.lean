import RecordSql.Bind
import RecordSql.Proofs.Bind.Spelling
import RecordSql.Proofs.Outcome

namespace RecordSql

namespace Bind

theorem toOption_withError {ε α : Type} (wrap : ε → BindError) (result : Except ε α) :
    (withError wrap result).toOption = result.toOption := by
  cases result <;> rfl

theorem decimalNat_eq (n : Nat) : decimalNat n = String.ofList (decimal n) := by
  rw [decimalNat, decimal_natural]

theorem readInteger_decimal (width : Nat) (n : Int) :
    (readInteger width (String.ofList (decimal n))).toOption =
      if (IntegerRange.signed width).contains n then some n else none := by
  have hpos : 0 < Nat.pow 2 (width - 1) := Nat.pow_pos (by decide)
  have hl : (IntegerRange.signed width).least ≤ 0 := by
    simp only [IntegerRange.signed]
    omega
  have hg : 0 ≤ (IntegerRange.signed width).greatest := by
    simp only [IntegerRange.signed]
    omega
  rw [readInteger, toOption_withError, String.toList_ofList]
  exact IntegerRange.read?_decimal hl hg n

-- A number is taken by an integer type as itself exactly when its text is, for both are held
-- against the range of the type.
theorem integer_decimal (bytes : Nat) (n : Int) :
    ((readInteger (8 * bytes) (String.ofList (decimal n))).map (integer bytes)).toOption =
      (narrowed bytes n).toOption := by
  rw [toOption_map, readInteger_decimal, narrowed, toOption_map, toOption_withError,
    IntegerRange.toOption_narrow]

theorem narrowed_toInt (n : Int64) : narrowed 8 n.toInt = .ok (integer 8 n.toInt) := by
  have hn : (IntegerRange.signed 64).narrow n.toInt = .ok n.toInt :=
    IntegerRange.narrow_eq_ok.mpr ⟨IntegerRange.contains_toInt n, rfl⟩
  rw [narrowed, hn]
  rfl

theorem text_uuid (u : Uuid) : text (Value.uuid u).encode (.parsed .uuid) = .ok u.bytes := by
  rw [text, parsed, Value.encode, String.toList_ofList, read?_text]

end Bind

namespace Value

-- The kinds of value whose canonical text leaves nothing out.
def HasExactText : Value → Prop
  | .bool _ => True
  | .int _ => True
  | .uint _ => True
  | .uuid _ => True
  | _ => False

variable (type : ColumnType)

theorem bool_bindPresent (b : Bool) :
    (Bind.text (bool b).encode type).toOption = ((bool b).bindPresent type).toOption := by
  cases type with
  | parsed type => cases type <;> cases b <;> rfl
  | _ => rfl

theorem int_bindPresent (n : Int64) :
    (Bind.text (int n).encode type).toOption = ((int n).bindPresent type).toOption := by
  cases type with
  | parsed type =>
    cases type with
    | int2 => exact Bind.integer_decimal 2 n.toInt
    | int4 => exact Bind.integer_decimal 4 n.toInt
    | int8 => exact (Bind.integer_decimal 8 n.toInt).trans (by rw [Bind.narrowed_toInt]; rfl)
    | _ => rfl
  | _ => rfl

theorem uint_bindPresent (n : UInt64) :
    (Bind.text (uint n).encode type).toOption = ((uint n).bindPresent type).toOption := by
  cases type with
  | parsed type =>
    cases type with
    | int8 =>
      rw [encode, Bind.decimalNat_eq]
      exact Bind.integer_decimal 8 n.toNat
    | _ => rfl
  | _ => rfl

theorem uuid_bindPresent (u : Uuid) :
    (Bind.text (uuid u).encode type).toOption = ((uuid u).bindPresent type).toOption := by
  cases type with
  | parsed type =>
    cases type with
    | uuid => rw [Bind.text_uuid]; rfl
    | _ => rfl
  | _ => rfl

-- For a truth value, an integer or an identifier it makes no difference to any column type
-- whether the value is bound or its canonical text: either neither is taken, or the same is
-- sent for both.
theorem bind_encode (value : Value) (h : value.HasExactText) (type : ColumnType) :
    ((text value.encode).bind type).toOption = (value.bind type).toOption := by
  have hpresent : (Bind.text value.encode type).toOption = (value.bindPresent type).toOption := by
    cases value with
    | bool b => exact bool_bindPresent type b
    | int n => exact int_bindPresent type n
    | uint n => exact uint_bindPresent type n
    | uuid u => exact uuid_bindPresent type u
    | _ => exact h.elim
  have hnull : value ≠ .null := by
    rintro rfl
    exact h
  rw [bind_text, bind_eq hnull, toOption_map, toOption_map, hpresent]

-- The least number of two bytes is taken as itself, and one more than the greatest of eight
-- bytes is not taken at all, in either form.
theorem bind_encode_limits :
    let least := Value.int (-32768)
    let beyond := Value.uint 9223372036854775808
    ((text least.encode).bind (.parsed .int2)).toOption = some (some [0x80, 0x00]) ∧
      ((text beyond.encode).bind (.parsed .int8)).toOption = none := by
  intro least beyond
  exact ⟨(bind_encode least trivial _).trans (by decide),
    (bind_encode beyond trivial _).trans (by decide)⟩

end Value

end RecordSql
