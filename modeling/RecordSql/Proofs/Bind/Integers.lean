import RecordSql.Proofs.Bind.CanonicalText
import RecordSql.Proofs.Wire.TwosComplement

namespace RecordSql

-- Decimal digits, at least one of them.
structure Digits (text : List Char) : Prop where
  nonempty : text ≠ []
  digit : ∀ c ∈ text, c.isDigit = true

-- The texts that spell an integer: digits, after one sign or none.
inductive Numeral : List Char → Int → Prop
  | bare {digits : List Char} (h : Digits digits) : Numeral digits (Nat.ofDigitChars 10 digits 0)
  | plus {digits : List Char} (h : Digits digits) :
    Numeral ('+' :: digits) (Nat.ofDigitChars 10 digits 0)
  | minus {digits : List Char} (h : Digits digits) :
    Numeral ('-' :: digits) (-(Nat.ofDigitChars 10 digits 0 : Nat))

namespace IntegerRange

variable {range : IntegerRange} {digits text : List Char} {n : Int}

section Magnitude

variable {limit : Nat} {overflow : IntegerError} {start m : Nat}

theorem isDigit_of_readMagnitude (h : readMagnitude limit overflow start digits = .ok m) :
    ∀ c ∈ digits, c.isDigit = true := by
  induction digits generalizing start with
  | nil => simp
  | cons c rest ih =>
    rw [readMagnitude] at h
    dsimp only at h
    split at h
    · rename_i hc
      split at h
      · simp at h
      · exact List.forall_mem_cons.mpr ⟨hc, ih h⟩
    · simp at h

theorem readMagnitude_eq_ok_iff (hs : start ≤ limit) :
    readMagnitude limit overflow start digits = .ok m ↔
      (∀ c ∈ digits, c.isDigit = true) ∧ m = Nat.ofDigitChars 10 digits start ∧ m ≤ limit := by
  constructor
  · intro h
    have hdigits := isDigit_of_readMagnitude h
    rw [readMagnitude_digits hdigits hs] at h
    split at h
    · rename_i hle
      obtain rfl := Except.ok.inj h
      exact ⟨hdigits, rfl, hle⟩
    · simp at h
  · rintro ⟨hdigits, rfl, hle⟩
    rw [readMagnitude_digits hdigits hs, if_pos hle]

end Magnitude

theorem readPositive_eq_ok_iff (hg : 0 ≤ range.greatest) :
    range.readPositive digits = .ok n ↔
      (∀ c ∈ digits, c.isDigit = true) ∧ n = Nat.ofDigitChars 10 digits 0 ∧ n ≤ range.greatest := by
  have hread : range.readPositive digits =
      (readMagnitude range.greatest.toNat .tooLarge 0 digits).map (fun m : Nat => (m : Int)) := by
    rw [readPositive]
    cases readMagnitude range.greatest.toNat .tooLarge 0 digits <;> rfl
  rw [hread, map_eq_ok_iff]
  constructor
  · rintro ⟨m, hm, rfl⟩
    obtain ⟨hdigits, rfl, hle⟩ := (readMagnitude_eq_ok_iff (Nat.zero_le _)).mp hm
    exact ⟨hdigits, rfl, Int.le_toNat hg |>.mp hle⟩
  · rintro ⟨hdigits, rfl, hle⟩
    exact ⟨_, (readMagnitude_eq_ok_iff (Nat.zero_le _)).mpr
      ⟨hdigits, rfl, (Int.le_toNat hg).mpr hle⟩, rfl⟩

theorem readNegative_eq_ok_iff (hl : range.least ≤ 0) :
    range.readNegative digits = .ok n ↔
      (∀ c ∈ digits, c.isDigit = true) ∧ n = -(Nat.ofDigitChars 10 digits 0 : Nat) ∧
        range.least ≤ n := by
  have hbound : ∀ m : Nat, m ≤ range.least.natAbs ↔ range.least ≤ -m := fun m => by omega
  have hread : range.readNegative digits =
      (readMagnitude range.least.natAbs .tooSmall 0 digits).map (fun m : Nat => -(m : Int)) := by
    rw [readNegative]
    cases readMagnitude range.least.natAbs .tooSmall 0 digits <;> rfl
  rw [hread, map_eq_ok_iff]
  constructor
  · rintro ⟨m, hm, rfl⟩
    obtain ⟨hdigits, rfl, hle⟩ := (readMagnitude_eq_ok_iff (Nat.zero_le _)).mp hm
    exact ⟨hdigits, rfl, (hbound _).mp hle⟩
  · rintro ⟨hdigits, rfl, hle⟩
    exact ⟨_, (readMagnitude_eq_ok_iff (Nat.zero_le _)).mpr ⟨hdigits, rfl, (hbound _).mpr hle⟩, rfl⟩

-- A digit is no sign.
theorem read_of_digits (h : Digits digits) : range.read digits = range.readPositive digits := by
  obtain ⟨hne, hdigits⟩ := h
  unfold read
  split
  · exact absurd rfl hne
  · exact absurd (hdigits '+' List.mem_cons_self) (by decide)
  · exact absurd (hdigits '-' List.mem_cons_self) (by decide)
  · rfl

-- A range around zero reads the numerals of the integers in it, and nothing else.
theorem read_eq_ok_iff (hl : range.least < 0) (hg : 0 ≤ range.greatest) :
    range.read text = .ok n ↔ Numeral text n ∧ range.contains n = true := by
  rw [contains_iff]
  constructor
  · intro h
    unfold read at h
    split at h
    · simp at h
    · rename_i digits
      split at h
      · simp at h
      · rename_i hne
        obtain ⟨hdigits, rfl, hle⟩ := (readPositive_eq_ok_iff hg).mp h
        exact ⟨.plus ⟨by simpa using hne, hdigits⟩, by omega⟩
    · rename_i digits
      split at h
      · simp at h
      · rename_i hne
        obtain ⟨hdigits, rfl, hle⟩ := (readNegative_eq_ok_iff (by omega)).mp h
        refine ⟨.minus ⟨?_, hdigits⟩, by omega⟩
        rintro rfl
        simp at hne
    · rename_i hne _ _
      obtain ⟨hdigits, rfl, hle⟩ := (readPositive_eq_ok_iff hg).mp h
      exact ⟨.bare ⟨hne, hdigits⟩, by omega⟩
  · rintro ⟨hn, hleast, hgreatest⟩
    cases hn with
    | bare h =>
      rw [read_of_digits h]
      exact (readPositive_eq_ok_iff hg).mpr ⟨h.digit, rfl, hgreatest⟩
    | @plus digits h =>
      have hread : range.read ('+' :: digits) = range.readPositive digits := by
        simp [read, h.nonempty]
      rw [hread]
      exact (readPositive_eq_ok_iff hg).mpr ⟨h.digit, rfl, hgreatest⟩
    | @minus digits h =>
      have hread : range.read ('-' :: digits) = range.readNegative digits := by
        simp [read, h.nonempty, hl]
      rw [hread]
      exact (readNegative_eq_ok_iff (by omega)).mpr ⟨h.digit, rfl, hleast⟩

end IntegerRange

-- The column types that hold integers.
inductive IntegerType
  | int2
  | int4
  | int8
  deriving DecidableEq

namespace IntegerType

def column : IntegerType → ColumnType
  | .int2 => .parsed .int2
  | .int4 => .parsed .int4
  | .int8 => .parsed .int8

def bytes : IntegerType → Nat
  | .int2 => 2
  | .int4 => 4
  | .int8 => 8

-- An integer that is in the range of the type.
def Holds (type : IntegerType) (n : Int) : Prop :=
  -2 ^ (8 * type.bytes - 1) ≤ n ∧ n < 2 ^ (8 * type.bytes - 1)

-- How a value that may denote an integer is bound. It is taken when it denotes an integer in the
-- range of the type, and then that integer is what is sent.
structure Exact (type : IntegerType) (denotes : Int → Prop) (result : Except BindError Payload) :
    Prop where
  taken : (∃ payload, result = .ok payload) ↔ ∃ n, denotes n ∧ type.Holds n
  sent : ∀ payload, result = .ok payload → ∃ n bytes, denotes n ∧ payload = some bytes ∧
    Wire.TwosComplement type.bytes n bytes

variable {type : IntegerType} {n : Int}

theorem holds_iff_contains :
    type.Holds n ↔ (IntegerRange.signed (8 * type.bytes)).contains n = true := by
  have hpower : ((Nat.pow 2 (8 * type.bytes - 1) : Nat) : Int) = 2 ^ (8 * type.bytes - 1) :=
    Nat.cast_pow 2 _
  rw [Holds, IntegerRange.contains_iff, IntegerRange.signed, hpower]
  exact and_congr_right fun _ => Int.le_sub_one_iff.symm

theorem twosComplement_integer (h : type.Holds n) :
    Wire.TwosComplement type.bytes n (Bind.integer type.bytes n) :=
  Wire.twosComplement_signed (by cases type <;> decide) h.1 h.2

-- What is bound to a number exactly when the number is meant and in the range is bound exactly.
theorem exact_of_iff {denotes : Int → Prop} {result : Except BindError (List UInt8)}
    (h : ∀ bytes, result = .ok bytes ↔
      ∃ n, denotes n ∧ type.Holds n ∧ bytes = Bind.integer type.bytes n) :
    type.Exact denotes (result.map some) where
  taken := by
    constructor
    · rintro ⟨payload, hp⟩
      obtain ⟨bytes, hb, -⟩ := map_eq_ok_iff.mp hp
      obtain ⟨n, hn, hholds, -⟩ := (h bytes).mp hb
      exact ⟨n, hn, hholds⟩
    · rintro ⟨n, hn, hholds⟩
      exact ⟨_, map_eq_ok_iff.mpr ⟨_, (h _).mpr ⟨n, hn, hholds, rfl⟩, rfl⟩⟩
  sent payload hp := by
    obtain ⟨bytes, hb, rfl⟩ := map_eq_ok_iff.mp hp
    obtain ⟨n, hn, hholds, rfl⟩ := (h bytes).mp hb
    exact ⟨n, _, hn, rfl, twosComplement_integer hholds⟩

theorem narrowed_eq_ok_iff {bytes : List UInt8} :
    Bind.narrowed type.bytes n = .ok bytes ↔
      type.Holds n ∧ bytes = Bind.integer type.bytes n := by
  rw [Bind.narrowed, map_eq_ok_iff, holds_iff_contains]
  constructor
  · rintro ⟨m, hm, rfl⟩
    have hnarrow : (IntegerRange.signed (8 * type.bytes)).narrow n = .ok m := by
      cases h : (IntegerRange.signed (8 * type.bytes)).narrow n with
      | error e => simp [h, Bind.withError] at hm
      | ok k => simpa [h, Bind.withError] using hm
    obtain ⟨hcontains, rfl⟩ := IntegerRange.narrow_eq_ok.mp hnarrow
    exact ⟨hcontains, rfl⟩
  · rintro ⟨hcontains, rfl⟩
    have hnarrow := IntegerRange.narrow_eq_ok.mpr ⟨hcontains, rfl⟩
    exact ⟨n, by rw [hnarrow, Bind.withError], rfl⟩

-- A number is narrowed to the range of the type.
theorem exact_narrowed {result : Except BindError (List UInt8)}
    (h : result.toOption = (Bind.narrowed type.bytes n).toOption) :
    type.Exact (· = n) (result.map some) := by
  refine exact_of_iff fun bytes => ?_
  have hok : ∀ other : Except BindError (List UInt8),
      other.toOption = some bytes ↔ other = .ok bytes := fun other => by
    cases other <;> simp [Except.toOption]
  rw [← hok, h, hok, narrowed_eq_ok_iff]
  simp

theorem text_column (type : IntegerType) (s : String) :
    Bind.text s type.column =
      (Bind.readInteger (8 * type.bytes) s).map (Bind.integer type.bytes) := by
  cases type <;> rfl

-- The texts that are read are the numerals of integers in the range.
theorem exact_text (s : String) :
    type.Exact (Numeral s.toList) ((Value.text s).bind type.column) := by
  have hpos : 0 < Nat.pow 2 (8 * type.bytes - 1) := Nat.pow_pos (by decide)
  have hl : (IntegerRange.signed (8 * type.bytes)).least < 0 := by
    simp only [IntegerRange.signed]
    omega
  have hg : 0 ≤ (IntegerRange.signed (8 * type.bytes)).greatest := by
    simp only [IntegerRange.signed]
    omega
  have hread : ∀ n, Bind.readInteger (8 * type.bytes) s = .ok n ↔
      Numeral s.toList n ∧ type.Holds n := fun n => by
    rw [holds_iff_contains, ← IntegerRange.read_eq_ok_iff hl hg, Bind.readInteger]
    cases (IntegerRange.signed (8 * type.bytes)).read s.toList <;> simp [Bind.withError]
  rw [Value.bind_text]
  refine exact_of_iff fun bytes => ?_
  rw [text_column, map_eq_ok_iff]
  constructor
  · rintro ⟨n, hn, rfl⟩
    exact ⟨n, ((hread n).mp hn).1, ((hread n).mp hn).2, rfl⟩
  · rintro ⟨n, hnumeral, hholds, rfl⟩
    exact ⟨n, (hread n).mpr ⟨hnumeral, hholds⟩, rfl⟩

-- Integers are sent as what they are or not at all, whether they come signed, unsigned or as text.
-- No column type of integers cuts anything off, and none takes a text that spells no integer.
theorem integers_exact (type : IntegerType) :
    (∀ v : Int64, type.Exact (· = v.toInt) ((Value.int v).bind type.column)) ∧
      (∀ v : UInt64, type.Exact (· = (v.toNat : Int)) ((Value.uint v).bind type.column)) ∧
      ∀ s : String, type.Exact (Numeral s.toList) ((Value.text s).bind type.column) := by
  refine ⟨fun v => ?_, fun v => ?_, exact_text⟩
  · have hdecimal : (Bind.text (Value.int v).encode type.column).toOption =
        (Bind.narrowed type.bytes v.toInt).toOption := by
      rw [Value.encode, text_column]
      exact Bind.integer_decimal type.bytes v.toInt
    rw [Value.bind_eq (by simp)]
    exact exact_narrowed ((Value.int_bindPresent type.column v).symm.trans hdecimal)
  · have hdecimal : (Bind.text (Value.uint v).encode type.column).toOption =
        (Bind.narrowed type.bytes v.toNat).toOption := by
      rw [Value.encode, Bind.decimalNat_eq, text_column]
      exact Bind.integer_decimal type.bytes v.toNat
    rw [Value.bind_eq (by simp)]
    exact exact_narrowed ((Value.uint_bindPresent type.column v).symm.trans hdecimal)

-- Zeros in front do not count, and neither a second sign nor a fraction is read.
example : ["-000129", "+129", "-129000", "--129", "129.0"].map (fun s =>
    ((Value.text s).bind IntegerType.int2.column).toOption) =
      [some (some [0xff, 0x7f]), some (some [0x00, 0x81]), none, none, none] := by
  decide +kernel

end IntegerType

end RecordSql
