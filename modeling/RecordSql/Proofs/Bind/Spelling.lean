import Mathlib.Algebra.GroupWithZero.Nat
import RecordSql.Integer
import RecordSql.Proofs.Unicode.Blank
import RecordSql.Uuid

namespace RecordSql

theorem decimal_natural (n : Nat) : decimal n = Nat.toDigits 10 n := by
  rw [decimal, if_neg (by omega), Int.natAbs_natCast]

namespace IntegerRange

variable {range : IntegerRange}

theorem le_ofDigitChars (digits : List Char) (n : Nat) : n ≤ Nat.ofDigitChars 10 digits n := by
  induction digits generalizing n with
  | nil => simp
  | cons c rest ih =>
    rw [Nat.ofDigitChars_cons]
    exact Nat.le_trans (by omega) (ih _)

-- Numbers only grow with every digit, so that the first one past the limit decides as the last
-- one would.
theorem readMagnitude_digits {limit : Nat} {overflow : IntegerError} {digits : List Char}
    (h : ∀ c ∈ digits, c.isDigit = true) {n : Nat} (hn : n ≤ limit) :
    readMagnitude limit overflow n digits =
      if Nat.ofDigitChars 10 digits n ≤ limit then .ok (Nat.ofDigitChars 10 digits n)
      else .error overflow := by
  induction digits generalizing n with
  | nil => simp [readMagnitude, hn]
  | cons c rest ih =>
    obtain ⟨hc, hrest⟩ := List.forall_mem_cons.mp h
    rw [readMagnitude, if_pos hc, Nat.ofDigitChars_cons]
    dsimp only
    split
    · rename_i hover
      have hle := le_ofDigitChars rest (10 * n + (c.toNat - '0'.toNat))
      rw [if_neg (by omega)]
    · rename_i hunder
      exact ih hrest (by omega)

theorem readMagnitude_toDigits (limit : Nat) (overflow : IntegerError) (n : Nat) :
    readMagnitude limit overflow 0 (Nat.toDigits 10 n) =
      if n ≤ limit then .ok n else .error overflow := by
  rw [readMagnitude_digits (fun c => Nat.isDigit_of_mem_toDigits (by decide) (by decide))
    (Nat.zero_le _), Nat.ofDigitChars_ten_toDigits]

theorem toDigits_eq_cons (n : Nat) :
    ∃ c rest, Nat.toDigits 10 n = c :: rest ∧ c.isDigit = true := by
  cases h : Nat.toDigits 10 n with
  | nil => exact absurd h Nat.toDigits_ne_nil
  | cons c rest =>
    refine ⟨c, rest, rfl, ?_⟩
    exact Nat.isDigit_of_mem_toDigits (b := 10) (n := n) (by decide) (by decide) (by simp [h])

-- Digits without a sign are read as a number that is not negative.
theorem read_toDigits (range : IntegerRange) (n : Nat) :
    range.read (Nat.toDigits 10 n) = range.readPositive (Nat.toDigits 10 n) := by
  obtain ⟨c, rest, hd, hc⟩ := toDigits_eq_cons n
  rw [hd]
  unfold read
  split
  · rename_i he
    simp at he
  · rename_i he
    obtain ⟨rfl, -⟩ := List.cons.inj he
    simp at hc
  · rename_i he
    obtain ⟨rfl, -⟩ := List.cons.inj he
    simp at hc
  · rfl

theorem toOption_readPositive (hg : 0 ≤ range.greatest) (n : Nat) :
    (range.readPositive (Nat.toDigits 10 n)).toOption =
      if (n : Int) ≤ range.greatest then some (n : Int) else none := by
  rw [readPositive, readMagnitude_toDigits]
  by_cases hn : (n : Int) ≤ range.greatest
  · rw [if_pos hn, if_pos (by omega)]
    rfl
  · rw [if_neg hn, if_neg (by omega)]
    rfl

theorem toOption_readNegative (hl : range.least ≤ 0) (n : Nat) :
    (range.readNegative (Nat.toDigits 10 n)).toOption =
      if range.least ≤ -n then some (-n : Int) else none := by
  rw [readNegative, readMagnitude_toDigits]
  by_cases hn : range.least ≤ -n
  · rw [if_pos hn, if_pos (by omega)]
    rfl
  · rw [if_neg hn, if_neg (by omega)]
    rfl

-- The decimal text of a number is read as the number in every range around zero that holds it,
-- and in no other.
theorem read?_decimal (hl : range.least ≤ 0) (hg : 0 ≤ range.greatest) (n : Int) :
    range.read? (decimal n) = if range.contains n then some n else none := by
  rw [read?, decimal, contains]
  by_cases hn : n < 0
  · obtain ⟨c, rest, hd, -⟩ := toDigits_eq_cons n.natAbs
    have habs : (-n.natAbs : Int) = n := by omega
    have hread : range.read ('-' :: Nat.toDigits 10 n.natAbs) =
        if 0 ≤ range.least then .error .invalidDigit
        else range.readNegative (Nat.toDigits 10 n.natAbs) := by
      simp [read, hd]
    rw [if_pos hn, hread]
    by_cases hz : 0 ≤ range.least
    · rw [if_pos hz, if_neg (by simp; omega)]
      rfl
    · rw [if_neg hz, toOption_readNegative hl, habs]
      by_cases hr : range.least ≤ n
      · rw [if_pos hr, if_pos (by simp; omega)]
      · rw [if_neg hr, if_neg (by simp; omega)]
  · have habs : (n.natAbs : Int) = n := by omega
    rw [if_neg hn, read_toDigits, toOption_readPositive hg, habs]
    by_cases hr : n ≤ range.greatest
    · rw [if_pos hr, if_pos (by simp; omega)]
    · rw [if_neg hr, if_neg (by simp; omega)]

-- Blanks are cut off before a number is read, and in digits there are none.
theorem read?_trim_decimalNat (hl : range.least ≤ 0) (hg : 0 ≤ range.greatest) (n : Nat) :
    range.read? (Unicode.trim (decimalNat n).toList) =
      if range.contains n then some (n : Int) else none := by
  have hvisible : ∀ c ∈ Nat.toDigits 10 n, Unicode.isBlank c = false := fun c hc =>
    Unicode.isBlank_of_isDigit (Nat.isDigit_of_mem_toDigits (by decide) (by decide) hc)
  rw [decimalNat, String.toList_ofList, Unicode.trim_visible hvisible, ← decimal_natural,
    read?_decimal hl hg]

theorem contains_unsigned (width n : Nat) :
    (unsigned width).contains n = true ↔ n < 2 ^ width := by
  have hpos : 0 < Nat.pow 2 width := Nat.pow_pos (by decide)
  have hpower : Nat.pow 2 width = 2 ^ width := rfl
  simp only [contains_iff, unsigned]
  omega

theorem contains_toInt (n : Int64) : (signed 64).contains n.toInt = true :=
  contains_iff.mpr ⟨n.le_toInt, Int.le_sub_one_of_lt n.toInt_lt⟩

theorem toOption_narrow (range : IntegerRange) (n : Int) :
    (range.narrow n).toOption = if range.contains n then some n else none := by
  cases h : range.narrow n with
  | ok m =>
    obtain ⟨hc, rfl⟩ := narrow_eq_ok.mp h
    rw [if_pos hc]
    rfl
  | error e =>
    rw [if_neg]
    · rfl
    · intro hc
      have hok := narrow_eq_ok.mpr ⟨hc, rfl⟩
      rw [h] at hok
      cases hok

end IntegerRange

section Identifiers

theorem hexDigit?_digitChar {n : Nat} (h : n < 16) : Text.hexDigit? (Nat.digitChar n) = some n := by
  revert n
  decide

theorem hexBytes?_flatMap_hexByte (bytes : List UInt8) :
    Text.hexBytes? (bytes.flatMap Text.hexByte) = some bytes := by
  induction bytes with
  | nil => rfl
  | cons b rest ih =>
    have hb := b.toNat_lt
    have hsplit : UInt8.ofNat (16 * (b.toNat / 16) + b.toNat % 16) = b := by
      rw [show 16 * (b.toNat / 16) + b.toNat % 16 = b.toNat by omega, UInt8.ofNat_toNat]
    rw [List.flatMap_cons, Text.hexByte, List.cons_append, List.singleton_append, Text.hexBytes?,
      hexDigit?_digitChar (by omega), hexDigit?_digitChar (by omega), ih]
    exact congrArg (fun b => some (b :: rest)) hsplit

theorem length_flatMap_hexByte (bytes : List UInt8) :
    (bytes.flatMap Text.hexByte).length = 2 * bytes.length := by
  induction bytes with
  | nil => rfl
  | cons b rest ih =>
    rw [List.flatMap_cons, List.length_append, ih, Text.hexByte_length, List.length_cons]
    omega

-- Groups of the right lengths are found between their hyphens.
theorem hyphenated?_groups {a b c d e : List Char} (ha : a.length = 8) (hb : b.length = 4)
    (hc : c.length = 4) (hd : d.length = 4) (he : e.length = 12) :
    Uuid.hyphenated? (a ++ ['-'] ++ b ++ ['-'] ++ c ++ ['-'] ++ d ++ ['-'] ++ e) =
      Uuid.simple? (a ++ b ++ c ++ d ++ e) := by
  simp [Uuid.hyphenated?, List.drop_append, List.getElem?_append, ha, hb, hc, hd, he,
    List.take_of_length_le, List.drop_of_length_le]

theorem groups_bytes {bytes : List UInt8} (h : bytes.length = 16) :
    bytes.take 4 ++ (bytes.drop 4).take 2 ++ (bytes.drop 6).take 2 ++ (bytes.drop 8).take 2 ++
      (bytes.drop 10).take 6 = bytes := by
  rw [List.take_of_length_le (i := 6) (by simp [h]), ← List.take_add, ← List.take_add,
    ← List.take_add, List.take_append_drop]

-- The canonical text of an identifier is the hyphenated one of the forms that are read.
theorem read?_text (u : Uuid) : Uuid.read? u.text = some u := by
  have hlength : ∀ start count, start + count ≤ 16 →
      (((u.bytes.drop start).take count).flatMap Text.hexByte).length = 2 * count := by
    intro start count h
    rw [length_flatMap_hexByte, List.length_take, List.length_drop, u.size]
    omega
  have htext : u.text.length = 36 := by
    simp only [Uuid.text, List.length_append, List.length_singleton, hlength, Nat.reduceAdd,
      Nat.reduceLeDiff, Nat.reduceMul]
  have hread : Uuid.read? u.text = Uuid.hyphenated? u.text := by simp [Uuid.read?, htext]
  rw [hread, Uuid.text]
  dsimp only
  rw [hyphenated?_groups (hlength 0 4 (by decide)) (hlength 4 2 (by decide))
    (hlength 6 2 (by decide)) (hlength 8 2 (by decide)) (hlength 10 6 (by decide)),
    ← List.flatMap_append, ← List.flatMap_append, ← List.flatMap_append, ← List.flatMap_append,
    List.drop_zero, groups_bytes u.size, Uuid.simple?, hexBytes?_flatMap_hexByte]
  simp [Uuid.ofBytes?, u.size]

end Identifiers

end RecordSql
