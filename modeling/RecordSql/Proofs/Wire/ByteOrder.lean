import Mathlib.Data.List.Basic
import RecordSql.Wire.Bytes

namespace RecordSql.Wire

variable {xs ys : List UInt8}

-- Two lists of bytes go together for a while, and where they part the first has the lesser byte.
def Parts (xs ys : List UInt8) : Prop :=
  ∃ common x y left right, xs = common ++ x :: left ∧ ys = common ++ y :: right ∧ x < y

theorem Parts.append_lt (h : Parts xs ys) (more others : List UInt8) :
    xs ++ more < ys ++ others := by
  obtain ⟨common, x, y, left, right, rfl, rfl, hlt⟩ := h
  induction common with
  | nil => exact List.cons_lt_cons_iff.mpr (.inl hlt)
  | cons b common ih => exact List.cons_lt_cons_iff.mpr (.inr ⟨rfl, ih⟩)

section Digits

variable {v w : Nat}

theorem parts_first {a b : Nat} (hb : b < 256) (h : a < b) :
    Parts (UInt8.ofNat a :: xs) (UInt8.ofNat b :: ys) := by
  refine ⟨[], UInt8.ofNat a, UInt8.ofNat b, xs, ys, rfl, rfl, ?_⟩
  rw [UInt8.lt_iff_toNat_lt, UInt8.toNat_ofNat', UInt8.toNat_ofNat', Nat.mod_eq_of_lt hb,
    Nat.mod_eq_of_lt (by omega)]
  exact h

theorem Parts.cons {a b : Nat} (h : Parts xs ys) (hab : a = b) :
    Parts (UInt8.ofNat a :: xs) (UInt8.ofNat b :: ys) := by
  obtain ⟨common, x, y, left, right, rfl, rfl, hlt⟩ := h
  subst hab
  exact ⟨UInt8.ofNat a :: common, x, y, left, right, rfl, rfl, hlt⟩

-- The last digits of two numbers to the base 64 that agree in all digits before them. As many
-- digits follow the first byte of a character.
theorem parts_lastDigit (h : v < w) (hd : v / 64 = w / 64) :
    Parts [UInt8.ofNat (v % 64 + 128)] [UInt8.ofNat (w % 64 + 128)] :=
  parts_first (by omega) (by omega)

theorem parts_lastTwo (h : v < w) (hd : v / 4096 = w / 4096) :
    Parts [UInt8.ofNat (v / 64 % 64 + 128), UInt8.ofNat (v % 64 + 128)]
      [UInt8.ofNat (w / 64 % 64 + 128), UInt8.ofNat (w % 64 + 128)] := by
  by_cases hnext : v / 64 = w / 64
  · exact (parts_lastDigit h hnext).cons (by omega)
  · exact parts_first (by omega) (by omega)

theorem parts_lastThree (h : v < w) (hd : v / 262144 = w / 262144) :
    Parts [UInt8.ofNat (v / 4096 % 64 + 128), UInt8.ofNat (v / 64 % 64 + 128),
        UInt8.ofNat (v % 64 + 128)]
      [UInt8.ofNat (w / 4096 % 64 + 128), UInt8.ofNat (w / 64 % 64 + 128),
        UInt8.ofNat (w % 64 + 128)] := by
  by_cases hnext : v / 4096 = w / 4096
  · exact (parts_lastTwo h hnext).cons (by omega)
  · exact parts_first (by omega) (by omega)

end Digits

theorem toNat_val_lt (c : Char) : c.val.toNat < 1114112 := by
  rcases c.valid with h | ⟨-, h⟩
  · exact Nat.lt_trans h (by decide)
  · exact h

-- Of two characters with forms of one length the digits decide. A longer form belongs to the
-- greater character, and starts with a greater byte.
theorem parts_utf8EncodeChar {c d : Char} (h : c < d) :
    Parts (String.utf8EncodeChar c) (String.utf8EncodeChar d) := by
  have hlt : c.val.toNat < d.val.toNat := h
  have hmax := toNat_val_lt d
  unfold String.utf8EncodeChar
  dsimp only
  generalize c.val.toNat = v at *
  generalize d.val.toNat = w at *
  by_cases hw1 : w ≤ 127
  · rw [if_pos hw1, if_pos (show v ≤ 127 by omega)]
    exact parts_first (by omega) hlt
  by_cases hw2 : w ≤ 2047
  · rw [if_neg hw1, if_pos hw2]
    by_cases hv1 : v ≤ 127
    · rw [if_pos hv1]
      exact parts_first (by omega) (by omega)
    rw [if_neg hv1, if_pos (show v ≤ 2047 by omega)]
    by_cases hd : v / 64 = w / 64
    · exact (parts_lastDigit hlt hd).cons (by omega)
    · exact parts_first (by omega) (by omega)
  by_cases hw3 : w ≤ 65535
  · rw [if_neg hw1, if_neg hw2, if_pos hw3]
    by_cases hv2 : v ≤ 2047
    · rw [if_pos hv2]
      split <;> exact parts_first (by omega) (by omega)
    rw [if_neg (show ¬v ≤ 127 by omega), if_neg hv2, if_pos (show v ≤ 65535 by omega)]
    by_cases hd : v / 4096 = w / 4096
    · exact (parts_lastTwo hlt hd).cons (by omega)
    · exact parts_first (by omega) (by omega)
  · rw [if_neg hw1, if_neg hw2, if_neg hw3]
    by_cases hv3 : v ≤ 65535
    · rw [if_pos hv3]
      repeat' split
      all_goals exact parts_first (by omega) (by omega)
    rw [if_neg (show ¬v ≤ 127 by omega), if_neg (show ¬v ≤ 2047 by omega), if_neg hv3]
    by_cases hd : v / 262144 = w / 262144
    · exact (parts_lastThree hlt hd).cons (by omega)
    · exact parts_first (by omega) (by omega)

section Texts

theorem utf8_eq (text : String) : utf8 text = text.toList.flatMap String.utf8EncodeChar := by
  rw [utf8, ← String.utf8Encode_toList, List.utf8Encode, List.toList_data_toByteArray]

theorem flatMap_utf8EncodeChar_lt {left right : List Char} (h : left < right) :
    left.flatMap String.utf8EncodeChar < right.flatMap String.utf8EncodeChar := by
  induction left generalizing right with
  | nil =>
    cases right with
    | nil => exact absurd h (List.lt_irrefl [])
    | cons d right =>
      rw [List.flatMap_nil, List.flatMap_cons]
      cases hd : String.utf8EncodeChar d with
      | nil => exact absurd hd String.utf8EncodeChar_ne_nil
      | cons b bytes => exact List.nil_lt_cons b _
  | cons c left ih =>
    cases right with
    | nil => exact absurd h (List.not_lt_nil _)
    | cons d right =>
      rw [List.flatMap_cons, List.flatMap_cons]
      rcases List.cons_lt_cons_iff.mp h with hlt | ⟨rfl, hrest⟩
      · exact (parts_utf8EncodeChar hlt).append_lt _ _
      · exact List.append_left_lt (ih hrest)

-- Texts are ordered as the bytes that are sent for them.
theorem utf8_lt_utf8_iff (s t : String) : utf8 s < utf8 t ↔ s < t := by
  have hlt : ∀ s t : String, s < t → utf8 s < utf8 t := fun s t h => by
    rw [utf8_eq, utf8_eq]
    exact flatMap_utf8EncodeChar_lt (String.lt_iff.mp h)
  refine ⟨fun h => ?_, hlt s t⟩
  by_contra hst
  by_cases hts : t < s
  · exact List.lt_irrefl _ (List.lt_trans h (hlt t s hts))
  · obtain rfl := String.le_antisymm (String.not_lt.mp hts) (String.not_lt.mp hst)
    exact List.lt_irrefl _ h

end Texts

end RecordSql.Wire
