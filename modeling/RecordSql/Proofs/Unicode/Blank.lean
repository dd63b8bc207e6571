import Mathlib.Data.List.TakeWhile
import RecordSql.Unicode.Blank

namespace RecordSql.Unicode

-- Of a text of blanks nothing is left, and of any other text its first character that is none.
theorem trim_eq_nil_iff (text : List Char) : trim text = [] ↔ ∀ c ∈ text, isBlank c = true := by
  have hstart : trimStart text = [] ↔ ∀ c ∈ text, isBlank c = true := List.dropWhile_eq_nil_iff
  rw [← hstart]
  constructor
  · intro h
    cases hs : trimStart text with
    | nil => rfl
    | cons first rest =>
      have hfirst : isBlank first = true := by
        rw [trim, List.reverse_eq_nil_iff, List.dropWhile_eq_nil_iff, hs] at h
        exact h first (by simp)
      have hhead := List.head?_dropWhile_not isBlank text
      rw [trimStart] at hs
      simp [hs, hfirst] at hhead
  · intro h
    simp [trim, h]

section Padding

variable {before text after : List Char}

theorem trimStart_append (hb : ∀ c ∈ before, isBlank c = true) :
    trimStart (before ++ text) = trimStart text :=
  List.dropWhile_append_of_pos hb

theorem trimStart_eq_self (h : ∀ c ∈ text.head?, isBlank c = false) : trimStart text = text := by
  cases text with
  | nil => rfl
  | cons first rest =>
    have hfirst : isBlank first = false := h first rfl
    exact List.dropWhile_cons_of_neg (by simp [hfirst])

-- Blanks around a text that starts and ends visibly are cut off, and nothing else is.
theorem trim_padded (hb : ∀ c ∈ before, isBlank c = true) (ha : ∀ c ∈ after, isBlank c = true)
    (hfirst : ∀ c ∈ text.head?, isBlank c = false)
    (hlast : ∀ c ∈ text.getLast?, isBlank c = false) :
    trim (before ++ text ++ after) = text := by
  cases htext : text with
  | nil =>
    rw [trim_eq_nil_iff]
    intro c hc
    simp only [List.append_nil, List.mem_append] at hc
    exact hc.elim (hb c) (ha c)
  | cons first rest =>
    rw [← htext]
    have hstart : trimStart (before ++ text ++ after) = text ++ after := by
      rw [List.append_assoc, trimStart_append hb, trimStart_eq_self]
      simpa [htext] using hfirst
    have hend : trimStart (text ++ after).reverse = text.reverse := by
      rw [List.reverse_append, trimStart_append (by simpa using ha), trimStart_eq_self]
      simpa using hlast
    change (trimStart (trimStart (before ++ text ++ after)).reverse).reverse = text
    rw [hstart, hend, List.reverse_reverse]

theorem trim_visible (h : ∀ c ∈ text, isBlank c = false) : trim text = text := by
  have hpadded : trim ([] ++ text ++ []) = text :=
    trim_padded (by simp) (by simp) (fun c hc => h c (List.mem_of_mem_head? hc))
      fun c hc => h c (List.mem_of_mem_getLast? hc)
  simpa using hpadded

end Padding

-- Between the space and the first blank beyond ASCII there is none.
theorem isBlank_of_visible {c : Char} (hlow : 33 ≤ c.toNat) (hhigh : c.toNat < 133) :
    isBlank c = false := by
  have hpassed : ∀ flip ∈ [9, 14, 32, 33], flip ≤ c.toNat := by
    intro flip hflip
    have hle : flip ≤ 33 := by
      revert flip
      decide
    omega
  simp_all [isBlank, insideFlips, blankFlips, Nat.not_le.mpr hhigh]

theorem isBlank_of_isDigit {c : Char} (h : c.isDigit = true) : isBlank c = false := by
  obtain ⟨hlow, hhigh⟩ : 48 ≤ c.toNat ∧ c.toNat ≤ 57 := by
    simpa [Char.isDigit, UInt32.le_iff_toNat_le] using h
  exact isBlank_of_visible (by omega) (by omega)

end RecordSql.Unicode
