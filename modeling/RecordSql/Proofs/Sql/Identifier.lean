import Mathlib.Data.List.Basic
import RecordSql.Sql.Identifier

namespace RecordSql.Sql

-- The characters that match [A-Za-z_].
def NameStart (c : Char) : Prop :=
  'A' ≤ c ∧ c ≤ 'Z' ∨ 'a' ≤ c ∧ c ≤ 'z' ∨ c = '_'

-- The characters that match [A-Za-z0-9_].
def NamePart (c : Char) : Prop :=
  NameStart c ∨ '0' ≤ c ∧ c ≤ '9'

-- A name that matches [A-Za-z_][A-Za-z0-9_]*.
def PlainName (name : String) : Prop :=
  ∃ first rest, name.toList = first :: rest ∧ NameStart first ∧ ∀ c ∈ rest, NamePart c

theorem startsIdentifier_iff (c : Char) : startsIdentifier c = true ↔ NameStart c := by
  have ha : c.isAlpha =
      (decide (c.val ≥ 'A'.val ∧ c.val ≤ 'Z'.val) || (c.val ≥ 'a'.val && c.val ≤ 'z'.val)) := rfl
  simp only [startsIdentifier, NameStart, ha, Bool.or_eq_true, Bool.and_eq_true,
    decide_eq_true_eq, beq_iff_eq, Char.le_def]
  tauto

theorem continuesIdentifier_iff (c : Char) : continuesIdentifier c = true ↔ NamePart c := by
  have hs := startsIdentifier_iff c
  simp only [startsIdentifier, Bool.or_eq_true, beq_iff_eq] at hs
  simp only [continuesIdentifier, NamePart, ← hs, Char.isAlphanum, Char.isDigit,
    Bool.or_eq_true, Bool.and_eq_true, decide_eq_true_eq, beq_iff_eq, Char.le_def]
  tauto

theorem isIdentifier_iff (name : String) : isIdentifier name = true ↔ PlainName name := by
  unfold isIdentifier PlainName
  cases name.toList with
  | nil => simp
  | cons first rest =>
    simp only [Bool.and_eq_true, List.all_eq_true, startsIdentifier_iff, continuesIdentifier_iff,
      List.cons.injEq]
    constructor
    · rintro ⟨hf, hr⟩
      exact ⟨first, rest, ⟨rfl, rfl⟩, hf, hr⟩
    · rintro ⟨_, _, ⟨rfl, rfl⟩, hf, hr⟩
      exact ⟨hf, hr⟩

theorem PlainName.ne_empty {name : String} (h : PlainName name) : name ≠ "" := by
  obtain ⟨first, rest, he, -⟩ := h
  rintro rfl
  simp at he

theorem PlainName.namePart {name : String} (h : PlainName name) {c : Char} (hc : c ∈ name.toList) :
    NamePart c := by
  obtain ⟨first, rest, he, hfirst, hrest⟩ := h
  rw [he, List.mem_cons] at hc
  rcases hc with rfl | hc
  · exact .inl hfirst
  · exact hrest c hc

-- A character that cannot be part of a name is not in a plain name.
theorem PlainName.notMem {name : String} (h : PlainName name) {c : Char}
    (hc : continuesIdentifier c = false) : c ∉ name.toList := by
  intro hmem
  have hpart := (continuesIdentifier_iff c).mpr (h.namePart hmem)
  rw [hc] at hpart
  cases hpart

end RecordSql.Sql
