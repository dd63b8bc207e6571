import Mathlib.Data.List.Nodup
import Mathlib.Data.List.TakeWhile
import RecordSql.Server.Script
import RecordSql.Sql.Argument

namespace RecordSql.Sql

-- What stands behind the dollar signs of a text, as far as the digits go.
def readPlaceholders : List Char → List (List Char)
  | [] => []
  | c :: rest =>
    if c = '$' then rest.takeWhile Char.isDigit :: readPlaceholders rest else readPlaceholders rest

def placeholdersOf (text : String) : List (List Char) := readPlaceholders text.toList

-- The digits of numbers in a row.
def numerals (first count : Nat) : List (List Char) :=
  (List.range' first count).map (Nat.toDigits 10)

-- A text without dollar signs.
def Free (text : String) : Prop := '$' ∉ text.toList

instance (text : String) : Decidable (Free text) := inferInstanceAs (Decidable (_ ∉ _))

-- A text that does not lengthen a placeholder in front of it.
def Detached (text : List Char) : Prop := ∀ c ∈ text.head?, c.isDigit = false

instance : (text : List Char) → Decidable (Detached text)
  | [] => isTrue (by simp [Detached])
  | c :: _ => decidable_of_iff (c.isDigit = false) (by simp [Detached])

theorem Detached.append_of_ne_nil {text : List Char} (h : Detached text) (hne : text ≠ [])
    (more : List Char) : Detached (text ++ more) := by
  intro c hc
  rw [List.head?_append_of_ne_nil _ hne] at hc
  exact h c hc

theorem Detached.append {text more : List Char} (h : Detached text) (hm : Detached more) :
    Detached (text ++ more) := by
  cases text with
  | nil => exact hm
  | cons c rest => exact h.append_of_ne_nil (List.cons_ne_nil c rest) more

theorem takeWhile_append_detached (text more : List Char) (h : Detached more) :
    (text ++ more).takeWhile Char.isDigit = text.takeWhile Char.isDigit := by
  induction text with
  | nil =>
    cases more with
    | nil => rfl
    | cons c rest => simp [h c rfl]
  | cons c rest ih =>
    by_cases hc : c.isDigit = true <;> simp [hc, ih]

theorem readPlaceholders_append (text more : List Char) (h : Detached more) :
    readPlaceholders (text ++ more) = readPlaceholders text ++ readPlaceholders more := by
  induction text with
  | nil => rfl
  | cons c rest ih =>
    by_cases hc : c = '$' <;>
      simp [readPlaceholders, hc, ih, takeWhile_append_detached rest more h]

theorem readPlaceholders_free_append (text more : List Char) (h : '$' ∉ text) :
    readPlaceholders (text ++ more) = readPlaceholders more := by
  induction text with
  | nil => rfl
  | cons c rest ih =>
    obtain ⟨hc, hr⟩ := List.ne_and_not_mem_of_not_mem_cons h
    simp [readPlaceholders, Ne.symm hc, ih hr]

theorem dollar_notMem_toDigits (n : Nat) : '$' ∉ Nat.toDigits 10 n := by
  intro h
  exact absurd (Nat.isDigit_of_mem_toDigits (by decide) (by decide) h) (by decide)

theorem takeWhile_toDigits (n : Nat) :
    (Nat.toDigits 10 n).takeWhile Char.isDigit = Nat.toDigits 10 n :=
  List.takeWhile_eq_self_iff.mpr fun _ hc =>
    Nat.isDigit_of_mem_toDigits (by decide) (by decide) hc

section Text

variable (s t : String)

theorem placeholdersOf_append (h : Detached t.toList) :
    placeholdersOf (s ++ t) = placeholdersOf s ++ placeholdersOf t := by
  simp only [placeholdersOf, String.toList_append]
  exact readPlaceholders_append _ _ h

theorem placeholdersOf_free_append (h : Free s) :
    placeholdersOf (s ++ t) = placeholdersOf t := by
  simp only [placeholdersOf, String.toList_append]
  exact readPlaceholders_free_append _ _ h

theorem placeholdersOf_free (h : Free s) : placeholdersOf s = [] := by
  simpa [placeholdersOf, readPlaceholders] using readPlaceholders_free_append s.toList [] h

@[simp] theorem free_append : Free (s ++ t) ↔ Free s ∧ Free t := by
  simp [Free, not_or]

theorem free_intercalate (items : List String) (hs : Free s) (h : ∀ text ∈ items, Free text) :
    Free (s.intercalate items) := by
  match items with
  | [] => simp [Free]
  | [text] => simpa using h text (by simp)
  | text :: next :: rest =>
    rw [String.intercalate_cons_cons, free_append, free_append]
    exact ⟨⟨h text (by simp), hs⟩,
      free_intercalate (next :: rest) hs fun text ht => h text (List.mem_cons_of_mem _ ht)⟩

-- A separator keeps the placeholders on its two sides apart.
theorem placeholdersOf_intercalate (items : List String) (hs : Free s) (hd : Detached s.toList)
    (hne : s.toList ≠ []) :
    placeholdersOf (s.intercalate items) = items.flatMap placeholdersOf := by
  match items with
  | [] => rfl
  | [text] => simp
  | text :: next :: rest =>
    have hdetached : Detached (s ++ s.intercalate (next :: rest)).toList := by
      rw [String.toList_append]
      exact hd.append_of_ne_nil hne _
    rw [String.intercalate_cons_cons, String.append_assoc, placeholdersOf_append _ _ hdetached,
      placeholdersOf_free_append _ _ hs, placeholdersOf_intercalate (next :: rest) hs hd hne]
    rfl

@[simp] theorem placeholdersOf_placeholder (n : Nat) :
    placeholdersOf (placeholder n) = [Nat.toDigits 10 n] := by
  have hn : readPlaceholders (Nat.toDigits 10 n) = [] := by
    simpa [readPlaceholders] using readPlaceholders_free_append _ [] (dollar_notMem_toDigits n)
  simp [placeholdersOf, placeholder, decimalNat, readPlaceholders, takeWhile_toDigits, hn]

theorem flatMap_placeholders (first count : Nat) :
    (placeholders first count).flatMap placeholdersOf = numerals first count := by
  simp [placeholders, numerals, List.flatMap_map, ← List.map_eq_flatMap]

-- Texts that hold one placeholder each take up numbers in a row.
theorem placeholdersOf_zipWith {α : Type} (render : α → String → String) (items : List α)
    (next : Nat)
    (h : ∀ item ∈ items, ∀ n, placeholdersOf (render item (placeholder n)) = [Nat.toDigits 10 n]) :
    (List.zipWith render items (placeholders next items.length)).flatMap placeholdersOf =
      numerals next items.length := by
  induction items generalizing next with
  | nil => rfl
  | cons item rest ih =>
    obtain ⟨hitem, hr⟩ := List.forall_mem_cons.mp h
    have hrest := ih (next + 1) hr
    simp only [placeholders, numerals, List.length_cons, List.range'_succ, List.map_cons,
      List.zipWith_cons_cons, List.flatMap_cons, hitem] at hrest ⊢
    rw [hrest]
    rfl

end Text

theorem numerals_append (first a b : Nat) :
    numerals first a ++ numerals (first + a) b = numerals first (a + b) := by
  simp [numerals, ← List.map_append, List.range'_append_1]

theorem numerals_nodup (first count : Nat) : (numerals first count).Nodup :=
  (List.nodup_range' 1).map fun _ _ => toDigits_inj

theorem count_numerals (total n : Nat) :
    (numerals 1 total).count (Nat.toDigits 10 n) = if 1 ≤ n ∧ n ≤ total then 1 else 0 := by
  have hmem : Nat.toDigits 10 n ∈ numerals 1 total ↔ 1 ≤ n ∧ n ≤ total := by
    rw [numerals, List.mem_map_of_injective fun _ _ => toDigits_inj, List.mem_range'_1]
    omega
  rw [(numerals_nodup 1 total).count]
  exact if_congr hmem rfl rfl

section Highest

-- A server finds the number of parameters of a statement by its highest placeholder.
theorem le_highestPlaceholder (text digits : List Char) (h : digits ∈ readPlaceholders text) :
    Nat.ofDigitChars 10 digits 0 ≤ Server.highestPlaceholder text := by
  induction text with
  | nil => simp [readPlaceholders] at h
  | cons c rest ih =>
    by_cases hc : c = '$'
    · simp only [readPlaceholders, hc, if_true, List.mem_cons] at h
      simp only [Server.highestPlaceholder, hc, if_true, Server.numberAt]
      rcases h with rfl | h
      · exact Nat.le_max_left _ _
      · exact Nat.le_trans (ih h) (Nat.le_max_right _ _)
    · simp only [readPlaceholders, hc, if_false] at h
      simpa [Server.highestPlaceholder, hc] using ih h

theorem highestPlaceholder_le (text : List Char) (n : Nat)
    (h : ∀ digits ∈ readPlaceholders text, Nat.ofDigitChars 10 digits 0 ≤ n) :
    Server.highestPlaceholder text ≤ n := by
  induction text with
  | nil => simp [Server.highestPlaceholder]
  | cons c rest ih =>
    by_cases hc : c = '$'
    · simp only [readPlaceholders, hc, if_true, List.forall_mem_cons] at h
      simp only [Server.highestPlaceholder, hc, if_true, Server.numberAt]
      exact Nat.max_le.mpr ⟨h.1, ih h.2⟩
    · simp only [readPlaceholders, hc, if_false] at h
      simpa [Server.highestPlaceholder, hc] using ih h

theorem highestPlaceholder_of_perm (text : String) (count : Nat)
    (h : (placeholdersOf text).Perm (numerals 1 count)) :
    Server.highestPlaceholder text.toList = count := by
  apply Nat.le_antisymm
  · apply highestPlaceholder_le
    intro digits hd
    obtain ⟨n, hn, rfl⟩ := List.mem_map.mp (h.mem_iff.mp hd)
    rw [Nat.ofDigitChars_ten_toDigits]
    have := List.mem_range'_1.mp hn
    omega
  · by_cases hz : count = 0
    · omega
    · have hm : Nat.toDigits 10 count ∈ placeholdersOf text :=
        h.mem_iff.mpr (List.mem_map_of_mem (List.mem_range'_1.mpr (by omega)))
      simpa using le_highestPlaceholder _ _ hm

end Highest

end RecordSql.Sql
