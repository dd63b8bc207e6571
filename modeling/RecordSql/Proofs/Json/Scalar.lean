import Mathlib.Data.List.TakeWhile
import Mathlib.Tactic.IntervalCases
import Mathlib.Tactic.SplitIfs
import RecordSql.Json.Reader
import RecordSql.Proofs.Bind.Spelling

namespace RecordSql.Json

section Texts

variable {c letter : Char}

-- What a character is escaped as: by a letter that stands for it, by its number, or not at all.
inductive Escaped (c : Char) : List Char → Prop
  | short {letter : Char} (hu : letter ≠ 'u') (h : shortEscape? letter = some c) :
    Escaped c ['\\', letter]
  | number (h : c < ' ') : Escaped c
    ['\\', 'u', '0', '0', Nat.digitChar (c.toNat / 16), Nat.digitChar (c.toNat % 16)]
  | plain (hquote : c ≠ '"') (hbackslash : c ≠ '\\') (h : ¬c < ' ') : Escaped c [c]

theorem Escaped.of_eq {meant : Char} (hu : letter ≠ 'u') (h : shortEscape? letter = some meant)
    (hc : c = meant) : Escaped c ['\\', letter] :=
  .short hu (hc ▸ h)

theorem escaped_escape (c : Char) : Escaped c (escape c) := by
  unfold escape
  split_ifs with hquote hbackslash hbackspace hfeed hline hreturn htab hcontrol
  · exact .of_eq (by decide) rfl hquote
  · exact .of_eq (by decide) rfl hbackslash
  · exact .of_eq (by decide) rfl hbackspace
  · exact .of_eq (by decide) rfl hfeed
  · exact .of_eq (by decide) rfl hline
  · exact .of_eq (by decide) rfl hreturn
  · exact .of_eq (by decide) rfl htab
  · exact .number hcontrol
  · exact .plain hquote hbackslash hcontrol

theorem unit?_control (h : c < ' ') :
    unit? '0' '0' (Nat.digitChar (c.toNat / 16)) (Nat.digitChar (c.toNat % 16)) =
      some c.toNat := by
  have hc : c.toNat < 32 := h
  have hzero : Text.hexDigit? '0' = some 0 := rfl
  rw [unit?, hzero, hexDigit?_digitChar (by omega), hexDigit?_digitChar (by omega)]
  exact congrArg some (by omega)

theorem readText_escaped {written : List Char} (h : Escaped c written) (rest : List Char) :
    readText (written ++ rest) = (readText rest).map fun (chars, after) => (c :: chars, after) := by
  cases h with
  | short hu h =>
    rw [List.cons_append, List.singleton_append, readText.eq_def]
    simp [hu, h]
  | number h =>
    have hc : c.toNat < 32 := h
    have hlow : isLowSurrogate c.toNat = false := by
      simp only [isLowSurrogate, Bool.and_eq_false_iff, decide_eq_false_iff_not]
      omega
    have hhigh : isHighSurrogate c.toNat = false := by
      simp only [isHighSurrogate, Bool.and_eq_false_iff, decide_eq_false_iff_not]
      omega
    simp only [List.cons_append, List.nil_append]
    rw [readText.eq_def]
    simp [unit?_control h, hlow, hhigh]
  | plain hquote hbackslash h =>
    rw [List.singleton_append, readText.eq_def]
    simp [hquote, hbackslash, h]

-- Every text is read back up to its closing quote.
theorem readText_flatMap_escape (text rest : List Char) :
    readText (text.flatMap escape ++ '"' :: rest) = some (text, rest) := by
  induction text with
  | nil =>
    rw [List.flatMap_nil, List.nil_append, readText.eq_def]
    rfl
  | cons c text ih =>
    rw [List.flatMap_cons, List.append_assoc, readText_escaped (escaped_escape c), ih]
    rfl

end Texts

section Numbers

variable {n : Nat}

-- A number does not start with a zero unless it is zero.
theorem head?_toDigits_ne_zero (h : 0 < n) : (Nat.toDigits 10 n).head? ≠ some '0' := by
  induction n using Nat.strong_induction_on with
  | _ n ih =>
    by_cases hsmall : n < 10
    · rw [Nat.toDigits_of_lt_base hsmall]
      interval_cases n <;> decide
    · rw [Nat.toDigits_of_base_le (by decide) (by omega),
        List.head?_append, Option.or_of_isSome (by simp [Nat.toDigits_ne_nil])]
      exact ih (n / 10) (by omega) (by omega)

theorem leadingZero_toDigits (n : Nat) :
    ((Nat.toDigits 10 n).head? == some '0' && (Nat.toDigits 10 n).length != 1) = false := by
  by_cases hn : n = 0
  · subst hn
    rfl
  · have hhead := head?_toDigits_ne_zero (Nat.pos_of_ne_zero hn)
    simp [hhead]

theorem isDigit_toDigits {c : Char} (h : c ∈ Nat.toDigits 10 n) : c.isDigit = true :=
  Nat.isDigit_of_mem_toDigits (by decide) (by decide) h

-- The digits of an integer are read as they are written.
theorem read?_decimal (n : Int) :
    JsonNumber.read? (decimal n) = some ⟨n < 0, Nat.toDigits 10 n.natAbs, none, none⟩ := by
  have htake : (Nat.toDigits 10 n.natAbs).takeWhile Char.isDigit = Nat.toDigits 10 n.natAbs :=
    List.takeWhile_eq_self_iff.mpr fun _ => isDigit_toDigits
  have hdrop : (Nat.toDigits 10 n.natAbs).dropWhile Char.isDigit = [] :=
    List.dropWhile_eq_nil_iff.mpr fun _ => isDigit_toDigits
  have hzero := leadingZero_toDigits n.natAbs
  have hempty : (Nat.toDigits 10 n.natAbs).isEmpty = false :=
    List.isEmpty_eq_false_iff.mpr Nat.toDigits_ne_nil
  by_cases hn : n < 0
  · rw [decimal, if_pos hn, JsonNumber.read?]
    simp [htake, hdrop, hzero, hempty, hn]
  · obtain ⟨first, others, hdigits, hfirst⟩ := IntegerRange.toDigits_eq_cons n.natAbs
    have hminus : first ≠ '-' := by
      rintro rfl
      exact absurd hfirst (by decide)
    rw [hdigits] at htake hdrop hzero
    rw [decimal, if_neg hn, hdigits, JsonNumber.read?]
    · simpa [htake, hdrop, hn] using hzero
    · simp [hminus]

-- An integer of 64 bits, with a sign or without, is what its digits are worth.
theorem integer?_decimal {n : Int} (hl : -9223372036854775808 ≤ n) (hg : n ≤ 18446744073709551615) :
    (⟨n < 0, Nat.toDigits 10 n.natAbs, none, none⟩ : JsonNumber).integer? = some n := by
  have hworth : Nat.ofDigitChars 10 (Nat.toDigits 10 n.natAbs) 0 = n.natAbs :=
    Nat.ofDigitChars_ten_toDigits
  rw [JsonNumber.integer?]
  simp only [hworth]
  by_cases hn : n < 0
  · have hmagnitude : 1 ≤ n.natAbs ∧ n.natAbs ≤ Nat.pow 2 63 := by
      show 1 ≤ n.natAbs ∧ n.natAbs ≤ 9223372036854775808
      omega
    have habs : -(n.natAbs : Int) = n := by omega
    simpa [hn, hmagnitude] using habs
  · have hmagnitude : n.natAbs ≤ JsonNumber.greatest := by
      show n.natAbs ≤ 18446744073709551615
      omega
    have habs : (n.natAbs : Int) = n := by omega
    simpa [hn, hmagnitude] using habs

end Numbers

section Pieces

variable {fuel : Nat} {word rest : List Char}

theorem scan_writeText (text : List Char) : scan (fuel + 1) (writeText text ++ rest) =
    (scan fuel rest).map (.scalar (.text (String.ofList text)) :: ·) := by
  have hquoted : writeText text ++ rest = '"' :: (text.flatMap escape ++ '"' :: rest) := by
    simp [writeText]
  have hspace : isSpace '"' = false := by decide
  rw [hquoted, scan, readText_flatMap_escape]
  simp [hspace]

-- No character of a word has another meaning outside of quotes.
theorem plain_of_isWordChar {c : Char} (h : isWordChar c = true) :
    isSpace c = false ∧ c ≠ '"' ∧ punctuation? c = none := by
  refine ⟨?_, ?_, ?_⟩
  · simp only [isSpace, Bool.or_eq_false_iff, beq_eq_false_iff_ne]
    refine ⟨⟨⟨?_, ?_⟩, ?_⟩, ?_⟩ <;> rintro rfl <;> exact absurd h (by decide)
  · rintro rfl
    exact absurd h (by decide)
  · unfold punctuation?
    split_ifs with hc hc hc hc hc hc
    all_goals first | rfl | exact absurd (hc ▸ h) (by decide)

theorem scan_word (hne : word ≠ []) (hword : ∀ c ∈ word, isWordChar c = true)
    (hrest : ∀ c ∈ rest.head?, isWordChar c = false) :
    scan (fuel + 1) (word ++ rest) =
      (word? word).bind fun value => (scan fuel rest).map (.scalar value :: ·) := by
  have hsplit : (word ++ rest).takeWhile isWordChar = word ∧
      (word ++ rest).dropWhile isWordChar = rest := by
    rw [List.takeWhile_append_of_pos hword, List.dropWhile_append_of_pos hword]
    cases rest with
    | nil => simp
    | cons after others => simp [hrest after rfl]
  obtain ⟨first, others, rfl⟩ := List.exists_cons_of_ne_nil hne
  obtain ⟨hspace, hquote, hpunctuation⟩ := plain_of_isWordChar (hword first List.mem_cons_self)
  rw [List.cons_append] at hsplit ⊢
  rw [scan, hsplit.1, hsplit.2]
  simp [hspace, hquote, hpunctuation]

end Pieces

section Values

variable {value : Json}

-- A text of one piece is the value of the piece.
theorem read?_of_scan {depth : Nat} {text : List Char}
    (h : ∀ fuel, scan (fuel + 1) text = some [.scalar value]) :
    read? depth (String.ofList text) = some value := by
  have hvalue : readValue (2 * [Token.scalar value].length + 1) depth [.scalar value] =
      some (value, []) := by
    simp [readValue]
  have hscan : scan (String.ofList text).length text = some [.scalar value] := by
    cases text with
    | nil => simpa [scan] using h 0
    | cons first others =>
      rw [String.length_ofList]
      exact h others.length
  rw [read?, String.toList_ofList, hscan, Option.bind_eq_bind, Option.bind_some, hvalue]
  rfl

-- A quoted text is read as the text.
theorem read?_writeText (depth : Nat) (text : List Char) :
    read? depth (String.ofList (writeText text)) = some (.text (String.ofList text)) := by
  refine read?_of_scan fun fuel => ?_
  have hscan : scan (fuel + 1) (writeText text ++ []) = _ := scan_writeText text
  rw [List.append_nil] at hscan
  rw [hscan, scan]
  rfl

theorem isDigit_or_of_mem_decimal {n : Int} {c : Char} (h : c ∈ decimal n) :
    c.isDigit = true ∨ c = '-' := by
  unfold decimal at h
  split at h
  · exact (List.mem_cons.mp h).elim .inr fun h => .inl (isDigit_toDigits h)
  · exact .inl (isDigit_toDigits h)

theorem word?_decimal (n : Int) : word? (decimal n) =
    some (.number ⟨n < 0, Nat.toDigits 10 n.natAbs, none, none⟩) := by
  -- The three names have letters, and an integer has none.
  have hname : ∀ name : String, ∀ c ∈ name.toList, c.isDigit = false → c ≠ '-' →
      String.ofList (decimal n) ≠ name := by
    rintro name c hc hdigit hminus rfl
    rw [String.toList_ofList] at hc
    simpa [hdigit, hminus] using isDigit_or_of_mem_decimal hc
  unfold word?
  split
  · rename_i h
    exact absurd h (hname _ 'n' (by decide) (by decide) (by decide))
  · rename_i h
    exact absurd h (hname _ 't' (by decide) (by decide) (by decide))
  · rename_i h
    exact absurd h (hname _ 'f' (by decide) (by decide) (by decide))
  · rw [read?_decimal]
    rfl

theorem isWordChar_decimal {n : Int} {c : Char} (h : c ∈ decimal n) : isWordChar c = true := by
  rcases isDigit_or_of_mem_decimal h with hdigit | rfl
  · simp [isWordChar, Char.isAlphanum, hdigit]
  · decide

theorem decimal_ne_nil (n : Int) : decimal n ≠ [] := by
  unfold decimal
  split
  · simp
  · exact Nat.toDigits_ne_nil

-- An integer is read as the number that its digits spell.
theorem read?_integer (depth : Nat) (n : Int) :
    read? depth (String.ofList (decimal n)) =
      some (.number ⟨n < 0, Nat.toDigits 10 n.natAbs, none, none⟩) := by
  refine read?_of_scan fun fuel => ?_
  have hscan : scan (fuel + 1) (decimal n ++ []) = _ :=
    scan_word (decimal_ne_nil n) (fun _ => isWordChar_decimal) (by simp)
  rw [List.append_nil, word?_decimal] at hscan
  rw [hscan, scan]
  rfl

end Values

end RecordSql.Json
