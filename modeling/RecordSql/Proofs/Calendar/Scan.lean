import RecordSql.Proofs.Calendar.Text
import RecordSql.Proofs.Outcome
import RecordSql.Proofs.Unicode.Blank

namespace RecordSql.Calendar

section Numbers

variable {count n least greatest : Nat} {text rest : List Char}

theorem ofDigitChars_lt {digits : List Char} (h : ∀ c ∈ digits, c.isDigit = true) :
    Nat.ofDigitChars 10 digits 0 < 10 ^ digits.length := by
  induction digits with
  | nil => decide
  | cons first others ih =>
    obtain ⟨hfirst, hothers⟩ := List.forall_mem_cons.mp h
    have hdigit : first.toNat - '0'.toNat ≤ 9 := by
      have hbounds : 48 ≤ first.toNat ∧ first.toNat ≤ 57 := by
        simpa [Char.isDigit, UInt32.le_iff_toNat_le] using hfirst
      have hzero : '0'.toNat = 48 := rfl
      omega
    have hmul := Nat.mul_le_mul_left (10 ^ others.length) hdigit
    have hlt := ih hothers
    rw [Nat.ofDigitChars_cons, Nat.ofDigitChars_eq_ofDigitChars_zero, List.length_cons, Nat.pow_succ,
      Nat.mul_zero, Nat.zero_add]
    omega

theorem scanExactly_eq_some_iff :
    scanExactly count text = some (n, rest) ↔ ∃ digits, text = digits ++ rest ∧
      digits.length = count ∧ (∀ c ∈ digits, c.isDigit = true) ∧
      n = Nat.ofDigitChars 10 digits 0 := by
  constructor
  · intro h
    simp only [scanExactly] at h
    split at h
    · rename_i hdigits
      obtain ⟨rfl, rfl⟩ := Prod.mk.inj (Option.some.inj h)
      exact ⟨_, (List.take_append_drop count text).symm, hdigits.1,
        List.all_eq_true.mp hdigits.2, rfl⟩
    · cases h
  · rintro ⟨digits, rfl, rfl, hdigits, rfl⟩
    have hall : digits.all Char.isDigit = true := List.all_eq_true.mpr hdigits
    rw [scanExactly, List.take_left, List.drop_left]
    exact if_pos ⟨rfl, hall⟩

theorem exists_of_scanExactly (hpos : 0 < count) (h : scanExactly count text = some (n, rest)) :
    ∃ first others, text = first :: others ∧ first.isDigit = true := by
  obtain ⟨digits, rfl, rfl, hdigits, -⟩ := scanExactly_eq_some_iff.mp h
  obtain ⟨first, others, rfl⟩ := List.exists_cons_of_length_pos hpos
  exact ⟨first, others ++ rest, rfl, hdigits first List.mem_cons_self⟩

theorem trimStart_of_scanExactly (hpos : 0 < count)
    (h : scanExactly count text = some (n, rest)) : Unicode.trimStart text = text := by
  obtain ⟨first, others, rfl, hfirst⟩ := exists_of_scanExactly hpos h
  refine Unicode.trimStart_eq_self fun c hc => ?_
  obtain rfl : first = c := Option.some.inj hc
  exact Unicode.isBlank_of_isDigit hfirst

-- A number that may be short is read as one of fixed width where there is one.
theorem scanNumber_of_scanExactly (hpos : 0 < count)
    (h : scanExactly count text = some (n, rest)) : scanNumber (some count) text = .ok (n, rest) := by
  obtain ⟨digits, rfl, rfl, hdigits, rfl⟩ := scanExactly_eq_some_iff.mp h
  have hne : digits ≠ [] := List.ne_nil_of_length_pos hpos
  have htake : digits.takeWhile Char.isDigit = digits := List.takeWhile_eq_self_iff.mpr hdigits
  have hempty : (digits ++ rest).isEmpty = false := by simp [hne]
  rw [scanNumber]
  simp only [List.take_left, htake, List.drop_left, hempty, List.isEmpty_eq_false_iff.mpr hne]
  rfl

theorem scanYear_of_scanExactly (h : scanExactly 4 text = some (n, rest)) :
    scanYear (Unicode.trimStart text) = .ok (n, rest) := by
  have hnumber := scanNumber_of_scanExactly (by decide) h
  have hlt : n < 10 ^ 4 := by
    obtain ⟨digits, -, hlength, hdigits, rfl⟩ := scanExactly_eq_some_iff.mp h
    exact hlength ▸ ofDigitChars_lt hdigits
  have hrange : -2147483648 ≤ (n : Int) ∧ (n : Int) ≤ 2147483647 := by omega
  obtain ⟨first, others, rfl, hfirst⟩ := exists_of_scanExactly (by decide) h
  rw [trimStart_of_scanExactly (by decide) h]
  unfold scanYear
  -- No sign is a digit, so that the year is read without one.
  split
  · rename_i hminus
    obtain ⟨rfl, -⟩ := List.cons.inj hminus
    exact absurd hfirst (by decide)
  · rename_i hplus
    obtain ⟨rfl, -⟩ := List.cons.inj hplus
    exact absurd hfirst (by decide)
  · rw [hnumber]
    exact if_pos hrange

theorem scanField_of_scanExactly (h : scanExactly 2 text = some (n, rest)) :
    scanField least greatest text = (inBounds least greatest n).map fun _ => (n, rest) := by
  rw [scanField, trimStart_of_scanExactly (by decide) h, scanNumber_of_scanExactly (by decide) h]
  change ((inBounds least greatest n).bind fun _ => .ok (n, rest)) = _
  cases inBounds least greatest n <;> rfl

end Numbers

section Dates

variable {text rest : List Char} {year month day : Nat} {d : Date} {t : Timestamp}

-- A text that starts with a date in which each number has its full width.
inductive StartsDated : List Char → Nat → Nat → Nat → List Char → Prop
  | intro {text afterYear afterMonth rest : List Char} {year month day : Nat}
    (hyear : scanExactly 4 text = some (year, '-' :: afterYear))
    (hmonth : scanExactly 2 afterYear = some (month, '-' :: afterMonth))
    (hday : scanExactly 2 afterMonth = some (day, rest)) : StartsDated text year month day rest

theorem scanChar_eq_some_iff {c : Char} :
    (scanChar c text).toOption = some rest ↔ text = c :: rest := by
  cases text with
  | nil => simp [scanChar, Except.toOption]
  | cons first others =>
    by_cases hc : first = c
    · simp [scanChar, hc, Except.toOption]
    · simp [scanChar, hc, Except.toOption]

-- The strict form goes on after the date.
theorem startsDated_of_readTimestamp? (h : readTimestamp? text = some t) :
    ∃ year month day separator rest, StartsDated text year month day (separator :: rest) := by
  obtain ⟨⟨year, _⟩, hyear, hafterYear⟩ := Option.bind_eq_some_iff.mp h
  obtain ⟨afterYear, hhyphen, hmonths⟩ := Option.bind_eq_some_iff.mp hafterYear
  obtain rfl := scanChar_eq_some_iff.mp hhyphen
  obtain ⟨⟨month, _⟩, hmonth, hafterMonth⟩ := Option.bind_eq_some_iff.mp hmonths
  obtain ⟨afterMonth, hhyphen, hdays⟩ := Option.bind_eq_some_iff.mp hafterMonth
  obtain rfl := scanChar_eq_some_iff.mp hhyphen
  obtain ⟨⟨day, rest⟩, hday, hafterDay⟩ := Option.bind_eq_some_iff.mp hdays
  cases rest with
  | nil => cases hafterDay
  | cons separator rest => exact ⟨year, month, day, separator, rest, .intro hyear hmonth hday⟩

-- Of such a text the date is read, and nothing may follow it.
theorem StartsDated.readDate_eq (h : StartsDated text year month day rest) :
    readDate text = (inBounds 1 12 month).bind fun _ => (inBounds 1 31 day).bind fun _ =>
      if rest.isEmpty then checkedDate ⟨year, month, day⟩ else .error .tooLong := by
  obtain ⟨hyear, hmonth, hday⟩ := h
  rw [readDate, scanYear_of_scanExactly hyear]
  change (scanField 1 12 _).bind _ = _
  rw [scanField_of_scanExactly hmonth]
  cases inBounds 1 12 month with
  | error e => rfl
  | ok =>
    change (scanField 1 31 _).bind _ = _
    rw [scanField_of_scanExactly hday]
    cases inBounds 1 31 day <;> rfl

-- A text that is read as a date is never taken for a moment in the strict form.
theorem readTimestamp?_of_readDate (h : readDate text = .ok d) : readTimestamp? text = none := by
  cases hread : readTimestamp? text with
  | none => rfl
  | some t =>
    obtain ⟨year, month, day, separator, rest, hdated⟩ := startsDated_of_readTimestamp? hread
    rw [hdated.readDate_eq] at h
    cases hmonth : inBounds 1 12 month with
    | error e => rw [hmonth] at h; cases h
    | ok =>
      cases hday : inBounds 1 31 day with
      | error e => rw [hmonth, hday] at h; cases h
      | ok => rw [hmonth, hday] at h; cases h

-- A date that is read is one that the calendar has.
theorem checked_of_readDate (h : readDate text = .ok d) :
    d.isValid = true ∧ d.hasYearInRange = true := by
  obtain ⟨_, -, hyear⟩ := bind_eq_ok_iff.mp h
  obtain ⟨_, -, hhyphen⟩ := bind_eq_ok_iff.mp hyear
  obtain ⟨_, -, hmonth⟩ := bind_eq_ok_iff.mp hhyphen
  obtain ⟨_, -, hhyphen⟩ := bind_eq_ok_iff.mp hmonth
  obtain ⟨_, -, hday⟩ := bind_eq_ok_iff.mp hhyphen
  dsimp only at hday
  split at hday
  · rw [checkedDate] at hday
    split at hday
    · rename_i hchecked
      obtain rfl := Except.ok.inj hday
      exact Bool.and_eq_true_iff.mp hchecked
    · cases hday
  · cases hday

end Dates

section Loose

variable {α : Type} {n least greatest : Nat} (rest : List Char)

theorem bind_scanYear (hn : n < 10 ^ 4) (f : Int × List Char → Option α) :
    (scanYear (Unicode.trimStart (padded 4 n ++ rest))).toOption >>= f = f (n, rest) := by
  rw [scanYear_of_scanExactly (scanExactly_padded (by decide) hn rest)]
  rfl

theorem bind_scanField (hn : n < 10 ^ 2) (hl : least ≤ n) (hg : n ≤ greatest)
    (f : Nat × List Char → Option α) :
    (scanField least greatest (padded 2 n ++ rest)).toOption >>= f = f (n, rest) := by
  rw [scanField_of_scanExactly (scanExactly_padded (by decide) hn rest), inBounds,
    if_pos ⟨hl, hg⟩]
  rfl

theorem bind_looseChar {c : Char} (hc : Unicode.isBlank c = false) (f : List Char → Option α) :
    looseChar c (c :: rest) >>= f = f rest := by
  have hstart : Unicode.trimStart (c :: rest) = c :: rest :=
    Unicode.trimStart_eq_self fun first hfirst => by
      obtain rfl : c = first := Option.some.inj hfirst
      exact hc
  rw [looseChar, hstart]
  exact bind_scanChar rest c f

-- The tolerant form takes the strict one.
theorem readLooseTimestamp?_padded {year month day hour minute second : Nat} (hyear : year < 10 ^ 4)
    (hmonth : 1 ≤ month ∧ month ≤ 12) (hday : 1 ≤ day ∧ day ≤ 31) (hhour : hour ≤ 23)
    (hminute : minute ≤ 59) (hsecond : second ≤ 59) :
    readLooseTimestamp? (padded 4 year ++ '-' :: (padded 2 month ++ '-' :: (padded 2 day ++
        'T' :: (padded 2 hour ++ ':' :: (padded 2 minute ++ ':' :: (padded 2 second ++ ['Z'])))))) =
      moment? ⟨year, month, day⟩ ⟨hour, minute, second, 0⟩ 0 := by
  have hhyphen : Unicode.isBlank '-' = false := by decide
  have hcolon : Unicode.isBlank ':' = false := by decide
  refine (bind_scanYear _ hyear _).trans ?_
  refine (bind_looseChar _ hhyphen _).trans ?_
  refine (bind_scanField _ (by omega) hmonth.1 hmonth.2 _).trans ?_
  refine (bind_looseChar _ hhyphen _).trans ?_
  refine (bind_scanField _ (by omega) hday.1 hday.2 _).trans ?_
  refine (if_pos (.inl rfl)).trans ?_
  refine (bind_scanField _ (by omega) (Nat.zero_le _) hhour _).trans ?_
  refine (bind_looseChar _ hcolon _).trans ?_
  refine (bind_scanField _ (by omega) (Nat.zero_le _) hminute _).trans ?_
  refine (bind_looseChar _ hcolon _).trans ?_
  exact bind_scanField _ (by omega) (Nat.zero_le _) (by omega) _

end Loose

theorem Timestamp.readLooseTimestamp?_text {t : Timestamp}
    (hyear : 0 ≤ t.date.year ∧ t.date.year ≤ 9999) (hnanos : t.nanos < nanosPerSecond) :
    readLooseTimestamp? t.text = some t.truncated := by
  obtain ⟨hhour, hminute, hsecond⟩ := t.clock_bounds
  obtain ⟨hmonth, hday⟩ := t.date_bounds
  rw [text_eq hyear hnanos, readLooseTimestamp?_padded (by omega) (by omega) (by omega) hhour
    hminute hsecond, toNat_date hyear.1]
  exact moment?_clock (hasYearInRange_date hyear)

end RecordSql.Calendar
