namespace RecordSql

inductive IntegerError
  | empty
  | invalidDigit
  | tooLarge
  | tooSmall
  deriving DecidableEq

def IntegerError.message : IntegerError → String
  | .empty => "cannot parse integer from empty string"
  | .invalidDigit => "invalid digit found in string"
  | .tooLarge => "number too large to fit in target type"
  | .tooSmall => "number too small to fit in target type"

-- A range of integers. Only a range that reaches below zero reads a minus sign.
structure IntegerRange where
  least : Int
  greatest : Int
  deriving DecidableEq

namespace IntegerRange

def signed (width : Nat) : IntegerRange :=
  ⟨-(Nat.pow 2 (width - 1) : Nat), (Nat.pow 2 (width - 1) : Nat) - 1⟩

def unsigned (width : Nat) : IntegerRange :=
  ⟨0, (Nat.pow 2 width : Nat) - 1⟩

def contains (range : IntegerRange) (n : Int) : Bool :=
  range.least ≤ n && n ≤ range.greatest

theorem contains_iff {range : IntegerRange} {n : Int} :
    range.contains n = true ↔ range.least ≤ n ∧ n ≤ range.greatest := by
  rw [contains, Bool.and_eq_true, decide_eq_true_eq, decide_eq_true_eq]

-- A number kept as it is, or refused for the side on which it leaves the range.
def narrow (range : IntegerRange) (n : Int) : Except IntegerError Int :=
  if range.greatest < n then .error .tooLarge
  else if n < range.least then .error .tooSmall
  else .ok n

-- Reads digits after the magnitude read so far. The first digit that leaves the limit
-- decides, even when something else than a digit follows.
def readMagnitude (limit : Nat) (overflow : IntegerError) :
    Nat → List Char → Except IntegerError Nat
  | n, [] => .ok n
  | n, c :: rest =>
    if c.isDigit then
      let next := 10 * n + (c.toNat - '0'.toNat)
      if limit < next then .error overflow else readMagnitude limit overflow next rest
    else .error .invalidDigit

def readPositive (range : IntegerRange) (digits : List Char) : Except IntegerError Int :=
  (readMagnitude range.greatest.toNat .tooLarge 0 digits).map fun n => (n : Int)

def readNegative (range : IntegerRange) (digits : List Char) : Except IntegerError Int :=
  (readMagnitude range.least.natAbs .tooSmall 0 digits).map fun n => -(n : Int)

def read (range : IntegerRange) : List Char → Except IntegerError Int
  | [] => .error .empty
  | '+' :: digits => if digits.isEmpty then .error .invalidDigit else readPositive range digits
  | '-' :: digits =>
    if digits.isEmpty || 0 ≤ range.least then .error .invalidDigit
    else readNegative range digits
  | digits => readPositive range digits

def read? (range : IntegerRange) (text : List Char) : Option Int :=
  (range.read text).toOption

theorem narrow_eq_ok {range : IntegerRange} {n m : Int} :
    range.narrow n = .ok m ↔ range.contains n ∧ m = n := by
  unfold narrow contains
  split
  · simp; omega
  · split
    · simp; omega
    · simp only [Except.ok.injEq, Bool.and_eq_true, decide_eq_true_eq]
      omega

theorem readMagnitude_le {limit n m : Nat} {overflow : IntegerError} {digits : List Char}
    (hn : n ≤ limit) (h : readMagnitude limit overflow n digits = .ok m) : m ≤ limit := by
  induction digits generalizing n with
  | nil =>
    obtain rfl := Except.ok.inj h
    exact hn
  | cons c rest ih =>
    rw [readMagnitude] at h
    dsimp only at h
    split at h
    · split at h
      · simp at h
      · rename_i hle
        exact ih (Nat.le_of_not_lt hle) h
    · simp at h

theorem contains_of_readPositive {range : IntegerRange} {digits : List Char} {n : Int}
    (hl : range.least ≤ 0) (hg : 0 ≤ range.greatest) (h : range.readPositive digits = .ok n) :
    range.contains n = true := by
  rw [readPositive] at h
  cases hm : readMagnitude range.greatest.toNat .tooLarge 0 digits with
  | error e => simp [hm, Except.map, Functor.map] at h
  | ok m =>
    obtain rfl : (m : Int) = n := by simpa [hm, Except.map, Functor.map] using h
    have hle := readMagnitude_le (Nat.zero_le _) hm
    rw [contains_iff]
    omega

theorem contains_of_readNegative {range : IntegerRange} {digits : List Char} {n : Int}
    (hl : range.least ≤ 0) (hg : 0 ≤ range.greatest) (h : range.readNegative digits = .ok n) :
    range.contains n = true := by
  rw [readNegative] at h
  cases hm : readMagnitude range.least.natAbs .tooSmall 0 digits with
  | error e => simp [hm, Except.map, Functor.map] at h
  | ok m =>
    obtain rfl : -(m : Int) = n := by simpa [hm, Except.map, Functor.map] using h
    have hle := readMagnitude_le (Nat.zero_le _) hm
    rw [contains_iff]
    omega

-- A range that holds zero reads no number outside of it.
theorem contains_of_read {range : IntegerRange} {text : List Char} {n : Int}
    (hl : range.least ≤ 0) (hg : 0 ≤ range.greatest) (h : range.read text = .ok n) :
    range.contains n = true := by
  unfold read at h
  split at h
  · simp at h
  · split at h
    · simp at h
    · exact contains_of_readPositive hl hg h
  · split at h
    · simp at h
    · exact contains_of_readNegative hl hg h
  · exact contains_of_readPositive hl hg h

end IntegerRange

def decimal (n : Int) : List Char :=
  if n < 0 then '-' :: Nat.toDigits 10 n.natAbs else Nat.toDigits 10 n.natAbs

def decimalNat (n : Nat) : String :=
  String.ofList (Nat.toDigits 10 n)

theorem toDigits_inj {m n : Nat} (h : Nat.toDigits 10 m = Nat.toDigits 10 n) : m = n := by
  simpa using congrArg (Nat.ofDigitChars 10 · 0) h

end RecordSql
