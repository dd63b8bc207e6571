namespace RecordSql.Wire

-- A natural number in the given count of bytes, the highest first. Higher bits are cut off.
def bigEndian : Nat → Nat → List UInt8
  | 0, _ => []
  | count + 1, n => bigEndian count (n / 256) ++ [UInt8.ofNat n]

def ofBigEndian (bytes : List UInt8) : Nat :=
  bytes.foldl (fun n b => 256 * n + b.toNat) 0

def signed (count : Nat) (n : Int) : List UInt8 :=
  bigEndian count (n % (Nat.pow 2 (8 * count) : Nat)).toNat

def ofSigned (bytes : List UInt8) : Int :=
  let n := ofBigEndian bytes
  if 2 * n < Nat.pow 2 (8 * bytes.length) then n else n - (Nat.pow 2 (8 * bytes.length) : Nat)

def utf8 (text : String) : List UInt8 :=
  text.toByteArray.data.toList

def ofUtf8? (bytes : List UInt8) : Option String :=
  String.fromUTF8? ⟨bytes.toArray⟩

@[simp] theorem bigEndian_length (count n : Nat) : (bigEndian count n).length = count := by
  induction count generalizing n with
  | zero => rfl
  | succ count ih => simp [bigEndian, ih]

@[simp] theorem signed_length (count : Nat) (n : Int) : (signed count n).length = count := by
  simp [signed]

theorem ofBigEndian_concat (bytes : List UInt8) (b : UInt8) :
    ofBigEndian (bytes ++ [b]) = 256 * ofBigEndian bytes + b.toNat := by
  simp [ofBigEndian, List.foldl_append]

-- Bytes spell what was written in them, as far as it fits.
theorem ofBigEndian_bigEndian (count n : Nat) :
    ofBigEndian (bigEndian count n) = n % Nat.pow 256 count := by
  induction count generalizing n with
  | zero => exact (Nat.mod_one n).symm
  | succ count ih =>
    have hpow : Nat.pow 256 (count + 1) = 256 * Nat.pow 256 count := Nat.mul_comm _ _
    rw [bigEndian, ofBigEndian_concat, ih, UInt8.toNat_ofNat', hpow, Nat.mod_mul, Nat.add_comm]

end RecordSql.Wire
