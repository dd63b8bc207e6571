import Mathlib.Algebra.Order.Group.Int
import Mathlib.Algebra.Order.Ring.Int
import Mathlib.Tactic.Ring
import RecordSql.Wire.Bytes

namespace RecordSql.Wire

variable {count : Nat} {n : Int}

-- The form of an integer in two's complement, the highest byte first. Each byte is a digit of the
-- integer to the base 256, where a negative integer is divided toward the past.
structure TwosComplement (count : Nat) (n : Int) (bytes : List UInt8) : Prop where
  length : bytes.length = count
  digit : ∀ i b, bytes[i]? = some b → (b.toNat : Int) = n / 256 ^ (count - 1 - i) % 256
  spelled : ofSigned bytes = n

theorem pow_eight (count : Nat) : Nat.pow 2 (8 * count) = 256 ^ count := Nat.pow_mul 2 8 count

-- From the highest byte on the powers go down to zero.
theorem getElem?_bigEndian (m : Nat) {i : Nat} (hi : i < count) :
    (bigEndian count m)[i]? = some (UInt8.ofNat (m / 256 ^ (count - 1 - i))) := by
  induction count generalizing m with
  | zero => omega
  | succ count ih =>
    rw [bigEndian, List.getElem?_append, bigEndian_length]
    by_cases hlast : i < count
    · have hpower : count + 1 - 1 - i = (count - 1 - i) + 1 := by omega
      rw [if_pos hlast, ih (m / 256) hlast, hpower, Nat.pow_succ', Nat.div_div_eq_div_mul]
    · obtain rfl : i = count := by omega
      simp

-- Multiples of a power do not show in the digits in front of it.
theorem digit_emod {k : Nat} (hk : k < count) :
    n % 256 ^ count / 256 ^ k % 256 = n / 256 ^ k % 256 := by
  have hpos : (256 : Int) ^ k ≠ 0 := pow_ne_zero k (by decide)
  have hpower : (256 : Int) ^ count = 256 ^ k * (256 * 256 ^ (count - 1 - k)) := by
    rw [← pow_succ', ← pow_add]
    congr 1
    omega
  have hsplit : n % 256 ^ count =
      n + 256 ^ k * (256 * -(256 ^ (count - 1 - k) * (n / 256 ^ count))) := by
    rw [Int.emod_def, hpower]
    ring
  rw [hsplit, Int.add_mul_ediv_left _ _ hpos, Int.add_mul_emod_self_left]

-- An integer that lies in the range is written as what it is.
theorem twosComplement_signed (hpos : 0 < count) (hl : -2 ^ (8 * count - 1) ≤ n)
    (hg : n < 2 ^ (8 * count - 1)) : TwosComplement count n (signed count n) := by
  have hwhole : (256 : Int) ^ count = 2 * 2 ^ (8 * count - 1) := by
    rw [← pow_succ', show 8 * count - 1 + 1 = 8 * count by omega, pow_mul]
    rfl
  have hpower : ((256 ^ count : Nat) : Int) = 256 ^ count := Nat.cast_pow 256 count
  have hm : ((n % 256 ^ count).toNat : Int) = n % 256 ^ count :=
    Int.toNat_of_nonneg (Int.emod_nonneg n (by omega))
  have hsigned : signed count n = bigEndian count (n % 256 ^ count).toNat := by
    rw [signed, pow_eight, hpower]
  refine ⟨signed_length count n, fun i b hb => ?_, ?_⟩
  · have hi : i < count := by
      have hlength := (List.getElem?_eq_some_iff.mp hb).1
      rwa [signed_length] at hlength
    have hk : count - 1 - i < count := by omega
    rw [hsigned, getElem?_bigEndian _ hi, Option.some.injEq] at hb
    rw [← hb, UInt8.toNat_ofNat', ← digit_emod hk, ← hm]
    push_cast
    rfl
  · have hlt : n % 256 ^ count < 256 ^ count := Int.emod_lt_of_pos n (by omega)
    have hread : ofBigEndian (signed count n) = (n % 256 ^ count).toNat := by
      rw [hsigned, ofBigEndian_bigEndian]
      exact Nat.mod_eq_of_lt (show _ < 256 ^ count by omega)
    rw [ofSigned, hread, signed_length, pow_eight]
    -- What is left out of a negative integer is one whole power.
    by_cases hneg : n < 0
    · have hn : n % 256 ^ count = n + 256 ^ count := by
        rw [← Int.add_emod_right, Int.emod_eq_of_lt (by omega) (by omega)]
      rw [if_neg (by omega)]
      omega
    · have hn : n % 256 ^ count = n := Int.emod_eq_of_lt (by omega) (by omega)
      rw [if_pos (by omega)]
      omega

end RecordSql.Wire
