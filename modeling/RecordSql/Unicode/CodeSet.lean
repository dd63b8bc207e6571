namespace RecordSql.Unicode

-- A set of characters is given by the rising list of code points where membership flips.
-- A character belongs to it when an odd number of flips lie at or before its code point.
def insideFlips (flips : List Nat) (c : Char) : Bool :=
  (flips.takeWhile (· ≤ c.toNat)).length % 2 == 1

end RecordSql.Unicode
