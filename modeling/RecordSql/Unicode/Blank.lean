import RecordSql.Unicode.CodeSet

namespace RecordSql.Unicode

-- The standard property White_Space.
def blankFlips : List Nat := [
  9, 14, 32, 33, 133, 134, 160, 161, 5760, 5761, 8192, 8203, 8232, 8234, 8239, 8240, 8287, 8288,
  12288, 12289]

def isBlank (c : Char) : Bool :=
  insideFlips blankFlips c

def trimStart (text : List Char) : List Char :=
  text.dropWhile isBlank

def trim (text : List Char) : List Char :=
  ((trimStart text).reverse.dropWhile isBlank).reverse

end RecordSql.Unicode
