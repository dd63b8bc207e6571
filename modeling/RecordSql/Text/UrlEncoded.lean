import RecordSql.Text.Hex
import RecordSql.Text.Split
import RecordSql.Unicode.Lossy
import RecordSql.Wire.Bytes

namespace RecordSql.Text

def byteOf (c : Char) : UInt8 := UInt8.ofNat c.toNat

def hexDigitOf? (b : UInt8) : Option Nat := hexDigit? (Char.ofNat b.toNat)

-- Reads a percent sign and two hexadecimal digits as one byte. A percent sign that no digits
-- follow stands for itself.
def percentDecode : List UInt8 → List UInt8
  | [] => []
  | b :: high :: low :: rest =>
    if b = byteOf '%' then
      match hexDigitOf? high, hexDigitOf? low with
      | some h, some l => UInt8.ofNat (16 * h + l) :: percentDecode rest
      | _, _ => b :: percentDecode (high :: low :: rest)
    else b :: percentDecode (high :: low :: rest)
  | b :: rest => b :: percentDecode rest

def plusToBlank (b : UInt8) : UInt8 :=
  if b = byteOf '+' then byteOf ' ' else b

-- The text of one name or value. A plus sign stands for a blank unless it is percent-encoded,
-- and what is not UTF-8 is replaced.
def decodeComponent (bytes : List UInt8) : String :=
  String.ofList (Unicode.decodeLossy (percentDecode (bytes.map plusToBlank)))

def decodePair (piece : List UInt8) : String × String :=
  let (name, value) := cut (byteOf '=') piece
  (decodeComponent name, decodeComponent (value.getD []))

-- The names and values of a query string in the order in which they stand. Empty pieces do
-- not count, and a piece without an equals sign has the empty value.
def readQuery (query : String) : List (String × String) :=
  ((splitOn (byteOf '&') (Wire.utf8 query)).filter (!·.isEmpty)).map decodePair

end RecordSql.Text
