import RecordSql.Text.Hex
import RecordSql.Text.Split

namespace RecordSql.Connection

-- Whether a text is one byte in decimal, without leading zeros.
def isDecimalByte (digits : List Char) : Bool :=
  !digits.isEmpty && digits.length ≤ 3 && digits.all Char.isDigit &&
    (digits.head? != some '0' || digits.length == 1) && Nat.ofDigitChars 10 digits 0 ≤ 255

-- Whether a text is an address of four bytes.
def isShortAddress (text : List Char) : Bool :=
  let parts := Text.splitOn '.' text
  parts.length == 4 && parts.all isDecimalByte

def isHexGroup (digits : List Char) : Bool :=
  !digits.isEmpty && digits.length ≤ 4 && digits.all fun c => (Text.hexDigit? c).isSome

-- The number of 16-bit groups that parts spell. A short address may stand for the last two.
def countGroups (shortAllowed : Bool) : List (List Char) → Option Nat
  | [] => some 0
  | [part] =>
    if isHexGroup part then some 1
    else if shortAllowed && isShortAddress part then some 2
    else none
  | part :: rest => if isHexGroup part then (countGroups shortAllowed rest).map (· + 1) else none

def groups? (shortAllowed : Bool) (text : List Char) : Option Nat :=
  if text.isEmpty then some 0 else countGroups shortAllowed (Text.splitOn ':' text)

def cutDoubleColon : List Char → Option (List Char × List Char)
  | ':' :: ':' :: rest => some ([], rest)
  | c :: rest => (cutDoubleColon rest).map fun (before, after) => (c :: before, after)
  | [] => none

-- Whether a text is an address of eight groups. A double colon stands for one or more groups
-- of zeros.
def isLongAddress (text : List Char) : Bool :=
  match cutDoubleColon text with
  | none => groups? true text == some 8
  | some (before, after) =>
    match groups? false before, groups? true after with
    | some m, some n => m + n ≤ 7
    | _, _ => false

def isAddress (text : List Char) : Bool :=
  isShortAddress text || isLongAddress text

end RecordSql.Connection
