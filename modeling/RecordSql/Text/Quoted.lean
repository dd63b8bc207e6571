import RecordSql.Unicode.Printable

namespace RecordSql.Text

def byCodePoint (c : Char) : List Char :=
  ['\\', 'u', '\x7b'] ++ Nat.toDigits 16 c.toNat ++ ['\x7d']

-- A character inside a quoted text. What is invisible, or would merge with its neighbour,
-- is written by its code point.
def escape (c : Char) : List Char :=
  match c with
  | '\x00' => ['\\', '0']
  | '\t' => ['\\', 't']
  | '\r' => ['\\', 'r']
  | '\n' => ['\\', 'n']
  | '"' => ['\\', '"']
  | '\\' => ['\\', '\\']
  | c =>
    if Unicode.isGraphemeExtend c || !Unicode.isPrintable c then byCodePoint c else [c]

def quoted (text : String) : String :=
  String.ofList (['"'] ++ text.toList.flatMap escape ++ ['"'])

def listed (items : List String) : String :=
  "[" ++ ", ".intercalate items ++ "]"

end RecordSql.Text
