import RecordSql.Text.Hex

namespace RecordSql

structure Uuid where
  bytes : List UInt8
  size : bytes.length = 16 := by decide

namespace Uuid

instance : DecidableEq Uuid := fun a b =>
  if h : a.bytes = b.bytes then isTrue (by cases a; cases b; simpa using h)
  else isFalse fun e => h (congrArg bytes e)

def ofBytes? (bytes : List UInt8) : Option Uuid :=
  if h : bytes.length = 16 then some ⟨bytes, h⟩ else none

def text (u : Uuid) : List Char :=
  let digits := fun (start count : Nat) => ((u.bytes.drop start).take count).flatMap Text.hexByte
  digits 0 4 ++ ['-'] ++ digits 4 2 ++ ['-'] ++ digits 6 2 ++ ['-'] ++ digits 8 2 ++ ['-'] ++
    digits 10 6

def simple? (text : List Char) : Option Uuid :=
  (Text.hexBytes? text).bind ofBytes?

def hyphenated? (text : List Char) : Option Uuid :=
  let group := fun (start count : Nat) => (text.drop start).take count
  let hyphens := [8, 13, 18, 23].all fun place => text[place]? == some '-'
  if text.length = 36 ∧ hyphens then
    simple? (group 0 8 ++ group 9 4 ++ group 14 4 ++ group 19 4 ++ group 24 12)
  else none

def isUrnScheme (text : List Char) : Bool :=
  text.map Char.toLower == "urn:uuid:".toList

-- Reads 32 digits, or the hyphenated form, which may stand in braces or be written as a URN.
-- Which form it is follows from the length.
def read? (text : List Char) : Option Uuid :=
  match text.length with
  | 32 => simple? text
  | 36 => hyphenated? text
  | 38 =>
    if text.head? = some '\x7b' ∧ text.getLast? = some '\x7d' then
      hyphenated? (text.drop 1).dropLast
    else none
  | 45 => if isUrnScheme (text.take 9) then hyphenated? (text.drop 9) else none
  | _ => none

end Uuid

end RecordSql
