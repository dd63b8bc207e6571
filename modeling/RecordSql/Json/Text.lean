import RecordSql.Text.Hex

namespace RecordSql.Json

-- A character inside a quoted text. Only the quote, the backslash and controls are escaped.
def escape (c : Char) : List Char :=
  if c = '"' then ['\\', '"']
  else if c = '\\' then ['\\', '\\']
  else if c = '\x08' then ['\\', 'b']
  else if c = '\x0c' then ['\\', 'f']
  else if c = '\n' then ['\\', 'n']
  else if c = '\r' then ['\\', 'r']
  else if c = '\t' then ['\\', 't']
  else if c < ' ' then
    ['\\', 'u', '0', '0', Nat.digitChar (c.toNat / 16), Nat.digitChar (c.toNat % 16)]
  else [c]

def writeText (text : List Char) : List Char :=
  '"' :: text.flatMap escape ++ ['"']

def unit? (a b c d : Char) : Option Nat := do
  some (16 * (16 * (16 * (← Text.hexDigit? a) + (← Text.hexDigit? b)) + (← Text.hexDigit? c)) +
    (← Text.hexDigit? d))

def shortEscape? (c : Char) : Option Char :=
  if c = '"' then some '"'
  else if c = '\\' then some '\\'
  else if c = '/' then some '/'
  else if c = 'b' then some '\x08'
  else if c = 'f' then some '\x0c'
  else if c = 'n' then some '\n'
  else if c = 'r' then some '\r'
  else if c = 't' then some '\t'
  else none

def isHighSurrogate (unit : Nat) : Bool :=
  0xD800 ≤ unit && unit ≤ 0xDBFF

def isLowSurrogate (unit : Nat) : Bool :=
  0xDC00 ≤ unit && unit ≤ 0xDFFF

def paired (high low : Nat) : Char :=
  Char.ofNat (0x10000 + 0x400 * (high - 0xD800) + (low - 0xDC00))

-- Reads up to the closing quote and returns what follows it. A surrogate counts only as the
-- half of a pair, and a control character has to be escaped.
def readText : List Char → Option (List Char × List Char)
  | [] => none
  | c :: rest =>
    if c = '"' then some ([], rest)
    else if c = '\\' then
      match rest with
      | [] => none
      | letter :: rest =>
        if letter = 'u' then
          match rest with
          | a :: b :: c :: d :: rest =>
            match unit? a b c d with
            | none => none
            | some unit =>
              if isLowSurrogate unit then none
              else if isHighSurrogate unit then
                match rest with
                | backslash :: u :: a :: b :: c :: d :: rest =>
                  match unit? a b c d with
                  | none => none
                  | some low =>
                    if backslash = '\\' ∧ u = 'u' ∧ isLowSurrogate low then
                      (readText rest).map fun (chars, after) => (paired unit low :: chars, after)
                    else none
                | _ => none
              else (readText rest).map fun (chars, after) => (Char.ofNat unit :: chars, after)
          | _ => none
        else
          match shortEscape? letter with
          | none => none
          | some meant => (readText rest).map fun (chars, after) => (meant :: chars, after)
    else if c < ' ' then none
    else (readText rest).map fun (chars, after) => (c :: chars, after)

-- Skips to the end of a text whose escapes need not stand for characters.
def skipText : List Char → Option (List Char)
  | [] => none
  | c :: rest =>
    if c = '"' then some rest
    else if c = '\\' then
      match rest with
      | 'u' :: a :: b :: c :: d :: rest => if (unit? a b c d).isSome then skipText rest else none
      | letter :: rest => if (shortEscape? letter).isSome then skipText rest else none
      | [] => none
    else if c < ' ' then none
    else skipText rest

end RecordSql.Json
