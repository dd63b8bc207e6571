import RecordSql.Declaration.Token
import RecordSql.Text.Hex

namespace RecordSql.Declaration

def simpleEscape? (c : Char) : Option Char :=
  match c with
  | 'n' => some '\n'
  | 'r' => some '\r'
  | 't' => some '\t'
  | '\\' => some '\\'
  | '0' => some '\x00'
  | '\'' => some '\''
  | '"' => some '"'
  | _ => none

-- A character by two hexadecimal digits. Only ASCII is written so.
def asciiEscape? (high low : Char) : Option Char := do
  let n := 16 * (← Text.hexDigit? high) + (← Text.hexDigit? low)
  if n < 128 then some (Char.ofNat n) else none

-- A character by one to six hexadecimal digits, which underscores may divide.
def codePoint? (digits : List Char) : Option Char := do
  let digits := digits.filter (· != '_')
  if digits.isEmpty || 6 < digits.length then none
  let values ← digits.mapM Text.hexDigit?
  let n := values.foldl (fun n digit => 16 * n + digit) 0
  if n.isValidChar then some (Char.ofNat n) else none

def isSkipped (c : Char) : Bool :=
  c == ' ' || c == '\t' || c == '\n' || c == '\r'

def prepend (c : Char) (read : Option (List Char × List Char)) :
    Option (List Char × List Char) :=
  read.map fun (content, after) => (c :: content, after)

-- Reads the content of a quoted literal up to its closing quote. A backslash at the end of a
-- line leaves out the line end and the blanks after it. The length of the text is fuel enough.
def readQuoted : Nat → List Char → Option (List Char × List Char)
  | _, [] => none
  | 0, _ => none
  | fuel + 1, c :: rest =>
    if c = '"' then some ([], rest)
    else if c = '\r' then
      match rest with
      | '\n' :: rest => prepend '\n' (readQuoted fuel rest)
      | _ => none
    else if c = '\\' then
      match rest with
      | '\n' :: rest => readQuoted fuel (rest.dropWhile isSkipped)
      | '\r' :: '\n' :: rest => readQuoted fuel (rest.dropWhile isSkipped)
      | 'x' :: high :: low :: rest =>
        (asciiEscape? high low).bind fun meant => prepend meant (readQuoted fuel rest)
      | 'u' :: '\x7b' :: rest =>
        (codePoint? (rest.takeWhile (· != '\x7d'))).bind fun meant =>
          prepend meant (readQuoted fuel ((rest.dropWhile (· != '\x7d')).drop 1))
      | letter :: rest =>
        (simpleEscape? letter).bind fun meant => prepend meant (readQuoted fuel rest)
      | [] => none
    else prepend c (readQuoted fuel rest)

def readRaw (hashes : Nat) : List Char → Option (List Char × List Char)
  | [] => none
  | c :: rest =>
    let closing := List.replicate hashes '#'
    if c = '"' && closing.isPrefixOf rest then some ([], rest.drop hashes)
    else prepend c (readRaw hashes rest)

def afterSuffix (text : List Char) : List Char :=
  match Word.read? false text with
  | some (_, rest) => rest
  | none => text

def whole? : Option (List Char × List Char) → Option String
  | some (content, rest) =>
    if (withoutGaps (afterSuffix rest)).isEmpty then some (String.ofList content) else none
  | none => none

-- The content of an expression that is a text literal and nothing else.
def textLiteral? (expression : String) : Option String :=
  match withoutGaps expression.toList with
  | '"' :: rest => whole? (readQuoted rest.length rest)
  | 'r' :: rest =>
    match rest.dropWhile (· == '#') with
    | '"' :: content => whole? (readRaw (rest.takeWhile (· == '#')).length content)
    | _ => none
  | _ => none

end RecordSql.Declaration
