import RecordSql.Json.Text
import RecordSql.Json.Number

namespace RecordSql.Json

inductive Token
  | openBracket
  | closeBracket
  | openBrace
  | closeBrace
  | comma
  | colon
  | scalar (value : Json)

def isSpace (c : Char) : Bool :=
  c == ' ' || c == '\t' || c == '\n' || c == '\r'

def isWordChar (c : Char) : Bool :=
  c.isAlphanum || c == '-' || c == '+' || c == '.'

def word? (word : List Char) : Option Json :=
  match String.ofList word with
  | "null" => some .null
  | "true" => some (.bool true)
  | "false" => some (.bool false)
  | _ => (JsonNumber.read? word).map .number

def punctuation? (c : Char) : Option Token :=
  if c = '[' then some .openBracket
  else if c = ']' then some .closeBracket
  else if c = '\x7b' then some .openBrace
  else if c = '\x7d' then some .closeBrace
  else if c = ',' then some .comma
  else if c = ':' then some .colon
  else none

-- Splits a text into its pieces. Each step takes at least one character, so that the length
-- of the text is fuel enough.
def scan : Nat → List Char → Option (List Token)
  | _, [] => some []
  | 0, _ => none
  | fuel + 1, c :: rest =>
    if isSpace c then scan fuel rest
    else if c = '"' then
      match readText rest with
      | some (chars, after) => (scan fuel after).map (.scalar (.text (String.ofList chars)) :: ·)
      | none => (skipText rest).bind fun after => (scan fuel after).map (.scalar .broken :: ·)
    else
      match punctuation? c with
      | some token => (scan fuel rest).map (token :: ·)
      | none => do
        let value ← word? ((c :: rest).takeWhile isWordChar)
        (scan fuel ((c :: rest).dropWhile isWordChar)).map (.scalar value :: ·)

-- A key that was read. There is none in a text that is broken.
def key? : Json → Option (Option String)
  | .text key => some (some key)
  | .broken => some none
  | _ => none

def ofMembers (members : List (Option String × Json)) : Json :=
  match members.mapM fun (key, value) => key.map (·, value) with
  | some members => .object members
  | none => .broken

mutual

-- Reads one value and returns the pieces after it. The depth bounds how far brackets may
-- still nest; the fuel counts pieces.
def readValue : Nat → Nat → List Token → Option (Json × List Token)
  | 0, _, _ => none
  | _, _, [] => none
  | _, _, .scalar value :: rest => some (value, rest)
  | fuel + 1, depth + 1, .openBracket :: rest =>
    match rest with
    | .closeBracket :: rest => some (.array [], rest)
    | rest => (readItems fuel depth rest).map fun (items, rest) => (.array items, rest)
  | fuel + 1, depth + 1, .openBrace :: rest =>
    match rest with
    | .closeBrace :: rest => some (.object [], rest)
    | rest => (readMembers fuel depth rest).map fun (members, rest) => (ofMembers members, rest)
  | _, _, _ => none

def readItems : Nat → Nat → List Token → Option (List Json × List Token)
  | 0, _, _ => none
  | fuel + 1, depth, tokens =>
    match readValue fuel depth tokens with
    | some (item, .comma :: rest) =>
      (readItems fuel depth rest).map fun (items, rest) => (item :: items, rest)
    | some (item, .closeBracket :: rest) => some ([item], rest)
    | _ => none

def readMembers : Nat → Nat → List Token → Option (List (Option String × Json) × List Token)
  | 0, _, _ => none
  | fuel + 1, depth, .scalar first :: .colon :: tokens =>
    match key? first, readValue fuel depth tokens with
    | some key, some (value, .comma :: rest) =>
      (readMembers fuel depth rest).map fun (members, rest) => ((key, value) :: members, rest)
    | some key, some (value, .closeBrace :: rest) => some ([(key, value)], rest)
    | _, _ => none
  | _, _, _ => none

end

def usualDepth : Nat := 127

def read? (depth : Nat) (text : String) : Option Json := do
  let tokens ← scan text.length text.toList
  let (value, rest) ← readValue (2 * tokens.length + 1) depth tokens
  if rest.isEmpty then some value else none

end RecordSql.Json
