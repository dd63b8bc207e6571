import RecordSql.Connection.Setting
import RecordSql.Unicode.Blank

namespace RecordSql.Connection

-- Reads a value without quotes, up to a blank. A backslash keeps the character after it.
def readBare : List Char → List Char × List Char
  | [] => ([], [])
  | '\\' :: c :: rest =>
    let (value, after) := readBare rest
    (c :: value, after)
  | ['\\'] => ([], [])
  | c :: rest =>
    if Unicode.isBlank c then ([], c :: rest)
    else
      let (value, after) := readBare rest
      (c :: value, after)

def readQuoted : List Char → Option (List Char × List Char)
  | [] => none
  | '\'' :: rest => some ([], rest)
  | '\\' :: c :: rest => (readQuoted rest).map fun (value, after) => (c :: value, after)
  | ['\\'] => none
  | c :: rest => (readQuoted rest).map fun (value, after) => (c :: value, after)

-- Only a value in quotes may be empty.
def readValue : List Char → Option (List Char × List Char)
  | '\'' :: rest => readQuoted rest
  | text =>
    match readBare text with
    | ([], _) => none
    | (value, after) => some (value, after)

def endsKey (c : Char) : Bool := Unicode.isBlank c || c == '='

-- Reads settings one after the other. Where no key stands, reading is over. Each setting takes
-- at least one character, so that the length of the text is fuel enough.
def readSettings : Nat → List Char → Option (List Setting)
  | 0, _ => some []
  | fuel + 1, text =>
    let text := Unicode.trimStart text
    match text.takeWhile (!endsKey ·) with
    | [] => some []
    | key =>
      match Unicode.trimStart (text.dropWhile (!endsKey ·)) with
      | '=' :: rest =>
        match readValue (Unicode.trimStart rest) with
        | none => none
        | some (value, after) =>
          (readSettings fuel after).map (⟨String.ofList key, String.ofList value⟩ :: ·)
      | _ => none

end RecordSql.Connection
