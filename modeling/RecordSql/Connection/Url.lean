import RecordSql.Connection.Setting
import RecordSql.Text.UrlEncoded

namespace RecordSql.Connection

def percentBytes (text : List Char) : List UInt8 :=
  Text.percentDecode (Wire.utf8 (String.ofList text))

-- A part of the address with its percent signs read. It has to be UTF-8.
def decoded? (text : List Char) : Option String :=
  Wire.ofUtf8? (percentBytes text)

-- A host, or the path of a socket. Only a path may hold bytes that are not UTF-8.
def host? (text : List Char) : Option Setting :=
  let bytes := percentBytes text
  match Wire.ofUtf8? bytes with
  | some host => some ⟨"host", host⟩
  | none =>
    if bytes.head? = some (UInt8.ofNat '/'.toNat) then
      some ⟨"host", String.ofList (Unicode.decodeLossy bytes)⟩
    else none

-- The host and the port of one item of the list of hosts. A host that holds colons stands in
-- brackets.
def hostAndPort? : List Char → Option (List Char × List Char)
  | '[' :: rest =>
    match Text.cut ']' rest with
    | (host, some []) => some (host, "5432".toList)
    | (host, some (':' :: port)) => some (host, port)
    | _ => none
  | item =>
    match Text.cut ':' item with
    | (host, none) => some (host, "5432".toList)
    | (host, some port) => some (host, port)

def hostSettings? (item : List Char) : Option (List Setting) := do
  let (host, port) ← hostAndPort? item
  some [← host? host, ⟨"port", ← decoded? port⟩]

def hosts? (text : List Char) : Option (List Setting) :=
  if text.isEmpty then some []
  else ((Text.splitOn ',' text).mapM hostSettings?).map List.flatten

def credentials? (text : List Char) : Option (List Setting) :=
  match Text.cut ':' text with
  | (user, none) => do some [⟨"user", ← decoded? user⟩]
  | (user, some password) => do
    some [⟨"user", ← decoded? user⟩,
      ⟨"password", String.ofList (Unicode.decodeLossy (percentBytes password))⟩]

def database? (text : List Char) : Option (List Setting) :=
  if text.isEmpty then some [] else do some [⟨"dbname", ← decoded? text⟩]

-- Reads `key=value` pairs between ampersands. Each pair takes at least one character, so that
-- the length of the text is fuel enough.
def query? : Nat → List Char → Option (List Setting)
  | _, [] => some []
  | 0, _ => none
  | fuel + 1, text => do
    match Text.cut '=' text with
    | (_, none) => none
    | (key, some rest) =>
      let key ← decoded? key
      let (value, more) := Text.cut '&' rest
      let setting ← if key == "host" then host? value
        else (decoded? value).map fun value => ⟨key, value⟩
      (query? fuel (more.getD [])).map (setting :: ·)

def readAddress (text : List Char) : Option (List Setting) := do
  let (credentials, text) ← match Text.cut '@' text with
    | (_, none) => some ([], text)
    | (credentials, some rest) => (credentials? credentials).map (·, rest)
  let isEnd := fun c => c == '/' || c == '?'
  let hosts ← hosts? (text.takeWhile (!isEnd ·))
  let (database, text) ← match text.dropWhile (!isEnd ·) with
    | '/' :: rest =>
      (database? (rest.takeWhile (· != '?'))).map (·, rest.dropWhile (· != '?'))
    | rest => some ([], rest)
  let settings ← match text with
    | '?' :: rest => query? rest.length rest
    | _ => some []
  some (credentials ++ hosts ++ database ++ settings)

end RecordSql.Connection
