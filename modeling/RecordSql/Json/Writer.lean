import RecordSql.Binary.Text
import RecordSql.Integer
import RecordSql.Json.Text
import RecordSql.Json.Number

namespace RecordSql.Json

-- A double with at least one digit after the point. What is no number is written as null.
def writeReal (x : Binary.Double) : List Char :=
  match x.toDatum with
  | .finite .. => (x.render Binary.Layout.json).toList
  | _ => "null".toList

def writeNumber : NumberValue → List Char
  | .integer n => decimal n
  | .real x => writeReal x

-- Puts a member among members in rising order of their keys. A later member replaces an
-- earlier one of the same key.
def insertMember (key : String) (value : List Char) :
    List (String × List Char) → List (String × List Char)
  | [] => [(key, value)]
  | (k, v) :: rest =>
    if key < k then (key, value) :: (k, v) :: rest
    else if key = k then (key, value) :: rest
    else (k, v) :: insertMember key value rest

def joinComma (items : List (List Char)) : List Char :=
  [','].intercalate items

def writeMembers (members : List (String × List Char)) : List Char :=
  let sorted := members.foldl (fun done (key, value) => insertMember key value done) []
  ['\x7b'] ++ joinComma (sorted.map fun (key, value) => writeText key.toList ++ [':'] ++ value) ++
    ['\x7d']

mutual

-- The text without blanks, with members in rising order of their keys. A number that is out
-- of range has no text, nor has what is broken.
def write? : Json → Option (List Char)
  | .null => some "null".toList
  | .bool value => some (if value then "true".toList else "false".toList)
  | .number n => n.value?.map writeNumber
  | .text value => some (writeText value.toList)
  | .broken => none
  | .array items => (writeItems? items).map fun texts => ['['] ++ joinComma texts ++ [']']
  | .object members => (writeValues? members).map writeMembers

def writeItems? : List Json → Option (List (List Char))
  | [] => some []
  | item :: items => do
    let text ← write? item
    (writeItems? items).map (text :: ·)

def writeValues? : List (String × Json) → Option (List (String × List Char))
  | [] => some []
  | (key, value) :: members => do
    let text ← write? value
    (writeValues? members).map ((key, text) :: ·)

end

end RecordSql.Json
