import RecordSql.Declaration.Literal
import RecordSql.Declaration.Path

namespace RecordSql.Declaration

-- A field that takes part in statements: its name, the place among all fields of the type from
-- which it is read, and its tags by namespace.
structure TaggedField where
  name : String
  ident : String
  place : Nat
  tags : List (String × String)
  deriving DecidableEq

structure FieldTable where
  typeName : String
  table : String
  fields : List TaggedField
  deriving DecidableEq

def ItemValue.text? : ItemValue → Option String
  | .literal content => some content
  | .expression source => textLiteral? source

def literalOf (value : ItemValue) : Except DeclarationError String :=
  match value.text? with
  | some content => .ok content
  | none => .error .noLiteral

namespace Attribute

def contents (name : String) (a : Attribute) : Except DeclarationError (List Token) :=
  match a.body with
  | .bare => .error (.bareAttribute name)
  | .assigned => .error (.assignedAttribute name)
  | .contents tokens => .ok tokens

end Attribute

def readItem (tokens : List Token) :
    Except DeclarationError ((Path × ItemValue) × List Token) := do
  let (path, rest) ← readPath tokens
  match rest with
  | .equals :: .value v :: rest => return ((path, v), rest)
  | .equals :: rest => throw (Expected.value.missed rest)
  | _ => throw (.expected .equals)

-- Reads an item behind which nothing may stand.
def readSingle (tokens : List Token) : Except DeclarationError (Path × ItemValue) := do
  let (item, rest) ← readItem tokens
  if rest.isEmpty then return item else throw .furtherItem

-- Reads items with commas between them, and perhaps one behind the last. The number of the
-- tokens is fuel enough.
def readItems : Nat → List Token → Except DeclarationError (List (Path × ItemValue))
  | 0, _ => .ok []
  | _, [] => .ok []
  | fuel + 1, tokens => do
    let (item, rest) ← readItem tokens
    match rest with
    | [] => return [item]
    | .comma :: rest => return item :: (← readItems fuel rest)
    | _ => throw (.expected .comma)

def tableOf (a : Attribute) : Except DeclarationError String := do
  let (path, value) ← readSingle (← a.contents "record")
  if path.word?.map (·.text) != some "table" then throw .unknownAttribute
  let table ← literalOf value
  if (Unicode.trim table.toList).isEmpty then throw .emptyTable
  return table

-- The table that the first `record` attribute names.
def tableName (attributes : List Attribute) : Except DeclarationError String :=
  match attributes.find? (·.isCalled "record") with
  | none => .error .noTable
  | some a => tableOf a

-- The mark of a namespace does not count.
def addTag (tags : List (String × String)) (item : Path × ItemValue) :
    Except DeclarationError (List (String × String)) :=
  match item.1.word? with
  | some w => do
    if tags.any (·.1 == w.name) then throw (.repeatedNamespace w.name)
    return tags ++ [(w.name, ← literalOf item.2)]
  | none => .error .namespacePath

-- All items are read before the first of them is looked at.
def addTags (tags : List (String × String)) (a : Attribute) :
    Except DeclarationError (List (String × String)) := do
  let tokens ← a.contents "tag"
  (← readItems tokens.length tokens).foldlM addTag tags

-- The tags in all `tag` attributes of a field. A namespace may have only one.
def tagsOf (field : FieldDeclaration) : Except DeclarationError (List (String × String)) :=
  (field.attributes.filter (·.isCalled "tag")).foldlM addTags []

def taggedFields (place : Nat) :
    List FieldDeclaration → Except DeclarationError (List TaggedField)
  | [] => .ok []
  | field :: rest => do
    let tags ← tagsOf field
    let others ← taggedFields (place + 1) rest
    if tags.isEmpty then return others
    else return ⟨unmarked field.ident, field.ident, place, tags⟩ :: others

-- Whether the text after the name of a type opens a list of parameters that is not empty.
def isGeneric (afterName : String) : Bool :=
  match tokens afterName with
  | .opens :: rest => rest.head? != some .closes
  | _ => false

def checkShape : Shape → Except DeclarationError Unit
  | .named => .ok ()
  | .positional => .error .notNamed
  | .unit => .error .notNamed
  | .alternatives => .error .notStructure
  | .overlay => .error .notStructure

def fieldTable (d : TypeDeclaration) : Except DeclarationError FieldTable := do
  if isGeneric d.afterName then throw .generic
  checkShape d.shape
  let table ← tableName d.attributes
  let fields ← taggedFields 0 d.fields
  return ⟨d.name, table, fields⟩

end RecordSql.Declaration
