import RecordSql.Declaration.Token

namespace RecordSql.Declaration

-- What a type is declared as. Only a structure whose fields have names can be a record.
inductive Shape
  | named
  | positional
  | unit
  | alternatives
  | overlay
  deriving DecidableEq

-- One `path = value` in the parentheses of an attribute.
structure Item where
  path : String
  value : ItemValue
  deriving DecidableEq

def Item.tokens (item : Item) : List Token :=
  Declaration.tokens item.path ++ [.equals, .value item.value]

inductive Body
  | bare
  | assigned
  | contents (tokens : List Token)
  deriving DecidableEq

-- Items in parentheses, with a comma between two of them.
def Body.list (items : List Item) : Body :=
  .contents ([Token.comma].intercalate (items.map Item.tokens))

structure Attribute where
  path : String
  body : Body
  deriving DecidableEq

def Attribute.isCalled (name : String) (a : Attribute) : Bool :=
  match tokens a.path with
  | [.word w] => w.text == name
  | _ => false

structure FieldDeclaration where
  ident : String
  attributes : List Attribute
  deriving DecidableEq

-- A type as it is declared. The text after its name holds the generic parameters.
structure TypeDeclaration where
  name : String
  afterName : String
  shape : Shape
  attributes : List Attribute
  fields : List FieldDeclaration
  deriving DecidableEq

inductive Expected
  | name
  | segment
  | equals
  | value
  | comma
  deriving DecidableEq

def Expected.text : Expected → String
  | .name => "identifier"
  | .segment => "path segment after `::`"
  | .equals => "`=`"
  | .value => "an expression"
  | .comma => "`,`"

inductive DeclarationError
  | generic
  | notNamed
  | notStructure
  | noTable
  | emptyTable
  | unknownAttribute
  | noLiteral
  | bareAttribute (path : String)
  | assignedAttribute (path : String)
  | expected (what : Expected)
  | endedBefore (what : Expected)
  | furtherItem
  | keyword (word : String)
  | namespacePath
  | repeatedNamespace (name : String)
  deriving DecidableEq

def DeclarationError.message : DeclarationError → String
  | .generic => "Record cannot be derived for generic structs"
  | .notNamed => "Record can only be derived for structs with named fields"
  | .notStructure => "Record can only be derived for structs"
  | .noTable => "Record requires #[record(table = \"table_name\")] attribute"
  | .emptyTable => "table must not be empty"
  | .unknownAttribute => "unknown record attribute, expected `table`"
  | .noLiteral => "expected a string literal"
  | .bareAttribute path => "expected attribute arguments in parentheses: #[" ++ path ++ "(...)]"
  | .assignedAttribute path => "expected parentheses: #[" ++ path ++ "(...)]"
  | .expected what => "expected " ++ what.text
  | .endedBefore what => "unexpected end of input, expected " ++ what.text
  | .furtherItem => "unexpected token"
  | .keyword word => "expected identifier, found keyword `" ++ word ++ "`"
  | .namespacePath => "tag namespace must be a plain identifier"
  | .repeatedNamespace name => "duplicate tag namespace `" ++ name ++ "`"

end RecordSql.Declaration
