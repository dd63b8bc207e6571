namespace RecordSql

inductive ParsedType
  | bool
  | int2
  | int4
  | int8
  | float4
  | float8
  | numeric
  | uuid
  | json
  | jsonb
  | timestamptz
  | timestamp
  | date
  deriving DecidableEq

-- A type by its name, with the schema that is shown in front of it, if one is.
structure TypeName where
  name : String
  schema : Option String
  deriving DecidableEq

-- The column types that take any text. Some of them put a version byte in front of it.
structure CharacterType where
  name : String
  versioned : Bool
  deriving DecidableEq

-- What an array holds: the name and the number of the type of its items.
structure ElementType where
  name : String
  oid : Nat
  deriving DecidableEq

inductive ColumnType
  | parsed (type : ParsedType)
  | character (type : CharacterType)
  | array (name : TypeName) (element : ElementType) (lowerBound : Nat)
  | other (name : TypeName)
  deriving DecidableEq

namespace ParsedType

def all : List ParsedType :=
  [.bool, .int2, .int4, .int8, .float4, .float8, .numeric, .uuid, .json, .jsonb, .timestamptz,
    .timestamp, .date]

def name : ParsedType → String
  | .bool => "bool"
  | .int2 => "int2"
  | .int4 => "int4"
  | .int8 => "int8"
  | .float4 => "float4"
  | .float8 => "float8"
  | .numeric => "numeric"
  | .uuid => "uuid"
  | .json => "json"
  | .jsonb => "jsonb"
  | .timestamptz => "timestamptz"
  | .timestamp => "timestamp"
  | .date => "date"

end ParsedType

namespace CharacterType

def all : List CharacterType :=
  [⟨"text", false⟩, ⟨"varchar", false⟩, ⟨"bpchar", false⟩, ⟨"name", false⟩, ⟨"unknown", false⟩,
    ⟨"citext", false⟩, ⟨"ltree", true⟩, ⟨"lquery", true⟩, ⟨"ltxtquery", true⟩]

end CharacterType

-- The scalar types that arrays are made of, by their catalogue numbers. The array type has
-- the name of its element after an underscore.
def elementTypes : List ElementType := [
  ⟨"bool", 16⟩, ⟨"bytea", 17⟩, ⟨"char", 18⟩, ⟨"name", 19⟩, ⟨"int8", 20⟩, ⟨"int2", 21⟩,
  ⟨"int2vector", 22⟩, ⟨"int4", 23⟩, ⟨"regproc", 24⟩, ⟨"text", 25⟩, ⟨"oid", 26⟩, ⟨"tid", 27⟩,
  ⟨"xid", 28⟩, ⟨"cid", 29⟩, ⟨"oidvector", 30⟩, ⟨"json", 114⟩, ⟨"xml", 142⟩, ⟨"point", 600⟩,
  ⟨"lseg", 601⟩, ⟨"path", 602⟩, ⟨"box", 603⟩, ⟨"polygon", 604⟩, ⟨"line", 628⟩, ⟨"cidr", 650⟩,
  ⟨"float4", 700⟩, ⟨"float8", 701⟩, ⟨"circle", 718⟩, ⟨"macaddr8", 774⟩, ⟨"money", 790⟩,
  ⟨"macaddr", 829⟩, ⟨"inet", 869⟩, ⟨"aclitem", 1033⟩, ⟨"bpchar", 1042⟩, ⟨"varchar", 1043⟩,
  ⟨"date", 1082⟩, ⟨"time", 1083⟩, ⟨"timestamp", 1114⟩, ⟨"timestamptz", 1184⟩,
  ⟨"interval", 1186⟩, ⟨"timetz", 1266⟩, ⟨"bit", 1560⟩, ⟨"varbit", 1562⟩, ⟨"numeric", 1700⟩,
  ⟨"refcursor", 1790⟩, ⟨"regprocedure", 2202⟩, ⟨"regoper", 2203⟩, ⟨"regoperator", 2204⟩,
  ⟨"regclass", 2205⟩, ⟨"regtype", 2206⟩, ⟨"record", 2249⟩, ⟨"cstring", 2275⟩, ⟨"uuid", 2950⟩,
  ⟨"txid_snapshot", 2970⟩, ⟨"pg_lsn", 3220⟩, ⟨"tsvector", 3614⟩, ⟨"tsquery", 3615⟩,
  ⟨"gtsvector", 3642⟩, ⟨"regconfig", 3734⟩, ⟨"regdictionary", 3769⟩, ⟨"jsonb", 3802⟩,
  ⟨"int4range", 3904⟩, ⟨"numrange", 3906⟩, ⟨"tsrange", 3908⟩, ⟨"tstzrange", 3910⟩,
  ⟨"daterange", 3912⟩, ⟨"int8range", 3926⟩, ⟨"jsonpath", 4072⟩, ⟨"regnamespace", 4089⟩,
  ⟨"regrole", 4096⟩, ⟨"regcollation", 4191⟩, ⟨"int4multirange", 4451⟩,
  ⟨"nummultirange", 4532⟩, ⟨"tsmultirange", 4533⟩, ⟨"tstzmultirange", 4534⟩,
  ⟨"datemultirange", 4535⟩, ⟨"int8multirange", 4536⟩, ⟨"pg_snapshot", 5038⟩, ⟨"xid8", 5069⟩]

namespace ColumnType

def display : ColumnType → String
  | .parsed type => type.name
  | .character type => type.name
  | .array name _ _ => name.schema.elim name.name (· ++ "." ++ name.name)
  | .other name => name.schema.elim name.name (· ++ "." ++ name.name)

def arrayOf? (name : String) : Option ColumnType :=
  (elementTypes.find? fun element => "_" ++ element.name == name).map fun element =>
    .array ⟨name, none⟩ element 1

-- The two vector types are arrays that count from zero.
def vector? (name : String) : Option ColumnType :=
  match name with
  | "oidvector" => some (.array ⟨name, none⟩ ⟨"oid", 26⟩ 0)
  | "int2vector" => some (.array ⟨name, none⟩ ⟨"int2", 21⟩ 0)
  | _ => none

-- A type of the catalogue by its name. A name that stands for none of the others is a type
-- that neither parses a text nor takes it.
def ofName (name : String) : ColumnType :=
  let parsed := (ParsedType.all.find? fun type => type.name == name).map parsed
  let character := (CharacterType.all.find? fun type => type.name == name).map character
  (parsed <|> character <|> vector? name <|> arrayOf? name).getD (.other ⟨name, none⟩)

def text : ColumnType := .character ⟨"text", false⟩

end ColumnType

end RecordSql
