import RecordSql.Error
import RecordSql.Paging.Request
import RecordSql.Sql.Identifier
import RecordSql.Sql.Statement

namespace RecordSql.Paging

inductive NameUse
  | tableAlias
  | defaultField
  | allowedField
  deriving DecidableEq

def NameUse.text : NameUse → String
  | .tableAlias => "alias"
  | .defaultField => "default field"
  | .allowedField => "allowed field"

-- A request that cannot be compiled. None of the causes is in the hands of the client.
inductive PagingError
  | emptyQuery
  | emptyName (use : NameUse)
  | invalidName (use : NameUse) (name : String)
  deriving DecidableEq

def PagingError.message : PagingError → String
  | .emptyQuery => "pagination: base query is empty"
  | .emptyName use => "pagination: " ++ use.text ++ " is empty"
  | .invalidName use name => "pagination: invalid " ++ use.text ++ " '" ++ name ++ "'"

def checkName (use : NameUse) (name : String) : Except PagingError Unit :=
  if name == "" then .error (.emptyName use)
  else if Sql.isIdentifier name then .ok ()
  else .error (.invalidName use name)

def checkNames (use : NameUse) : List String → Except PagingError Unit
  | [] => .ok ()
  | name :: rest => do
    checkName use name
    checkNames use rest

namespace Request

def check (r : Request) : Except PagingError Unit := do
  if (Unicode.trim r.query.toList).isEmpty then throw .emptyQuery
  checkName .tableAlias r.tableAlias
  if r.defaultField != "" then checkName .defaultField r.defaultField
  checkNames .allowedField r.allowed

def column (r : Request) (field : String) : String :=
  Sql.qualified r.tableAlias field

def searchText (r : Request) (place : String) : String :=
  "( " ++ r.column r.defaultField ++ " ILIKE '%' || " ++ place ++ " || '%' )"

def filterText (r : Request) (filter : Filter) (place : String) : String :=
  r.column filter.field ++ " " ++ filter.operator.sql ++ " " ++ place

def sortText (r : Request) (key : SortKey) : String :=
  r.column key.field ++ (if key.descending then " DESC" else " ASC")

structure Predicate where
  text : String → String
  operand : String

-- The search first, and then the filters.
def predicates (r : Request) : List Predicate :=
  let search := match r.search? with
    | none => []
    | some text => [⟨r.searchText, text⟩]
  search ++ r.filters.map fun filter => ⟨r.filterText filter, filter.operand⟩

def clause (keyword separator : String) : List String → String
  | [] => ""
  | items => keyword ++ separator.intercalate items

def sql (r : Request) : String :=
  let predicates := r.predicates
  let conditions := List.zipWith (fun p place => p.text place) predicates
    (Sql.placeholders 1 predicates.length)
  "SELECT * FROM (" ++ r.query ++ ") AS " ++ r.tableAlias ++
    clause " WHERE " " AND " conditions ++
    clause " ORDER BY " ", " (r.sortKeys.map r.sortText) ++
    " LIMIT " ++ decimalNat r.size ++ " OFFSET " ++ decimalNat r.offset

-- The statement that selects the page. Every text of the client is an argument of it.
def statement? (r : Request) : Except PagingError Sql.Statement :=
  r.check.map fun _ => ⟨r.sql, ⟨r.predicates.map fun p => .value (.text p.operand)⟩⟩

def compile (r : Request) : Except Error Sql.Statement :=
  r.statement?.mapError (.validation ·.message)

end Request

end RecordSql.Paging
