import RecordSql.Error
import RecordSql.Naming
import RecordSql.Record
import RecordSql.Sql.Identifier
import RecordSql.Sql.Statement
import RecordSql.Sql.Template

namespace RecordSql.Sql

inductive StatementKind
  | select
  | insert
  | update
  deriving DecidableEq

def StatementKind.name : StatementKind → String
  | .select => "Select"
  | .insert => "Insert"
  | .update => "Update"

inductive BuildError
  | alreadyHolds (issued existing : StatementKind)
  | nothingToSelect (table : String)
  | noRecords (table : String)
  | joinBeforeSelect (table : String)
  | argumentMismatch (template : String) (places given : Nat)
  | nothingIssued
  deriving DecidableEq

def BuildError.message : BuildError → String
  | .alreadyHolds issued existing =>
    issued.name ++ " issued on a builder that already holds a " ++ existing.name ++ " statement"
  | .nothingToSelect table => "select on " ++ table ++ " has no non-zero tagged fields"
  | .noRecords table => "inserts into " ++ table ++ " requires at least one record"
  | .joinBeforeSelect table => "join on " ++ table ++ " requires a preceding select"
  | .argumentMismatch template places given =>
    "where template '" ++ template ++ "' has " ++ decimalNat places ++ " '?', but " ++
      decimalNat given ++ " values provided"
  | .nothingIssued => "no select, insert or update was issued before to_sql"

-- A statement that is being put together from records. A call that does not fit adds nothing
-- to the statement, and the first error stays until the statement is asked for.
structure Builder where
  -- The tag namespace that names the fields.
  space : String := "sql"
  -- The alias of a table.
  aliasOf : String → String := Naming.camelCase
  kind : Option StatementKind := none
  fragments : List String := []
  arguments : Arguments := {}
  -- The alias of the selected table.
  selected : Option String := none
  conditions : List Condition := []
  error : Option BuildError := none

-- When a row was made and when it was last written.
def createDate : String := "create_date"

def writeDate : String := "write_date"

def auditColumns : List String := [createDate, writeDate]

def joined (items : List String) : String := ", ".intercalate items

def inParentheses (items : List String) : String := "(" ++ joined items ++ ")"

def renderRows (next : Nat) : List (List Argument) → List String
  | [] => []
  | row :: rest =>
    inParentheses (placeholders next row.length) :: renderRows (next + row.length) rest

namespace Builder

variable {ρ : Type}

def tagNamespace (b : Builder) (space : String) : Builder := { b with space }

def naming (b : Builder) (aliasOf : String → String) : Builder := { b with aliasOf }

def reject (b : Builder) (error : BuildError) : Builder :=
  { b with error := some (b.error.getD error) }

-- Goes on with a statement of a kind, unless the builder holds one already.
def start (b : Builder) (kind : StatementKind) (go : Builder → Builder) : Builder :=
  match b.kind with
  | some existing => b.reject (.alreadyHolds kind existing)
  | none => go { b with kind := some kind }

def addFragment (b : Builder) (fragment : String) (more : List Argument) : Builder :=
  { b with fragments := b.fragments ++ [fragment], arguments := b.arguments.append more }

-- Selects the fields of a record that are set. A selection of no field is an error, and the
-- builder is taken by it all the same.
def select (b : Builder) (type : RecordType ρ) (record : ρ) : Builder :=
  b.start .select fun b =>
    let short := b.aliasOf type.table
    match (type.extract b.space record).sorted with
    | [] => b.reject (.nothingToSelect type.table)
    | fields =>
      let columns := fields.map fun f => qualified short f.name
      { b.addFragment ("SELECT " ++ joined columns ++ " FROM " ++ type.table ++ " " ++ short) []
        with selected := some short }

def insertRows (b : Builder) (table : String) (columns : List String)
    (rows : List (List Argument)) : Builder :=
  b.addFragment
    ("INSERT INTO " ++ table ++ " " ++ inParentheses (columns ++ auditColumns) ++ " VALUES " ++
      joined (renderRows b.arguments.nextIndex rows))
    rows.flatten

-- The arguments of a new row: its values, and one reading of the clock for both audit columns.
def rowArguments (reading : Nat) (values : List Value) : List Argument :=
  let now := @Argument.now reading
  values.map .value ++ [now, now]

def insert (b : Builder) (type : RecordType ρ) (record : ρ) : Builder :=
  b.start .insert fun b =>
    let fields := (type.extract b.space record).sorted
    b.insertRows type.table (fields.map (·.name)) [rowArguments 0 (fields.map (·.value))]

-- The values of a record under given names. A name that is not set gives null.
def valuesUnder (names : List String) (extracted : Extracted) : List Value :=
  names.map fun name => ((extracted.get? name).map (·.value)).getD .null

-- Inserts several records at once. The first of them fixes the columns, and the clock is read
-- anew for each of them.
def inserts (b : Builder) (type : RecordType ρ) (records : List ρ) : Builder :=
  match records with
  | [] => b.reject (.noRecords type.table)
  | first :: _ =>
    b.start .insert fun b =>
      let names := (type.extract b.space first).sorted.map (·.name)
      b.insertRows type.table names
        (records.mapIdx fun reading record =>
          rowArguments reading (valuesUnder names (type.extract b.space record)))

def assignment (column : String) (place : String) : String :=
  column ++ " = " ++ place

-- Updates the fields of a record that are set. The moment of writing is bound before them,
-- and its assignment is written after them.
def updates (b : Builder) (type : RecordType ρ) (record : ρ) : Builder :=
  b.start .update fun b =>
    let fields := (type.extract b.space record).sorted
    let first := b.arguments.nextIndex
    let places := placeholders (first + 1) fields.length
    let assignments :=
      List.zipWith (fun f place => assignment f.name place) fields places ++
        [assignment writeDate (placeholder first)]
    b.addFragment ("UPDATE " ++ type.table ++ " SET " ++ joined assignments)
      (@Argument.now 0 :: fields.map (.value ·.value))

def join (b : Builder) (type : RecordType ρ) (left right : String) : Builder :=
  match b.selected with
  | none => b.reject (.joinBeforeSelect type.table)
  | some selected =>
    let short := b.aliasOf type.table
    b.addFragment
      ("INNER JOIN " ++ type.table ++ " " ++ short ++ " ON " ++ qualified short left ++ " = " ++
        qualified selected right)
      []

-- Adds a condition. It is written when the statement is finished, so that its arguments come
-- after those of the statement itself.
def whereClause (b : Builder) (template : String) (arguments : List Argument) : Builder :=
  let places := gaps template.toList
  if places = arguments.length then
    { b with conditions := b.conditions ++ [⟨template.toList, arguments⟩] }
  else b.reject (.argumentMismatch template places arguments.length)

def statement? (b : Builder) : Except BuildError Statement :=
  match b.error, b.kind with
  | some error, _ => .error error
  | none, none => .error .nothingIssued
  | none, some kind =>
    let conditions := renderConditions b.arguments.nextIndex b.conditions
    let tail := if kind = .insert then [returningId] else []
    .ok ⟨" ".intercalate (b.fragments ++ conditions ++ tail),
      b.arguments.append (b.conditions.flatMap (·.arguments))⟩

def toSql (b : Builder) : Except Error Statement :=
  b.statement?.mapError (.misuse ·.message)

def optional : Option String → String
  | none => "None"
  | some content => "Some(" ++ content ++ ")"

def inspect (b : Builder) : String :=
  "Query \x7b namespace: " ++ Text.quoted b.space ++
    ", kind: " ++ optional (b.kind.map (·.name)) ++
    ", fragments: " ++ Text.listed (b.fragments.map Text.quoted) ++
    ", params: " ++ decimalNat b.arguments.size ++
    ", wheres: " ++ decimalNat b.conditions.length ++
    ", build_error: " ++ optional (b.error.map fun e => Text.quoted e.message) ++ " \x7d"

-- The first error of a builder is never replaced.
theorem reject_error (b : Builder) (error : BuildError) :
    (b.reject error).error = b.error.or (some error) := by
  cases h : b.error <;> simp [reject, h]

@[simp] theorem reject_arguments (b : Builder) (error : BuildError) :
    (b.reject error).arguments = b.arguments := rfl

theorem start_of_held {b : Builder} {kind existing : StatementKind} (go : Builder → Builder)
    (h : b.kind = some existing) : b.start kind go = b.reject (.alreadyHolds kind existing) := by
  simp [start, h]

theorem start_of_free {b : Builder} {kind : StatementKind} (go : Builder → Builder)
    (h : b.kind = none) : b.start kind go = go { b with kind := some kind } := by
  simp [start, h]

end Builder

inductive Call (ρ : Type)
  | tagNamespace (space : String)
  | naming (aliasOf : String → String)
  | select (type : RecordType ρ) (record : ρ)
  | insert (type : RecordType ρ) (record : ρ)
  | inserts (type : RecordType ρ) (records : List ρ)
  | updates (type : RecordType ρ) (record : ρ)
  | join (type : RecordType ρ) (left right : String)
  | whereClause (template : String) (arguments : List Argument)

def Builder.apply {ρ : Type} (b : Builder) : Call ρ → Builder
  | .tagNamespace space => b.tagNamespace space
  | .naming aliasOf => b.naming aliasOf
  | .select type record => b.select type record
  | .insert type record => b.insert type record
  | .inserts type records => b.inserts type records
  | .updates type record => b.updates type record
  | .join type left right => b.join type left right
  | .whereClause template arguments => b.whereClause template arguments

def Builder.run {ρ : Type} (b : Builder) (calls : List (Call ρ)) : Builder :=
  calls.foldl Builder.apply b

end RecordSql.Sql
