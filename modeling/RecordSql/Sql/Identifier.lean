namespace RecordSql.Sql

-- A column of a table that goes by an alias. Without an alias the column stands alone.
def qualified (short column : String) : String :=
  if short == "" then column else short ++ "." ++ column

def startsIdentifier (c : Char) : Bool :=
  c == '_' || c.isAlpha

def continuesIdentifier (c : Char) : Bool :=
  c == '_' || c.isAlphanum

-- A name of ASCII letters, digits and underscores that does not start with a digit. Such a
-- name cannot end the place in a statement where it is written.
def isIdentifier (name : String) : Bool :=
  match name.toList with
  | [] => false
  | first :: rest => startsIdentifier first && rest.all continuesIdentifier

end RecordSql.Sql
