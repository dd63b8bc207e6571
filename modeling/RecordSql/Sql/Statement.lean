import RecordSql.Sql.Argument

namespace RecordSql.Sql

structure Statement where
  sql : String
  arguments : Arguments
  deriving DecidableEq

def returningId : String := "RETURNING id"

end RecordSql.Sql
