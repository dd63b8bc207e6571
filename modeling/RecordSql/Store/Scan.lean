import RecordSql.Error
import RecordSql.Row

namespace RecordSql.Store

-- A way to take rows in one after the other. It keeps a state and may refuse a row.
abbrev Scan (σ : Type) := σ → Row → σ × Option Error

def Scan.all {σ : Type} (scan : Scan σ) (state : σ) : List Row → σ × Option Error
  | [] => (state, none)
  | row :: rest =>
    match scan state row with
    | (state, some e) => (state, some e)
    | (state, none) => scan.all state rest

end RecordSql.Store
