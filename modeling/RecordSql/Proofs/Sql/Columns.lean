import RecordSql.Proofs.Record.Extraction
import RecordSql.Proofs.Sql.Substitution

namespace RecordSql.Sql

variable {ρ : Type}

-- A call that writes the fields of a record to a table, and audit columns behind them. The
-- first of several records gives the columns.
inductive Call.Writes (space : String) : Call ρ → Extracted → List String → Prop
  | insert (type : RecordType ρ) (record : ρ) :
      Writes space (.insert type record) (type.extract space record) ["create_date", "write_date"]
  | inserts (type : RecordType ρ) (first : ρ) (more : List ρ) :
      Writes space (.inserts type (first :: more)) (type.extract space first)
        ["create_date", "write_date"]
  | updates (type : RecordType ρ) (record : ρ) :
      Writes space (.updates type record) (type.extract space record) ["write_date"]

-- A text that lists columns of a table, for rows of an insert or for assignments.
inductive ListsColumns (columns : List String) : String → Prop
  | insert (table : String) (rows : List String) :
      ListsColumns columns
        ("INSERT INTO " ++ table ++ " " ++ inParentheses columns ++ " VALUES " ++ joined rows)
  | update (table : String) (places : List String) (h : places.length = columns.length) :
      ListsColumns columns
        ("UPDATE " ++ table ++ " SET " ++
          joined (List.zipWith Builder.assignment columns places))

section Writes

variable {d : Dialect} {call : Call ρ} {e : Extracted} {audit : List String}

theorem listsColumns_update (table : String) (fields : List ExtractedField) :
    ListsColumns (fields.map (·.name) ++ [writeDate])
      ("UPDATE " ++ table ++ " SET " ++ joined
        (List.zipWith (fun f place => Builder.assignment f.name place) fields
          (placeholders 2 fields.length) ++ [Builder.assignment writeDate (placeholder 1)])) := by
  have hlength : (fields.map (·.name)).length = (placeholders 2 fields.length).length := by
    rw [List.length_map, placeholders_length]
  have hplaces : (placeholders 2 fields.length ++ [placeholder 1]).length =
      (fields.map (·.name) ++ [writeDate]).length := by
    rw [List.length_append, List.length_append, hlength]
    rfl
  have hassignments : List.zipWith Builder.assignment (fields.map (·.name) ++ [writeDate])
      (placeholders 2 fields.length ++ [placeholder 1]) =
        List.zipWith (fun f place => Builder.assignment f.name place) fields
          (placeholders 2 fields.length) ++ [Builder.assignment writeDate (placeholder 1)] := by
    rw [List.zipWith_append hlength, List.zipWith_map_left]
    rfl
  rw [← hassignments]
  exact .update table _ hplaces

theorem Call.Writes.listsColumns (h : call.Writes d.space e audit) :
    ∃ head, call.head? d = some head ∧
      ListsColumns (e.sorted.map (·.name) ++ audit) head.text := by
  cases h with
  | insert type record => exact ⟨_, rfl, .insert type.table _⟩
  | inserts type first more => exact ⟨_, rfl, .insert type.table _⟩
  | updates type record => exact ⟨_, rfl, listsColumns_update type.table _⟩

-- Neither the names of a record nor the audit columns repeat among themselves.
theorem Call.Writes.nodup {space : String} (h : call.Writes space e audit) :
    e.names.Nodup ∧ audit.Nodup := by
  cases h with
  | insert type record => exact ⟨type.nodup_names_extract space record, by decide⟩
  | inserts type first more => exact ⟨type.nodup_names_extract space first, by decide⟩
  | updates type record => exact ⟨type.nodup_names_extract space record, by decide⟩

theorem Call.Writes.columns_nodup_iff {space : String} (h : call.Writes space e audit) :
    (e.sorted.map (·.name) ++ audit).Nodup ↔ ∀ name ∈ audit, name ∉ e.names := by
  obtain ⟨hnames, haudit⟩ := h.nodup
  have hsorted : (e.sorted.map (·.name)).Nodup := e.names_sorted_perm.nodup_iff.mpr hnames
  rw [List.nodup_append']
  constructor
  · rintro ⟨-, -, hdisjoint⟩ name hname hown
    exact hdisjoint (e.names_sorted_perm.mem_iff.mpr hown) hname
  · intro hclash
    refine ⟨hsorted, haudit, fun name hown hname => ?_⟩
    exact hclash name hname (e.names_sorted_perm.mem_iff.mp hown)

theorem mem_heads {before after : List (Call ρ)} {head : Head}
    (h : call.head? (dialectAfter before) = some head) :
    head ∈ heads (before ++ call :: after) := by
  rw [heads, inDialect_append, List.mem_filterMap]
  exact ⟨(dialectAfter before, call), by simp [inDialect, dialectAfter], h⟩

end Writes

-- The columns that a statement lists are the names of the record, in the order of their bytes,
-- and the audit columns behind them. A column is listed twice in just one case: the record has
-- a field under the name of an audit column.
theorem listed_columns_nodup_iff (calls : List (Call ρ)) (statement : Statement)
    (h : (({} : Builder).run calls).toSql = .ok statement) (before : List (Call ρ))
    (call : Call ρ) (after : List (Call ρ)) (hsplit : calls = before ++ call :: after)
    (e : Extracted) (audit : List String)
    (hwrites : call.Writes (dialectAfter before).space e audit) :
    let columns := e.sorted.map (·.name) ++ audit
    (∃ text rest, statement.sql = text ++ rest ∧ ListsColumns columns text) ∧
      (columns.Nodup ↔ ∀ name ∈ audit, name ∉ e.names) := by
  intro columns
  refine ⟨?_, hwrites.columns_nodup_iff⟩
  have hs := toSql_eq_ok h
  have holds : (({} : Builder).run calls).Holds calls :=
    Builder.holds_empty.run calls (Builder.error_of_statement? hs)
  obtain ⟨head, hheads, rfl⟩ := holds.statement? hs
  obtain ⟨written, hwritten, hlists⟩ := hwrites.listsColumns
  have hmem : written ∈ [head] := by
    rw [← hheads, hsplit]
    exact mem_heads hwritten
  obtain rfl := List.mem_singleton.mp hmem
  exact ⟨written.text, _, intercalate_eq_append_join _ _ _, hlists⟩

theorem listed_columns_conditionedUpdate :
    let columns := ["game_title", "write_date"]
    ∃ statement, (({} : Builder).run conditionedUpdate).toSql = .ok statement ∧
      (∃ text rest, statement.sql = text ++ rest ∧ ListsColumns columns text) ∧
      columns.Nodup := by
  intro columns
  have hcolumns : (titledGame.extract "sql" "Go").sorted.map (·.name) ++ ["write_date"] =
      columns := by
    decide +kernel
  obtain ⟨hlists, hnodup⟩ :=
    listed_columns_nodup_iff conditionedUpdate _ rfl [_] _ _ rfl _ _ (.updates titledGame "Go")
  have hdistinct := hnodup.mpr (by decide +kernel)
  rw [← hcolumns]
  exact ⟨_, rfl, hlists, hdistinct⟩

-- A record with a field under the name of an audit column.
def datedGame : List (Call String) :=
  [.insert ⟨"ref_game", [⟨"made", [("sql", "create_date")],
    fun made => .required (.text made)⟩]⟩ "mine"]

-- The audit columns are put behind the names of the record without a look at these.
theorem repeated_createDate :
    let columns := ["create_date", "create_date", "write_date"]
    let text := "INSERT INTO ref_game (create_date, create_date, write_date) VALUES ($1, $2, $3)"
    (({} : Builder).run datedGame).toSql.toOption =
        some ⟨text ++ " RETURNING id", ⟨[.value (.text "mine"), @Argument.now 0, @Argument.now 0]⟩⟩ ∧
      ListsColumns columns text ∧ ¬columns.Nodup := by
  intro columns text
  refine ⟨by decide +kernel, ?_, by decide⟩
  have htext : text = "INSERT INTO " ++ "ref_game" ++ " " ++ inParentheses columns ++
      " VALUES " ++ joined ["($1, $2, $3)"] := by
    decide +kernel
  rw [htext]
  exact .insert "ref_game" _

end RecordSql.Sql
