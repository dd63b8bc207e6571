import RecordSql.Proofs.Sql.DeclarationOrder

namespace RecordSql.Sql

variable {ρ : Type}

-- The argument that `$n` stands for.
def Arguments.at? (a : Arguments) : Nat → Option Argument
  | 0 => none
  | n + 1 => a.toList[n]?

section Rows

variable {rows : List (List Argument)} {width : Nat} (h : ∀ row ∈ rows, row.length = width)
include h

theorem flatten_length : rows.flatten.length = rows.length * width := by
  rw [List.length_flatten, List.map_eq_replicate_iff.mpr h, List.sum_replicate_nat]

-- Rows of one width are laid out one after the other.
theorem flatten_getElem? {r j : Nat} {row : List Argument} (hr : rows[r]? = some row)
    (hj : j < width) : rows.flatten[r * width + j]? = row[j]? := by
  induction rows generalizing r with
  | nil => simp at hr
  | cons first rest ih =>
    obtain ⟨hfirst, hrest⟩ := List.forall_mem_cons.mp h
    rw [List.flatten_cons]
    cases r with
    | zero =>
      obtain rfl : first = row := by simpa using hr
      rw [Nat.zero_mul, Nat.zero_add, List.getElem?_append_left (hfirst.symm ▸ hj)]
    | succ r =>
      have hindex : (r + 1) * width + j = first.length + (r * width + j) := by
        rw [hfirst, Nat.succ_mul]
        omega
      rw [hindex, List.getElem?_append_right (Nat.le_add_right _ _), Nat.add_sub_cancel_left]
      exact ih hrest (by simpa using hr)

-- The numbers of a row go on where those of the row before it stop.
theorem renderRows_eq_map (next : Nat) :
    renderRows next rows = (List.range rows.length).map fun r =>
      inParentheses (placeholders (next + r * width) width) := by
  induction rows generalizing next with
  | nil => rfl
  | cons first rest ih =>
    obtain ⟨hfirst, hrest⟩ := List.forall_mem_cons.mp h
    rw [renderRows, hfirst, ih hrest, List.length_cons, List.range_succ_eq_map, List.map_cons,
      List.map_map, Nat.zero_mul, Nat.add_zero]
    refine congrArg _ (List.map_congr_left fun r _ => ?_)
    rw [Function.comp_apply, Nat.succ_mul, Nat.add_assoc, Nat.add_comm width]

end Rows

theorem placeholders_eq_map (first count : Nat) :
    placeholders (1 + first) count =
      (List.range' 1 count).map fun j => placeholder (first + j) := by
  rw [placeholders, Nat.add_comm 1, ← List.map_add_range', List.map_map]
  rfl

-- What a record gives under a name: the value that it extracts there, and null when it extracts
-- none.
inductive Gives (e : Extracted) (name : String) : Value → Prop
  | value (f : ExtractedField) (hf : f ∈ e.fields) (hname : f.name = name) : Gives e name f.value
  | null (hnone : name ∉ e.names) : Gives e name .null

namespace Builder

section Columns

variable {e : Extracted} {names : List String} {name : String} {j : Nat}

theorem gives_get? (e : Extracted) (name : String) :
    Gives e name (((e.get? name).map (·.value)).getD .null) := by
  cases hget : e.get? name with
  | none =>
    refine .null fun hmem => ?_
    obtain ⟨f, hf, hname⟩ := List.mem_map.mp hmem
    have hne := List.find?_eq_none.mp hget f hf
    exact hne (beq_iff_eq.mpr hname)
  | some f =>
    have hname : f.name = name := by simpa using List.find?_some hget
    exact .value f (List.mem_of_find?_eq_some hget) hname

theorem rowArguments_column (reading : Nat) (hj : names[j]? = some name) :
    ∃ value, (rowArguments reading (valuesUnder names e))[j]? = some (.value value) ∧
      Gives e name value := by
  refine ⟨_, ?_, gives_get? e name⟩
  have hlt : j < ((valuesUnder names e).map Argument.value).length := by
    rw [List.length_map, valuesUnder_length]
    exact (List.getElem?_eq_some_iff.mp hj).1
  rw [rowArguments, List.getElem?_append_left hlt, List.getElem?_map, valuesUnder,
    List.getElem?_map, hj]
  rfl

-- Behind the values of a row stands its reading of the clock, twice.
theorem rowArguments_audit (reading : Nat) (names : List String) (e : Extracted) :
    (rowArguments reading (valuesUnder names e))[names.length]? = some (@Argument.now reading) ∧
      (rowArguments reading (valuesUnder names e))[names.length + 1]? =
        some (@Argument.now reading) := by
  have hlength : ((valuesUnder names e).map Argument.value).length = names.length := by
    rw [List.length_map, valuesUnder_length]
  have hle : ((valuesUnder names e).map Argument.value).length ≤ names.length :=
    Nat.le_of_eq hlength
  rw [rowArguments, List.getElem?_append_right hle,
    List.getElem?_append_right (Nat.le_succ_of_le hle), hlength, Nat.sub_self,
    Nat.succ_sub (Nat.le_refl _), Nat.sub_self]
  exact ⟨rfl, rfl⟩

end Columns

-- The text of an insert, with its brackets and commas written out.
theorem insertText_spelled (table : String) (columns rows : List String) :
    "INSERT INTO " ++ table ++ " " ++ inParentheses (columns ++ auditColumns) ++ " VALUES " ++
        joined rows ++ " RETURNING id" =
      "INSERT INTO " ++ table ++ " (" ++
        ", ".intercalate (columns ++ ["create_date", "write_date"]) ++ ") VALUES " ++
        ", ".intercalate rows ++ " RETURNING id" := by
  have hopen : " (" = " " ++ "(" := by decide
  have hclose : ") VALUES " = ")" ++ " VALUES " := by decide
  rw [hopen, hclose, inParentheses]
  simp only [← String.append_assoc]
  rfl

-- The rows of records under given columns.
def rowsUnder (type : RecordType ρ) (space : String) (columns : List String)
    (records : List ρ) : List (List Argument) :=
  records.mapIdx fun reading record =>
    rowArguments reading (valuesUnder columns (type.extract space record))

-- A statement that inserts records row by row. Every row has a place for each column and two
-- for the audit moments, which are one reading of the clock. Rows, columns and readings are
-- counted from nought, arguments from one.
structure RowMajor (type : RecordType ρ) (space : String) (columns : List String)
    (records : List ρ) (statement : Statement) : Prop where
  sql : statement.sql = "INSERT INTO " ++ type.table ++ " (" ++
    ", ".intercalate (columns ++ ["create_date", "write_date"]) ++ ") VALUES " ++
    ", ".intercalate ((List.range records.length).map fun r =>
      "(" ++ ", ".intercalate ((List.range' 1 (columns.length + 2)).map fun j =>
        "$" ++ Nat.repr (r * (columns.length + 2) + j)) ++ ")") ++ " RETURNING id"
  size : statement.arguments.size = records.length * (columns.length + 2)
  value {r j : Nat} {record : ρ} {name : String} (hr : records[r]? = some record)
    (hj : columns[j]? = some name) :
    ∃ value, statement.arguments.at? (r * (columns.length + 2) + (j + 1)) =
        some (.value value) ∧
      Gives (type.extract space record) name value
  audit {r : Nat} (hr : r < records.length) :
    statement.arguments.at? (r * (columns.length + 2) + (columns.length + 1)) =
        some (@Argument.now r) ∧
      statement.arguments.at? (r * (columns.length + 2) + (columns.length + 2)) =
        some (@Argument.now r)

section RowMajor

variable (type : RecordType ρ) (space : String)

section Rows

variable (columns : List String) (records : List ρ)

theorem rowsUnder_length : (rowsUnder type space columns records).length = records.length :=
  List.length_mapIdx

theorem rowsUnder_width :
    ∀ row ∈ rowsUnder type space columns records, row.length = columns.length + 2 := by
  intro row hrow
  obtain ⟨reading, -, rfl⟩ := List.mem_mapIdx.mp hrow
  rw [rowArguments_length, valuesUnder_length]

theorem rowsUnder_getElem? {records : List ρ} {r : Nat} {record : ρ}
    (hr : records[r]? = some record) :
    (rowsUnder type space columns records)[r]? =
      some (rowArguments r (valuesUnder columns (type.extract space record))) := by
  rw [rowsUnder, List.getElem?_mapIdx, hr]
  rfl

theorem rowMajor_rowsUnder :
    RowMajor type space columns records
      ⟨"INSERT INTO " ++ type.table ++ " " ++ inParentheses (columns ++ auditColumns) ++
          " VALUES " ++ joined (renderRows 1 (rowsUnder type space columns records)) ++
          " RETURNING id",
        ⟨(rowsUnder type space columns records).flatten⟩⟩ := by
  have hwidth := rowsUnder_width type space columns records
  have hlength := rowsUnder_length type space columns records
  refine ⟨?_, ?_, ?_, ?_⟩
  · rw [renderRows_eq_map hwidth, hlength]
    simp only [placeholders_eq_map]
    exact insertText_spelled type.table _ _
  · exact (flatten_length hwidth).trans (by rw [hlength])
  · intro r j record name hr hj
    have hlt : j < columns.length := (List.getElem?_eq_some_iff.mp hj).1
    obtain ⟨value, hvalue, hgives⟩ := rowArguments_column (e := type.extract space record) r hj
    refine ⟨value, ?_, hgives⟩
    rw [← hvalue]
    exact flatten_getElem? hwidth (rowsUnder_getElem? type space columns hr) (by omega)
  · intro r hr
    have hrow := rowsUnder_getElem? type space columns (List.getElem?_eq_getElem hr)
    obtain ⟨hfirst, hsecond⟩ := rowArguments_audit r columns (type.extract space records[r])
    constructor
    · rw [← hfirst]
      exact flatten_getElem? hwidth hrow (by omega)
    · rw [← hsecond]
      exact flatten_getElem? hwidth hrow (by omega)

end Rows

variable (aliasOf : String → String) (first : ρ) (more : List ρ)

theorem toSql_inserts_fresh {columns : List String}
    (hcolumns : (type.extract space first).sorted.map (·.name) = columns) :
    (({ space, aliasOf } : Builder).inserts type (first :: more)).toSql =
      .ok ⟨"INSERT INTO " ++ type.table ++ " " ++ inParentheses (columns ++ auditColumns) ++
          " VALUES " ++ joined (renderRows 1 (rowsUnder type space columns (first :: more))) ++
          " RETURNING id",
        ⟨(rowsUnder type space columns (first :: more)).flatten⟩⟩ := by
  have hsql (fragment : String) :
      " ".intercalate [fragment, returningId] = fragment ++ " RETURNING id" := by
    rw [String.intercalate_cons_cons, String.intercalate_singleton, String.append_assoc]
    rfl
  rw [inserts, start_of_free _ rfl, ← hsql,
    ← List.append_nil (rowsUnder type space columns (first :: more)).flatten, ← hcolumns]
  rfl

-- A bulk insert on a fresh builder gives a table of arguments: a row for each record, and in each
-- row its own values in the order of the columns. The columns are the names that the first
-- record extracts, in the order of their bytes.
theorem inserts_rowMajor :
    ∃ columns : List String, columns.Perm (type.extract space first).names ∧
      columns.Pairwise (fun left right => Wire.utf8 left < Wire.utf8 right) ∧
      ∃ statement, (({ space, aliasOf } : Builder).inserts type (first :: more)).toSql =
          .ok statement ∧
        RowMajor type space columns (first :: more) statement := by
  refine ⟨_, Extracted.names_sorted_perm _,
    Extracted.ascending_sorted (type.nodup_names_extract space first), _,
    toSql_inserts_fresh type space aliasOf first more rfl, ?_⟩
  exact rowMajor_rowsUnder type space _ (first :: more)

end RowMajor

-- The first game has no number, so the number of the second one is not inserted. The second one
-- has no title.
theorem inserts_rowMajor_games :
    let type : RecordType (String × Int64) := ⟨"ref_game", gameFields⟩
    let games := [("Go", 0), ("", 8)]
    let statement : Statement :=
      ⟨"INSERT INTO ref_game (title, create_date, write_date) VALUES " ++
          "($1, $2, $3), ($4, $5, $6) RETURNING id",
        ⟨[.value (.text "Go"), @Argument.now 0, @Argument.now 0,
          .value .null, @Argument.now 1, @Argument.now 1]⟩⟩
    (({} : Builder).inserts type games).toSql = .ok statement ∧
      RowMajor type "sql" ["title"] games statement := by
  intro type games statement
  have hsql : (({} : Builder).inserts type games).toSql.toOption = some statement := by
    decide +kernel
  obtain ⟨columns, hperm, -, inserted, hinserted, hrows⟩ :=
    inserts_rowMajor type "sql" Naming.camelCase ("Go", 0) [("", 8)]
  have hcolumns : (type.extract "sql" ("Go", 0)).names = ["title"] := by decide +kernel
  rw [hcolumns, List.perm_singleton] at hperm
  obtain rfl : inserted = statement := by
    rw [hinserted] at hsql
    exact Option.some.inj hsql
  exact ⟨hinserted, hperm ▸ hrows⟩

-- One record may be inserted as such or as a list of one, in any state of a builder. Whatever
-- calls follow, the statement is the same, or the error.
theorem toSql_insert_listed (b : Builder) (type : RecordType ρ) (record : ρ)
    (rest : List (Call ρ)) :
    (b.run (.insert type record :: rest)).toSql =
      (b.run (.inserts type [record] :: rest)).toSql := by
  have happly : b.apply (.insert type record) = b.apply (.inserts type [record]) :=
    insert_eq_inserts b type record
  rw [run, run, List.foldl_cons, List.foldl_cons, happly]

end Builder

end RecordSql.Sql
