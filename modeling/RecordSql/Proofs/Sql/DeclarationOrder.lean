import RecordSql.Proofs.Record.Extraction
import RecordSql.Sql.Builder

namespace RecordSql.Sql

variable {ρ : Type} {type : RecordType ρ} {fields : List (Descriptor ρ)}

namespace Builder

variable (b : Builder)

-- What each call writes that uses the fields of a record, when these are the columns and no
-- other call has started the statement. The columns, their placeholders and their arguments
-- go in one order.
structure Follows (type : RecordType ρ) (record : ρ) (columns : List String) : Prop where
  select : columns ≠ [] →
    (b.select type record).fragments = b.fragments ++
        ["SELECT " ++ joined (columns.map (qualified (b.aliasOf type.table))) ++ " FROM " ++
          type.table ++ " " ++ b.aliasOf type.table] ∧
      (b.select type record).arguments = b.arguments
  insert :
    (b.insert type record).fragments = b.fragments ++
        ["INSERT INTO " ++ type.table ++ " " ++ inParentheses (columns ++ auditColumns) ++
          " VALUES " ++
          inParentheses (placeholders b.arguments.nextIndex (columns.length + 2))] ∧
      (b.insert type record).arguments =
        b.arguments.append (rowArguments 0 (valuesUnder columns (type.extract b.space record)))
  inserts (more : List ρ) :
    let rows := (record :: more).mapIdx fun reading each =>
      rowArguments reading (valuesUnder columns (type.extract b.space each))
    (b.inserts type (record :: more)).fragments = b.fragments ++
        ["INSERT INTO " ++ type.table ++ " " ++ inParentheses (columns ++ auditColumns) ++
          " VALUES " ++ joined (renderRows b.arguments.nextIndex rows)] ∧
      (b.inserts type (record :: more)).arguments = b.arguments.append rows.flatten
  updates :
    let assignments :=
      List.zipWith assignment columns (placeholders (b.arguments.nextIndex + 1) columns.length) ++
        [assignment writeDate (placeholder b.arguments.nextIndex)]
    (b.updates type record).fragments = b.fragments ++
        ["UPDATE " ++ type.table ++ " SET " ++ joined assignments] ∧
      (b.updates type record).arguments = b.arguments.append
        (@Argument.now 0 :: (valuesUnder columns (type.extract b.space record)).map .value)

-- A value is found again under the name of its field.
theorem valuesUnder_names {e : Extracted} (h : e.names.Nodup) :
    valuesUnder (e.sorted.map (·.name)) e = e.sorted.map (·.value) := by
  rw [valuesUnder, List.map_map]
  refine List.map_congr_left fun f hf => ?_
  have hget : e.get? f.name = some f :=
    (Extracted.get?_eq_some_iff h).mpr ⟨e.sorted_perm.mem_iff.mp hf, rfl⟩
  rw [Function.comp_apply, hget]
  rfl

theorem start_congr {b : Builder} {kind : StatementKind} {go other : Builder → Builder}
    (h : go { b with kind := some kind } = other { b with kind := some kind }) :
    b.start kind go = b.start kind other := by
  unfold start
  split
  · rfl
  · exact h

-- An insert of one record is an insert of a list of one.
theorem insert_eq_inserts (type : RecordType ρ) (record : ρ) :
    b.insert type record = b.inserts type [record] := by
  have hvalues (space : String) := valuesUnder_names (type.nodup_names_extract space record)
  simp only [insert, inserts, List.mapIdx_singleton, hvalues]

theorem rowArguments_length (reading : Nat) (values : List Value) :
    (rowArguments reading values).length = values.length + 2 := by
  simp [rowArguments]

theorem valuesUnder_length (names : List String) (e : Extracted) :
    (valuesUnder names e).length = names.length :=
  List.length_map _

section Free

variable {b} (h : b.kind = none) (type) (record : ρ)
include h

end Free

section Reordered

variable (hperm : type.fields.Perm fields) {space : String} (hnames : (type.tagNames space).Nodup)
include hperm hnames

theorem sorted_extract_reordered (record : ρ) :
    (RecordType.extract { type with fields } space record).sorted =
      (type.extract space record).sorted :=
  (Extracted.sorted_eq_of_perm (type.nodup_names_extract space record)
    (RecordType.extract_perm hnames hperm record)).symm

theorem valuesUnder_reordered (names : List String) (record : ρ) :
    valuesUnder names (RecordType.extract { type with fields } space record) =
      valuesUnder names (type.extract space record) := by
  have hextract : (type.extract space record).fields.Perm
      (RecordType.extract { type with fields } space record).fields :=
    RecordType.extract_perm hnames hperm record
  refine List.map_congr_left fun name _ => ?_
  rw [Extracted.get?_eq_of_perm (type.nodup_names_extract space record) hextract]

end Reordered

section Calls

variable {b} (hperm : type.fields.Perm fields) (hnames : (type.tagNames b.space).Nodup)
include hperm hnames

theorem select_reordered (record : ρ) :
    b.select { type with fields } record = b.select type record := by
  refine start_congr ?_
  rw [sorted_extract_reordered hperm hnames]

theorem inserts_reordered (records : List ρ) :
    b.inserts { type with fields } records = b.inserts type records := by
  cases records with
  | nil => rfl
  | cons first rest =>
    rw [inserts, inserts]
    refine start_congr ?_
    simp only [sorted_extract_reordered hperm hnames, valuesUnder_reordered hperm hnames]

theorem insert_reordered (record : ρ) :
    b.insert { type with fields } record = b.insert type record := by
  rw [insert_eq_inserts, insert_eq_inserts, inserts_reordered hperm hnames]

theorem updates_reordered (record : ρ) :
    b.updates { type with fields } record = b.updates type record := by
  refine start_congr ?_
  simp only [sorted_extract_reordered hperm hnames]

end Calls

-- Four fields of a record of a title and a number. One has no name for statements, and one is
-- never set.
def gameFields : List (Descriptor (String × Int64)) :=
  [⟨"title", [("sql", "title,omitempty")], fun game => .required (.text game.1)⟩,
    ⟨"memo", [("json", "memo")], fun _ => .required (.bool true)⟩,
    ⟨"id", [("json", "id"), ("sql", "game_id")], fun game => .required (.int game.2)⟩,
    ⟨"draft", [("sql", "draft")], fun _ => .required (.bool false)⟩]

end Builder

section Programs

-- Whether a type may declare its fields in another order: no two of them share a name in any
-- namespace.
structure MayReorder (type : RecordType ρ) (fields : List (Descriptor ρ)) : Prop where
  perm : type.fields.Perm fields
  names (space : String) : (type.tagNames space).Nodup

-- The same call on a type whose fields are declared in another order.
inductive Call.Reordered : Call ρ → Call ρ → Prop
  | same (call : Call ρ) : Reordered call call
  | select {type : RecordType ρ} {fields : List (Descriptor ρ)} (h : MayReorder type fields)
      (record : ρ) : Reordered (.select type record) (.select { type with fields } record)
  | insert {type : RecordType ρ} {fields : List (Descriptor ρ)} (h : MayReorder type fields)
      (record : ρ) : Reordered (.insert type record) (.insert { type with fields } record)
  | inserts {type : RecordType ρ} {fields : List (Descriptor ρ)} (h : MayReorder type fields)
      (records : List ρ) : Reordered (.inserts type records) (.inserts { type with fields } records)
  | updates {type : RecordType ρ} {fields : List (Descriptor ρ)} (h : MayReorder type fields)
      (record : ρ) : Reordered (.updates type record) (.updates { type with fields } record)
  | join (type : RecordType ρ) (fields : List (Descriptor ρ)) (left right : String) :
      Reordered (.join type left right) (.join { type with fields } left right)

theorem Call.Reordered.apply {call other : Call ρ} (h : call.Reordered other) (b : Builder) :
    b.apply other = b.apply call := by
  cases h with
  | same => rfl
  | select h record => exact Builder.select_reordered h.perm (h.names b.space) record
  | insert h record => exact Builder.insert_reordered h.perm (h.names b.space) record
  | inserts h records => exact Builder.inserts_reordered h.perm (h.names b.space) records
  | updates h record => exact Builder.updates_reordered h.perm (h.names b.space) record
  | join => rfl

-- A whole program makes one statement, however its types declare their fields.
theorem run_reordered {calls others : List (Call ρ)}
    (h : List.Forall₂ Call.Reordered calls others) (b : Builder) :
    b.run others = b.run calls := by
  induction h generalizing b with
  | nil => rfl
  | cons hcall _ ih =>
    rw [Builder.run, Builder.run, List.foldl_cons, List.foldl_cons, hcall.apply]
    exact ih _

end Programs

end RecordSql.Sql
