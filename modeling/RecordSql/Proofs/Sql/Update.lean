import RecordSql.Proofs.Sql.Substitution

namespace RecordSql.Sql

variable {ρ : Type}

-- The call that gives a condition to a builder.
def Condition.call (condition : Condition) : Call ρ :=
  .whereClause (String.ofList condition.template) condition.arguments

namespace Builder

section Conditions

variable {b : Builder}

theorem apply_call {clause : Condition} (h : clause.Filled) :
    b.apply (clause.call : Call ρ) = b.withCondition clause := by
  have hgaps : gaps (String.ofList clause.template).toList = clause.arguments.length := by
    rw [String.toList_ofList]
    exact h
  rw [Condition.call, Builder.apply, whereClause, if_pos hgaps, String.toList_ofList]
  rfl

theorem run_calls {clauses : List Condition} (h : ∀ clause ∈ clauses, clause.Filled) :
    b.run (clauses.map Condition.call : List (Call ρ)) =
      { b with conditions := b.conditions ++ clauses } := by
  induction clauses generalizing b with
  | nil =>
    rw [List.append_nil]
    rfl
  | cons clause rest ih =>
    obtain ⟨hclause, hrest⟩ := List.forall_mem_cons.mp h
    rw [List.map_cons, run, List.foldl_cons, apply_call hclause, ← run, ih hrest, withCondition,
      List.append_assoc]
    rfl

theorem toSql_of_statement? {statement : Statement} (h : b.statement? = .ok statement) :
    b.toSql = .ok statement := by
  rw [toSql, h]
  rfl

end Conditions

-- Assignments are numbered on from the first of them.
theorem assignments_eq_mapIdx (fields : List ExtractedField) (next : Nat) :
    List.zipWith (fun f place => assignment f.name place) fields
        (placeholders next fields.length) =
      fields.mapIdx fun j f => f.name ++ " = $" ++ decimalNat (next + j) := by
  induction fields generalizing next with
  | nil => rfl
  | cons f rest ih =>
    have hrest := ih (next + 1)
    have hmark : " = $" = " = " ++ "$" := by decide
    have hfirst : assignment f.name (placeholder next) = f.name ++ " = $" ++ decimalNat next := by
      simp only [assignment, placeholder, hmark, String.append_assoc]
    have hnumber (j : Nat) : next + 1 + j = next + (j + 1) := by omega
    simp only [hnumber] at hrest
    rw [List.length_cons, placeholders, List.range'_succ, List.map_cons, List.zipWith_cons_cons,
      hfirst, List.mapIdx_cons, ← placeholders, hrest]
    rfl

variable (type : RecordType ρ) (space : String) (aliasOf : String → String) (record : ρ)

-- What an update leaves that is called first: the moment of writing is its first argument and
-- its last assignment.
theorem updates_fresh {fields : List ExtractedField}
    (hfields : (type.extract space record).sorted = fields) :
    ({ space, aliasOf } : Builder).updates type record =
      { space, aliasOf, kind := some .update
        fragments := ["UPDATE " ++ type.table ++ " SET " ++
          joined (fields.mapIdx (fun j f => f.name ++ " = $" ++ decimalNat (2 + j)) ++
            ["write_date = $1"])]
        arguments := ⟨@Argument.now 0 :: fields.map (.value ·.value)⟩ } := by
  have hwritten : assignment writeDate (placeholder 1) = "write_date = $1" := by decide +kernel
  rw [updates, start_of_free _ rfl]
  dsimp only
  rw [hfields, ← assignments_eq_mapIdx, ← hwritten]
  rfl

-- An update of a fresh builder binds the moment of writing as its first argument and assigns it
-- last. Each column in between, in the order of their bytes, is assigned the value that the
-- record has under its name, and the arguments of the conditions are counted on from there.
theorem updates_assigned (clauses : List Condition)
    (hclauses : ∀ clause ∈ clauses, gaps clause.template = clause.arguments.length) :
    ∃ fields : List ExtractedField, fields.Perm (type.extract space record).fields ∧
      (fields.map (·.name)).Pairwise (fun left right => Wire.utf8 left < Wire.utf8 right) ∧
      ∃ statement, (({ space, aliasOf } : Builder).run
          (.updates type record :: clauses.map Condition.call)).toSql = .ok statement ∧
        statement.sql = "UPDATE " ++ type.table ++ " SET " ++
          joined (fields.mapIdx (fun j f => f.name ++ " = $" ++ decimalNat (2 + j)) ++
            ["write_date = $1"]) ++ whereText (fields.length + 1) clauses ∧
        statement.arguments.toList =
          @Argument.now 0 :: (fields.map (.value ·.value) ++ clauses.flatMap (·.arguments)) := by
  have hascending := Extracted.ascending_sorted (type.nodup_names_extract space record)
  refine ⟨_, Extracted.sorted_perm _, hascending, ?_⟩
  generalize hfields : (type.extract space record).sorted = fields
  have hrun : ({ space, aliasOf } : Builder).run
      (.updates type record :: clauses.map Condition.call) =
        { ({ space, aliasOf } : Builder).updates type record with conditions := clauses } := by
    rw [run, List.foldl_cons, ← run, run_calls hclauses, Builder.apply,
      updates_fresh type space aliasOf record hfields]
    rfl
  have hbound :
      Arguments.size ⟨@Argument.now 0 :: fields.map (.value ·.value)⟩ = fields.length + 1 := by
    rw [Arguments.size, List.length_cons, List.length_map]
  rw [hrun, updates_fresh type space aliasOf record hfields]
  refine ⟨_, toSql_of_statement? (statement?_of_filled rfl rfl (List.cons_ne_nil _ _) hclauses),
    ?_, rfl⟩
  dsimp only
  rw [hbound, String.intercalate_singleton]
  exact String.append_empty

-- A record of two fields, with two conditions behind its update.
theorem updates_assigned_game :
    let type : RecordType (String × Int64) := ⟨"ref_game", gameFields⟩
    let clauses : List Condition :=
      [⟨"game_id = ? OR title = ?".toList, [.value (.int 8), .value (.text "Chess")]⟩,
        ⟨"enabled = ?".toList, [.value (.bool true)]⟩]
    (∀ clause ∈ clauses, gaps clause.template = clause.arguments.length) ∧
      ∃ statement, (({} : Builder).run
          (.updates type ("Go", 7) :: clauses.map Condition.call)).toSql = .ok statement ∧
        statement.sql = "UPDATE ref_game SET game_id = $2, title = $3, write_date = $1 " ++
          "WHERE game_id = $4 OR title = $5 WHERE enabled = $6" ∧
        statement.arguments.toList = [@Argument.now 0, .value (.int 7), .value (.text "Go"),
          .value (.int 8), .value (.text "Chess"), .value (.bool true)] := by
  intro type clauses
  have hclauses : ∀ clause ∈ clauses, gaps clause.template = clause.arguments.length := by
    decide +kernel
  obtain ⟨fields, hperm, hascending, statement, hstatement, hsql, harguments⟩ :=
    updates_assigned type "sql" Naming.camelCase ("Go", 7) clauses hclauses
  have hextract : (type.extract "sql" ("Go", 7)).fields =
      [⟨⟨"title", "omitempty"⟩, .text "Go"⟩, ⟨⟨"game_id", ""⟩, .int 7⟩] := by
    decide +kernel
  have hfields : fields = [⟨⟨"game_id", ""⟩, .int 7⟩, ⟨⟨"title", "omitempty"⟩, .text "Go"⟩] := by
    rw [hextract] at hperm
    refine (hperm.trans (.swap _ _ [])).eq_of_pairwise ?_ (List.pairwise_map.mp hascending) ?_
    · exact fun _ _ _ _ hab hba => absurd hba (List.lt_asymm hab)
    · decide +kernel
  subst hfields
  exact ⟨hclauses, statement, hstatement, hsql.trans (by decide +kernel), harguments⟩

end Builder

end RecordSql.Sql
