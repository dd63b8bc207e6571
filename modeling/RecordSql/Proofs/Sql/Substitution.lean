import RecordSql.Proofs.Sql.BulkInsert
import RecordSql.Proofs.Sql.NormalForm

namespace RecordSql.Sql

variable {ρ : Type}

-- A template with a placeholder for each of its question marks, when some arguments are bound
-- before it. The number is read off the place in the template, so no question mark depends on
-- how another one is written.
def substituted (bound : Nat) (template : List Char) : List Char :=
  (template.mapIdx fun place c =>
    if c = '?' then (placeholder (bound + gaps (template.take place) + 1)).toList
    else [c]).flatten

-- The number of arguments bound before the i-th of several conditions.
def boundBefore (bound : Nat) (clauses : List Condition) (i : Nat) : Nat :=
  bound + gaps ((clauses.take i).flatMap (·.template))

-- Conditions as they stand in a statement behind everything else.
def whereText (bound : Nat) (clauses : List Condition) : String :=
  String.join (clauses.mapIdx fun i clause =>
    " WHERE " ++ String.ofList (substituted (boundBefore bound clauses i) clause.template))

-- A condition that has an argument for each question mark.
def Condition.Filled (condition : Condition) : Prop :=
  gaps condition.template = condition.arguments.length

section Template

theorem gaps_cons (c : Char) (rest : List Char) :
    gaps (c :: rest) = gaps rest + if c = '?' then 1 else 0 := by
  simp [gaps, List.count_cons]

theorem substituted_cons (bound : Nat) (c : Char) (rest : List Char) :
    substituted bound (c :: rest) =
      (if c = '?' then (placeholder (bound + 1)).toList else [c]) ++
        substituted (bound + if c = '?' then 1 else 0) rest := by
  have hplace (place : Nat) : bound + gaps ((c :: rest).take (place + 1)) =
      (bound + if c = '?' then 1 else 0) + gaps (rest.take place) := by
    rw [List.take_succ_cons, gaps_cons]
    omega
  simp only [substituted, List.mapIdx_cons, List.flatten_cons, hplace]
  rfl

-- Counting on from one question mark to the next gives the number of each place.
theorem fillGaps_eq_substituted (bound : Nat) (template : List Char) :
    fillGaps (bound + 1) template = substituted bound template := by
  induction template generalizing bound with
  | nil => rfl
  | cons c rest ih =>
    rw [substituted_cons]
    by_cases hc : c = '?'
    · rw [fillGaps, if_pos hc, ih (bound + 1), if_pos hc, if_pos hc]
    · rw [fillGaps, if_neg hc, ih bound, if_neg hc, if_neg hc]
      rfl

end Template

section Clauses

variable {clauses : List Condition}

theorem boundBefore_cons (bound : Nat) (clause : Condition) (rest : List Condition) (i : Nat) :
    boundBefore bound (clause :: rest) (i + 1) =
      boundBefore (bound + gaps clause.template) rest i := by
  simp only [boundBefore, gaps, List.take_succ_cons, List.flatMap_cons, List.count_append]
  omega

theorem whereText_cons (bound : Nat) (clause : Condition) (rest : List Condition) :
    whereText bound (clause :: rest) =
      " WHERE " ++ String.ofList (substituted bound clause.template) ++
        whereText (bound + gaps clause.template) rest := by
  simp only [whereText, List.mapIdx_cons, String.join_cons, boundBefore_cons]
  rfl

theorem join_renderConditions (bound : Nat) (h : ∀ clause ∈ clauses, clause.Filled) :
    String.join ((renderConditions (bound + 1) clauses).map (" " ++ ·)) =
      whereText bound clauses := by
  induction clauses generalizing bound with
  | nil => rfl
  | cons clause rest ih =>
    obtain ⟨hclause, hrest⟩ := List.forall_mem_cons.mp h
    have hnext : bound + 1 + clause.arguments.length = bound + gaps clause.template + 1 := by
      rw [hclause]
      omega
    have hkeyword (text : String) : " " ++ ("WHERE " ++ text) = " WHERE " ++ text := by
      rw [← String.append_assoc]
      rfl
    rw [renderConditions, render_eq_fillGaps hclause, fillGaps_eq_substituted, hnext,
      List.map_cons, String.join_cons, ih _ hrest, whereText_cons, hkeyword]

-- The arguments of the conditions go one after the other.
theorem arguments_getElem? {i j : Nat} {clause : Condition} (h : ∀ clause ∈ clauses, clause.Filled)
    (hi : clauses[i]? = some clause) (hj : j < clause.arguments.length) (before : List Argument) :
    (before ++ clauses.flatMap (·.arguments))[boundBefore before.length clauses i + j]? =
      clause.arguments[j]? := by
  obtain ⟨hlt, rfl⟩ := List.getElem?_eq_some_iff.mp hi
  have hearlier : ((clauses.take i).flatMap (·.arguments)).length =
      gaps ((clauses.take i).flatMap (·.template)) := by
    rw [gaps, List.count_flatMap, List.length_flatMap]
    refine congrArg _ (List.map_congr_left fun clause hclause => ?_)
    exact (h clause (List.mem_of_mem_take hclause)).symm
  have hsplit : clauses.flatMap (·.arguments) = (clauses.take i).flatMap (·.arguments) ++
      (clauses[i].arguments ++ (clauses.drop (i + 1)).flatMap (·.arguments)) := by
    rw [← List.flatMap_cons, ← List.flatMap_append, ← List.drop_eq_getElem_cons hlt,
      List.take_append_drop]
  rw [hsplit, boundBefore, ← hearlier, Nat.add_assoc,
    List.getElem?_append_right (Nat.le_add_right _ _), Nat.add_sub_cancel_left,
    List.getElem?_append_right (Nat.le_add_right _ _), Nat.add_sub_cancel_left,
    List.getElem?_append_left hj]

end Clauses

section Fragments

theorem intercalate_eq_append_join (separator first : String) (items : List String) :
    separator.intercalate (first :: items) =
      first ++ String.join (items.map (separator ++ ·)) := by
  induction items generalizing first with
  | nil => simp
  | cons next items ih =>
    rw [String.intercalate_cons_cons, ih next, List.map_cons, String.join_cons,
      String.append_assoc, String.append_assoc]

theorem intercalate_append (separator first : String) (items more : List String) :
    separator.intercalate (first :: items ++ more) =
      separator.intercalate (first :: items) ++ String.join (more.map (separator ++ ·)) := by
  rw [List.cons_append, intercalate_eq_append_join, intercalate_eq_append_join, List.map_append,
    String.join_append, String.append_assoc]

end Fragments

namespace Builder

variable {b : Builder}

-- What stands behind the conditions of a statement.
def closing (b : Builder) : String :=
  if b.kind = some .insert then " RETURNING id" else ""

-- A builder that has written something gives it, then its conditions.
theorem statement?_of_filled {kind : StatementKind} (herror : b.error = none)
    (hkind : b.kind = some kind) (hfragments : b.fragments ≠ [])
    (hfilled : ∀ clause ∈ b.conditions, clause.Filled) :
    b.statement? =
      .ok ⟨" ".intercalate b.fragments ++ whereText b.arguments.size b.conditions ++ b.closing,
        b.arguments.append (b.conditions.flatMap (·.arguments))⟩ := by
  obtain ⟨first, items, hitems⟩ := List.exists_cons_of_ne_nil hfragments
  have hclosing : String.join ((if kind = .insert then [returningId] else []).map (" " ++ ·)) =
      b.closing := by
    cases kind <;> simp [closing, hkind, returningId]
  rw [statement?, herror, hkind]
  dsimp only
  rw [Arguments.nextIndex, hitems, List.append_assoc, intercalate_append, List.map_append,
    String.join_append, join_renderConditions _ hfilled, hclosing, String.append_assoc]

-- A statement comes of a builder that has written something.
theorem Holds.written {calls : List (Call ρ)} {statement : Statement} (h : b.Holds calls)
    (hs : b.statement? = .ok statement) : ∃ kind, b.kind = some kind ∧ b.fragments ≠ [] := by
  obtain ⟨head, hmade⟩ := h.made
  cases head with
  | none =>
    have hkind : b.kind = none := hmade.2.2.1
    unfold Builder.statement? at hs
    split at hs <;> simp_all
  | some head =>
    obtain ⟨-, hkind, hfragments, -⟩ := hmade
    exact ⟨head.kind, hkind, by simp [hfragments]⟩

-- A builder takes up a condition only when it is filled.
theorem filled_of_run (calls : List (Call ρ)) (h : (b.run calls).error = none) :
    ∀ clause ∈ Sql.conditions calls, clause.Filled := by
  induction calls generalizing b with
  | nil => simp [Sql.conditions]
  | cons call rest ih =>
    have hrest : ∀ clause ∈ Sql.conditions rest, clause.Filled := ih h
    have hcall : (b.apply call).error = none := error_of_run rest h
    cases call with
    | whereClause template arguments =>
      have hfilled : gaps template.toList = arguments.length := by
        by_contra hgaps
        simp [Builder.apply, whereClause, hgaps] at hcall
      exact List.forall_mem_cons.mpr ⟨hfilled, hrest⟩
    | _ => exact hrest

end Builder

-- Conditions are filled in at once and in order, whatever else a program calls. The j-th
-- question mark of a condition is written with the number of the j-th argument that was given
-- with it, counted on from the arguments bound before, and nothing else in it is changed.
theorem toSql_substituted (calls : List (Call ρ)) (statement : Statement)
    (h : (({} : Builder).run calls).toSql = .ok statement) :
    let built := ({} : Builder).run calls
    let bound := built.arguments.size
    let clauses := conditions calls
    statement.sql =
        " ".intercalate built.fragments ++ whereText bound clauses ++ built.closing ∧
      ∀ i clause, clauses[i]? = some clause →
        gaps clause.template = clause.arguments.length ∧
        ∀ j < clause.arguments.length,
          statement.arguments.at? (boundBefore bound clauses i + (j + 1)) =
            clause.arguments[j]? := by
  intro built bound clauses
  have hs : built.statement? = .ok statement := toSql_eq_ok h
  have herror : built.error = none := Builder.error_of_statement? hs
  have holds : built.Holds calls := Builder.holds_empty.run calls herror
  have hclauses : built.conditions = clauses := holds.conditions
  have hfilled : ∀ clause ∈ clauses, clause.Filled := Builder.filled_of_run calls herror
  obtain ⟨kind, hkind, hfragments⟩ := holds.written hs
  rw [Builder.statement?_of_filled herror hkind hfragments (hclauses ▸ hfilled),
    Except.ok.injEq, hclauses] at hs
  subst hs
  refine ⟨rfl, fun i clause hi => ⟨hfilled clause (List.mem_of_getElem? hi), fun j hj => ?_⟩⟩
  exact arguments_getElem? hfilled hi hj built.arguments.toList

def titledGame : RecordType String :=
  ⟨"ref_game", [⟨"title", [("sql", "game_title")], fun title => .required (.text title)⟩]⟩

-- An update between its two conditions. The text of the second one looks like a placeholder.
def conditionedUpdate : List (Call String) :=
  [.whereClause "? <> game_title" [.value (.text "Chess")], .updates titledGame "Go",
    .whereClause "game_id IN (?, ?) AND note = '$1'" [.value (.int 7), .value (.int 9)]]

theorem toSql_substituted_conditionedUpdate :
    ∃ statement, (({} : Builder).run conditionedUpdate).toSql = .ok statement ∧
      statement.sql = "UPDATE ref_game SET game_title = $2, write_date = $1 " ++
        "WHERE $3 <> game_title WHERE game_id IN ($4, $5) AND note = '$1'" ∧
      statement.arguments.at? 5 = some (.value (.int 9)) := by
  refine ⟨⟨_, _⟩, rfl, ?_⟩
  obtain ⟨hsql, hclauses⟩ := toSql_substituted conditionedUpdate _ rfl
  refine ⟨hsql.trans (by decide +kernel), ?_⟩
  obtain ⟨-, harguments⟩ := hclauses 1 _ rfl
  have hbefore : boundBefore (({} : Builder).run conditionedUpdate).arguments.size
      (conditions conditionedUpdate) 1 = 3 := by decide +kernel
  have hsecond := harguments 1 (by decide)
  rw [hbefore] at hsecond
  exact hsecond

end RecordSql.Sql
