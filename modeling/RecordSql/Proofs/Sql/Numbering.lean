import RecordSql.Proofs.Sql.PlaceholderScan
import RecordSql.Sql.Builder

namespace RecordSql.Sql

-- No question mark of a template stands right before a digit.
def GapsDetached (template : List Char) : Prop :=
  template.IsChain fun a b => a = '?' → b.isDigit = false

instance (template : List Char) : Decidable (GapsDetached template) :=
  inferInstanceAs (Decidable (template.IsChain _))

section Template

theorem detached_fillGaps (next : Nat) (c : Char) (rest : List Char) (hc : c.isDigit = false) :
    Detached (fillGaps next (c :: rest)) := by
  unfold fillGaps
  split
  · intro d hd
    obtain rfl : '$' = d := by simpa [placeholder] using hd
    rfl
  · intro d hd
    obtain rfl : c = d := by simpa using hd
    exact hc

-- A template takes up as many numbers in a row as it has places.
theorem readPlaceholders_fillGaps (next : Nat) (template : List Char) (hf : '$' ∉ template)
    (hd : GapsDetached template) :
    readPlaceholders (fillGaps next template) = numerals next (gaps template) := by
  induction template generalizing next with
  | nil => rfl
  | cons c rest ih =>
    obtain ⟨hc, hr⟩ := List.ne_and_not_mem_of_not_mem_cons hf
    have hrest := fun next => ih next hr hd.of_cons
    by_cases hq : c = '?'
    · have hdetached : Detached (fillGaps (next + 1) rest) := by
        cases rest with
        | nil => simp [fillGaps, Detached]
        | cons d rest => exact detached_fillGaps _ _ _ ((List.isChain_cons_cons.mp hd).1 hq)
      have hg : gaps (c :: rest) = 1 + gaps rest := by
        simp [gaps, hq, Nat.add_comm]
      have hp : readPlaceholders (placeholder next).toList = numerals next 1 :=
        placeholdersOf_placeholder next
      rw [fillGaps, if_pos hq, readPlaceholders_append _ _ hdetached, hrest, hp, hg,
        numerals_append]
    · have hg : gaps (c :: rest) = gaps rest := by simp [gaps, hq]
      simp [fillGaps, hq, readPlaceholders, Ne.symm hc, hrest, hg]

-- A condition that a builder may hold.
structure Condition.Plain (condition : Condition) : Prop where
  free : '$' ∉ condition.template
  detached : GapsDetached condition.template
  filled : gaps condition.template = condition.arguments.length

theorem placeholdersOf_render (condition : Condition) (next : Nat) (h : condition.Plain) :
    placeholdersOf (condition.render next) = numerals next condition.arguments.length := by
  have hw : Free "WHERE " := by decide
  rw [render_eq_fillGaps h.filled, placeholdersOf_free_append _ _ hw, ← h.filled]
  simpa [placeholdersOf] using readPlaceholders_fillGaps next _ h.free h.detached

theorem placeholdersOf_renderConditions (conditions : List Condition) (next : Nat)
    (h : ∀ condition ∈ conditions, condition.Plain) :
    (renderConditions next conditions).flatMap placeholdersOf =
      numerals next (conditions.flatMap (·.arguments)).length := by
  induction conditions generalizing next with
  | nil => rfl
  | cons condition rest ih =>
    obtain ⟨hc, hr⟩ := List.forall_mem_cons.mp h
    rw [renderConditions, List.flatMap_cons, placeholdersOf_render _ _ hc, ih _ hr,
      numerals_append, List.flatMap_cons, List.length_append]

end Template

section Rows

theorem placeholdersOf_joined (items : List String) :
    placeholdersOf (joined items) = items.flatMap placeholdersOf :=
  placeholdersOf_intercalate _ items (by decide) (by decide) (by decide)

theorem placeholdersOf_inParentheses (items : List String) :
    placeholdersOf (inParentheses items) = items.flatMap placeholdersOf := by
  have ho : Free "(" := by decide
  have hc : Detached ")".toList := by decide
  have he : placeholdersOf ")" = [] := by decide
  rw [inParentheses, placeholdersOf_append _ _ hc, placeholdersOf_free_append _ _ ho, he,
    List.append_nil, placeholdersOf_joined]

theorem placeholdersOf_renderRows (next : Nat) (rows : List (List Argument)) :
    (renderRows next rows).flatMap placeholdersOf = numerals next rows.flatten.length := by
  induction rows generalizing next with
  | nil => rfl
  | cons row rest ih =>
    rw [renderRows, List.flatMap_cons, placeholdersOf_inParentheses, flatMap_placeholders, ih,
      numerals_append, List.flatten_cons, List.length_append]

end Rows

section Fields

variable {ρ : Type}

theorem names_sorted (extracted : Extracted) (f : ExtractedField) (h : f ∈ extracted.sorted) :
    f.name ∈ extracted.names :=
  List.mem_map_of_mem (List.mem_mergeSort.mp h)

theorem free_qualified (short column : String) (hs : Free short) (hc : Free column) :
    Free (qualified short column) := by
  unfold qualified
  split
  · exact hc
  · simp [hs, hc, show Free "." by decide]

theorem free_joined (items : List String) (h : ∀ text ∈ items, Free text) : Free (joined items) :=
  free_intercalate _ items (by decide) h

theorem free_columns (columns : List String) (h : ∀ text ∈ columns, Free text) :
    Free (inParentheses (columns ++ auditColumns)) := by
  have ha : ∀ text ∈ auditColumns, Free text := by decide
  have hj := free_joined (columns ++ auditColumns) fun text ht =>
    (List.mem_append.mp ht).elim (h text) (ha text)
  simp [inParentheses, hj, show Free "(" by decide, show Free ")" by decide]

theorem placeholdersOf_assignment (column : String) (n : Nat) (h : Free column) :
    placeholdersOf (Builder.assignment column (placeholder n)) = [Nat.toDigits 10 n] := by
  have he : Free " = " := by decide
  rw [Builder.assignment, placeholdersOf_free_append _ _ (by simp [h, he]),
    placeholdersOf_placeholder]

theorem placeholdersOf_assignments (fields : List ExtractedField) (next : Nat)
    (h : ∀ f ∈ fields, Free f.name) :
    (List.zipWith (fun f place => Builder.assignment f.name place) fields
      (placeholders next fields.length)).flatMap placeholdersOf = numerals next fields.length :=
  placeholdersOf_zipWith _ fields next fun f hf n => placeholdersOf_assignment f.name n (h f hf)

end Fields

namespace Builder

variable {ρ : Type} {b : Builder}

-- What every call keeps: the numbers in the text so far are those of the arguments so far, and
-- what is still to be written has its places counted.
structure Numbered (b : Builder) : Prop where
  numbered : (b.fragments.flatMap placeholdersOf).Perm (numerals 1 b.arguments.size)
  conditions : ∀ condition ∈ b.conditions, condition.Plain
  selected : ∀ short ∈ b.selected, Free short

theorem Numbered.addFragment (h : b.Numbered) (fragment : String) (more : List Argument)
    (hf : (placeholdersOf fragment).Perm (numerals b.arguments.nextIndex more.length)) :
    (b.addFragment fragment more).Numbered := by
  refine ⟨?_, h.conditions, h.selected⟩
  have hn := h.numbered.append hf
  rw [Arguments.nextIndex, Nat.add_comm b.arguments.size, numerals_append] at hn
  simpa [Builder.addFragment] using hn

theorem Numbered.reject (h : b.Numbered) (error : BuildError) : (b.reject error).Numbered :=
  ⟨h.numbered, h.conditions, h.selected⟩

theorem Numbered.start (h : b.Numbered) (kind : StatementKind) (go : Builder → Builder)
    (hg : ({ b with kind := some kind } : Builder).Numbered →
      (go { b with kind := some kind }).Numbered) : (b.start kind go).Numbered := by
  unfold Builder.start
  split
  · exact h.reject _
  · exact hg ⟨h.numbered, h.conditions, h.selected⟩

theorem Numbered.insertRows (h : b.Numbered) (table : String) (columns : List String)
    (rows : List (List Argument)) (ht : Free table) (hc : ∀ text ∈ columns, Free text) :
    (b.insertRows table columns rows).Numbered := by
  apply h.addFragment
  have hi : Free "INSERT INTO " := by decide
  have hb : Free " " := by decide
  have hv : Free " VALUES " := by decide
  rw [placeholdersOf_free_append _ _ (by simp [hi, hb, hv, ht, free_columns columns hc]),
    placeholdersOf_joined, placeholdersOf_renderRows]

theorem Numbered.select (h : b.Numbered) (type : RecordType ρ) (record : ρ)
    (ht : Free type.table) (ha : Free (b.aliasOf type.table))
    (hn : ∀ text ∈ (type.extract b.space record).names, Free text) :
    (b.select type record).Numbered := by
  apply h.start
  intro hb
  dsimp only
  split
  · exact hb.reject _
  · rename_i hs
    have hc := free_joined ((type.extract b.space record).sorted.map fun f =>
      qualified (b.aliasOf type.table) f.name) (by
        intro text hm
        obtain ⟨f, hf, rfl⟩ := List.mem_map.mp hm
        exact free_qualified _ _ ha (hn _ (names_sorted _ f hf)))
    have hfragment : Free ("SELECT " ++ joined ((type.extract b.space record).sorted.map fun f =>
        qualified (b.aliasOf type.table) f.name) ++ " FROM " ++ type.table ++ " " ++
        b.aliasOf type.table) := by
      simp [hc, ht, ha, show Free "SELECT " by decide, show Free " FROM " by decide,
        show Free " " by decide]
    have hf := hb.addFragment _ [] (by rw [placeholdersOf_free _ hfragment]; exact .refl _)
    exact ⟨hf.numbered, hf.conditions, by simpa using ha⟩

theorem Numbered.insert (h : b.Numbered) (type : RecordType ρ) (record : ρ)
    (ht : Free type.table) (hn : ∀ text ∈ (type.extract b.space record).names, Free text) :
    (b.insert type record).Numbered := by
  apply h.start
  intro hb
  apply hb.insertRows _ _ _ ht
  intro text hm
  obtain ⟨f, hf, rfl⟩ := List.mem_map.mp hm
  exact hn _ (names_sorted _ f hf)

theorem Numbered.inserts (h : b.Numbered) (type : RecordType ρ) (records : List ρ)
    (ht : Free type.table)
    (hn : ∀ record ∈ records, ∀ text ∈ (type.extract b.space record).names, Free text) :
    (b.inserts type records).Numbered := by
  unfold Builder.inserts
  split
  · exact h.reject _
  · rename_i first rest
    apply h.start
    intro hb
    apply hb.insertRows _ _ _ ht
    intro text hm
    obtain ⟨f, hf, rfl⟩ := List.mem_map.mp hm
    exact hn first (by simp) _ (names_sorted _ f hf)

-- The number of the moment of writing is the first of its run and stands last in the text.
theorem Numbered.updates (h : b.Numbered) (type : RecordType ρ) (record : ρ)
    (ht : Free type.table) (hn : ∀ text ∈ (type.extract b.space record).names, Free text) :
    (b.updates type record).Numbered := by
  apply h.start
  intro hb
  apply hb.addFragment
  have hu : Free "UPDATE " := by decide
  have hs : Free " SET " := by decide
  have hw : Free writeDate := by decide
  rw [placeholdersOf_free_append _ _ (by simp [hu, hs, ht]), placeholdersOf_joined,
    List.flatMap_append, List.flatMap_singleton, placeholdersOf_assignment _ _ hw,
    placeholdersOf_assignments _ _ fun f hf => hn _ (names_sorted _ f hf)]
  refine List.perm_append_comm.trans (.of_eq ?_)
  change numerals _ 1 ++ numerals _ _ = _
  rw [numerals_append, List.length_cons, List.length_map, Nat.add_comm 1]

theorem Numbered.join (h : b.Numbered) (type : RecordType ρ) (left right : String)
    (ht : Free type.table) (ha : Free (b.aliasOf type.table)) (hl : Free left)
    (hr : Free right) : (b.join type left right).Numbered := by
  unfold Builder.join
  split
  · exact h.reject _
  · rename_i selected hs
    have hq := free_qualified _ _ ha hl
    have hp := free_qualified _ _ (h.selected selected hs) hr
    have hfragment : Free ("INNER JOIN " ++ type.table ++ " " ++ b.aliasOf type.table ++ " ON " ++
        qualified (b.aliasOf type.table) left ++ " = " ++ qualified selected right) := by
      simp [ht, ha, hq, hp, show Free "INNER JOIN " by decide, show Free " " by decide,
        show Free " ON " by decide, show Free " = " by decide]
    exact h.addFragment _ [] (by rw [placeholdersOf_free _ hfragment]; exact .refl _)

theorem Numbered.whereClause (h : b.Numbered) (template : String) (arguments : List Argument)
    (hf : Free template) (hd : GapsDetached template.toList) :
    (b.whereClause template arguments).Numbered := by
  unfold Builder.whereClause
  dsimp only
  split
  · rename_i hg
    refine ⟨h.numbered, ?_, h.selected⟩
    intro condition hm
    rcases List.mem_append.mp hm with hm | hm
    · exact h.conditions condition hm
    · obtain rfl := List.mem_singleton.mp hm
      exact ⟨hf, hd, hg⟩
  · exact h.reject _

theorem numbered_empty : ({} : Builder).Numbered :=
  ⟨.refl _, by simp, by simp⟩

-- Numbers that are given out at the end go on where those of the text so far stop.
theorem Numbered.statement (h : b.Numbered) (statement : Statement)
    (hs : b.statement? = .ok statement) :
    (placeholdersOf statement.sql).Perm (numerals 1 statement.arguments.size) := by
  unfold Builder.statement? at hs
  split at hs
  · simp at hs
  · simp at hs
  · obtain rfl := Except.ok.inj hs
    have htail : ∀ kind : StatementKind,
        (if kind = .insert then [returningId] else []).flatMap placeholdersOf = [] := by
      intro kind
      cases kind <;> decide
    rw [placeholdersOf_intercalate _ _ (by decide) (by decide) (by decide), List.flatMap_append,
      List.flatMap_append, htail, List.append_nil, placeholdersOf_renderConditions _ _ h.conditions]
    have hn := h.numbered.append_right (numerals (1 + b.arguments.size)
      (b.conditions.flatMap (·.arguments)).length)
    rw [numerals_append, ← Arguments.size_append] at hn
    rw [Arguments.nextIndex, Nat.add_comm b.arguments.size]
    exact hn

end Builder

section Program

variable {ρ : Type}

-- The names and the template that a call hands to a builder.
def Call.texts (b : Builder) : Call ρ → List String
  | .tagNamespace _ => []
  | .naming _ => []
  | .select type record =>
    type.table :: b.aliasOf type.table :: (type.extract b.space record).names
  | .insert type record => type.table :: (type.extract b.space record).names
  | .inserts type records =>
    type.table :: records.flatMap fun record => (type.extract b.space record).names
  | .updates type record => type.table :: (type.extract b.space record).names
  | .join type left right => [type.table, b.aliasOf type.table, left, right]
  | .whereClause template _ => [template]

def Call.template? : Call ρ → Option String
  | .whereClause template _ => some template
  | _ => none

-- A program whose texts hold no dollar sign, and whose templates have no question mark right
-- before a digit. Names depend on the namespace and on the naming in force.
def Unambiguous : Builder → List (Call ρ) → Prop
  | _, [] => True
  | b, call :: rest =>
    (∀ text ∈ call.texts b, Free text) ∧
    (∀ template ∈ call.template?, GapsDetached template.toList) ∧
    Unambiguous (b.apply call) rest

theorem Builder.Numbered.apply {b : Builder} (h : b.Numbered) (call : Call ρ)
    (ht : ∀ text ∈ call.texts b, Free text)
    (hd : ∀ template ∈ call.template?, GapsDetached template.toList) :
    (b.apply call).Numbered := by
  cases call with
  | tagNamespace _ => exact ⟨h.numbered, h.conditions, h.selected⟩
  | naming _ => exact ⟨h.numbered, h.conditions, h.selected⟩
  | select type record =>
    simp only [Call.texts, List.forall_mem_cons] at ht
    exact h.select type record ht.1 ht.2.1 ht.2.2
  | insert type record =>
    simp only [Call.texts, List.forall_mem_cons] at ht
    exact h.insert type record ht.1 ht.2
  | inserts type records =>
    simp only [Call.texts, List.forall_mem_cons] at ht
    exact h.inserts type records ht.1 fun record hr text hm =>
      ht.2 text (List.mem_flatMap.mpr ⟨record, hr, hm⟩)
  | updates type record =>
    simp only [Call.texts, List.forall_mem_cons] at ht
    exact h.updates type record ht.1 ht.2
  | join type left right =>
    simp only [Call.texts, List.forall_mem_cons] at ht
    exact h.join type left right ht.1 ht.2.1 ht.2.2.1 ht.2.2.2.1
  | whereClause template arguments =>
    exact h.whereClause template arguments (ht template (by simp [Call.texts]))
      (hd template rfl)

theorem Builder.Numbered.run {b : Builder} (h : b.Numbered) (calls : List (Call ρ))
    (hu : Unambiguous b calls) : (b.run calls).Numbered := by
  induction calls generalizing b with
  | nil => exact h
  | cons call rest ih => exact ih (h.apply call hu.1 hu.2.1) hu.2.2

theorem toSql_eq_ok {b : Builder} {statement : Statement} (h : b.toSql = .ok statement) :
    b.statement? = .ok statement := by
  unfold Builder.toSql at h
  cases hs : b.statement? with
  | error e => simp [hs, Except.mapError] at h
  | ok s => simpa [hs, Except.mapError] using h

-- Each number up to the number of arguments stands in the text once, and nothing else stands
-- behind a dollar sign. A server that counts parameters by the highest number counts right.
theorem placeholders_match_arguments (calls : List (Call ρ)) (hu : Unambiguous {} calls)
    (statement : Statement) (h : (({} : Builder).run calls).toSql = .ok statement) :
    (∀ n, 1 ≤ n → n ≤ statement.arguments.size →
      (placeholdersOf statement.sql).count (Nat.toDigits 10 n) = 1) ∧
    (∀ digits ∈ placeholdersOf statement.sql,
      ∃ n, 1 ≤ n ∧ n ≤ statement.arguments.size ∧ digits = Nat.toDigits 10 n) ∧
    Server.highestPlaceholder statement.sql.toList = statement.arguments.size := by
  have hp := (Builder.numbered_empty.run calls hu).statement statement (toSql_eq_ok h)
  refine ⟨?_, ?_, highestPlaceholder_of_perm _ _ hp⟩
  · intro n hn hl
    rw [hp.count_eq]
    exact List.count_eq_one_of_mem (numerals_nodup _ _)
      (List.mem_map_of_mem (List.mem_range'_1.mpr (by omega)))
  · intro digits hd
    obtain ⟨n, hn, rfl⟩ := List.mem_map.mp (hp.mem_iff.mp hd)
    have := List.mem_range'_1.mp hn
    exact ⟨n, by omega, by omega, rfl⟩

end Program

-- An update with a condition that was given before it.
def titleUpdate : List (Call String) :=
  let game : RecordType String :=
    ⟨"ref_game", [⟨"title", [("sql", "game_title")], fun title => .required (.text title)⟩]⟩
  [.whereClause "game_id = ? AND game_title <> ?" [.value (.int 507), .value (.text "Go")],
    .updates game "Go"]

theorem placeholders_match_titleUpdate :
    ∃ statement, (({} : Builder).run titleUpdate).toSql = .ok statement ∧
      statement.sql = "UPDATE ref_game SET game_title = $2, write_date = $1 " ++
        "WHERE game_id = $3 AND game_title <> $4" ∧
      Unambiguous {} titleUpdate ∧
      Server.highestPlaceholder statement.sql.toList = statement.arguments.size := by
  have hu : Unambiguous {} titleUpdate := by
    simp only [titleUpdate, Unambiguous]
    decide +kernel
  refine ⟨⟨_, _⟩, rfl, by decide +kernel, hu, ?_⟩
  exact (placeholders_match_arguments titleUpdate hu _ rfl).2.2

end RecordSql.Sql
