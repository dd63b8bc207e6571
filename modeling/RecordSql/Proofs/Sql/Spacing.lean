import RecordSql.Proofs.Sql.Acceptance
import RecordSql.Proofs.Sql.Fragments

namespace RecordSql.Sql

open Text (Spaced EndsVisibly)

variable {ρ : Type}

section Names

-- What a call writes into a statement as it was given: the table, the columns that it extracts
-- and those that it joins by, and the template of a condition.
def Call.names (d : Dialect) : Call ρ → List String
  | .select type record => type.table :: (type.extract d.space record).names
  | .insert type record => type.table :: (type.extract d.space record).names
  | .inserts type records =>
    type.table :: (records.take 1).flatMap fun first => (type.extract d.space first).names
  | .updates type record => type.table :: (type.extract d.space record).names
  | .join type left right => [type.table, left, right]
  | .whereClause template _ => [template]
  | _ => []

-- The alias under which a call writes its table.
def Call.alias? (d : Dialect) : Call ρ → Option String
  | .select type _ => some (d.aliasOf type.table)
  | .join type _ _ => some (d.aliasOf type.table)
  | _ => none

def writtenNames (calls : List (Call ρ)) : List String :=
  (inDialect {} calls).flatMap fun entry => entry.2.names entry.1

def aliases (calls : List (Call ρ)) : List String :=
  (inDialect {} calls).filterMap fun entry => entry.2.alias? entry.1

end Names

section Calls

variable {d : Dialect} {call : Call ρ} {head : Head} {selected text : String}

theorem spaced_sorted {e : Extracted} (h : ∀ name ∈ e.names, Spaced name) :
    ∀ column ∈ e.sorted.map (·.name), Spaced column :=
  fun column hcolumn => h column (e.names_sorted_perm.mem_iff.mp hcolumn)

-- A head has the spacing of its alias, as long as a selection has a column to show.
theorem Call.spaced_head_iff (hh : call.head? d = some head)
    (hnames : ∀ name ∈ call.names d, Spaced name)
    (hcolumns : ∀ type record, call = .select type record →
      (type.extract d.space record).fields ≠ []) :
    Spaced head.text ↔ ∀ short ∈ call.alias? d, Spaced short := by
  cases call with
  | select type record =>
    obtain ⟨htable, hextracted⟩ := List.forall_mem_cons.mp hnames
    obtain rfl := Option.some.inj hh
    have hne : (type.extract d.space record).sorted ≠ [] :=
      sorted_eq_nil_iff.not.mpr (hcolumns type record rfl)
    refine (spaced_selectText_iff htable hne (spaced_sorted hextracted)).trans ?_
    simp [Call.alias?]
  | insert type record =>
    obtain ⟨htable, hextracted⟩ := List.forall_mem_cons.mp hnames
    obtain rfl := Option.some.inj hh
    refine iff_of_true ?_ (by simp [Call.alias?])
    refine spaced_insertText htable (spaced_sorted hextracted) (List.cons_ne_nil _ _) ?_
    simpa using rowArguments_ne_nil 0 _
  | inserts type records =>
    cases records with
    | nil => simp [Call.head?] at hh
    | cons first rest =>
      obtain ⟨htable, hextracted⟩ := List.forall_mem_cons.mp hnames
      obtain rfl := Option.some.inj hh
      refine iff_of_true ?_ (by simp [Call.alias?])
      refine spaced_insertText htable (spaced_sorted ?_) (rowsUnder_ne_nil _ _ _ _ _)
        fun row hrow => ?_
      · simpa using hextracted
      · obtain ⟨reading, -, rfl⟩ := List.mem_mapIdx.mp hrow
        exact rowArguments_ne_nil reading _
  | updates type record =>
    obtain ⟨htable, hextracted⟩ := List.forall_mem_cons.mp hnames
    obtain rfl := Option.some.inj hh
    refine iff_of_true ?_ (by simp [Call.alias?])
    refine spaced_updateText htable (by simp) fun text htext => ?_
    obtain ⟨column, n, hcolumn, rfl⟩ := exists_of_mem_assignments htext
    refine spaced_assignment ?_ (spaced_placeholder n)
    rcases hcolumn with rfl | hown
    · decide
    · exact spaced_sorted hextracted column hown
  | _ => simp [Call.head?] at hh

theorem Call.endsVisibly_head (hh : call.head? d = some head)
    (hshort : ∀ short ∈ call.alias? d, EndsVisibly short) : EndsVisibly head.text := by
  cases call with
  | select type record =>
    obtain rfl := Option.some.inj hh
    exact (hshort _ rfl).append _
  | insert type record =>
    obtain rfl := Option.some.inj hh
    exact endsVisibly_insertText _ _ (List.cons_ne_nil _ _)
  | inserts type records =>
    cases records with
    | nil => simp [Call.head?] at hh
    | cons first rest =>
      obtain rfl := Option.some.inj hh
      exact endsVisibly_insertText _ _ (rowsUnder_ne_nil _ _ _ _ _)
  | updates type record =>
    obtain rfl := Option.some.inj hh
    refine .append _ (.intercalate _ (by simp) fun text htext => ?_)
    obtain ⟨column, n, -, rfl⟩ := exists_of_mem_assignments htext
    exact (endsVisibly_placeholder n).append _
  | _ => simp [Call.head?] at hh

theorem Call.spaced_join_iff (hj : call.join? selected d = some text)
    (hnames : ∀ name ∈ call.names d, Spaced name) (hselected : selected = "" ∨ Spaced selected) :
    Spaced text ↔ ∀ short ∈ call.alias? d, Spaced short := by
  cases call with
  | join type left right =>
    obtain ⟨htable, hleft, hright⟩ : Spaced type.table ∧ Spaced left ∧ Spaced right := by
      simpa [Call.names] using hnames
    obtain rfl := Option.some.inj hj
    exact (spaced_joinText_iff htable hleft hright hselected).trans (by simp [Call.alias?])
  | _ => simp [Call.join?] at hj

theorem Call.endsVisibly_join (hj : call.join? selected d = some text)
    (hnames : ∀ name ∈ call.names d, EndsVisibly name) : EndsVisibly text := by
  cases call with
  | join type left right =>
    obtain rfl := Option.some.inj hj
    exact (endsVisibly_qualified selected (hnames right (by simp [Call.names]))).append _
  | _ => simp [Call.join?] at hj

-- An alias is written by the head or by a join.
theorem Call.exists_of_alias? {short : String} (h : call.alias? d = some short)
    (selected : String) :
    (∃ head, call.head? d = some head) ∨ ∃ text, call.join? selected d = some text := by
  cases call with
  | select type record => exact .inl ⟨_, rfl⟩
  | join type left right => exact .inr ⟨_, rfl⟩
  | _ => simp [Call.alias?] at h

theorem Call.short_of_head? (h : call.head? d = some head) :
    head.short = "" ∨ call.alias? d = some head.short := by
  cases call with
  | select type record =>
    obtain rfl := Option.some.inj h
    exact .inr rfl
  | insert type record | updates type record =>
    obtain rfl := Option.some.inj h
    exact .inl rfl
  | inserts type records =>
    cases records with
    | nil => simp [Call.head?] at h
    | cons first rest =>
      obtain rfl := Option.some.inj h
      exact .inl rfl
  | _ => simp [Call.head?] at h

end Calls

section Programs

variable {calls : List (Call ρ)} {head : Head}

-- Every selection of an accepted program has a column to show.
theorem Accepted.fields_ne_nil (ha : Accepted calls) {d : Dialect} {type : RecordType ρ}
    {record : ρ} (h : (d, .select type record) ∈ inDialect {} calls) :
    (type.extract d.space record).fields ≠ [] := by
  obtain ⟨before, after, hsplit, hd⟩ := exists_of_mem_inDialect h
  have hfits := ha.fits before _ after hsplit
  obtain rfl : d = dialectAfter before := hd
  exact hfits

-- The head of an accepted program, whichever call has given it.
theorem Accepted.spaced_head_iff (ha : Accepted calls)
    (hnames : ∀ name ∈ writtenNames calls, Spaced name) {entry : Dialect × Call ρ}
    (hentry : entry ∈ inDialect {} calls) (hwritten : entry.2.head? entry.1 = some head) :
    Spaced head.text ↔ ∀ short ∈ entry.2.alias? entry.1, Spaced short := by
  obtain ⟨d, call⟩ := entry
  refine Call.spaced_head_iff hwritten (fun name hname => ?_) fun type record hselect => ?_
  · exact hnames name (List.mem_flatMap.mpr ⟨(d, call), hentry, hname⟩)
  · obtain rfl : call = .select type record := hselect
    exact ha.fields_ne_nil hentry

theorem spaced_fragments_iff (ha : Accepted calls) (hheads : heads calls = [head])
    (hnames : ∀ name ∈ writtenNames calls, Spaced name) :
    (∀ text ∈ head.text :: joins head.short calls, Spaced text) ↔
      ∀ short ∈ aliases calls, Spaced short := by
  have hname : ∀ entry ∈ inDialect {} calls, ∀ name ∈ entry.2.names entry.1, Spaced name :=
    fun entry hentry name hmem => hnames name (List.mem_flatMap.mpr ⟨entry, hentry, hmem⟩)
  have hfirst : head ∈ heads calls := hheads ▸ List.mem_singleton_self head
  obtain ⟨first, hentry, hwritten⟩ := List.mem_filterMap.mp hfirst
  have hhead := ha.spaced_head_iff hnames hentry hwritten
  constructor
  · intro hall short hshort
    have hselected : head.short = "" ∨ Spaced head.short := by
      refine (Call.short_of_head? hwritten).imp_right fun halias => ?_
      exact hhead.mp (hall _ List.mem_cons_self) _ halias
    obtain ⟨entry, hmem, halias⟩ := List.mem_filterMap.mp hshort
    rcases Call.exists_of_alias? halias head.short with ⟨other, hother⟩ | ⟨text, htext⟩
    · have hsame : other ∈ heads calls := List.mem_filterMap.mpr ⟨entry, hmem, hother⟩
      rw [hheads, List.mem_singleton] at hsame
      subst hsame
      exact (ha.spaced_head_iff hnames hmem hother).mp (hall _ List.mem_cons_self) short halias
    · have hjoin : text ∈ joins head.short calls := List.mem_filterMap.mpr ⟨entry, hmem, htext⟩
      have hspaced : Spaced text := hall text (List.mem_cons_of_mem _ hjoin)
      exact (Call.spaced_join_iff htext (hname entry hmem) hselected).mp hspaced short halias
  · intro hall
    have halias : ∀ entry ∈ inDialect {} calls, ∀ short ∈ entry.2.alias? entry.1, Spaced short :=
      fun entry hmem short hshort => hall short (List.mem_filterMap.mpr ⟨entry, hmem, hshort⟩)
    refine List.forall_mem_cons.mpr ⟨?_, fun text htext => ?_⟩
    · exact hhead.mpr (halias first hentry)
    · obtain ⟨entry, hmem, hjoin⟩ := List.mem_filterMap.mp htext
      have hselected : head.short = "" ∨ Spaced head.short :=
        (Call.short_of_head? hwritten).imp_right (halias first hentry _)
      exact (Call.spaced_join_iff hjoin (hname entry hmem) hselected).mpr (halias entry hmem)

theorem endsVisibly_fragments (hheads : heads calls = [head])
    (h : ∀ text ∈ writtenNames calls ++ aliases calls, EndsVisibly text) :
    ∀ text ∈ head.text :: joins head.short calls, EndsVisibly text := by
  have hfirst : head ∈ heads calls := hheads ▸ List.mem_singleton_self head
  obtain ⟨entry, hentry, hwritten⟩ := List.mem_filterMap.mp hfirst
  refine List.forall_mem_cons.mpr ⟨?_, fun text htext => ?_⟩
  · refine Call.endsVisibly_head hwritten fun short hshort => h short (List.mem_append_right _ ?_)
    exact List.mem_filterMap.mpr ⟨entry, hentry, hshort⟩
  · obtain ⟨entry, hmem, hjoin⟩ := List.mem_filterMap.mp htext
    refine Call.endsVisibly_join hjoin fun name hname => h name (List.mem_append_left _ ?_)
    exact List.mem_flatMap.mpr ⟨entry, hmem, hname⟩

-- What stands behind the head and the joins.
def Head.tail (head : Head) (calls : List (Call ρ)) : List String :=
  renderConditions (head.arguments.length + 1) (conditions calls) ++
    if head.kind = .insert then [returningId] else []

theorem normalForm_sql (head : Head) (calls : List (Call ρ)) :
    (normalForm head calls).sql =
      " ".intercalate ((head.text :: joins head.short calls) ++ head.tail calls) := by
  simp [normalForm, Head.tail]

theorem mem_writtenNames_of_condition {clause : Condition} (h : clause ∈ conditions calls) :
    String.ofList clause.template ∈ writtenNames calls := by
  obtain ⟨call, hcall, hcondition⟩ := List.mem_filterMap.mp h
  cases call with
  | whereClause template arguments =>
    obtain rfl := Option.some.inj hcondition
    rw [← map_inDialect {} calls] at hcall
    obtain ⟨entry, hentry, hgiven⟩ := List.mem_map.mp hcall
    refine List.mem_flatMap.mpr ⟨entry, hentry, ?_⟩
    simp [hgiven, Call.names]
  | _ => simp [Call.condition?] at hcondition

theorem exists_of_mem_tail {text : String} (h : text ∈ head.tail calls) :
    text = returningId ∨ ∃ clause ∈ conditions calls, ∃ n, text = clause.render n := by
  rcases List.mem_append.mp h with hcondition | hclosing
  · exact .inr (exists_of_mem_renderConditions hcondition)
  · split at hclosing
    · exact .inl (List.mem_singleton.mp hclosing)
    · simp at hclosing

section Tail

variable (hfilled : ∀ clause ∈ conditions calls, clause.Filled)
include hfilled

theorem spaced_tail (hnames : ∀ name ∈ writtenNames calls, Spaced name) :
    ∀ text ∈ head.tail calls, Spaced text := by
  intro text htext
  rcases exists_of_mem_tail htext with rfl | ⟨clause, hclause, n, rfl⟩
  · decide
  · have htemplate := hnames _ (mem_writtenNames_of_condition hclause)
    exact clause.spaced_render (hfilled clause hclause) htemplate n

theorem endsVisibly_tail (hnames : ∀ name ∈ writtenNames calls, EndsVisibly name) :
    ∀ text ∈ head.tail calls, EndsVisibly text := by
  intro text htext
  rcases exists_of_mem_tail htext with rfl | ⟨clause, hclause, n, rfl⟩
  · decide
  · have htemplate := hnames _ (mem_writtenNames_of_condition hclause)
    exact clause.endsVisibly_render (hfilled clause hclause) htemplate n

end Tail

end Programs

-- A statement is spaced cleanly when its names and aliases are, whatever else a program calls.
-- With clean names it is the aliases alone that decide: an alias that is empty or has a space at
-- its end leaves a space too many where it is written as a word.
theorem toSql_spaced_iff (calls : List (Call ρ)) (statement : Statement)
    (h : (({} : Builder).run calls).toSql = .ok statement) :
    ((∀ name ∈ writtenNames calls, Spaced name) →
        (Spaced statement.sql ↔ ∀ short ∈ aliases calls, Spaced short)) ∧
      ((∀ text ∈ writtenNames calls ++ aliases calls, EndsVisibly text) →
        EndsVisibly statement.sql) := by
  have hs := toSql_eq_ok h
  have herror := Builder.error_of_statement? hs
  have holds : (({} : Builder).run calls).Holds calls := Builder.holds_empty.run calls herror
  have hfilled : ∀ clause ∈ conditions calls, clause.Filled := Builder.filled_of_run calls herror
  have haccepted : Accepted calls := (Builder.tracks_empty.run calls).accepted_of_toSql h
  obtain ⟨head, hheads, rfl⟩ := holds.statement? hs
  rw [normalForm_sql]
  constructor
  · intro hnames
    rw [Text.spaced_intercalate_iff (by simp), List.forall_mem_append,
      and_iff_left (spaced_tail hfilled hnames)]
    exact spaced_fragments_iff haccepted hheads hnames
  · intro hends
    obtain ⟨hnames, -⟩ := List.forall_mem_append.mp hends
    refine .intercalate _ (by simp) (List.forall_mem_append.mpr ⟨?_, ?_⟩)
    · exact endsVisibly_fragments hheads hends
    · exact endsVisibly_tail hfilled hnames

-- A selection between its conditions, with a join.
theorem toSql_spaced_scoresOfGame :
    ∃ statement, (({} : Builder).run scoresOfGame).toSql = .ok statement ∧
      aliases scoresOfGame = ["refGame", "ref_score_of"] ∧
      Spaced statement.sql ∧ EndsVisibly statement.sql := by
  have haliases : aliases scoresOfGame = ["refGame", "ref_score_of"] := by decide +kernel
  have hnames : writtenNames scoresOfGame =
      ["game_title = ?", "ref_game", "t", "ref_score", "game_id", "game_id", "score > ?"] := by
    decide +kernel
  obtain ⟨hspaced, hends⟩ := toSql_spaced_iff scoresOfGame _ (by with_unfolding_all rfl)
  refine ⟨_, by with_unfolding_all rfl, haliases, ?_, ?_⟩
  · refine (hspaced ?_).mpr ?_
    · rw [hnames]
      decide
    · rw [haliases]
      decide
  · refine hends ?_
    rw [hnames, haliases]
    decide

-- Tables that go without an alias.
def namelessTables : List (Call String) :=
  [.naming fun _ => "", .select titledGame "Go", .join ⟨"ref_score", []⟩ "game_id" "game_id"]

-- A column stands alone without an alias, but behind a table the space stays that would part it
-- from the alias. It ends the selection, and the join doubles it.
theorem unspaced_namelessTables :
    let selection := "SELECT game_title FROM ref_game "
    let selectionWithJoin :=
      "SELECT game_title FROM ref_game  INNER JOIN ref_score  ON game_id = game_id"
    (∀ name ∈ writtenNames namelessTables, Spaced name ∧ EndsVisibly name) ∧
      (({} : Builder).run (namelessTables.take 2)).toSql.toOption = some ⟨selection, {}⟩ ∧
      ¬EndsVisibly selection ∧
      (({} : Builder).run namelessTables).toSql.toOption = some ⟨selectionWithJoin, {}⟩ ∧
      ¬selectionWithJoin.toList.IsChain Text.Apart := by
  intro selection selectionWithJoin
  exact ⟨by decide +kernel, by decide +kernel, by decide, by decide +kernel, by decide⟩

end RecordSql.Sql
