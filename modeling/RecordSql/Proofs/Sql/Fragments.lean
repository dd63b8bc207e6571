import RecordSql.Proofs.Sql.Substitution
import RecordSql.Proofs.Text.Spacing

namespace RecordSql.Sql

open Text (Spaced EndsVisibly)

section Template

variable {template : List Char} {c : Char} {n : Nat}

theorem isBlank_of_mem_placeholder (h : c ∈ (placeholder n).toList) :
    Unicode.isBlank c = false := by
  have hchars : c = '$' ∨ c ∈ Nat.toDigits 10 n := by
    simpa [placeholder, decimalNat] using h
  rcases hchars with rfl | hdigit
  · decide
  · exact Unicode.isBlank_of_isDigit (Nat.isDigit_of_mem_toDigits (by decide) (by decide) hdigit)

theorem placeholder_ne_empty (n : Nat) : placeholder n ≠ "" := by
  simp [placeholder]

theorem space_notMem_placeholder (n : Nat) : ' ' ∉ (placeholder n).toList :=
  fun h => absurd (isBlank_of_mem_placeholder h) (by decide)

-- Each character of a template stays or makes room for a text without any white space.
theorem fillGaps_cons (next : Nat) (c : Char) (rest : List Char) :
    ∃ written after, fillGaps next (c :: rest) = written ++ fillGaps after rest ∧ written ≠ [] ∧
      (written = [c] ∨ ∀ x ∈ written, Unicode.isBlank x = false) := by
  by_cases hc : c = '?'
  · refine ⟨(placeholder next).toList, next + 1, by rw [fillGaps, if_pos hc], ?_, ?_⟩
    · exact String.toList_eq_nil_iff.not.mpr (placeholder_ne_empty next)
    · exact .inr fun x hx => isBlank_of_mem_placeholder hx
  · exact ⟨[c], next, by rw [fillGaps, if_neg hc]; rfl, List.cons_ne_nil _ _, .inl rfl⟩

theorem fillGaps_ne_nil (next : Nat) (h : template ≠ []) : fillGaps next template ≠ [] := by
  obtain ⟨c, rest, rfl⟩ := List.exists_cons_of_ne_nil h
  obtain ⟨written, after, hfill, hne, -⟩ := fillGaps_cons next c rest
  rw [hfill]
  exact List.append_ne_nil_of_left_ne_nil hne _

theorem mem_head?_fillGaps {next : Nat} (h : ' ' ∈ (fillGaps next template).head?) :
    ' ' ∈ template.head? := by
  cases template with
  | nil => exact h
  | cons c rest =>
    obtain ⟨written, after, hfill, hne, hwritten⟩ := fillGaps_cons next c rest
    rw [hfill, List.head?_append_of_ne_nil _ hne] at h
    rcases hwritten with rfl | hvisible
    · exact h
    · exact absurd (hvisible ' ' (List.mem_of_mem_head? h)) (by decide)

theorem mem_getLast?_fillGaps {next : Nat} (h : c ∈ (fillGaps next template).getLast?) :
    c ∈ template.getLast? ∨ Unicode.isBlank c = false := by
  induction template generalizing next with
  | nil => exact .inl h
  | cons first rest ih =>
    obtain ⟨written, after, hfill, -, hwritten⟩ := fillGaps_cons next first rest
    rw [hfill] at h
    by_cases hrest : rest = []
    · subst hrest
      rw [fillGaps, List.append_nil] at h
      rcases hwritten with rfl | hvisible
      · exact .inl h
      · exact .inr (hvisible c (List.mem_of_mem_getLast? h))
    · rw [List.getLast?_append_of_ne_nil _ (fillGaps_ne_nil after hrest)] at h
      rw [List.getLast?_cons_of_ne_nil hrest]
      exact ih h

theorem isChain_fillGaps (next : Nat) (h : template.IsChain Text.Apart) :
    (fillGaps next template).IsChain Text.Apart := by
  induction template generalizing next with
  | nil => exact h
  | cons c rest ih =>
    obtain ⟨written, after, hfill, -, hwritten⟩ := fillGaps_cons next c rest
    obtain ⟨hnext, hrest⟩ := List.isChain_cons.mp h
    rw [hfill]
    refine List.isChain_append.mpr ⟨?_, ih after hrest, fun a ha b hb hspaces => ?_⟩
    · rcases hwritten with rfl | hvisible
      · exact List.isChain_singleton c
      · refine List.isChain_iff_getElem.mpr fun i hi hspaces => ?_
        exact absurd (hvisible ' ' (hspaces.1 ▸ List.getElem_mem _)) (by decide)
    · obtain ⟨rfl, rfl⟩ := hspaces
      rcases hwritten with rfl | hvisible
      · obtain rfl : c = ' ' := by simpa using ha
        exact hnext ' ' (mem_head?_fillGaps hb) ⟨rfl, rfl⟩
      · exact absurd (hvisible ' ' (List.mem_of_mem_getLast? ha)) (by decide)

theorem spaced_fillGaps (next : Nat) (h : Spaced (String.ofList template)) :
    Spaced (String.ofList (fillGaps next template)) := by
  have hempty (text : List Char) : String.ofList text ≠ "" ↔ text ≠ [] :=
    String.ofList_eq_empty_iff.not
  rw [Text.spaced_iff, String.toList_ofList, hempty] at h ⊢
  obtain ⟨hne, hleading, htrailing, hsingle⟩ := h
  refine ⟨fillGaps_ne_nil next hne, fun hfirst => ?_, fun hlast => ?_, ?_⟩
  · exact hleading (mem_head?_fillGaps hfirst)
  · rcases mem_getLast?_fillGaps hlast with hspace | hvisible
    · exact htrailing hspace
    · exact absurd hvisible (by decide)
  · exact isChain_fillGaps next hsingle

theorem endsVisibly_fillGaps (next : Nat) (h : EndsVisibly (String.ofList template)) :
    EndsVisibly (String.ofList (fillGaps next template)) := by
  obtain ⟨last, hlast, hvisible⟩ := h
  rw [String.toList_ofList] at hlast
  have hne : fillGaps next template ≠ [] :=
    fillGaps_ne_nil next (List.ne_nil_of_mem (List.mem_of_mem_getLast? hlast))
  obtain ⟨c, hc⟩ := Option.isSome_iff_exists.mp (List.getLast?_isSome.mpr hne)
  refine ⟨c, by rwa [String.toList_ofList], ?_⟩
  rcases mem_getLast?_fillGaps hc with hsame | hwritten
  · obtain rfl : c = last := Option.mem_unique hsame hlast
    exact hvisible
  · exact hwritten

theorem exists_of_mem_renderConditions {clauses : List Condition} {next : Nat} {text : String}
    (h : text ∈ renderConditions next clauses) :
    ∃ clause ∈ clauses, ∃ n, text = clause.render n := by
  induction clauses generalizing next with
  | nil => simp [renderConditions] at h
  | cons clause rest ih =>
    rcases List.mem_cons.mp h with rfl | hrest
    · exact ⟨clause, List.mem_cons_self, next, rfl⟩
    · obtain ⟨later, hlater, n, rfl⟩ := ih hrest
      exact ⟨later, List.mem_cons_of_mem _ hlater, n, rfl⟩

theorem Condition.spaced_render {clause : Condition} (hfilled : clause.Filled)
    (h : Spaced (String.ofList clause.template)) (n : Nat) : Spaced (clause.render n) := by
  have hkeyword : "WHERE " = "WHERE" ++ " " := rfl
  rw [render_eq_fillGaps hfilled, hkeyword, Text.spaced_beside_iff]
  exact ⟨by decide, spaced_fillGaps n h⟩

theorem Condition.endsVisibly_render {clause : Condition} (hfilled : clause.Filled)
    (h : EndsVisibly (String.ofList clause.template)) (n : Nat) :
    EndsVisibly (clause.render n) := by
  rw [render_eq_fillGaps hfilled]
  exact (endsVisibly_fillGaps n h).append _

end Template

section Fragments

variable {table short column place : String} {items columns : List String}

theorem spaced_placeholder (n : Nat) : Spaced (placeholder n) :=
  .of_notMem (placeholder_ne_empty n) (space_notMem_placeholder n)

theorem endsVisibly_placeholder (n : Nat) : EndsVisibly (placeholder n) := by
  have hne : (placeholder n).toList ≠ [] := (spaced_placeholder n).toList_ne_nil
  exact ⟨_, List.getLast?_eq_some_getLast hne, isBlank_of_mem_placeholder (List.getLast_mem hne)⟩

theorem spaced_qualified (hshort : short = "" ∨ Spaced short) (hcolumn : Spaced column) :
    Spaced (qualified short column) := by
  unfold qualified
  split
  · exact hcolumn
  · rename_i hne
    have hspaced : Spaced short := hshort.resolve_left (by simpa using hne)
    exact (hspaced.append (by decide)).append hcolumn

theorem endsVisibly_qualified (short : String) (hcolumn : EndsVisibly column) :
    EndsVisibly (qualified short column) := by
  unfold qualified
  split
  · exact hcolumn
  · exact hcolumn.append _

theorem spaced_inParentheses (hne : items ≠ []) (h : ∀ item ∈ items, Spaced item) :
    Spaced (inParentheses items) :=
  (Spaced.append (by decide) (.list hne h)).append (by decide)

theorem endsVisibly_inParentheses (items : List String) : EndsVisibly (inParentheses items) :=
  EndsVisibly.append _ (by decide)

theorem spaced_assignment (hcolumn : Spaced column) (hplace : Spaced place) :
    Spaced (Builder.assignment column place) := by
  have hwords : Builder.assignment column place = " ".intercalate [column, "=", place] := by
    simp [Builder.assignment, ← String.toList_inj]
  rw [hwords, Text.spaced_intercalate_iff (List.cons_ne_nil _ _)]
  simpa using ⟨hcolumn, by decide, hplace⟩

theorem renderRows_ne_nil {rows : List (List Argument)} (next : Nat) (hne : rows ≠ []) :
    renderRows next rows ≠ [] := by
  cases rows with
  | nil => contradiction
  | cons row rest => exact List.cons_ne_nil _ _

theorem exists_of_mem_renderRows {rows : List (List Argument)} {next : Nat} {text : String}
    (h : text ∈ renderRows next rows) :
    ∃ row ∈ rows, ∃ first, text = inParentheses (placeholders first row.length) := by
  induction rows generalizing next with
  | nil => simp [renderRows] at h
  | cons row rest ih =>
    rcases List.mem_cons.mp h with rfl | hrest
    · exact ⟨row, List.mem_cons_self, next, rfl⟩
    · obtain ⟨later, hlater, first, rfl⟩ := ih hrest
      exact ⟨later, List.mem_cons_of_mem _ hlater, first, rfl⟩

theorem rowArguments_ne_nil (reading : Nat) (values : List Value) :
    Builder.rowArguments reading values ≠ [] := by
  simp [Builder.rowArguments]

theorem rowsUnder_ne_nil {ρ : Type} (space : String) (type : RecordType ρ) (names : List String)
    (first : ρ) (rest : List ρ) : rowsUnder space type names (first :: rest) ≠ [] := by
  simp [rowsUnder]

theorem spaced_row {row : List Argument} (hne : row ≠ []) (first : Nat) :
    Spaced (inParentheses (placeholders first row.length)) := by
  have hplaces : placeholders first row.length ≠ [] := by
    simpa [placeholders] using hne
  refine spaced_inParentheses hplaces fun place hplace => ?_
  obtain ⟨n, -, rfl⟩ := List.mem_map.mp hplace
  exact spaced_placeholder n

theorem spaced_insertText {rows : List (List Argument)} (htable : Spaced table)
    (hcolumns : ∀ column ∈ columns, Spaced column) (hne : rows ≠ [])
    (hrows : ∀ row ∈ rows, row ≠ []) : Spaced (insertText table columns rows) := by
  have hwords (listed values : String) :
      "INSERT INTO " ++ table ++ " " ++ listed ++ " VALUES " ++ values =
        " ".intercalate ["INSERT INTO", table, listed, "VALUES", values] := by
    simp [← String.toList_inj]
  have htext : insertText table columns rows = " ".intercalate
      ["INSERT INTO", table, inParentheses (columns ++ auditColumns), "VALUES",
        joined (renderRows 1 rows)] := hwords _ _
  have haudit : ∀ column ∈ auditColumns, Spaced column := by decide
  have hlisted : Spaced (inParentheses (columns ++ auditColumns)) :=
    spaced_inParentheses (by simp [auditColumns]) (List.forall_mem_append.mpr ⟨hcolumns, haudit⟩)
  have hvalues : Spaced (joined (renderRows 1 rows)) := by
    refine .list (renderRows_ne_nil 1 hne) fun text htext => ?_
    obtain ⟨row, hrow, first, rfl⟩ := exists_of_mem_renderRows htext
    exact spaced_row (hrows row hrow) first
  rw [htext, Text.spaced_intercalate_iff (List.cons_ne_nil _ _)]
  simpa using ⟨by decide, htable, hlisted, by decide, hvalues⟩

theorem endsVisibly_insertText {rows : List (List Argument)} (table : String)
    (columns : List String) (hne : rows ≠ []) : EndsVisibly (insertText table columns rows) := by
  have hvalues : EndsVisibly (joined (renderRows 1 rows)) := by
    refine .intercalate _ (renderRows_ne_nil 1 hne) fun text htext => ?_
    obtain ⟨row, -, first, rfl⟩ := exists_of_mem_renderRows htext
    exact endsVisibly_inParentheses _
  exact hvalues.append _

-- A selection, and likewise a join, has the spacing of the alias that it writes as a word.
theorem spaced_selectText_iff {fields : List ExtractedField} (htable : Spaced table)
    (hne : fields ≠ []) (hfields : ∀ column ∈ fields.map (·.name), Spaced column) :
    Spaced ("SELECT " ++ joined (fields.map fun f => qualified short f.name) ++ " FROM " ++ table ++
      " " ++ short) ↔ Spaced short := by
  have hwords (columns : String) : "SELECT " ++ columns ++ " FROM " ++ table ++ " " ++ short =
      " ".intercalate ["SELECT", columns, "FROM", table, short] := by
    simp [← String.toList_inj]
  have hcolumns (hshort : Spaced short) :
      Spaced (joined (fields.map fun f => qualified short f.name)) := by
    refine .list (by simpa using hne) fun column hcolumn => ?_
    obtain ⟨f, hf, rfl⟩ := List.mem_map.mp hcolumn
    exact spaced_qualified (.inr hshort) (hfields f.name (List.mem_map_of_mem hf))
  rw [hwords, Text.spaced_intercalate_iff (List.cons_ne_nil _ _)]
  constructor
  · intro hall
    exact hall short (by simp)
  · intro hshort
    simpa using ⟨by decide, hcolumns hshort, by decide, htable, hshort⟩

theorem spaced_joinText_iff {selected left right : String} (htable : Spaced table)
    (hleft : Spaced left) (hright : Spaced right) (hselected : selected = "" ∨ Spaced selected) :
    Spaced ("INNER JOIN " ++ table ++ " " ++ short ++ " ON " ++ qualified short left ++ " = " ++
      qualified selected right) ↔ Spaced short := by
  have hwords (own other : String) :
      "INNER JOIN " ++ table ++ " " ++ short ++ " ON " ++ own ++ " = " ++ other =
        " ".intercalate ["INNER JOIN", table, short, "ON", own, "=", other] := by
    simp [← String.toList_inj]
  have hother : Spaced (qualified selected right) := spaced_qualified hselected hright
  rw [hwords, Text.spaced_intercalate_iff (List.cons_ne_nil _ _)]
  constructor
  · intro hall
    exact hall short (by simp)
  · intro hshort
    have hown : Spaced (qualified short left) := spaced_qualified (.inr hshort) hleft
    simpa using ⟨by decide, htable, hshort, by decide, hown, by decide, hother⟩

theorem spaced_updateText {assignments : List String} (htable : Spaced table)
    (hne : assignments ≠ []) (h : ∀ assignment ∈ assignments, Spaced assignment) :
    Spaced ("UPDATE " ++ table ++ " SET " ++ joined assignments) := by
  have hwords : "UPDATE " ++ table ++ " SET " ++ joined assignments =
      " ".intercalate ["UPDATE", table, "SET", joined assignments] := by
    simp [← String.toList_inj]
  rw [hwords, Text.spaced_intercalate_iff (List.cons_ne_nil _ _)]
  simpa using ⟨by decide, htable, by decide, Spaced.list hne h⟩

-- The assignments of an update. The audit column is the last of them.
theorem exists_of_mem_assignments {fields : List ExtractedField} {first : Nat} {text : String}
    (h : text ∈ List.zipWith (fun f place => Builder.assignment f.name place) fields
      (placeholders first fields.length) ++ [Builder.assignment writeDate (placeholder 1)]) :
    ∃ column n, (column = writeDate ∨ column ∈ fields.map (·.name)) ∧
      text = Builder.assignment column (placeholder n) := by
  rcases List.mem_append.mp h with hfield | hlast
  · rw [← List.map_uncurry_zip_eq_zipWith] at hfield
    obtain ⟨⟨f, place⟩, hzip, rfl⟩ := List.mem_map.mp hfield
    obtain ⟨hf, hplace⟩ := List.of_mem_zip hzip
    obtain ⟨n, -, rfl⟩ := List.mem_map.mp hplace
    exact ⟨f.name, n, .inr (List.mem_map_of_mem hf), rfl⟩
  · exact ⟨writeDate, 1, .inl rfl, List.mem_singleton.mp hlast⟩

end Fragments

end RecordSql.Sql
