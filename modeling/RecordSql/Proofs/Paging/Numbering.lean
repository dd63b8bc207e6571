import RecordSql.Proofs.Paging.Grammar
import RecordSql.Proofs.Sql.Numbering

namespace RecordSql.Paging

open Sql

section Names

variable {name : String}

theorem free_plainName (h : PlainName name) : Free name :=
  h.notMem (by decide)

theorem free_decimalNat (n : Nat) : Free (decimalNat n) := by
  simpa [Free, decimalNat] using dollar_notMem_toDigits n

end Names

section Clause

variable {keyword separator : String} (items : List String)

-- A clause holds the placeholders of its items.
theorem placeholdersOf_clause (hk : Free keyword) (hs : Free separator)
    (hd : Detached separator.toList) (hne : separator.toList ≠ []) :
    placeholdersOf (Request.clause keyword separator items) = items.flatMap placeholdersOf := by
  cases items with
  | nil => rfl
  | cons first rest =>
    have hclause : Request.clause keyword separator (first :: rest) =
        keyword ++ separator.intercalate (first :: rest) := rfl
    rw [hclause, placeholdersOf_free_append _ _ hk, placeholdersOf_intercalate _ _ hs hd hne]

theorem free_clause (hk : Free keyword) (hs : Free separator)
    (hitems : ∀ text ∈ items, Free text) : Free (Request.clause keyword separator items) := by
  cases items with
  | nil => exact List.not_mem_nil
  | cons first rest =>
    exact (free_append _ _).mpr ⟨hk, free_intercalate _ (first :: rest) hs hitems⟩

theorem detached_clause (hd : Detached keyword.toList) (hne : keyword.toList ≠ []) :
    Detached (Request.clause keyword separator items).toList := by
  cases items with
  | nil => exact fun c hc => nomatch hc
  | cons first rest =>
    have hclause : (Request.clause keyword separator (first :: rest)).toList =
        keyword.toList ++ (separator.intercalate (first :: rest)).toList := String.toList_append
    rw [hclause]
    exact hd.append_of_ne_nil hne _

end Clause

namespace Request

-- The conditions of a page query, each with its placeholder.
def conditionTexts (r : Request) : List String :=
  List.zipWith (fun (p : Predicate) place => p.text place) r.predicates
    (placeholders 1 r.predicates.length)

-- What stands behind the conditions: the order of the rows, and which of them are taken.
def excerpt (r : Request) : String :=
  clause " ORDER BY " ", " (r.sortKeys.map r.sortText) ++
    (" LIMIT " ++ decimalNat r.size ++ " OFFSET " ++ decimalNat r.offset)

theorem sql_parts (r : Request) :
    r.sql = "SELECT * FROM (" ++ (r.query ++ (") AS " ++ r.tableAlias ++
      (clause " WHERE " " AND " r.conditionTexts ++ r.excerpt))) := by
  unfold sql excerpt conditionTexts
  simp only [String.append_assoc]

theorem detached_excerpt (r : Request) : Detached r.excerpt.toList := by
  have horder : Detached (clause " ORDER BY " ", " (r.sortKeys.map r.sortText)).toList :=
    detached_clause _ (by decide) (by decide)
  have hlimit : Detached " LIMIT ".toList := by decide
  simp only [excerpt, String.toList_append, List.append_assoc]
  exact horder.append (hlimit.append_of_ne_nil (by decide) _)

end Request

section Request

variable {r : Request} (ha : PlainName r.tableAlias) (hf : ∀ field ∈ r.allowed, PlainName field)
include ha hf

theorem free_column {field : String} (h : field ∈ r.allowed) : Free (r.column field) := by
  have hdot : Free "." := by decide
  rw [column_eq r ha, free_append, free_append]
  exact ⟨⟨free_plainName ha, hdot⟩, free_plainName (hf field h)⟩

theorem placeholdersOf_predicate {predicate : Request.Predicate} (h : predicate ∈ r.predicates)
    (n : Nat) : placeholdersOf (predicate.text (placeholder n)) = [Nat.toDigits 10 n] := by
  rcases List.mem_append.mp h with hs | hs
  · cases hq : r.search? with
    | none => simp [hq] at hs
    | some text =>
      obtain rfl : predicate = ⟨r.searchText, text⟩ := by simpa [hq] using hs
      have hcolumn := free_column ha hf (defaultField_allowed r text hq)
      have hbefore : Free ("( " ++ r.column r.defaultField ++ " ILIKE '%' || ") := by
        simp [hcolumn, show Free "( " by decide, show Free " ILIKE '%' || " by decide]
      have hafter : Detached " || '%' )".toList := by decide
      have hnone : placeholdersOf " || '%' )" = [] := by decide
      dsimp only [Request.searchText]
      rw [placeholdersOf_append _ _ hafter, placeholdersOf_free_append _ _ hbefore,
        placeholdersOf_placeholder, hnone, List.append_nil]
  · obtain ⟨filter, hm, rfl⟩ := List.mem_map.mp hs
    have hcolumn := free_column ha hf (filters_allowed r filter hm)
    have hoperator : ∀ operator : Operator, Free operator.sql := by
      intro operator
      cases operator <;> decide
    have hbefore : Free (r.column filter.field ++ " " ++ filter.operator.sql ++ " ") := by
      simp [hcolumn, hoperator, show Free " " by decide]
    dsimp only [Request.filterText]
    rw [placeholdersOf_free_append _ _ hbefore, placeholdersOf_placeholder]

theorem free_sortText {key : SortKey} (h : key ∈ r.sortKeys) : Free (r.sortText key) := by
  have hcolumn := free_column ha hf (sortKeys_allowed r key h)
  have hdirection : Free (if key.descending then " DESC" else " ASC") := by
    split <;> decide
  exact (free_append _ _).mpr ⟨hcolumn, hdirection⟩

theorem free_excerpt : Free r.excerpt := by
  have horder : Free (Request.clause " ORDER BY " ", " (r.sortKeys.map r.sortText)) := by
    refine free_clause _ (by decide) (by decide) fun text ht => ?_
    obtain ⟨key, hkey, rfl⟩ := List.mem_map.mp ht
    exact free_sortText ha hf hkey
  simp [Request.excerpt, horder, free_decimalNat, show Free " LIMIT " by decide,
    show Free " OFFSET " by decide]

theorem placeholdersOf_conditions :
    placeholdersOf (Request.clause " WHERE " " AND " r.conditionTexts) =
      numerals 1 r.predicates.length := by
  rw [placeholdersOf_clause _ (by decide) (by decide) (by decide) (by decide)]
  exact placeholdersOf_zipWith _ r.predicates 1 fun predicate h n =>
    placeholdersOf_predicate ha hf h n

-- A page query holds the placeholders of the query that it is about, and behind them those of
-- its predicates. These are counted from one, whatever the others are.
theorem placeholdersOf_sql :
    placeholdersOf r.sql = placeholdersOf r.query ++ numerals 1 r.predicates.length := by
  have hselect : Free "SELECT * FROM (" := by decide
  have has : Free (") AS " ++ r.tableAlias) := (free_append _ _).mpr ⟨by decide, free_plainName ha⟩
  have hdetached : Detached (") AS " ++ r.tableAlias ++
      (Request.clause " WHERE " " AND " r.conditionTexts ++ r.excerpt)).toList := by
    have hclose : Detached ") AS ".toList := by decide
    simp only [String.toList_append, List.append_assoc]
    exact hclose.append_of_ne_nil (by decide) _
  rw [Request.sql_parts, placeholdersOf_free_append _ _ hselect,
    placeholdersOf_append _ _ hdetached, placeholdersOf_free_append _ _ has,
    placeholdersOf_append _ _ r.detached_excerpt, placeholdersOf_conditions ha hf,
    placeholdersOf_free _ (free_excerpt ha hf), List.append_nil]

omit ha hf in
theorem compile_of_passed (h : r.check = .ok ()) :
    r.compile = .ok ⟨r.sql, ⟨r.predicates.map fun p => .value (.text p.operand)⟩⟩ := by
  unfold Request.compile Request.statement?
  rw [h]
  rfl

omit ha hf in
theorem size_of_compile {statement : Statement} (h : r.compile = .ok statement) :
    statement.arguments.size = r.predicates.length := by
  rw [compile_of_passed (compile_eq_ok r statement h).1] at h
  obtain rfl := Except.ok.inj h
  exact List.length_map _

end Request

section Built

variable {ρ : Type} {statement : Statement}

-- A statement in which each of its arguments has one placeholder, and every placeholder has an
-- argument.
def OneToOne (statement : Statement) : Prop :=
  (∀ n, 1 ≤ n → n ≤ statement.arguments.size →
    (placeholdersOf statement.sql).count (Nat.toDigits 10 n) = 1) ∧
  ∀ digits ∈ placeholdersOf statement.sql,
    ∃ n, 1 ≤ n ∧ n ≤ statement.arguments.size ∧ digits = Nat.toDigits 10 n

-- A page query over a text whose placeholders are numbered up to a bound.
theorem placeholders_perm {r : Request} (h : r.compile = .ok statement) {bound : Nat}
    (hquery : (placeholdersOf r.query).Perm (numerals 1 bound)) :
    (placeholdersOf statement.sql).Perm
      (numerals 1 bound ++ numerals 1 statement.arguments.size) := by
  obtain ⟨hcheck, hsql⟩ := compile_eq_ok r statement h
  obtain ⟨-, ha, -, hf⟩ := (check_eq_ok_iff r).mp hcheck
  rw [hsql, placeholdersOf_sql ha hf, size_of_compile h]
  exact hquery.append_right _

section Runs

variable {bound : Nat} (h : (placeholdersOf statement.sql).Perm
  (numerals 1 bound ++ numerals 1 statement.arguments.size))
include h

theorem count_of_perm (n : Nat) :
    (placeholdersOf statement.sql).count (Nat.toDigits 10 n) =
      (if 1 ≤ n ∧ n ≤ bound then 1 else 0) +
        if 1 ≤ n ∧ n ≤ statement.arguments.size then 1 else 0 := by
  rw [h.count_eq, List.count_append, count_numerals, count_numerals]

theorem mem_of_perm {digits : List Char} (hd : digits ∈ placeholdersOf statement.sql) :
    ∃ n, 1 ≤ n ∧ n ≤ max bound statement.arguments.size ∧ digits = Nat.toDigits 10 n := by
  have hmem := List.mem_append.mp (h.mem_iff.mp hd)
  simp only [numerals, List.mem_map, List.mem_range'_1] at hmem
  obtain ⟨n, hn, rfl⟩ | ⟨n, hn, rfl⟩ := hmem
  · exact ⟨n, hn.1, by omega, rfl⟩
  · exact ⟨n, hn.1, by omega, rfl⟩

-- If the query has placeholders, then the first of them either has no argument or is one of the
-- request as well.
theorem oneToOne_iff : OneToOne statement ↔ bound = 0 := by
  constructor
  · rintro ⟨honce, honly⟩
    by_contra hbound
    have hcount := count_of_perm h 1
    have hpresent : Nat.toDigits 10 1 ∈ placeholdersOf statement.sql :=
      List.count_pos_iff.mp (by rw [hcount, if_pos (by omega)]; omega)
    obtain ⟨n, hn, hle, -⟩ := honly _ hpresent
    have htwice := honce 1 (Nat.le_refl 1) (by omega)
    rw [hcount, if_pos (by omega), if_pos (by omega)] at htwice
    omega
  · rintro rfl
    refine ⟨fun n hn hle => ?_, fun digits hd => ?_⟩
    · rw [count_of_perm h, if_neg (by omega), if_pos ⟨hn, hle⟩]
    · obtain ⟨n, hn, hle, rfl⟩ := mem_of_perm h hd
      exact ⟨n, hn, by omega, rfl⟩

end Runs

-- A request over a statement that was built numbers its arguments from one again. Where the
-- statement binds none of its own, each number stands in the text once. Where it does, the two
-- runs of numbers overlap.
theorem compile_over_built (calls : List (Call ρ)) (hu : Unambiguous {} calls) (base : Statement)
    (hbase : (({} : Builder).run calls).toSql = .ok base) (r : Request)
    (hquery : r.query = base.sql) (h : r.compile = .ok statement) :
    (OneToOne statement ↔ base.arguments.size = 0) ∧
    (∀ n, (placeholdersOf statement.sql).count (Nat.toDigits 10 n) =
      (if 1 ≤ n ∧ n ≤ base.arguments.size then 1 else 0) +
        if 1 ≤ n ∧ n ≤ statement.arguments.size then 1 else 0) ∧
    ∀ digits ∈ placeholdersOf statement.sql,
      ∃ n, 1 ≤ n ∧ n ≤ max base.arguments.size statement.arguments.size ∧
        digits = Nat.toDigits 10 n := by
  have hnumbered := (Builder.numbered_empty.run calls hu).statement base (toSql_eq_ok hbase)
  have hperm := placeholders_perm h (hquery ▸ hnumbered)
  exact ⟨oneToOne_iff hperm, count_of_perm hperm, fun _ hd => mem_of_perm hperm hd⟩

-- Records with a title, the statement that selects the titles, and a request for pages of them.
def titled : RecordType String :=
  ⟨"ref_game", [⟨"title", [("sql", "game_title")], fun title => .required (.text title)⟩]⟩

def titles : Statement := ⟨"SELECT refGame.game_title FROM ref_game refGame", {}⟩

def titlePages (query : String) : Request where
  query := query
  parameters := Parameters.ofPairs [("q", "dota"), ("filters[game_title:ne]", "Go")]
  allowed := ["game_title"]
  defaultField := "game_title"
  tableAlias := "a"

theorem compile_over_titles :
    (({} : Builder).run [.select titled "Go"]).toSql = .ok titles ∧
      ∃ statement, (titlePages titles.sql).compile = .ok statement ∧
        statement.arguments.size = 2 ∧ OneToOne statement := by
  have hu : Unambiguous {} [Call.select titled "Go"] := by
    simp only [titled, Unambiguous]
    decide +kernel
  have hbase : (({} : Builder).run [.select titled "Go"]).toSql = .ok titles := by
    with_unfolding_all rfl
  have hpages := compile_of_passed (r := titlePages titles.sql) rfl
  refine ⟨hbase, _, hpages, by decide +kernel, ?_⟩
  exact (compile_over_built _ hu titles hbase (titlePages titles.sql) rfl hpages).1.mpr rfl

-- A condition with an argument of its own, which takes the first number as the search does.
def conditioned : List (Call String) :=
  [.select titled "Go", .whereClause "game_id = ?" [.value (.int 507)]]

def conditionedTitles : Statement :=
  ⟨"SELECT refGame.game_title FROM ref_game refGame WHERE game_id = $1", ⟨[.value (.int 507)]⟩⟩

theorem not_oneToOne_conditioned :
    Unambiguous {} conditioned ∧
      (({} : Builder).run conditioned).toSql = .ok conditionedTitles ∧
      ∃ statement, (titlePages conditionedTitles.sql).compile = .ok statement ∧
        ¬OneToOne statement := by
  have hu : Unambiguous {} conditioned := by
    simp only [conditioned, titled, Unambiguous]
    decide +kernel
  have hbase : (({} : Builder).run conditioned).toSql = .ok conditionedTitles := by
    with_unfolding_all rfl
  have hpages := compile_of_passed (r := titlePages conditionedTitles.sql) rfl
  have hquery : placeholdersOf conditionedTitles.sql = numerals 1 1 := by decide +kernel
  have hperm := placeholders_perm hpages (.of_eq hquery)
  exact ⟨hu, hbase, _, hpages, fun honce => absurd ((oneToOne_iff hperm).mp honce) (by decide)⟩

end Built

end RecordSql.Paging
