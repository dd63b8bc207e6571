import RecordSql.Paging.Compile
import RecordSql.Proofs.Sql.Identifier

namespace RecordSql.Paging

section Grammar

-- Items with a separator between them. There is at least one item.
inductive Joined (separator : String) (item : String → Prop) : String → Prop
  | single (text : String) (h : item text) : Joined separator item text
  | more (text rest : String) (h : item text) (hr : Joined separator item rest) :
      Joined separator item (text ++ separator ++ rest)

-- A keyword and what it introduces, or nothing.
inductive Clause (keyword : String) (body : String → Prop) : String → Prop
  | absent : Clause keyword body ""
  | present (text : String) (h : body text) : Clause keyword body (keyword ++ text)

-- The texts that may stand between a column and its placeholder.
def operatorTexts : List String := ["=", "<>", ">", ">=", "<", "<=", "LIKE", "ILIKE"]

-- A name that a request may have written into the statement.
def Writable (r : Request) (field : String) : Prop :=
  field ∈ r.allowed ∧ Sql.PlainName field

inductive PredicateText (r : Request) : String → Prop
  | search (field : String) (n : Nat) (h : Writable r field) :
      PredicateText r
        ("( " ++ r.tableAlias ++ "." ++ field ++ " ILIKE '%' || " ++ Sql.placeholder n ++
          " || '%' )")
  | comparison (field operator : String) (n : Nat) (h : Writable r field)
      (ho : operator ∈ operatorTexts) :
      PredicateText r
        (r.tableAlias ++ "." ++ field ++ " " ++ operator ++ " " ++ Sql.placeholder n)

inductive OrderTerm (r : Request) : String → Prop
  | ascending (field : String) (h : Writable r field) :
      OrderTerm r (r.tableAlias ++ "." ++ field ++ " ASC")
  | descending (field : String) (h : Writable r field) :
      OrderTerm r (r.tableAlias ++ "." ++ field ++ " DESC")

-- The statements that a configuration admits, whatever the parameters of the request are.
def PageQuery (r : Request) (sql : String) : Prop :=
  ∃ conditions order limit offset,
    Clause " WHERE " (Joined " AND " (PredicateText r)) conditions ∧
    Clause " ORDER BY " (Joined ", " (OrderTerm r)) order ∧
    sql = "SELECT * FROM (" ++ r.query ++ ") AS " ++ r.tableAlias ++ conditions ++ order ++
      " LIMIT " ++ decimalNat limit ++ " OFFSET " ++ decimalNat offset

end Grammar

theorem operator_sql_mem (operator : Operator) : operator.sql ∈ operatorTexts := by
  cases operator <;> decide

theorem joined_intercalate (separator : String) (item : String → Prop) (first : String)
    (rest : List String) (h : ∀ text ∈ first :: rest, item text) :
    Joined separator item (separator.intercalate (first :: rest)) := by
  induction rest generalizing first with
  | nil => simpa using Joined.single first (h first (by simp))
  | cons next rest ih =>
    rw [String.intercalate_cons_cons]
    exact .more _ _ (h first (by simp)) (ih next fun text ht => h text (List.mem_cons_of_mem _ ht))

theorem clause_joined (keyword separator : String) (item : String → Prop) (items : List String)
    (h : ∀ text ∈ items, item text) :
    Clause keyword (Joined separator item) (Request.clause keyword separator items) := by
  cases items with
  | nil => exact .absent
  | cons first rest => exact .present _ (joined_intercalate separator item first rest h)

section Check

theorem checkName_eq_ok_iff (use : NameUse) (name : String) :
    checkName use name = .ok () ↔ Sql.PlainName name := by
  rw [← Sql.isIdentifier_iff]
  unfold checkName
  by_cases he : name = ""
  · subst he
    simp [Sql.isIdentifier]
  · by_cases hn : Sql.isIdentifier name = true <;> simp [he, hn]

theorem checkNames_eq_ok_iff (use : NameUse) (names : List String) :
    checkNames use names = .ok () ↔ ∀ name ∈ names, Sql.PlainName name := by
  induction names with
  | nil => simp [checkNames]
  | cons name rest ih =>
    rw [List.forall_mem_cons, ← ih, ← checkName_eq_ok_iff use]
    cases h : checkName use name <;> simp [checkNames, h, bind, Except.bind]

-- A request passes when its configuration does. Its parameters are not looked at.
theorem check_eq_ok_iff (r : Request) :
    r.check = .ok () ↔
      Unicode.trim r.query.toList ≠ [] ∧ Sql.PlainName r.tableAlias ∧
      (r.defaultField = "" ∨ Sql.PlainName r.defaultField) ∧
      ∀ field ∈ r.allowed, Sql.PlainName field := by
  rw [← checkNames_eq_ok_iff .allowedField, ← checkName_eq_ok_iff .tableAlias,
    ← checkName_eq_ok_iff .defaultField]
  unfold Request.check
  by_cases hq : Unicode.trim r.query.toList = []
  · simp [hq, bind, Except.bind, throw, throwThe, MonadExceptOf.throw]
  cases ha : checkName .tableAlias r.tableAlias with
  | error e => simp [hq, bind, Except.bind]
  | ok _ =>
    by_cases hd : r.defaultField = ""
    · simp [hq, hd, bind, Except.bind]
    · cases checkName .defaultField r.defaultField <;>
        simp [hq, hd, bind, Except.bind]

end Check

section Request

variable (r : Request)

theorem isAllowed_iff (field : String) : r.isAllowed field = true ↔ field ∈ r.allowed := by
  simp [Request.isAllowed]

-- A request may filter and sort by the fields that are allowed, and by no others.
theorem filters_allowed (filter : Filter) (h : filter ∈ r.filters) : filter.field ∈ r.allowed := by
  unfold Request.filters at h
  have hm := List.mem_mergeSort.mp h
  exact (isAllowed_iff r filter.field).mp (List.mem_filter.mp hm).2

theorem sortKeys_allowed (key : SortKey) (h : key ∈ r.sortKeys) : key.field ∈ r.allowed := by
  unfold Request.sortKeys at h
  split at h
  · simp at h
  · exact (isAllowed_iff r key.field).mp (List.mem_filter.mp h).2

theorem search?_eq_some_iff (text : String) :
    r.search? = some text ↔
      r.parameters.get? "q" = some text ∧ text ≠ "" ∧ r.defaultField ∈ r.allowed := by
  unfold Request.search? Request.isAllowed
  cases r.parameters.get? "q" with
  | none => simp
  | some found =>
    simp only [Option.some.injEq]
    constructor
    · intro h
      split at h
      · cases h
      · rename_i hn
        obtain rfl := Option.some.inj h
        simpa using hn
    · rintro ⟨rfl, hne, hd⟩
      simp [hne, hd]

theorem defaultField_allowed (text : String) (h : r.search? = some text) :
    r.defaultField ∈ r.allowed :=
  ((search?_eq_some_iff r text).mp h).2.2

-- The alias of a request that passes is not empty, so every column stands behind it.
theorem column_eq (h : Sql.PlainName r.tableAlias) (field : String) :
    r.column field = r.tableAlias ++ "." ++ field := by
  simp [Request.column, Sql.qualified, h.ne_empty]

theorem predicates_text (ha : Sql.PlainName r.tableAlias)
    (hf : ∀ field ∈ r.allowed, Sql.PlainName field) (predicate : Request.Predicate)
    (h : predicate ∈ r.predicates) (n : Nat) :
    PredicateText r (predicate.text (Sql.placeholder n)) := by
  unfold Request.predicates at h
  rcases List.mem_append.mp h with hs | hs
  · cases hq : r.search? with
    | none => simp [hq] at hs
    | some text =>
      have hd := defaultField_allowed r text hq
      obtain rfl : predicate = ⟨r.searchText, text⟩ := by simpa [hq] using hs
      have ht := PredicateText.search (r := r) r.defaultField n ⟨hd, hf _ hd⟩
      simpa [Request.searchText, column_eq r ha, String.append_assoc] using ht
  · obtain ⟨filter, hm, rfl⟩ := List.mem_map.mp hs
    have hd := filters_allowed r filter hm
    have ht := PredicateText.comparison (r := r) filter.field filter.operator.sql n
      ⟨hd, hf _ hd⟩ (operator_sql_mem filter.operator)
    simpa [Request.filterText, column_eq r ha, String.append_assoc] using ht

theorem sortText_term (ha : Sql.PlainName r.tableAlias)
    (hf : ∀ field ∈ r.allowed, Sql.PlainName field) (key : SortKey) (h : key ∈ r.sortKeys) :
    OrderTerm r (r.sortText key) := by
  have hd := sortKeys_allowed r key h
  unfold Request.sortText
  rw [column_eq r ha]
  by_cases hk : key.descending = true
  · simpa [hk] using OrderTerm.descending (r := r) key.field ⟨hd, hf _ hd⟩
  · simpa [hk] using OrderTerm.ascending (r := r) key.field ⟨hd, hf _ hd⟩

theorem compile_eq_ok (statement : Sql.Statement) (h : r.compile = .ok statement) :
    r.check = .ok () ∧ statement.sql = r.sql := by
  unfold Request.compile Request.statement? at h
  cases hc : r.check with
  | error e => simp [hc, Except.map, Except.mapError] at h
  | ok _ =>
    simp only [hc, Except.map, Except.mapError, Except.ok.injEq] at h
    exact ⟨rfl, h ▸ rfl⟩

-- Of a request only its choice among the fields of the configuration, and numbers, get into
-- the text of the statement.
theorem compile_pageQuery (statement : Sql.Statement) (h : r.compile = .ok statement) :
    PageQuery r statement.sql := by
  obtain ⟨hc, hs⟩ := compile_eq_ok r statement h
  obtain ⟨-, ha, -, hf⟩ := (check_eq_ok_iff r).mp hc
  refine ⟨_, _, r.size, r.offset, clause_joined _ _ _ _ ?_, clause_joined _ _ _ _ ?_, hs⟩
  · intro text ht
    obtain ⟨i, hi⟩ := List.mem_iff_getElem?.mp ht
    obtain ⟨predicate, place, hp, hn, rfl⟩ := List.getElem?_zipWith_eq_some.mp hi
    obtain ⟨n, -, rfl⟩ := List.mem_map.mp (List.mem_of_getElem? hn)
    exact predicates_text r ha hf predicate (List.mem_of_getElem? hp) n
  · intro text ht
    obtain ⟨key, hk, rfl⟩ := List.mem_map.mp ht
    exact sortText_term r ha hf key hk

end Request

-- A request that tries to get more into the text than it may.
def hostileRequest : Request where
  query := "SELECT name FROM groups"
  parameters := Parameters.ofPairs [("q", "1; DROP"), ("sort", "-name,1; DROP"), ("page", "3"),
    ("filters[name:eq]", "$1"), ("filters[1; DROP:eq]", "x"), ("filters[name:; DROP]", "x")]
  allowed := ["name"]
  defaultField := "name"
  tableAlias := "g"

theorem compile_hostileRequest :
    ∃ statement, hostileRequest.compile = .ok statement ∧
      statement.sql = "SELECT * FROM (SELECT name FROM groups) AS g WHERE " ++
        "( g.name ILIKE '%' || $1 || '%' ) AND g.name = $2 ORDER BY g.name DESC " ++
        "LIMIT 20 OFFSET 40" ∧
      PageQuery hostileRequest statement.sql :=
  ⟨⟨hostileRequest.sql, _⟩, rfl, by decide +kernel, compile_pageQuery hostileRequest _ rfl⟩

end RecordSql.Paging
