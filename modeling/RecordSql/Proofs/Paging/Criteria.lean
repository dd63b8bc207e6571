import RecordSql.Proofs.Paging.Configuration
import RecordSql.Proofs.Paging.Noninterference
import RecordSql.Proofs.Paging.Numbering

namespace RecordSql.Paging

section Keys

def Operator.name : Operator → String
  | .equal => "eq"
  | .notEqual => "ne"
  | .greater => "gt"
  | .greaterOrEqual => "gte"
  | .less => "lt"
  | .lessOrEqual => "lte"
  | .like => "like"
  | .likeAnyCase => "ilike"

def filterKey (field : String) (operator : Operator) : String :=
  "filters[" ++ field ++ ":" ++ operator.name ++ "]"

theorem ofName?_eq_some_iff {name : String} {operator : Operator} :
    Operator.ofName? name = some operator ↔ name = operator.name := by
  constructor
  · intro h
    unfold Operator.ofName? at h
    split at h
    case h_9 => cases h
    all_goals
      obtain rfl := Option.some.inj h
      rfl
  · rintro rfl
    cases operator <;> rfl

theorem toList_filterKey (field : String) (operator : Operator) :
    (filterKey field operator).toList =
      "filters[".toList ++ (field.toList ++ ':' :: operator.name.toList ++ [']']) := by
  have hcolon : ":".toList = [':'] := rfl
  have hclose : "]".toList = [']'] := rfl
  simp only [filterKey, String.toList_append, hcolon, hclose, List.append_assoc,
    List.cons_append, List.nil_append]

-- A key is read as a filter exactly when it is the key of the filter. The colon that counts is
-- the first one, so no colon is part of the field.
theorem ofKey?_eq_some_iff {key field : String} {operator : Operator} :
    Filter.ofKey? key = some (field, operator) ↔
      ':' ∉ field.toList ∧ key = filterKey field operator := by
  rw [← String.toList_inj, toList_filterKey]
  constructor
  · intro h
    unfold Filter.ofKey? at h
    split at h
    · cases h
    · rename_i opened hopen
      split at h
      · cases h
      · rename_i inner hclose
        split at h
        · cases h
        · rename_i before name hcut
          obtain ⟨named, hname, hpair⟩ := Option.map_eq_some_iff.mp h
          obtain ⟨rfl, rfl⟩ := Prod.mk.inj hpair
          obtain ⟨hcolon, rfl⟩ := Text.cut_eq_some_iff.mp hcut
          rw [List.isPrefixOf?_eq_some_iff_append_eq] at hopen
          rw [List.isSuffixOf?_eq_some_iff_append_eq] at hclose
          have hlist : named.name.toList = name := by
            rw [← ofName?_eq_some_iff.mp hname, String.toList_ofList]
          rw [hlist, String.toList_ofList, hclose, hopen]
          exact ⟨hcolon, rfl⟩
  · rintro ⟨hcolon, hkey⟩
    have hopen := List.isPrefixOf?_eq_some_iff_append_eq.mpr hkey.symm
    have hclose : [']'].isSuffixOf? (field.toList ++ ':' :: operator.name.toList ++ [']']) =
        some (field.toList ++ ':' :: operator.name.toList) :=
      List.isSuffixOf?_eq_some_iff_append_eq.mpr rfl
    have hcut : Text.cut ':' (field.toList ++ ':' :: operator.name.toList) =
        (field.toList, some operator.name.toList) :=
      Text.cut_eq_some_iff.mpr ⟨hcolon, rfl⟩
    have hname : Operator.ofName? operator.name = some operator := ofName?_eq_some_iff.mpr rfl
    unfold Filter.ofKey?
    simp only [hopen, hclose, hcut, String.ofList_toList, hname, Option.map_some]

end Keys

-- What a request asks of the rows: a text to search for, or a filter.
inductive Criterion
  | search (text : String)
  | filter (f : Filter)
  deriving DecidableEq

namespace Criterion

-- The key of the request that a criterion comes from.
def key : Criterion → String
  | .search _ => "q"
  | .filter f => filterKey f.field f.operator

def operand : Criterion → String
  | .search text => text
  | .filter f => f.operand

-- What becomes of a criterion in a statement. Its operand stays out of the text.
def predicate (r : Request) : Criterion → String → String
  | .search _, place =>
    "( " ++ r.tableAlias ++ "." ++ r.defaultField ++ " ILIKE '%' || " ++ place ++ " || '%' )"
  | .filter f, place => r.tableAlias ++ "." ++ f.field ++ " " ++ f.operator.sql ++ " " ++ place

-- What a configuration lets a request ask for.
def Admitted (r : Request) : Criterion → Prop
  | .search text => text ≠ "" ∧ r.defaultField ∈ r.allowed
  | .filter f => f.field ∈ r.allowed

end Criterion

-- A statement whose predicates are made of criteria, in their order. Each of them has the number of
-- its place and the argument at that place.
structure MadeOf (r : Request) (criteria : List Criterion) (statement : Sql.Statement) : Prop where
  sql : statement.sql = "SELECT * FROM (" ++ r.query ++ ") AS " ++ r.tableAlias ++
    Request.clause " WHERE " " AND "
      (criteria.mapIdx fun i c => c.predicate r (Sql.placeholder (i + 1))) ++ r.excerpt
  arguments : statement.arguments = ⟨criteria.map fun c => .value (.text c.operand)⟩

theorem ofEntry?_eq_some_iff {entry : String × List String} {f : Filter} :
    Filter.ofEntry? entry = some f ↔ Filter.ofKey? entry.1 = some (f.field, f.operator) ∧
      entry.2.head? = some f.operand := by
  unfold Filter.ofEntry?
  constructor
  · intro h
    split at h
    · rename_i hkey hhead
      obtain rfl := Option.some.inj h
      exact ⟨hkey, hhead⟩
    · cases h
  · rintro ⟨hkey, hhead⟩
    rw [hkey, hhead]

namespace Request

variable (r : Request)

def criteria : List Criterion :=
  (r.search?.map Criterion.search).toList ++ r.filters.map Criterion.filter

theorem mem_filters_iff (f : Filter) :
    f ∈ r.filters ↔ f.field ∈ r.allowed ∧ ':' ∉ f.field.toList ∧
      r.parameters.get? (filterKey f.field f.operator) = some f.operand := by
  rw [filters, List.mem_mergeSort, List.mem_filter, List.mem_filterMap, isAllowed_iff,
    Parameters.get?_eq_some_iff]
  simp only [ofEntry?_eq_some_iff, ofKey?_eq_some_iff]
  tauto

-- The criteria are what the request asks for, as far as it may. No field that it may ask for has a
-- colon in it.
theorem mem_criteria_iff (hf : ∀ field ∈ r.allowed, Sql.PlainName field) (c : Criterion) :
    c ∈ r.criteria ↔ r.parameters.get? c.key = some c.operand ∧ c.Admitted r := by
  cases c with
  | search text =>
    have h := search?_eq_some_iff r text
    simpa [criteria, Criterion.key, Criterion.operand, Criterion.Admitted] using h
  | filter f =>
    have hmem : Criterion.filter f ∈ r.criteria ↔ f ∈ r.filters := by simp [criteria]
    have hcolon : f.field ∈ r.allowed → ':' ∉ f.field.toList :=
      fun h => (hf f.field h).notMem (by decide)
    rw [hmem, mem_filters_iff]
    simp only [Criterion.key, Criterion.operand, Criterion.Admitted]
    tauto

theorem nodup_keys_filters : (r.filters.map fun f => filterKey f.field f.operator).Nodup := by
  have hkey : ∀ entry f, Filter.ofEntry? entry = some f → entry.1 = filterKey f.field f.operator :=
    fun entry f h => (ofKey?_eq_some_iff.mp (ofEntry?_eq_some_iff.mp h).1).2
  -- what is read comes in the order of the keys, and sorting it changes only the order
  have hrising : (r.parameters.entries.filterMap Filter.ofEntry?).Pairwise
      fun f g => filterKey f.field f.operator < filterKey g.field g.operator :=
    r.parameters.sorted.filterMap _ fun entry other hlt f hf g hg => by
      rwa [← hkey entry f hf, ← hkey other g hg]
  have hread : ((r.parameters.entries.filterMap Filter.ofEntry?).map
      fun f => filterKey f.field f.operator).Nodup :=
    List.pairwise_map.mpr (hrising.imp String.ne_of_lt)
  have hperm := List.mergeSort_perm ((r.parameters.entries.filterMap Filter.ofEntry?).filter
    (r.isAllowed ·.field)) Filter.precedes
  exact (hperm.map _).nodup_iff.mpr (hread.sublist (List.filter_sublist.map _))

theorem nodup_keys_criteria : (r.criteria.map Criterion.key).Nodup := by
  have hq : ∀ field operator, filterKey field operator ≠ "q" := by
    intro field operator h
    have hlist := congrArg String.toList h
    rw [toList_filterKey] at hlist
    cases hlist
  have hfilters : (r.filters.map Criterion.filter).map Criterion.key =
      r.filters.map fun f => filterKey f.field f.operator := List.map_map
  rw [criteria, List.map_append, hfilters]
  cases r.search? with
  | none => exact r.nodup_keys_filters
  | some text =>
    refine List.nodup_cons.mpr ⟨fun hmem => ?_, r.nodup_keys_filters⟩
    obtain ⟨f, -, hf⟩ := List.mem_map.mp hmem
    exact hq f.field f.operator hf

-- Items that are given their placeholders one after the other are given the numbers of their
-- places.
theorem zipWith_placeholders {α : Type} (write : α → String → String) (items : List α) :
    List.zipWith write items (Sql.placeholders 1 items.length) =
      items.mapIdx fun i item => write item (Sql.placeholder (i + 1)) := by
  refine List.ext_getElem (by simp) fun i hleft hright => ?_
  simp [Sql.placeholders, Nat.add_comm]

theorem predicates_eq (ha : Sql.PlainName r.tableAlias) :
    r.predicates = r.criteria.map fun c => ⟨c.predicate r, c.operand⟩ := by
  have hsearch : ∀ text, r.searchText = (Criterion.search text).predicate r := fun text => by
    funext place
    simp only [searchText, Criterion.predicate, column_eq r ha, String.append_assoc]
  have hfilter : ∀ f, r.filterText f = (Criterion.filter f).predicate r := fun f => by
    funext place
    simp only [filterText, Criterion.predicate, column_eq r ha]
  have hfilters : r.filters.map (fun f => (⟨r.filterText f, f.operand⟩ : Predicate)) =
      (r.filters.map Criterion.filter).map fun c => ⟨c.predicate r, c.operand⟩ := by
    rw [List.map_map]
    exact List.map_congr_left fun f _ => congrArg (Predicate.mk · f.operand) (hfilter f)
  rw [predicates, criteria, List.map_append, hfilters]
  cases r.search? with
  | none => rfl
  | some text =>
    rw [hsearch text]
    rfl

theorem compile_madeOf (h : ¬r.Misconfigured) :
    ∃ statement, r.compile = .ok statement ∧ MadeOf r r.criteria statement := by
  have hcheck := r.check_eq_ok_iff_not_misconfigured.mpr h
  have ha := ((check_eq_ok_iff r).mp hcheck).2.1
  have hpredicates := r.predicates_eq ha
  have hconditions : r.conditionTexts =
      r.criteria.mapIdx fun i c => c.predicate r (Sql.placeholder (i + 1)) := by
    rw [conditionTexts, hpredicates, List.zipWith_map_left, List.length_map]
    exact zipWith_placeholders (fun c place => c.predicate r place) r.criteria
  refine ⟨_, compile_of_passed hcheck, ?_, ?_⟩
  · dsimp only
    rw [sql_parts, hconditions]
    simp only [String.append_assoc]
  · dsimp only
    rw [hpredicates, List.map_map]
    rfl

-- A request is compiled to exactly the predicates that it asks for and may ask for. The search
-- stands in front of the filters, no key gives two predicates, and the first value of the key is
-- the argument.
theorem compile_criteria (h : ¬r.Misconfigured) :
    ∃ statement criteria, r.compile = .ok statement ∧ MadeOf r criteria statement ∧
      (criteria.map Criterion.key).Nodup ∧
      (∀ c, c ∈ criteria ↔ r.parameters.get? c.key = some c.operand ∧ c.Admitted r) ∧
      ∀ c ∈ criteria.tail, ∃ f, c = .filter f := by
  obtain ⟨statement, hok, hmade⟩ := r.compile_madeOf h
  have hf := ((check_eq_ok_iff r).mp (r.check_eq_ok_iff_not_misconfigured.mpr h)).2.2.2
  refine ⟨statement, r.criteria, hok, hmade, r.nodup_keys_criteria, r.mem_criteria_iff hf, ?_⟩
  intro c hc
  -- there is at most one search, and it stands in front
  have hfilter : c ∈ r.filters.map Criterion.filter := by
    unfold criteria at hc
    cases hs : r.search? with
    | none => exact List.mem_of_mem_tail (by simpa [hs] using hc)
    | some text => simpa [hs] using hc
  obtain ⟨f, -, rfl⟩ := List.mem_map.mp hfilter
  exact ⟨f, rfl⟩

end Request

-- A request with filters among keys that only look like some: with a colon or brackets too many,
-- an operator that there is not, and a field that may not be asked for.
def nearlyFilters : Request where
  query := "SELECT name, members FROM groups"
  parameters := Parameters.ofPairs [("filters[name:ne]", "Go"), ("filters[name:ne]", "Chess"),
    ("filters[name:eq:eq]", "1"), ("filters[filters[name:eq]]", "2"), ("filters[name:EQ]", "3"),
    ("filters[name]", "4"), ("filters[secret:eq]", "5"), ("filters[members:gte]", "6"), ("q", "o")]
  allowed := ["name", "members"]
  defaultField := "name"
  tableAlias := "g"

theorem compile_criteria_nearlyFilters :
    ¬nearlyFilters.Misconfigured ∧
      ∃ statement criteria, nearlyFilters.compile = .ok statement ∧
        MadeOf nearlyFilters criteria statement ∧ (criteria.map Criterion.key).Nodup ∧
        (∀ c, c ∈ criteria ↔
          nearlyFilters.parameters.get? c.key = some c.operand ∧ c.Admitted nearlyFilters) ∧
        (∀ c ∈ criteria.tail, ∃ f, c = .filter f) ∧
        statement.sql = "SELECT * FROM (SELECT name, members FROM groups) AS g WHERE " ++
          "( g.name ILIKE '%' || $1 || '%' ) AND g.members >= $2 AND g.name <> $3 " ++
          "LIMIT 20 OFFSET 0" ∧
        statement.arguments = ⟨[.value (.text "o"), .value (.text "6"), .value (.text "Go")]⟩ := by
  have hvalid : ¬nearlyFilters.Misconfigured :=
    nearlyFilters.check_eq_ok_iff_not_misconfigured.mp rfl
  obtain ⟨statement, criteria, hok, hmade, hkeys, hasked, hfirst⟩ :=
    nearlyFilters.compile_criteria hvalid
  obtain rfl := Except.ok.inj ((compile_of_passed rfl).symm.trans hok)
  have hread : (nearlyFilters.parameters.entries.filterMap Filter.ofEntry?).filter
      (nearlyFilters.isAllowed ·.field) =
        [⟨"members", .greaterOrEqual, "6"⟩, ⟨"name", .notEqual, "Go"⟩] := by decide +kernel
  have hfilters : nearlyFilters.filters =
      [⟨"members", .greaterOrEqual, "6"⟩, ⟨"name", .notEqual, "Go"⟩] := by
    rw [Request.filters, hread, List.mergeSort_of_pairwise (by decide +kernel)]
  refine ⟨hvalid, _, criteria, hok, hmade, hkeys, hasked, hfirst, ?_, ?_⟩
  · dsimp only
    rw [Request.sql_parts, Request.conditionTexts, Request.predicates, hfilters]
    decide +kernel
  · dsimp only
    rw [Request.predicates, hfilters]
    decide +kernel

end RecordSql.Paging
