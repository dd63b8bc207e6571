import Mathlib.Data.List.Perm.Basic
import Mathlib.Data.List.Sort
import RecordSql.Paging.Compile
import RecordSql.Proofs.Text.Entries

namespace RecordSql.Paging

-- What can be seen of a statement when its arguments are covered: its text, and how many
-- arguments there are.
def shape (statement : Sql.Statement) : String × Nat :=
  (statement.sql, statement.arguments.size)

-- A configuration that is asked with the pairs of a request.
def Request.asked (r : Request) (pairs : List (String × String)) : Request :=
  { r with parameters := Parameters.ofPairs pairs }

-- Whether there is a text to search for.
def Parameters.searches (p : Parameters) : Prop :=
  ∃ text, p.get? "q" = some text ∧ text ≠ ""

section Keys

def Parameters.keys (p : Parameters) : List String := p.entries.map (·.1)

theorem mem_keys_insertValue (key value other : String) (entries : List (String × List String)) :
    other ∈ (insertValue key value entries).map (·.1) ↔
      other = key ∨ other ∈ entries.map (·.1) := by
  induction entries with
  | nil => simp [insertValue]
  | cons entry rest ih =>
    rw [insertValue]
    split
    · simp
    · rename_i hge
      split
      · simp only [List.map_cons, List.mem_cons, ih]
        tauto
      · rename_i hle
        have he : entry.1 = key := String.le_antisymm (String.not_lt.mp hge) (String.not_lt.mp hle)
        simp only [List.map_cons, List.mem_cons, he]
        tauto

theorem mem_keys_appendAll (p : Parameters) (pairs : List (String × String)) (key : String) :
    key ∈ (p.appendAll pairs).keys ↔ key ∈ p.keys ∨ key ∈ pairs.map (·.1) := by
  induction pairs generalizing p with
  | nil => simp [Parameters.appendAll]
  | cons pair rest ih =>
    have hstep : key ∈ (p.append pair.1 pair.2).keys ↔ key = pair.1 ∨ key ∈ p.keys :=
      mem_keys_insertValue pair.1 pair.2 key p.entries
    have hrest := ih (p.append pair.1 pair.2)
    rw [hstep] at hrest
    simp only [Parameters.appendAll, List.foldl_cons, List.map_cons, List.mem_cons] at hrest ⊢
    tauto

theorem mem_keys_ofPairs (pairs : List (String × String)) (key : String) :
    key ∈ (Parameters.ofPairs pairs).keys ↔ key ∈ pairs.map (·.1) :=
  (mem_keys_appendAll {} pairs key).trans (by simp [Parameters.keys])

theorem Parameters.keys_sorted (p : Parameters) : p.keys.Pairwise (· < ·) :=
  List.pairwise_map.mpr p.sorted

theorem Parameters.nodup_keys (p : Parameters) : p.keys.Nodup :=
  p.keys_sorted.imp String.ne_of_lt

-- Keys are in rising order, so that to have the same keys is to have them in the same order.
theorem keys_ext {p other : Parameters} (h : ∀ key, key ∈ p.keys ↔ key ∈ other.keys) :
    p.keys = other.keys := by
  have hperm := (List.perm_ext_iff_of_nodup p.nodup_keys other.nodup_keys).mpr h
  exact hperm.eq_of_pairwise (fun a b _ _ hab hba => absurd hba (String.lt_asymm hab))
    p.keys_sorted other.keys_sorted

-- The first value of a key is read off the entry that has the key.
theorem Parameters.get?_eq_some_iff (p : Parameters) {key value : String} :
    p.get? key = some value ↔ ∃ entry ∈ p.entries, entry.1 = key ∧ entry.2.head? = some value := by
  have hfound : ∀ values, p.entries.lookup key = some values ↔ (key, values) ∈ p.entries :=
    lookup_eq_some_iff_mem p.nodup_keys key
  unfold get? getAll
  constructor
  · intro h
    cases hv : p.entries.lookup key with
    | none => simp [hv] at h
    | some values => exact ⟨(key, values), (hfound values).mp hv, rfl, by simpa [hv] using h⟩
  · rintro ⟨⟨_, values⟩, hmem, rfl, hhead⟩
    simpa [(hfound values).mpr hmem] using hhead

-- A key that is there has a value.
def Parameters.Filled (p : Parameters) : Prop := ∀ entry ∈ p.entries, entry.2 ≠ []

theorem filled_append {p : Parameters} (h : p.Filled) (key value : String) :
    (p.append key value).Filled := by
  have hinsert : ∀ entries : List (String × List String), (∀ entry ∈ entries, entry.2 ≠ []) →
      ∀ entry ∈ insertValue key value entries, entry.2 ≠ [] := by
    intro entries he
    induction entries with
    | nil => simp [insertValue]
    | cons first rest ih =>
      obtain ⟨hf, hr⟩ := List.forall_mem_cons.mp he
      rw [insertValue]
      split
      · simpa [hf] using hr
      · split
        · simpa [hf] using ih hr
        · simpa using hr
  exact hinsert p.entries h

theorem filled_ofPairs (pairs : List (String × String)) : (Parameters.ofPairs pairs).Filled := by
  have hall : ∀ p : Parameters, p.Filled → (p.appendAll pairs).Filled := by
    induction pairs with
    | nil => exact fun p h => h
    | cons pair rest ih => exact fun p h => ih _ (filled_append h pair.1 pair.2)
  exact hall {} (by simp [Parameters.Filled])

end Keys

section Filters

-- What a filter writes into the statement.
def Filter.place (filter : Filter) : String × Operator := (filter.field, filter.operator)

theorem place_ofEntry? {entry : String × List String} (h : entry.2 ≠ []) :
    (Filter.ofEntry? entry).map Filter.place = Filter.ofKey? entry.1 := by
  obtain ⟨operand, hv⟩ := Option.isSome_iff_exists.mp (List.isSome_head?.mpr h)
  unfold Filter.ofEntry?
  rw [hv]
  cases Filter.ofKey? entry.1 <;> rfl

-- Places go by field, and those of one field by operator.
def placePrecedes (a b : String × Operator) : Bool :=
  a.1 < b.1 || (a.1 == b.1 && a.2.rank ≤ b.2.rank)

-- Which filters there are, and in which order, is read off the keys.
theorem places_filters (r : Request) (h : r.parameters.Filled) :
    r.filters.map Filter.place =
      ((r.parameters.keys.filterMap Filter.ofKey?).filter (r.isAllowed ·.1)).mergeSort
        placePrecedes := by
  have hplaces : (r.parameters.entries.filterMap Filter.ofEntry?).map Filter.place =
      r.parameters.keys.filterMap Filter.ofKey? := by
    rw [List.map_filterMap, Parameters.keys, List.filterMap_map]
    exact List.filterMap_congr fun entry hm => place_ofEntry? (h entry hm)
  have horder : ∀ a b : Filter, Filter.precedes a b = placePrecedes a.place b.place :=
    fun _ _ => rfl
  rw [Request.filters, List.map_mergeSort fun a _ b _ => horder a b, ← hplaces, List.filter_map]
  rfl

end Filters

section Text

variable (r : Request)

-- What a place becomes in the statement, apart from its placeholder.
def Request.placeText (r : Request) (place : String × Operator) (number : String) : String :=
  r.column place.1 ++ " " ++ place.2.sql ++ " " ++ number

theorem texts_predicates :
    r.predicates.map (·.text) =
      (if r.search?.isSome then [r.searchText] else []) ++
        (r.filters.map Filter.place).map r.placeText := by
  rw [Request.predicates, List.map_append, List.map_map, List.map_map]
  cases r.search? <;> rfl

-- The text of the statement is made of the texts of its predicates and of its sort keys, and of
-- two numbers.
theorem sql_eq :
    r.sql = "SELECT * FROM (" ++ r.query ++ ") AS " ++ r.tableAlias ++
      Request.clause " WHERE " " AND " (List.zipWith (fun text number => text number)
        (r.predicates.map (·.text))
        (Sql.placeholders 1 (r.predicates.map (·.text)).length)) ++
      Request.clause " ORDER BY " ", " (r.sortKeys.map r.sortText) ++
      " LIMIT " ++ decimalNat r.size ++ " OFFSET " ++ decimalNat r.offset := by
  unfold Request.sql
  dsimp only
  rw [List.zipWith_map_left, List.length_map]

theorem search?_isSome :
    r.search?.isSome = true ↔ r.parameters.searches ∧ r.isAllowed r.defaultField = true := by
  unfold Request.search? Parameters.searches
  cases r.parameters.get? "q" with
  | none => simp
  | some text => by_cases ht : text = "" <;> by_cases hd : r.isAllowed r.defaultField <;> simp [ht, hd]

theorem shape_compile :
    r.compile.map shape = (r.check.map fun _ => (r.sql, (r.predicates.map (·.text)).length)).mapError
      (.validation ·.message) := by
  unfold Request.compile Request.statement? shape
  cases r.check <;> simp [Except.map, Except.mapError, Sql.Arguments.size]

end Text

-- Two requests with the same keys, which ask for the same page of the same size and the same
-- order, and which both search or do not, are compiled to the same text with the same number of
-- arguments, or are refused for the same reason. No value has a part in it.
theorem compile_noninterference (r : Request) (left right : List (String × String))
    (hkeys : ∀ key, key ∈ left.map (·.1) ↔ key ∈ right.map (·.1))
    (hsort : (r.asked left).parameters.get? "sort" = (r.asked right).parameters.get? "sort")
    (hpage : (r.asked left).page = (r.asked right).page)
    (hsize : (r.asked left).size = (r.asked right).size)
    (hsearch : (r.asked left).parameters.searches ↔ (r.asked right).parameters.searches) :
    (r.asked left).compile.map shape = (r.asked right).compile.map shape := by
  have hk : (r.asked left).parameters.keys = (r.asked right).parameters.keys :=
    keys_ext fun key => by
      rw [Request.asked, Request.asked, mem_keys_ofPairs, mem_keys_ofPairs]
      exact hkeys key
  have hplaces : (r.asked left).filters.map Filter.place =
      (r.asked right).filters.map Filter.place := by
    rw [places_filters _ (filled_ofPairs left), places_filters _ (filled_ofPairs right), hk]
    rfl
  have hfound : (r.asked left).search?.isSome = (r.asked right).search?.isSome := by
    rw [Bool.eq_iff_iff, search?_isSome, search?_isSome, hsearch]
    rfl
  have htexts : (r.asked left).predicates.map (·.text) =
      (r.asked right).predicates.map (·.text) := by
    rw [texts_predicates, texts_predicates, hplaces, hfound]
    rfl
  have hkeysort : (r.asked left).sortKeys = (r.asked right).sortKeys := by
    unfold Request.sortKeys
    rw [hsort]
    rfl
  have hoffset : (r.asked left).offset = (r.asked right).offset := by
    unfold Request.offset
    rw [hpage, hsize]
  have hsql : (r.asked left).sql = (r.asked right).sql := by
    rw [sql_eq, sql_eq, htexts, hkeysort, hsize, hoffset]
    rfl
  have hcheck : (r.asked left).check = (r.asked right).check := rfl
  rw [shape_compile, shape_compile, hsql, htexts, hcheck]

-- A configuration, and two clients that ask it for the same things with other words.
def groupPages : Request where
  query := "SELECT name FROM groups"
  parameters := Parameters.ofPairs []
  allowed := ["name"]
  defaultField := "name"
  tableAlias := "g"

def plainPairs : List (String × String) :=
  [("q", "go"), ("sort", "-name"), ("page", "2"), ("filters[name:eq]", "go"),
    ("filters[id:gte]", "a")]

def hostilePairs : List (String × String) :=
  [("filters[id:gte]", "$1; DROP"), ("page", " 2 "), ("page", "9"), ("sort", "-name"),
    ("sort", "1; DROP"), ("filters[name:eq]", "' OR ''='"), ("q", "%' || pg_sleep(9)")]

theorem compile_noninterference_hostilePairs :
    (∀ key, key ∈ plainPairs.map (·.1) ↔ key ∈ hostilePairs.map (·.1)) ∧
      (groupPages.asked plainPairs).page = 2 ∧
      (groupPages.asked plainPairs).compile.map shape =
        .ok ("SELECT * FROM (SELECT name FROM groups) AS g WHERE " ++
          "( g.name ILIKE '%' || $1 || '%' ) AND g.name = $2 " ++
          "ORDER BY g.name DESC LIMIT 20 OFFSET 20", 2) ∧
      (groupPages.asked plainPairs).compile.map shape =
        (groupPages.asked hostilePairs).compile.map shape := by
  have hkeys : ∀ key, key ∈ plainPairs.map (·.1) ↔ key ∈ hostilePairs.map (·.1) := by
    intro key
    simp only [plainPairs, hostilePairs, List.map_cons, List.map_nil, List.mem_cons,
      List.not_mem_nil, or_false]
    tauto
  refine ⟨hkeys, by decide +kernel, ?_, ?_⟩
  · decide +kernel
  · refine compile_noninterference groupPages plainPairs hostilePairs hkeys (by decide +kernel)
      (by decide +kernel) (by decide +kernel) ⟨fun _ => ?_, fun _ => ?_⟩
    · exact ⟨"%' || pg_sleep(9)", by decide +kernel, by decide⟩
    · exact ⟨"go", by decide +kernel, by decide⟩

end RecordSql.Paging
