import RecordSql.Proofs.Paging.Criteria

namespace RecordSql.Paging

namespace Operator

-- The operators that stand behind an operator although their names come before its name.
def misplaced : Operator → List Operator
  | .notEqual => [.greater, .greaterOrEqual, .less, .lessOrEqual, .like, .likeAnyCase]
  | .less => [.like, .likeAnyCase]
  | .lessOrEqual => [.like, .likeAnyCase]
  | .like => [.likeAnyCase]
  | _ => []

theorem name_lt_iff {a b : Operator} (h : a.rank < b.rank) : a.name < b.name ↔ b ∉ a.misplaced := by
  revert h
  cases a <;> cases b <;> decide

theorem rank_lt_of_misplaced {a b : Operator} (h : b ∈ a.misplaced) : a.rank < b.rank := by
  revert h
  cases a <;> cases b <;> decide

end Operator

namespace Filter

-- A filter goes before another one for its field, or for the rank of its operator.
def Outranks (a b : Filter) : Prop :=
  a.field < b.field ∨ a.field = b.field ∧ a.operator.rank < b.operator.rank

-- A filter goes before another one for its field, or for the name of its operator.
def Alphabetical (a b : Filter) : Prop :=
  a.field < b.field ∨ a.field = b.field ∧ a.operator.name < b.operator.name

instance : DecidableRel Alphabetical := fun a b =>
  inferInstanceAs (Decidable (a.field < b.field ∨ a.field = b.field ∧ _))

theorem precedes_iff {a b : Filter} : precedes a b = true ↔
    a.field < b.field ∨ a.field = b.field ∧ a.operator.rank ≤ b.operator.rank := by
  simp [precedes]

theorem precedes_trans (a b c : Filter) (hab : precedes a b = true) (hbc : precedes b c = true) :
    precedes a c = true := by
  rw [precedes_iff] at hab hbc ⊢
  rcases hab with hab | ⟨hfield, hab⟩
  · rcases hbc with hbc | ⟨hnext, -⟩
    · exact .inl (String.lt_trans hab hbc)
    · exact .inl (hnext ▸ hab)
  · rcases hbc with hbc | ⟨hnext, hbc⟩
    · exact .inl (hfield ▸ hbc)
    · exact .inr ⟨hfield.trans hnext, Nat.le_trans hab hbc⟩

theorem precedes_total (a b : Filter) : (precedes a b || precedes b a) = true := by
  rw [Bool.or_eq_true, precedes_iff, precedes_iff]
  by_cases hab : a.field < b.field
  · exact .inl (.inl hab)
  by_cases hba : b.field < a.field
  · exact .inr (.inl hba)
  have hfield : a.field = b.field :=
    String.le_antisymm (String.not_lt.mp hba) (String.not_lt.mp hab)
  rcases Nat.le_total a.operator.rank b.operator.rank with hrank | hrank
  · exact .inl (.inr ⟨hfield, hrank⟩)
  · exact .inr (.inr ⟨hfield.symm, hrank⟩)

theorem Outranks.alphabetical_iff {a b : Filter} (h : a.Outranks b) :
    a.Alphabetical b ↔ (a.field = b.field → b.operator ∉ a.operator.misplaced) := by
  rcases h with hlt | ⟨hfield, hrank⟩
  · have hne : a.field ≠ b.field := String.ne_of_lt hlt
    simp [Alphabetical, hlt, hne]
  · have hirrefl : ¬b.field < b.field := String.lt_irrefl b.field
    simp only [Alphabetical, hfield, hirrefl, false_or, true_and, forall_true_left,
      Operator.name_lt_iff hrank]

end Filter

namespace Request

variable (r : Request)

theorem outranks_filters : r.filters.Pairwise Filter.Outranks := by
  have hsorted : r.filters.Pairwise fun a b => Filter.precedes a b = true :=
    List.pairwise_mergeSort Filter.precedes_trans Filter.precedes_total _
  have hdistinct := List.pairwise_map.mp r.nodup_keys_filters
  -- two filters of one field have different keys, so that their ranks differ too
  refine hsorted.imp₂ (fun a b hab hne => ?_) hdistinct
  rcases Filter.precedes_iff.mp hab with hlt | ⟨hfield, hrank⟩
  · exact .inl hlt
  · refine .inr ⟨hfield, Nat.lt_of_le_of_ne hrank fun hsame => hne ?_⟩
    rw [hfield, Operator.rank_inj hsame]

-- The order of the ranks runs against the order of the names only where one field has two filters
-- whose operators are misplaced.
theorem alphabetical_filters_iff :
    r.filters.Pairwise Filter.Alphabetical ↔ ∀ a ∈ r.filters, ∀ b ∈ r.filters,
      a.field = b.field → b.operator ∉ a.operator.misplaced := by
  have hranked := r.outranks_filters
  constructor
  · intro h
    -- a later filter is not misplaced since the order is alphabetical, and an earlier one could not
    -- be since its rank is lower.
    have hforth : r.filters.Pairwise fun a b =>
        a.field = b.field → b.operator ∉ a.operator.misplaced :=
      hranked.imp₂ (fun a b hab => hab.alphabetical_iff.mp) h
    have hback : r.filters.Pairwise fun a b =>
        b.field = a.field → a.operator ∉ b.operator.misplaced := by
      refine hranked.imp fun {a b} hab hfield hmisplaced => ?_
      have hrank := Operator.rank_lt_of_misplaced hmisplaced
      rcases hab with hlt | ⟨-, hforth⟩
      · exact String.lt_irrefl _ (hfield ▸ hlt)
      · omega
    have hself : ∀ a ∈ r.filters, a.field = a.field → a.operator ∉ a.operator.misplaced :=
      fun a _ _ hmisplaced => Nat.lt_irrefl _ (Operator.rank_lt_of_misplaced hmisplaced)
    exact hforth.forall_of_forall_of_flip hself hback
  · intro h
    refine hranked.imp_of_mem fun ha hb hab => ?_
    exact hab.alphabetical_iff.mpr (h _ ha _ hb)

-- The filters of a compiled request go by field and by the rank of the operator, and their
-- arguments go with them. They are in alphabetical order unless the request asks for one field
-- under two operators of which one is misplaced behind the other.
theorem compile_filters_ranked (h : ¬r.Misconfigured) :
    ∃ (statement : Sql.Statement) (search : List Criterion) (filters : List Filter),
      r.compile = .ok statement ∧ MadeOf r (search ++ filters.map .filter) statement ∧
      (∀ c ∈ search, ∃ text, c = .search text) ∧
      (∀ f, f ∈ filters ↔ f.field ∈ r.allowed ∧
        r.parameters.get? (filterKey f.field f.operator) = some f.operand) ∧
      filters.Pairwise Filter.Outranks ∧
      (filters.Pairwise Filter.Alphabetical ↔ ∀ a ∈ filters, ∀ b ∈ filters,
        a.field = b.field → b.operator ∉ a.operator.misplaced) := by
  obtain ⟨statement, hok, hmade⟩ := r.compile_madeOf h
  have hf := ((check_eq_ok_iff r).mp (r.check_eq_ok_iff_not_misconfigured.mpr h)).2.2.2
  refine ⟨statement, (r.search?.map Criterion.search).toList, r.filters, hok, hmade, ?_, ?_,
    r.outranks_filters, r.alphabetical_filters_iff⟩
  · intro c hc
    obtain ⟨text, -, hsearch⟩ := Option.map_eq_some_iff.mp (Option.mem_toList.mp hc)
    exact ⟨text, hsearch.symm⟩
  · intro f
    have hcolon : f.field ∈ r.allowed → ':' ∉ f.field.toList :=
      fun hm => (hf f.field hm).notMem (by decide)
    rw [mem_filters_iff]
    tauto

end Request

-- A request that asks for one field under two operators whose ranks and names disagree.
def boundedMembers : Request where
  query := "SELECT name, members FROM groups"
  parameters := Parameters.ofPairs [("filters[members:gt]", "1"), ("filters[members:ne]", "2")]
  allowed := ["members"]
  tableAlias := "g"

theorem filters_boundedMembers :
    boundedMembers.filters = [⟨"members", .notEqual, "2"⟩, ⟨"members", .greater, "1"⟩] := by
  have hread : (boundedMembers.parameters.entries.filterMap Filter.ofEntry?).filter
      (boundedMembers.isAllowed ·.field) =
        [⟨"members", .greater, "1"⟩, ⟨"members", .notEqual, "2"⟩] := by decide +kernel
  have hswap : Filter.precedes ⟨"members", .greater, "1"⟩ ⟨"members", .notEqual, "2"⟩ = false := by
    decide +kernel
  rw [Request.filters, hread]
  simp [List.mergeSort, hswap]

theorem compile_boundedMembers :
    ∃ statement, boundedMembers.compile = .ok statement ∧
      statement.sql = "SELECT * FROM (SELECT name, members FROM groups) AS g " ++
        "WHERE g.members <> $1 AND g.members > $2 LIMIT 20 OFFSET 0" ∧
      statement.arguments = ⟨[.value (.text "2"), .value (.text "1")]⟩ := by
  refine ⟨_, compile_of_passed rfl, ?_, ?_⟩
  · dsimp only
    rw [Request.sql_parts, Request.conditionTexts, Request.predicates, filters_boundedMembers]
    decide +kernel
  · dsimp only
    rw [Request.predicates, filters_boundedMembers]
    decide +kernel

theorem compile_filters_ranked_boundedMembers :
    ¬boundedMembers.Misconfigured ∧
      ∃ (statement : Sql.Statement) (search : List Criterion) (filters : List Filter),
        boundedMembers.compile = .ok statement ∧
        MadeOf boundedMembers (search ++ filters.map .filter) statement ∧
        (∀ c ∈ search, ∃ text, c = .search text) ∧
        (∀ f, f ∈ filters ↔ f.field ∈ boundedMembers.allowed ∧
          boundedMembers.parameters.get? (filterKey f.field f.operator) = some f.operand) ∧
        filters.Pairwise Filter.Outranks ∧
        (filters.Pairwise Filter.Alphabetical ↔ ∀ a ∈ filters, ∀ b ∈ filters,
          a.field = b.field → b.operator ∉ a.operator.misplaced) ∧
        statement.sql = "SELECT * FROM (SELECT name, members FROM groups) AS g " ++
          "WHERE g.members <> $1 AND g.members > $2 LIMIT 20 OFFSET 0" := by
  have hvalid : ¬boundedMembers.Misconfigured :=
    boundedMembers.check_eq_ok_iff_not_misconfigured.mp rfl
  obtain ⟨statement, search, filters, hok, hmade, hsearch, hfilters, hranked, halpha⟩ :=
    boundedMembers.compile_filters_ranked hvalid
  obtain ⟨other, hother, hsql, -⟩ := compile_boundedMembers
  obtain rfl := Except.ok.inj (hother.symm.trans hok)
  exact ⟨hvalid, other, search, filters, hok, hmade, hsearch, hfilters, hranked, halpha, hsql⟩

-- The name `gt` comes before `ne`, but the filter with `ne` stands first.
theorem not_alphabetical_boundedMembers :
    ¬boundedMembers.Misconfigured ∧
      ∃ (statement : Sql.Statement) (filters : List Filter),
        boundedMembers.compile = .ok statement ∧
        MadeOf boundedMembers (filters.map .filter) statement ∧
        statement.sql = "SELECT * FROM (SELECT name, members FROM groups) AS g " ++
          "WHERE g.members <> $1 AND g.members > $2 LIMIT 20 OFFSET 0" ∧
        statement.arguments = ⟨[.value (.text "2"), .value (.text "1")]⟩ ∧
        ¬filters.Pairwise Filter.Alphabetical := by
  have hvalid : ¬boundedMembers.Misconfigured :=
    boundedMembers.check_eq_ok_iff_not_misconfigured.mp rfl
  obtain ⟨statement, hok, hmade⟩ := boundedMembers.compile_madeOf hvalid
  obtain ⟨other, hother, hsql, harguments⟩ := compile_boundedMembers
  obtain rfl := Except.ok.inj (hother.symm.trans hok)
  refine ⟨hvalid, other, boundedMembers.filters, hok, hmade, hsql, harguments, ?_⟩
  rw [filters_boundedMembers]
  decide +kernel

end RecordSql.Paging
