import RecordSql.Proofs.Paging.Noninterference
import RecordSql.Proofs.Wire.ByteOrder

namespace RecordSql.Paging

-- The values that pairs give to a key, in the order of the pairs.
def valuesOf (key : String) (pairs : List (String × String)) : List String :=
  (pairs.filter (·.1 == key)).map (·.2)

section Values

variable {key : String}

theorem valuesOf_cons (pair : String × String) (rest : List (String × String)) :
    valuesOf key (pair :: rest) = (if key = pair.1 then [pair.2] else []) ++ valuesOf key rest := by
  unfold valuesOf
  by_cases hk : key = pair.1
  · simp [hk]
  · simp [hk, Ne.symm hk]

theorem valuesOf_ne_nil_iff (pairs : List (String × String)) :
    valuesOf key pairs ≠ [] ↔ key ∈ pairs.map (·.1) := by
  rw [valuesOf, ne_eq, List.map_eq_nil_iff, List.filter_eq_nil_iff]
  simp

end Values

section Insertion

variable {key name : String} {entries : List (String × List String)}

theorem lookup_cons_eq (entry : String × List String) (rest : List (String × List String)) :
    (entry :: rest).lookup name = if name = entry.1 then some entry.2 else rest.lookup name := by
  obtain ⟨key, content⟩ := entry
  by_cases hk : name = key
  · rw [hk, List.lookup_cons_self, if_pos rfl]
  · rw [List.lookup_cons, beq_false_of_ne hk, if_neg hk]

theorem lookup_eq_none (h : ∀ entry ∈ entries, key < entry.1) : entries.lookup key = none :=
  List.lookup_eq_none_iff.mpr fun entry he => by simpa using String.ne_of_lt (h entry he)

-- A value is added to those of its key, and to no others.
theorem getD_lookup_insertValue (value : String) (hs : entries.Pairwise (·.1 < ·.1)) :
    ((insertValue key value entries).lookup name).getD [] =
      (entries.lookup name).getD [] ++ if name = key then [value] else [] := by
  induction entries with
  | nil =>
    rw [insertValue, lookup_cons_eq]
    split <;> rfl
  | cons entry rest ih =>
    obtain ⟨hfirst, hrest⟩ := List.pairwise_cons.mp hs
    rw [insertValue]
    split
    · rename_i hlt
      -- The key was not there before, since keys only rise after the first one that is greater.
      have hnone : (entry :: rest).lookup key = none :=
        lookup_eq_none <| List.forall_mem_cons.mpr
          ⟨hlt, fun later hl => String.lt_trans hlt (hfirst later hl)⟩
      rw [lookup_cons_eq]
      by_cases hk : name = key
      · rw [if_pos hk, if_pos hk, hk, hnone]
        rfl
      · rw [if_neg hk, if_neg hk, List.append_nil]
    · split
      · rename_i hlt
        rw [lookup_cons_eq, lookup_cons_eq]
        by_cases he : name = entry.1
        · rw [if_pos he, if_pos he, if_neg (he ▸ String.ne_of_lt hlt), List.append_nil]
        · rw [if_neg he, if_neg he, ih hrest]
      · rename_i hge hle
        have he : entry.1 = key := String.le_antisymm (String.not_lt.mp hge) (String.not_lt.mp hle)
        rw [lookup_cons_eq, lookup_cons_eq, he]
        by_cases hk : name = key
        · rw [if_pos hk, if_pos hk, if_pos hk]
          rfl
        · rw [if_neg hk, if_neg hk, if_neg hk, List.append_nil]

end Insertion

namespace Parameters

variable {p other : Parameters}

theorem getAll_append (p : Parameters) (key value name : String) :
    (p.append key value).getAll name = p.getAll name ++ if name = key then [value] else [] :=
  getD_lookup_insertValue value p.sorted

theorem getAll_appendAll (p : Parameters) (pairs : List (String × String)) (key : String) :
    (p.appendAll pairs).getAll key = p.getAll key ++ valuesOf key pairs := by
  induction pairs generalizing p with
  | nil => exact (List.append_nil _).symm
  | cons pair rest ih =>
    have hstep := ih (p.append pair.1 pair.2)
    rw [getAll_append, List.append_assoc, ← valuesOf_cons] at hstep
    exact hstep

theorem getAll_ofPairs (pairs : List (String × String)) (key : String) :
    (ofPairs pairs).getAll key = valuesOf key pairs :=
  getAll_appendAll {} pairs key

-- The entries are the keys with what is found under them.
theorem entries_eq (p : Parameters) : p.entries = p.keys.map fun key => (key, p.getAll key) := by
  have hentry : ∀ entry ∈ p.entries, (entry.1, p.getAll entry.1) = entry := fun entry hm => by
    rw [getAll, (lookup_eq_some_iff_mem p.nodup_keys entry.1 entry.2).mpr hm]
    rfl
  rw [keys, List.map_map]
  exact (List.map_id _).symm.trans (List.map_congr_left fun entry hm => (hentry entry hm).symm)

theorem eq_of_getAll (hkeys : ∀ key, key ∈ p.keys ↔ key ∈ other.keys)
    (hvalues : ∀ key, p.getAll key = other.getAll key) : p = other := by
  have hentries : p.entries = other.entries := by
    rw [p.entries_eq, other.entries_eq, keys_ext hkeys, funext hvalues]
  cases p
  cases other
  simpa using hentries

-- All that is kept of pairs is the values of every key, in their order.
theorem ofPairs_eq_iff (others pairs : List (String × String)) :
    ofPairs others = ofPairs pairs ↔ ∀ key, valuesOf key others = valuesOf key pairs := by
  constructor
  · intro h key
    rw [← getAll_ofPairs others, h, getAll_ofPairs]
  · intro h
    refine eq_of_getAll (fun key => ?_) fun key => ?_
    · rw [mem_keys_ofPairs, mem_keys_ofPairs, ← valuesOf_ne_nil_iff, h key, valuesOf_ne_nil_iff]
    · rw [getAll_ofPairs, getAll_ofPairs, h key]

theorem mem_entries_ofPairs (pairs : List (String × String)) (key : String) (values : List String) :
    (key, values) ∈ (ofPairs pairs).entries ↔
      key ∈ pairs.map (·.1) ∧ values = valuesOf key pairs := by
  rw [entries_eq, List.mem_map, ← mem_keys_ofPairs]
  constructor
  · rintro ⟨found, hmem, hentry⟩
    obtain ⟨rfl, rfl⟩ := Prod.mk.inj hentry
    exact ⟨hmem, getAll_ofPairs pairs found⟩
  · rintro ⟨hmem, rfl⟩
    exact ⟨key, hmem, congrArg (key, ·) (getAll_ofPairs pairs key)⟩

theorem keys_ascend (p : Parameters) :
    (p.entries.map fun entry => Wire.utf8 entry.1).Pairwise (· < ·) :=
  List.pairwise_map.mpr (p.sorted.imp fun h => (Wire.utf8_lt_utf8_iff _ _).mpr h)

-- Pairs are kept as the values of every key, wherever it is that some of them are appended to the
-- others. The keys are gone through by their bytes, each of them once. In which order keys come in
-- is not kept, and no request asks for it.
theorem ofPairs_multimap (pairs : List (String × String)) :
    (∀ count, (ofPairs (pairs.take count)).appendAll (pairs.drop count) = ofPairs pairs) ∧
      (∀ key, (ofPairs pairs).getAll key = valuesOf key pairs ∧
        (ofPairs pairs).get? key = (valuesOf key pairs).head?) ∧
      ((ofPairs pairs).entries.map fun entry => Wire.utf8 entry.1).Pairwise (· < ·) ∧
      (∀ key values, (key, values) ∈ (ofPairs pairs).entries ↔
        key ∈ pairs.map (·.1) ∧ values = valuesOf key pairs) ∧
      ∀ others, (ofPairs others = ofPairs pairs ↔
          ∀ key, valuesOf key others = valuesOf key pairs) ∧
        ((∀ key, valuesOf key others = valuesOf key pairs) →
          ∀ r : Request, (r.asked others).compile = (r.asked pairs).compile) := by
  have hsplit : ∀ count,
      (ofPairs (pairs.take count)).appendAll (pairs.drop count) = ofPairs pairs := fun count => by
    rw [ofPairs, ← appendAll_append, List.take_append_drop, ofPairs]
  have hvalues : ∀ key, (ofPairs pairs).getAll key = valuesOf key pairs ∧
      (ofPairs pairs).get? key = (valuesOf key pairs).head? := fun key =>
    ⟨getAll_ofPairs pairs key, congrArg List.head? (getAll_ofPairs pairs key)⟩
  refine ⟨hsplit, hvalues, keys_ascend _, mem_entries_ofPairs pairs, fun others => ?_⟩
  refine ⟨ofPairs_eq_iff others pairs, fun h r => ?_⟩
  rw [Request.asked, Request.asked, (ofPairs_eq_iff others pairs).mpr h]

-- The request of before with its pairs in another order, which keeps the pages in theirs.
def movedPairs : List (String × String) :=
  [("page", " 2 "), ("filters[name:eq]", "' OR ''='"), ("sort", "-name"), ("page", "9"),
    ("filters[id:gte]", "$1; DROP"), ("q", "%' || pg_sleep(9)"), ("sort", "1; DROP")]

theorem ofPairs_multimap_movedPairs :
    (∀ key, valuesOf key movedPairs = valuesOf key hostilePairs) ∧ movedPairs ≠ hostilePairs ∧
      valuesOf "page" movedPairs = [" 2 ", "9"] ∧
      (groupPages.asked movedPairs).compile = (groupPages.asked hostilePairs).compile := by
  have hvalues : ∀ key, valuesOf key movedPairs = valuesOf key hostilePairs := by
    intro key
    by_cases hk : key ∈ ["q", "sort", "page", "filters[name:eq]", "filters[id:gte]"]
    · simp only [List.mem_cons, List.not_mem_nil, or_false] at hk
      rcases hk with rfl | rfl | rfl | rfl | rfl <;> rfl
    · simp only [List.mem_cons, List.not_mem_nil, or_false, not_or] at hk
      simp [movedPairs, hostilePairs, valuesOf_cons, hk]
  exact ⟨hvalues, by decide, by decide +kernel,
    ((ofPairs_multimap hostilePairs).2.2.2.2 movedPairs).2 hvalues groupPages⟩

end Parameters

end RecordSql.Paging
