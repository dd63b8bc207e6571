import RecordSql.Text.UrlEncoded

namespace RecordSql.Paging

def insertValue (key value : String) :
    List (String × List String) → List (String × List String)
  | [] => [(key, [value])]
  | entry :: rest =>
    if key < entry.1 then (key, [value]) :: entry :: rest
    else if entry.1 < key then entry :: insertValue key value rest
    else (entry.1, entry.2 ++ [value]) :: rest

theorem mem_insertValue_key {key value : String} {entries : List (String × List String)}
    {entry : String × List String} (h : entry ∈ insertValue key value entries) :
    entry.1 = key ∨ ∃ old ∈ entries, old.1 = entry.1 := by
  induction entries with
  | nil =>
    simp only [insertValue, List.mem_singleton] at h
    exact .inl (h ▸ rfl)
  | cons first rest ih =>
    simp only [insertValue] at h
    split at h
    · rcases List.mem_cons.mp h with rfl | h
      · exact .inl rfl
      · exact .inr ⟨entry, h, rfl⟩
    · split at h
      · rcases List.mem_cons.mp h with rfl | h
        · exact .inr ⟨entry, List.mem_cons_self, rfl⟩
        · exact (ih h).imp id fun ⟨old, ho, he⟩ => ⟨old, List.mem_cons_of_mem _ ho, he⟩
      · rcases List.mem_cons.mp h with rfl | h
        · exact .inr ⟨first, List.mem_cons_self, rfl⟩
        · exact .inr ⟨entry, List.mem_cons_of_mem _ h, rfl⟩

-- Keys stay in rising order, each of them once.
theorem insertValue_sorted (key value : String) {entries : List (String × List String)}
    (h : entries.Pairwise (·.1 < ·.1)) : (insertValue key value entries).Pairwise (·.1 < ·.1) := by
  induction entries with
  | nil => simp [insertValue]
  | cons first rest ih =>
    have hf := List.pairwise_cons.mp h
    simp only [insertValue]
    split
    · rename_i hlt
      refine List.pairwise_cons.mpr ⟨fun other ho => ?_, h⟩
      rcases List.mem_cons.mp ho with rfl | ho
      · exact hlt
      · exact String.lt_trans hlt (hf.1 other ho)
    · split
      · rename_i hlt
        refine List.pairwise_cons.mpr ⟨fun other ho => ?_, ih hf.2⟩
        rcases mem_insertValue_key ho with he | ⟨old, hold, he⟩
        · exact he ▸ hlt
        · exact he ▸ hf.1 old hold
      · exact List.pairwise_cons.mpr ⟨hf.1, hf.2⟩

-- The parameters of a request. A key may have several values, and these stay in the order in
-- which they came.
structure Parameters where
  entries : List (String × List String) := []
  sorted : entries.Pairwise (·.1 < ·.1) := by exact List.Pairwise.nil
  deriving DecidableEq

namespace Parameters

def append (p : Parameters) (key value : String) : Parameters :=
  ⟨insertValue key value p.entries, insertValue_sorted key value p.sorted⟩

def appendAll (p : Parameters) (pairs : List (String × String)) : Parameters :=
  pairs.foldl (fun p pair => p.append pair.1 pair.2) p

def ofPairs (pairs : List (String × String)) : Parameters :=
  appendAll {} pairs

def dropQuestionMark : List Char → List Char
  | '?' :: rest => rest
  | text => text

-- Reads a query string. One question mark in front of it does not count.
def parse (query : String) : Parameters :=
  ofPairs (Text.readQuery (String.ofList (dropQuestionMark query.toList)))

def getAll (p : Parameters) (key : String) : List String :=
  (p.entries.lookup key).getD []

def get? (p : Parameters) (key : String) : Option String :=
  (p.getAll key).head?

theorem appendAll_append (p : Parameters) (xs ys : List (String × String)) :
    p.appendAll (xs ++ ys) = (p.appendAll xs).appendAll ys := by
  simp [appendAll, List.foldl_append]

end Parameters

end RecordSql.Paging
