import RecordSql.Proofs.Paging.Configuration
import RecordSql.Proofs.Paging.Numbering
import RecordSql.Proofs.Text.Entries

namespace RecordSql.Paging

-- A field that can be told from the blanks, the minus sign and the commas around it.
structure Spellable (field : String) : Prop where
  nonempty : field ≠ ""
  leading : ∀ c ∈ field.toList.head?, Unicode.isBlank c = false
  trailing : ∀ c ∈ field.toList.getLast?, Unicode.isBlank c = false
  unsigned : '-' ∉ field.toList.head?
  single : ',' ∉ field.toList

theorem isBlank_of_namePart {c : Char} (h : Sql.NamePart c) : Unicode.isBlank c = false := by
  have hbetween : ∀ first last : Char, 33 ≤ first.toNat → last.toNat < 133 → first ≤ c → c ≤ last →
      Unicode.isBlank c = false := fun first last hfirst hlast hle hge =>
    Unicode.isBlank_of_visible (Nat.le_trans hfirst hle) (Nat.lt_of_le_of_lt hge hlast)
  rcases h with (⟨hle, hge⟩ | ⟨hle, hge⟩ | rfl) | ⟨hle, hge⟩
  · exact hbetween 'A' 'Z' (by decide) (by decide) hle hge
  · exact hbetween 'a' 'z' (by decide) (by decide) hle hge
  · decide
  · exact hbetween '0' '9' (by decide) (by decide) hle hge

theorem spellable_plainName {name : String} (h : Sql.PlainName name) : Spellable name where
  nonempty := h.ne_empty
  leading c hc := isBlank_of_namePart (h.namePart (List.mem_of_mem_head? hc))
  trailing c hc := isBlank_of_namePart (h.namePart (List.mem_of_mem_getLast? hc))
  unsigned hc := h.notMem (by decide) (List.mem_of_mem_head? hc)
  single := h.notMem (by decide)

namespace SortKey

-- How a sort key is written: its field, after a minus sign when it sorts downwards.
def spelling (key : SortKey) : List Char :=
  if key.descending then '-' :: key.field.toList else key.field.toList

-- An entry of a sort text, and the sort key that it stands for, if it is not empty. There may be
-- blanks around the key.
inductive Entry : List Char → Option SortKey → Prop
  | blank (text : List Char) (h : ∀ c ∈ text, Unicode.isBlank c = true) : Entry text none
  | key (before after : List Char) (key : SortKey) (h : Spellable key.field)
      (hb : ∀ c ∈ before, Unicode.isBlank c = true) (ha : ∀ c ∈ after, Unicode.isBlank c = true) :
      Entry (before ++ key.spelling ++ after) (some key)

-- A sort text: entries with commas between them, and the sort keys that these stand for.
inductive Spells : List Char → List SortKey → Prop
  | last (text : List Char) (key? : Option SortKey) (h : Entry text key?) : Spells text key?.toList
  | more (text rest : List Char) (key? : Option SortKey) (keys : List SortKey) (h : Entry text key?)
      (hr : Spells rest keys) : Spells (text ++ ',' :: rest) (key?.toList ++ keys)

theorem trim_spelling {key : SortKey} (h : Spellable key.field) {before after : List Char}
    (hb : ∀ c ∈ before, Unicode.isBlank c = true) (ha : ∀ c ∈ after, Unicode.isBlank c = true) :
    Unicode.trim (before ++ key.spelling ++ after) = key.spelling := by
  have hne : key.field.toList ≠ [] := fun hnil => h.nonempty (String.toList_eq_nil_iff.mp hnil)
  have hminus : Unicode.isBlank '-' = false := by decide
  refine Unicode.trim_padded hb ha ?_ ?_
  · unfold spelling
    split
    · simpa using hminus
    · exact h.leading
  · unfold spelling
    split
    · rw [List.getLast?_cons_of_ne_nil hne]
      exact h.trailing
    · exact h.trailing

theorem ofEntry?_padded {key : SortKey} (h : Spellable key.field) {before after : List Char}
    (hb : ∀ c ∈ before, Unicode.isBlank c = true) (ha : ∀ c ∈ after, Unicode.isBlank c = true) :
    ofEntry? (before ++ key.spelling ++ after) = some key := by
  unfold ofEntry?
  rw [trim_spelling h hb ha]
  obtain ⟨field, descending⟩ := key
  cases descending with
  | true => simp [spelling]
  | false =>
    -- a field without a sign is neither empty nor does it start like a sign
    have hspelling : spelling ⟨field, false⟩ = field.toList := rfl
    rw [hspelling]
    split
    · rename_i hnil
      exact absurd (String.toList_eq_nil_iff.mp hnil) h.nonempty
    · rename_i rest hminus
      exact absurd (by simp [hminus]) h.unsigned
    · rw [String.ofList_toList]

theorem Entry.ofEntry? {text : List Char} {key? : Option SortKey} (h : Entry text key?) :
    SortKey.ofEntry? text = key? := by
  cases h with
  | blank _ hblank =>
    unfold SortKey.ofEntry?
    rw [(Unicode.trim_eq_nil_iff text).mpr hblank]
  | key before after key hkey hb ha => exact ofEntry?_padded hkey hb ha

theorem Entry.comma_notMem {text : List Char} {key? : Option SortKey} (h : Entry text key?) :
    ',' ∉ text := by
  have hcomma : Unicode.isBlank ',' = false := by decide
  cases h with
  | blank _ hblank =>
    intro hmem
    simp [hblank _ hmem] at hcomma
  | key before after key hkey hb ha =>
    have hspelling : ',' ∉ key.spelling := by
      unfold spelling
      split
      · simpa using hkey.single
      · exact hkey.single
    simp only [List.mem_append]
    rintro ((hmem | hmem) | hmem)
    · simp [hb _ hmem] at hcomma
    · exact hspelling hmem
    · simp [ha _ hmem] at hcomma

-- The keys that a sort text stands for are read from it, each of them once and in their order.
theorem Spells.filterMap_splitOn {text : List Char} {keys : List SortKey} (h : Spells text keys) :
    (Text.splitOn ',' text).filterMap SortKey.ofEntry? = keys := by
  induction h with
  | last text key? h =>
    rw [Text.splitOn_eq_singleton h.comma_notMem]
    cases key? with
    | none => simp [h.ofEntry?]
    | some key => simp [h.ofEntry?]
  | more text rest key? keys h hr ih =>
    rw [Text.splitOn_append_cons h.comma_notMem]
    cases key? with
    | none => simpa [h.ofEntry?] using ih
    | some key => simpa [h.ofEntry?] using ih

end SortKey

namespace Request

variable (r : Request)

-- The statement up to the order of the rows.
def selection : String :=
  "SELECT * FROM (" ++ r.query ++ ") AS " ++ r.tableAlias ++
    clause " WHERE " " AND " r.conditionTexts

def orderTerm (key : SortKey) : String :=
  r.tableAlias ++ "." ++ key.field ++ if key.descending then " DESC" else " ASC"

theorem sortKeys_of_spells {sort : String} {keys : List SortKey}
    (hsort : r.parameters.get? "sort" = some sort) (h : SortKey.Spells sort.toList keys) :
    r.sortKeys = keys.filter (·.field ∈ r.allowed) := by
  unfold sortKeys
  rw [hsort]
  dsimp only
  rw [h.filterMap_splitOn]
  refine List.filter_congr fun key _ => ?_
  rw [Bool.eq_iff_iff, isAllowed_iff, decide_eq_true_iff]

theorem sortText_eq (ha : Sql.PlainName r.tableAlias) (key : SortKey) :
    r.sortText key = r.orderTerm key := by
  rw [sortText, orderTerm, column_eq r ha]

-- A request whose sort text stands for some keys is compiled to an order by just these keys, as far
-- as they may be sorted by. If there is none of them, then the rows are not ordered.
theorem compile_sorted (h : ¬r.Misconfigured) {sort : String} {keys : List SortKey}
    (hsort : r.parameters.get? "sort" = some sort) (hspells : SortKey.Spells sort.toList keys) :
    ∃ statement, r.compile = .ok statement ∧
      statement.sql = r.selection ++
        clause " ORDER BY " ", " ((keys.filter (·.field ∈ r.allowed)).map r.orderTerm) ++
        " LIMIT " ++ decimalNat r.size ++ " OFFSET " ++ decimalNat r.offset ∧
      ((∀ key ∈ keys, key.field ∉ r.allowed) → statement.sql =
        r.selection ++ " LIMIT " ++ decimalNat r.size ++ " OFFSET " ++ decimalNat r.offset) := by
  have hcheck := r.check_eq_ok_iff_not_misconfigured.mpr h
  have ha := ((check_eq_ok_iff r).mp hcheck).2.1
  have hterms : r.sortKeys.map r.sortText =
      (keys.filter (·.field ∈ r.allowed)).map r.orderTerm := by
    rw [r.sortKeys_of_spells hsort hspells]
    exact List.map_congr_left fun key _ => r.sortText_eq ha key
  have hsql : r.sql = r.selection ++
      clause " ORDER BY " ", " ((keys.filter (·.field ∈ r.allowed)).map r.orderTerm) ++
      " LIMIT " ++ decimalNat r.size ++ " OFFSET " ++ decimalNat r.offset := by
    rw [sql_parts]
    unfold excerpt selection
    rw [hterms]
    simp only [String.append_assoc]
  refine ⟨_, compile_of_passed hcheck, hsql, fun hnone => ?_⟩
  have hempty : keys.filter (·.field ∈ r.allowed) = [] :=
    List.filter_eq_nil_iff.mpr fun key hkey => by simpa using hnone key hkey
  have hclause : clause " ORDER BY " ", " (([] : List SortKey).map r.orderTerm) = "" := rfl
  rw [hempty, hclause, String.append_empty] at hsql
  exact hsql

end Request

-- A sort text with blanks and empty entries, and with a field that may not be sorted by.
def untidySort : String := " -name ,, secret,\tmembers ,"

def untidyKeys : List SortKey := [⟨"name", true⟩, ⟨"secret", false⟩, ⟨"members", false⟩]

theorem spells_untidySort : SortKey.Spells untidySort.toList untidyKeys := by
  have hplain : ∀ name, Sql.isIdentifier name = true → Spellable name := fun name h =>
    spellable_plainName ((Sql.isIdentifier_iff name).mp h)
  have hspace : ∀ c ∈ [' '], Unicode.isBlank c = true := List.forall_mem_singleton.mpr (by decide)
  have htab : ∀ c ∈ ['\t'], Unicode.isBlank c = true := List.forall_mem_singleton.mpr (by decide)
  have hnothing : ∀ c ∈ ([] : List Char), Unicode.isBlank c = true := List.forall_mem_nil _
  have hname : SortKey.Entry " -name ".toList (some ⟨"name", true⟩) :=
    .key [' '] [' '] ⟨"name", true⟩ (hplain _ rfl) hspace hspace
  have hsecret : SortKey.Entry " secret".toList (some ⟨"secret", false⟩) :=
    .key [' '] [] ⟨"secret", false⟩ (hplain _ rfl) hspace hnothing
  have hmembers : SortKey.Entry "\tmembers ".toList (some ⟨"members", false⟩) :=
    .key ['\t'] [' '] ⟨"members", false⟩ (hplain _ rfl) htab hspace
  have hempty : SortKey.Entry [] none := .blank [] hnothing
  exact .more _ _ _ _ hname (.more _ _ _ _ hempty (.more _ _ _ _ hsecret
    (.more _ _ _ _ hmembers (.last _ _ hempty))))

def untidyPages : Request where
  query := "SELECT name, members FROM groups"
  parameters := Parameters.ofPairs [("sort", untidySort), ("sort", "secret")]
  allowed := ["members", "name"]
  tableAlias := "g"

theorem compile_sorted_untidyPages :
    ¬untidyPages.Misconfigured ∧ untidyPages.parameters.get? "sort" = some untidySort ∧
      SortKey.Spells untidySort.toList untidyKeys ∧
      ∃ statement, untidyPages.compile = .ok statement ∧
        statement.sql = "SELECT * FROM (SELECT name, members FROM groups) AS g " ++
          "ORDER BY g.name DESC, g.members ASC LIMIT 20 OFFSET 0" := by
  have hvalid : ¬untidyPages.Misconfigured :=
    untidyPages.check_eq_ok_iff_not_misconfigured.mp rfl
  have hsort : untidyPages.parameters.get? "sort" = some untidySort := by decide +kernel
  obtain ⟨statement, hok, hsql, -⟩ :=
    untidyPages.compile_sorted hvalid hsort spells_untidySort
  refine ⟨hvalid, hsort, spells_untidySort, statement, hok, hsql.trans ?_⟩
  decide +kernel

end RecordSql.Paging
