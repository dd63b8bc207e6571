import RecordSql.Proofs.Record.FirstUsable

namespace RecordSql

-- The parts that make a text with commas between them.
structure CommaSeparated (text : String) (parts : List String) : Prop where
  nonempty : parts ≠ []
  plain : ∀ part ∈ parts, ',' ∉ part.toList
  joined : ",".intercalate parts = text

-- A text of commas, at least one of them.
structure OnlyCommas (text : String) : Prop where
  nonempty : text ≠ ""
  comma : ∀ c ∈ text.toList, c = ','

-- Every text has just one way to be parted.
theorem commaSeparated_iff {text : String} {parts : List String} :
    CommaSeparated text parts ↔ parts = (Text.splitOn ',' text.toList).map String.ofList := by
  have hchars : parts = (Text.splitOn ',' text.toList).map String.ofList ↔
      Text.splitOn ',' text.toList = parts.map String.toList := by
    rw [eq_comm]
    constructor
    · rintro rfl
      simp [Function.comp_def]
    · intro h
      simp [h, Function.comp_def]
  have hcomma : ",".toList = [','] := rfl
  rw [hchars, Text.splitOn_eq_iff]
  constructor
  · rintro ⟨hne, hplain, rfl⟩
    refine ⟨by simpa using hne, by simpa using hplain, ?_⟩
    rw [String.toList_intercalate, hcomma]
  · rintro ⟨hne, hplain, hjoined⟩
    refine ⟨by simpa using hne, by simpa using hplain, ?_⟩
    rw [← String.toList_inj, String.toList_intercalate, hcomma, hjoined]

namespace Tag

variable {tag : Tag} {option : String}

-- The options are the parts of their text that are not empty, in the same order.
theorem optionList_eq {parts : List String} (h : CommaSeparated tag.options parts) :
    tag.optionList = parts.filter (· ≠ "") := by
  have hempty : ∀ part : List Char, (!part.isEmpty) = decide (String.ofList part ≠ "") := by
    intro part
    cases part <;> simp
  rw [commaSeparated_iff.mp h, optionList, List.filter_map]
  exact congrArg (List.map String.ofList) (List.filter_congr fun part _ => hempty part)

theorem exists_commaSeparated (tag : Tag) : ∃ parts, CommaSeparated tag.options parts :=
  ⟨_, commaSeparated_iff.mpr rfl⟩

theorem plain_of_mem_optionList (h : option ∈ tag.optionList) :
    option ≠ "" ∧ ',' ∉ option.toList := by
  obtain ⟨parts, hparts⟩ := tag.exists_commaSeparated
  rw [optionList_eq hparts, List.mem_filter] at h
  exact ⟨by simpa using h.2, hparts.plain option h.1⟩

theorem hasOption_iff_mem : tag.hasOption option = true ↔ option ∈ tag.optionList := by
  rw [hasOption, Bool.and_eq_true, bne_iff_ne, List.contains_iff_mem]
  exact and_iff_right_of_imp fun h => (plain_of_mem_optionList h).1

theorem hasNoOptions_iff : tag.hasNoOptions = true ↔ tag.options = "" := by
  rw [hasNoOptions, beq_iff_eq]

-- Of a text of commas no option is left.
theorem optionList_eq_nil_iff :
    tag.optionList = [] ↔ tag.hasNoOptions = true ∨ OnlyCommas tag.options := by
  have hcommas : tag.optionList = [] ↔ ∀ c ∈ tag.options.toList, c = ',' := by
    have hparts := Text.forall_mem_splitWhere_eq_nil_iff (· == ',') tag.options.toList
    simpa [optionList, Text.splitOn, List.filter_eq_nil_iff] using hparts
  rw [hcommas, hasNoOptions_iff]
  constructor
  · intro h
    by_cases hnone : tag.options = ""
    · exact .inl hnone
    · exact .inr ⟨hnone, h⟩
  · rintro (hnone | hsome)
    · simp [hnone]
    · exact hsome.comma

-- What a raw tag says of its options. The list and the search agree on every tag, and a tag
-- without options lists none. A tag whose options are nothing but commas lists none either, and
-- still it does not count as one without options.
theorem parse_optionViews {raw : String} (h : Tag.parse raw = tag) :
    Spells raw tag ∧
      (∃ parts, CommaSeparated tag.options parts ∧ tag.optionList = parts.filter (· ≠ "")) ∧
      (∀ option, tag.hasOption option = true ↔ option ∈ tag.optionList) ∧
      (∀ option, option = "" ∨ ',' ∈ option.toList → tag.hasOption option = false) ∧
      (tag.hasNoOptions = true → tag.optionList = []) ∧
      ((tag.hasNoOptions = true ↔ tag.optionList = []) ↔ ¬OnlyCommas tag.options) := by
  obtain ⟨parts, hparts⟩ := tag.exists_commaSeparated
  refine ⟨h ▸ spells_parse raw, ⟨parts, hparts, optionList_eq hparts⟩,
    fun option => hasOption_iff_mem, fun option hoption => ?_,
    fun hnone => optionList_eq_nil_iff.mpr (.inl hnone), ?_⟩
  · rw [Bool.eq_false_iff, ne_eq, hasOption_iff_mem]
    intro hmem
    obtain ⟨hne, hplain⟩ := plain_of_mem_optionList hmem
    exact hoption.elim hne hplain
  · rw [optionList_eq_nil_iff]
    constructor
    · intro hagree hsome
      exact hsome.nonempty (hasNoOptions_iff.mp (hagree.mpr (.inr hsome)))
    · intro hsome
      exact ⟨.inl, fun hnone => hnone.resolve_right hsome⟩

-- A tag with commas in a row, a blank, and a comma at its end.
def untidyPrice : Tag := ⟨"price", ",omitempty, string,"⟩

theorem parse_optionViews_untidyPrice :
    Tag.parse "price,,omitempty, string," = untidyPrice ∧
      Spells "price,,omitempty, string," untidyPrice ∧
      untidyPrice.optionList = ["omitempty", " string"] ∧
      untidyPrice.hasOption "omitempty" = true ∧ untidyPrice.hasOption "" = false ∧
      untidyPrice.hasOption "omitempty, string" = false ∧ ¬OnlyCommas untidyPrice.options ∧
      (untidyPrice.hasNoOptions = true ↔ untidyPrice.optionList = []) := by
  have hparse : Tag.parse "price,,omitempty, string," = untidyPrice := by decide +kernel
  obtain ⟨hspells, -, hfound, hnever, -, hagree⟩ := parse_optionViews hparse
  have hlist : untidyPrice.optionList = ["omitempty", " string"] := by decide +kernel
  have hsome : ¬OnlyCommas untidyPrice.options := by
    rintro ⟨-, hcomma⟩
    exact absurd (hcomma 'o' (by decide)) (by decide)
  refine ⟨hparse, hspells, hlist, (hfound _).mpr ?_, hnever _ (.inl rfl), hnever _ (.inr ?_), hsome,
    hagree.mpr hsome⟩
  · rw [hlist]
    exact List.mem_cons_self
  · decide

-- Commas without an option between them are listed as none and counted as some.
theorem hasNoOptions_onlyCommas :
    Tag.parse "game_id,," = ⟨"game_id", ","⟩ ∧
      ¬((Tag.parse "game_id,,").hasNoOptions = true ↔ (Tag.parse "game_id,,").optionList = []) := by
  decide +kernel

end Tag

end RecordSql
