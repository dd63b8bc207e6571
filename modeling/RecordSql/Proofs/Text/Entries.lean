import Mathlib.Data.List.Nodup
import Mathlib.Data.List.TakeWhile
import RecordSql.Text.Split

namespace RecordSql

namespace Text

variable {α : Type}

theorem splitWhere_eq_splitOnP (separates : α → Bool) (text : List α) :
    splitWhere separates text = text.splitOnP separates := by
  induction text with
  | nil => rfl
  | cons a rest ih =>
    rw [List.splitOnP_cons_eq_if_modifyHead, splitWhere, ← ih]
    cases h : splitWhere separates rest with
    | nil => exact absurd h (splitWhere_ne_nil separates rest)
    | cons part parts => rfl

-- The parts are those that the library cuts, so that its lemmas hold of them.
theorem splitOn_eq [BEq α] (separator : α) (text : List α) :
    splitOn separator text = text.splitOn separator := by
  rw [splitOn, splitWhere_eq_splitOnP, List.splitOn_eq_splitOnP]

-- The first entry of several goes up to the first separator.
theorem splitOn_append_cons [BEq α] [LawfulBEq α] {separator : α} {entry : List α}
    (h : separator ∉ entry) (rest : List α) :
    splitOn separator (entry ++ separator :: rest) = entry :: splitOn separator rest := by
  rw [splitOn_eq, splitOn_eq, List.splitOn_append_cons_self_of_not_mem h]

theorem splitOn_eq_singleton [BEq α] [LawfulBEq α] {separator : α} {entry : List α}
    (h : separator ∉ entry) : splitOn separator entry = [entry] := by
  rw [splitOn_eq, List.splitOn_eq_singleton h]

theorem notMem_of_mem_splitWhere {separates : α → Bool} {text part : List α} {a : α}
    (hp : part ∈ splitWhere separates text) (ha : separates a = true) : a ∉ part := by
  induction text generalizing part with
  | nil => simp_all [splitWhere]
  | cons first rest ih =>
    rw [splitWhere] at hp
    split at hp
    · rcases List.mem_cons.mp hp with rfl | hrest
      · exact List.not_mem_nil
      · exact ih hrest
    · rename_i hfirst
      have hne : a ≠ first := fun heq => hfirst (heq ▸ ha)
      split at hp
      · simpa [List.mem_singleton.mp hp] using hne
      · rename_i next others hparts
        rw [hparts] at ih
        rcases List.mem_cons.mp hp with rfl | hothers
        · simpa [hne] using ih List.mem_cons_self
        · exact ih (List.mem_cons_of_mem _ hothers)

-- The parts are empty just where every item separates.
theorem forall_mem_splitWhere_eq_nil_iff (separates : α → Bool) (text : List α) :
    (∀ part ∈ splitWhere separates text, part = []) ↔ ∀ a ∈ text, separates a = true := by
  induction text with
  | nil => simp [splitWhere]
  | cons first rest ih =>
    rw [splitWhere, List.forall_mem_cons, ← ih]
    split
    · rename_i hfirst
      simp [hfirst]
    · rename_i hfirst
      split <;> simp [hfirst]

-- The parts of a text are the texts without a separator that make it with separators between them.
theorem splitOn_eq_iff [BEq α] [LawfulBEq α] {separator : α} {text : List α}
    {parts : List (List α)} :
    splitOn separator text = parts ↔
      parts ≠ [] ∧ (∀ part ∈ parts, separator ∉ part) ∧ [separator].intercalate parts = text := by
  constructor
  · rintro rfl
    refine ⟨splitWhere_ne_nil _ _, fun part hp => ?_, ?_⟩
    · exact notMem_of_mem_splitWhere hp (beq_self_eq_true separator)
    · rw [splitOn_eq, List.intercalate_splitOn]
  · rintro ⟨hne, hplain, rfl⟩
    rw [splitOn_eq, List.splitOn_intercalate separator hplain hne]

-- A text is cut at its first separator, and nothing but the separator is lost.
theorem cut_eq_some_iff [BEq α] [LawfulBEq α] {separator : α} {text before after : List α} :
    cut separator text = (before, some after) ↔
      separator ∉ before ∧ text = before ++ separator :: after := by
  have htake : ∀ c ∈ text.takeWhile (· != separator), c ≠ separator := fun c hc => by
    simpa using List.mem_takeWhile_imp hc
  have hwhole := List.takeWhile_append_dropWhile (p := (· != separator)) (l := text)
  constructor
  · intro h
    unfold cut at h
    split at h
    · simp at h
    · rename_i c rest hrest
      obtain ⟨rfl, hafter⟩ := Prod.mk.inj h
      obtain rfl := Option.some.inj hafter
      have hc : c = separator := by
        have hhead := List.head?_dropWhile_not (· != separator) text
        simpa [hrest] using hhead
      refine ⟨fun hmem => htake separator hmem rfl, ?_⟩
      rw [hrest, hc] at hwhole
      exact hwhole.symm
  · rintro ⟨hbefore, rfl⟩
    have hall : ∀ c ∈ before, (c != separator) = true := fun c hc => by
      simpa using ne_of_mem_of_not_mem hc hbefore
    have hdrop : (before ++ separator :: after).dropWhile (· != separator) =
        separator :: after := by
      rw [List.dropWhile_append_of_pos hall, List.dropWhile_cons_of_neg (by simp)]
    have hkeep : (before ++ separator :: after).takeWhile (· != separator) = before := by
      rw [List.takeWhile_append_of_pos hall, List.takeWhile_cons_of_neg (by simp), List.append_nil]
    unfold cut
    rw [hdrop, hkeep]

-- A text without a separator is not cut.
theorem cut_eq_none [BEq α] [LawfulBEq α] {separator : α} {text : List α}
    (h : separator ∉ text) : cut separator text = (text, none) := by
  have hall : ∀ c ∈ text, (c != separator) = true := fun c hc => by
    simpa using ne_of_mem_of_not_mem hc h
  unfold cut
  rw [List.dropWhile_eq_nil_iff.mpr hall]

end Text

-- Where every name stands once, what is found under a name is the entry that bears it.
theorem lookup_eq_some_iff_mem {β : Type} {entries : List (String × β)}
    (hn : (entries.map (·.1)).Nodup) (name : String) (content : β) :
    entries.lookup name = some content ↔ (name, content) ∈ entries := by
  rw [List.lookup_eq_some_iff]
  constructor
  · rintro ⟨front, back, rfl, -⟩
    simp
  · intro hm
    obtain ⟨front, back, rfl⟩ := List.append_of_mem hm
    refine ⟨front, back, rfl, fun entry he => ?_⟩
    rw [List.map_append] at hn
    have hne := (List.nodup_append.mp hn).2.2 _ (List.mem_map_of_mem he) name (by simp)
    simpa using Ne.symm hne

-- What is found under a name does not depend on the order of entries with distinct names.
theorem lookup_perm {β : Type} {entries others : List (String × β)} (hp : entries.Perm others)
    (hn : (others.map (·.1)).Nodup) (name : String) : entries.lookup name = others.lookup name := by
  have hnames : (entries.map (·.1)).Nodup := (hp.map (·.1)).nodup_iff.mpr hn
  refine Option.ext fun content => ?_
  rw [lookup_eq_some_iff_mem hnames, lookup_eq_some_iff_mem hn, hp.mem_iff]

end RecordSql
