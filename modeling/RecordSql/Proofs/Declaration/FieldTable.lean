import RecordSql.Declaration.Descriptor
import RecordSql.Proofs.Declaration.Attributes
import RecordSql.Proofs.Text.Entries
import RecordSql.Proofs.Unicode.Blank

namespace RecordSql.Declaration

section Head

-- The text after the name opens a list of parameters that holds something.
def TypeDeclaration.HasParameters (d : TypeDeclaration) : Prop :=
  ∃ rest, tokens d.afterName = .opens :: rest ∧ rest.head? ≠ some .closes

-- The first `record` attribute holds `table = "..."` and nothing else, and the text is not blank.
def TypeDeclaration.NamesTable (d : TypeDeclaration) (table : String) : Prop :=
  ∃ a w v, d.attributes.find? (·.isCalled "record") = some a ∧
    a.body = .contents [.word w, .equals, .value v] ∧ w.text = "table" ∧ v.text? = some table ∧
    ∃ c ∈ table.toList, Unicode.isBlank c = false

-- What a declaration has to be for records to be made of it.
structure TypeDeclaration.Recordable (d : TypeDeclaration) : Prop where
  shape : d.shape = .named
  plain : ¬d.HasParameters
  table : ∃ table, d.NamesTable table
  tagged : ∀ field ∈ d.fields, ∃ tags, field.Tagged tags

theorem isGeneric_iff (d : TypeDeclaration) : isGeneric d.afterName = true ↔ d.HasParameters := by
  unfold isGeneric TypeDeclaration.HasParameters
  split
  · rename_i rest h
    simp [h]
  · rename_i h
    simp only [Bool.false_eq_true, false_iff]
    rintro ⟨rest, hr, -⟩
    exact h rest hr

theorem checkShape_eq_ok_iff (shape : Shape) : checkShape shape = .ok () ↔ shape = .named := by
  cases shape <;> simp [checkShape]

theorem readSingle_eq_ok_iff (tokens : List Token) (read : Path × ItemValue) :
    readSingle tokens = .ok read ↔ readItem tokens = .ok (read, []) := by
  rw [readSingle, bind_eq_ok_iff]
  constructor
  · rintro ⟨⟨item, rest⟩, hread, h⟩
    cases rest with
    | nil =>
      obtain rfl := Except.ok.inj h
      exact hread
    | cons token rest => cases h
  · intro h
    exact ⟨_, h, rfl⟩

-- The word `table` is a name by itself.
theorem Word.isPlain_of_text {w : Word} (h : w.text = "table") : w.IsPlain := by
  cases hm : w.marked with
  | true => exact .inl hm
  | false =>
    rw [Word.text, hm] at h
    refine .inr (.inl ?_)
    rw [show w.name = "table" from h]
    decide

theorem readSingle_table_iff (tokens : List Token) (v : ItemValue) :
    (∃ path, readSingle tokens = .ok (path, v) ∧ path.word?.map (·.text) = some "table") ↔
      ∃ w, tokens = [.word w, .equals, .value v] ∧ w.text = "table" := by
  simp only [readSingle_eq_ok_iff, Option.map_eq_some_iff]
  constructor
  · rintro ⟨path, hread, w, hword, htext⟩
    obtain rfl := Path.word?_eq_some_iff.mp hword
    exact ⟨w, (readItem_eq_ok_word_iff.mp hread).1, htext⟩
  · rintro ⟨w, rfl, htext⟩
    have hread : readItem [.word w, .equals, .value v] = .ok ((⟨false, [w]⟩, v), []) :=
      readItem_eq_ok_word_iff.mpr ⟨rfl, Word.isPlain_of_text htext⟩
    exact ⟨_, hread, w, rfl, htext⟩

theorem tableOf_eq_ok_iff (a : Attribute) (table : String) :
    tableOf a = .ok table ↔ ∃ w v, a.body = .contents [.word w, .equals, .value v] ∧
      w.text = "table" ∧ v.text? = some table ∧
      ∃ c ∈ table.toList, Unicode.isBlank c = false := by
  have hblank : (Unicode.trim table.toList).isEmpty = false ↔
      ∃ c ∈ table.toList, Unicode.isBlank c = false := by
    rw [← Bool.not_eq_true, List.isEmpty_iff, Unicode.trim_eq_nil_iff]
    simp
  simp only [tableOf, bind_eq_ok_iff, contents_eq_ok_iff]
  constructor
  · rintro ⟨tokens, hb, ⟨path, v⟩, hread, h⟩
    dsimp only at h
    split at h
    · exact absurd h (throw_bind_ne_ok _ _ _)
    · rename_i htable
      obtain ⟨w, rfl, htext⟩ :=
        (readSingle_table_iff tokens v).mp ⟨path, hread, by simpa using htable⟩
      obtain ⟨text, ht, h⟩ := bind_eq_ok_iff.mp h
      split at h
      · exact absurd h (throw_bind_ne_ok _ _ _)
      · rename_i hc
        obtain rfl := Except.ok.inj h
        exact ⟨w, v, hb, htext, (literalOf_eq_ok_iff _ _).mp ht,
          hblank.mp (Bool.eq_false_iff.mpr hc)⟩
  · rintro ⟨w, v, hb, htext, ht, hc⟩
    obtain ⟨path, hread, hpath⟩ := (readSingle_table_iff _ v).mpr ⟨w, rfl, htext⟩
    refine ⟨_, hb, (path, v), hread, ?_⟩
    dsimp only
    rw [hpath, if_neg (by decide), (literalOf_eq_ok_iff _ _).mpr ht]
    exact if_neg (Bool.eq_false_iff.mp (hblank.mpr hc))

theorem tableName_eq_ok_iff (d : TypeDeclaration) (table : String) :
    tableName d.attributes = .ok table ↔ d.NamesTable table := by
  unfold tableName TypeDeclaration.NamesTable
  cases d.attributes.find? (·.isCalled "record") with
  | none => simp
  | some a => simp [tableOf_eq_ok_iff]

end Head

section Fields

-- The fields that have a tag, numbered by their places among all fields.
def keptFields (place : Nat) (fields : List FieldDeclaration)
    (written : List (List (String × String))) : List TaggedField :=
  (((fields.zip written).zipIdx place).filter (!·.1.2.isEmpty)).map fun ((field, tags), place) =>
    ⟨unmarked field.ident, field.ident, place, tags⟩

theorem taggedFields_eq_ok_iff (place : Nat) (fields : List FieldDeclaration)
    (kept : List TaggedField) :
    taggedFields place fields = .ok kept ↔
      ∃ written, List.Forall₂ FieldDeclaration.Tagged fields written ∧
        kept = keptFields place fields written := by
  induction fields generalizing place kept with
  | nil =>
    simp [taggedFields, keptFields, eq_comm]
  | cons field rest ih =>
    simp only [taggedFields, bind_eq_ok_iff, tagsOf_eq_ok_iff, ih, List.forall₂_cons_left_iff]
    constructor
    · rintro ⟨tags, ht, _, ⟨written, hw, rfl⟩, h⟩
      refine ⟨tags :: written, ⟨tags, written, ht, hw, rfl⟩, ?_⟩
      cases tags with
      | nil => exact (Except.ok.inj h).symm
      | cons tag more => exact (Except.ok.inj h).symm
    · rintro ⟨_, ⟨tags, written, ht, hw, rfl⟩, rfl⟩
      refine ⟨tags, ht, _, ⟨written, hw, rfl⟩, ?_⟩
      cases tags with
      | nil => rfl
      | cons tag more => rfl

theorem mem_keptFields_iff (place : Nat) (fields : List FieldDeclaration)
    (written : List (List (String × String))) (f : TaggedField) :
    f ∈ keptFields place fields written ↔ ∃ i field tags, fields[i]? = some field ∧
      written[i]? = some tags ∧ tags ≠ [] ∧
      f = ⟨unmarked field.ident, field.ident, place + i, tags⟩ := by
  simp only [keptFields, List.mem_map, List.mem_filter, Prod.exists,
    List.mk_mem_zipIdx_iff_le_and_getElem?_sub, List.getElem?_zip_eq_some]
  constructor
  · rintro ⟨field, tags, n, ⟨⟨hn, hf, ht⟩, hne⟩, rfl⟩
    refine ⟨n - place, field, tags, hf, ht, by simpa using hne, ?_⟩
    rw [Nat.add_sub_of_le hn]
  · rintro ⟨i, field, tags, hf, ht, hne, rfl⟩
    rw [← Nat.add_sub_cancel_left place i] at hf ht
    exact ⟨field, tags, place + i, ⟨⟨Nat.le_add_right _ _, hf, ht⟩, by simpa using hne⟩, rfl⟩

theorem ascending_places (place : Nat) (fields : List FieldDeclaration)
    (written : List (List (String × String))) :
    ((keptFields place fields written).map (·.place)).Pairwise (· < ·) := by
  have hsub : ((keptFields place fields written).map (·.place)).Sublist
      (((fields.zip written).zipIdx place).map (·.2)) := by
    rw [keptFields, List.map_map]
    exact List.filter_sublist.map _
  rw [List.zipIdx_map_snd] at hsub
  exact (List.pairwise_lt_range' 1).sublist hsub

-- A field writes a text for a namespace.
def FieldDeclaration.Writes (field : FieldDeclaration) (space text : String) : Prop :=
  ∃ a ∈ field.attributes, a.isCalled "tag" = true ∧ ∃ tokens, a.body = .contents tokens ∧
    ∃ item, item <:+: tokens ∧ Assigns item (space, text)

section Listed

variable {item tokens rest : List Token} {tag other : String × String}

-- A tag does not reach over the end of the one before it.
theorem assigned_append_iff (h : Assigns item tag) :
    (∃ part, part <:+: item ++ rest ∧ Assigns part other) ↔
      other = tag ∨ ∃ part, part <:+: rest ∧ Assigns part other := by
  constructor
  · rintro ⟨part, hpart, hother⟩
    obtain ⟨hw, hv⟩ := h
    obtain ⟨hw', hv'⟩ := hother
    simp only [List.cons_append, List.nil_append, List.infix_cons_iff, List.cons_prefix_cons,
      Token.word.injEq, Token.value.injEq] at hpart
    rcases hpart with ⟨rfl, -, rfl, -⟩ | ⟨hequals, -⟩ | ⟨hvalue, -⟩ | hrest
    · exact .inl (Prod.ext rfl (Option.some.inj (hv'.symm.trans hv)))
    · cases hequals
    · cases hvalue
    · exact .inr ⟨_, hrest, .intro hw' hv'⟩
  · rintro (rfl | ⟨part, hpart, hother⟩)
    · exact ⟨item, (List.prefix_append _ _).isInfix, h⟩
    · exact ⟨part, hpart.trans (List.suffix_append _ _).isInfix, hother⟩

theorem assigned_comma_iff : (∃ part, part <:+: .comma :: rest ∧ Assigns part other) ↔
    ∃ part, part <:+: rest ∧ Assigns part other := by
  refine exists_congr fun part => and_congr_left fun hother => ?_
  cases hother
  simp [List.infix_cons_iff, List.cons_prefix_cons]

theorem not_assigned_nil : ¬∃ part, part <:+: [] ∧ Assigns part other := by
  rintro ⟨part, hpart, hother⟩
  exact hother.ne_nil (List.infix_nil.mp hpart)

-- The tags of a list are those that are written in it.
theorem TagList.mem_iff {tags : List (String × String)} (h : TagList tokens tags) :
    other ∈ tags ↔ ∃ part, part <:+: tokens ∧ Assigns part other := by
  induction h with
  | nil => exact iff_of_false List.not_mem_nil not_assigned_nil
  | @last item tag h =>
    rw [← List.append_nil item, assigned_append_iff h, or_iff_left not_assigned_nil,
      List.mem_singleton]
  | cons h _ ih =>
    rw [assigned_append_iff h, assigned_comma_iff, ← ih, List.mem_cons]

end Listed

-- The tags that are kept of a field are those that are written at it.
theorem FieldDeclaration.Tagged.mem_iff {field : FieldDeclaration} {tags : List (String × String)}
    (h : field.Tagged tags) (space text : String) :
    (space, text) ∈ tags ↔ field.Writes space text := by
  obtain ⟨groups, hg, rfl⟩ := h.assigned
  rw [List.mem_flatten]
  constructor
  · rintro ⟨group, hm, ht⟩
    obtain ⟨a, ha, tokens, hb, hlist⟩ := exists_right_of_forall₂ hg.flip hm
    obtain ⟨ha, hcalled⟩ := List.mem_filter.mp ha
    exact ⟨a, ha, hcalled, tokens, hb, hlist.mem_iff.mp ht⟩
  · rintro ⟨a, ha, hcalled, tokens, hb, hwritten⟩
    obtain ⟨group, hm, listed, hl, hlist⟩ := exists_right_of_forall₂ hg
      (List.mem_filter.mpr ⟨ha, hcalled⟩)
    obtain rfl := Body.contents.inj (hb.symm.trans hl)
    exact ⟨group, hm, hlist.mem_iff.mpr hwritten⟩

-- The name of a getter tells the place.
theorem place_of_getter {f other : TaggedField} (h : f.getter = other.getter) :
    f.place = other.place := by
  have hlist := congrArg String.toList h
  exact toDigits_inj (by simpa [TaggedField.getter, decimalNat] using hlist)

end Fields

-- A descriptor goes by the name of a field, reads that very field, and has the tags that are
-- written at it.
structure FieldDeclaration.DescribedBy {ρ : Type} (field : FieldDeclaration)
    (read : String → ρ → Field) (d : Descriptor ρ) : Prop where
  ident : d.ident = unmarked field.ident
  get : d.get = read field.ident
  tag (space text : String) : d.tag? space = some text ↔ field.Writes space text

-- What a field table says about a declaration: its fields are those that have a tag, in the order
-- of their declaration, and each of them has a getter of its own. The record type that is made of
-- it has the table that is named, and a descriptor of each of these fields.
structure FieldTable.Reflects (t : FieldTable) (d : TypeDeclaration) : Prop where
  typeName : t.typeName = d.name
  fields : ∃ written, List.Forall₂ FieldDeclaration.Tagged d.fields written ∧
    t.fields = keptFields 0 d.fields written
  order : (t.fields.map (·.place)).Pairwise (· < ·)
  kept {place : Nat} {field : FieldDeclaration} (h : d.fields[place]? = some field) :
    (∃ f ∈ t.fields, f.place = place) ↔ ∃ space text, field.Writes space text
  getters : (t.fields.map (·.getter)).Nodup
  table (ρ : Type) (read : String → ρ → Field) : d.NamesTable (t.recordType read).table
  own (ρ : Type) (read : String → ρ → Field) :
    List.Forall₂ (fun f descriptor => ∃ field, d.fields[f.place]? = some field ∧
      f.name = unmarked field.ident ∧ field.DescribedBy read descriptor)
      t.fields (t.recordType read).fields

theorem fieldTable_eq_ok_iff (d : TypeDeclaration) (t : FieldTable) :
    fieldTable d = .ok t ↔ d.shape = .named ∧ ¬d.HasParameters ∧ t.typeName = d.name ∧
      d.NamesTable t.table ∧ ∃ written, List.Forall₂ FieldDeclaration.Tagged d.fields written ∧
        t.fields = keptFields 0 d.fields written := by
  rw [← isGeneric_iff, ← checkShape_eq_ok_iff, ← tableName_eq_ok_iff, ← taggedFields_eq_ok_iff]
  unfold fieldTable
  cases isGeneric d.afterName with
  | true =>
    refine iff_of_false (throw_bind_ne_ok _ _ _) ?_
    rintro ⟨-, hp, -⟩
    exact hp rfl
  | false =>
    simp only [Bool.false_eq_true, if_false, bind_eq_ok_iff]
    constructor
    · rintro ⟨_, hs, table, ht, fields, hf, h⟩
      obtain rfl := Except.ok.inj h
      exact ⟨hs, id, rfl, ht, hf⟩
    · rintro ⟨hs, -, hn, ht, hf⟩
      refine ⟨(), hs, t.table, ht, t.fields, hf, ?_⟩
      rw [← hn]
      rfl

section Kept

variable {d : TypeDeclaration} {written : List (List (String × String))}
  (hw : List.Forall₂ FieldDeclaration.Tagged d.fields written)
include hw

theorem tagged_of_getElem? {i : Nat} {field : FieldDeclaration} {tags : List (String × String)}
    (hfield : d.fields[i]? = some field) (htags : written[i]? = some tags) : field.Tagged tags :=
  List.forall₂_zip hw (List.mem_of_getElem? (i := i)
    (List.getElem?_zip_eq_some.mpr ⟨hfield, htags⟩))

-- Each field that is kept is one of the declaration, and it is described by its own tags.
theorem describedBy_of_mem {f : TaggedField} (hf : f ∈ keptFields 0 d.fields written) :
    ∃ field, d.fields[f.place]? = some field ∧ f.name = unmarked field.ident ∧
      ∀ (ρ : Type) (read : String → ρ → Field), field.DescribedBy read (f.descriptor read) := by
  obtain ⟨i, field, tags, hfield, htags, -, rfl⟩ := (mem_keptFields_iff _ _ _ _).mp hf
  have htagged := tagged_of_getElem? hw hfield htags
  refine ⟨field, by simpa using hfield, rfl, fun ρ read => ⟨rfl, rfl, fun space text => ?_⟩⟩
  rw [← htagged.mem_iff, ← lookup_eq_some_iff_mem htagged.distinct]
  rfl

-- A field is kept when something is written at it.
theorem exists_kept_iff {place : Nat} {field : FieldDeclaration}
    (h : d.fields[place]? = some field) :
    (∃ f ∈ keptFields 0 d.fields written, f.place = place) ↔
      ∃ space text, field.Writes space text := by
  obtain ⟨tags, htags⟩ : ∃ tags, written[place]? = some tags := by
    have hlt := (List.getElem?_eq_some_iff.mp h).1
    exact ⟨_, List.getElem?_eq_getElem (hw.length_eq ▸ hlt)⟩
  have htagged := tagged_of_getElem? hw h htags
  constructor
  · rintro ⟨f, hf, rfl⟩
    obtain ⟨i, _, other, -, hother, hne, rfl⟩ := (mem_keptFields_iff _ _ _ _).mp hf
    rw [Nat.zero_add, hother] at htags
    obtain rfl := Option.some.inj htags
    obtain ⟨⟨space, text⟩, hmem⟩ := List.exists_mem_of_ne_nil _ hne
    exact ⟨space, text, (htagged.mem_iff space text).mp hmem⟩
  · rintro ⟨space, text, hwritten⟩
    have hmem := (htagged.mem_iff space text).mpr hwritten
    exact ⟨_, (mem_keptFields_iff _ _ _ _).mpr
      ⟨place, field, tags, h, htags, List.ne_nil_of_mem hmem, rfl⟩, Nat.zero_add place⟩

theorem reflects_of_kept {t : FieldTable} (hn : t.typeName = d.name) (ht : d.NamesTable t.table)
    (hfields : t.fields = keptFields 0 d.fields written) : t.Reflects d := by
  have horder : (t.fields.map (·.place)).Pairwise (· < ·) := by
    rw [hfields]
    exact ascending_places 0 d.fields written
  have hgetters : (t.fields.map (·.getter)).Nodup :=
    List.pairwise_map.mpr ((List.pairwise_map.mp horder).imp fun hlt he =>
      Nat.ne_of_lt hlt (place_of_getter he))
  refine ⟨hn, ⟨written, hw, hfields⟩, horder, fun h => ?_, hgetters, fun ρ read => ht,
    fun ρ read => ?_⟩
  · rw [hfields]
    exact exists_kept_iff hw h
  · rw [FieldTable.recordType, List.forall₂_map_right_iff, List.forall₂_same]
    intro f hf
    rw [hfields] at hf
    obtain ⟨field, hfield, hname, hdescribed⟩ := describedBy_of_mem hw hf
    exact ⟨field, hfield, hname, hdescribed ρ read⟩

end Kept

-- A field table is made of a declaration exactly when it is a structure with named fields and
-- without parameters, and all of its attributes keep to their grammar. The table then says what the
-- declaration says.
theorem fieldTable_grammar (d : TypeDeclaration) :
    ((∃ t, fieldTable d = .ok t) ↔ d.Recordable) ∧ ∀ t, fieldTable d = .ok t → t.Reflects d := by
  simp only [fieldTable_eq_ok_iff]
  refine ⟨⟨?_, ?_⟩, ?_⟩
  · rintro ⟨t, hs, hp, -, ht, written, hw, -⟩
    refine ⟨hs, hp, ⟨t.table, ht⟩, fun field hm => ?_⟩
    obtain ⟨tags, -, htags⟩ := exists_right_of_forall₂ hw hm
    exact ⟨tags, htags⟩
  · rintro ⟨hs, hp, ⟨table, ht⟩, hf⟩
    obtain ⟨written, hw⟩ := exists_forall₂ hf
    exact ⟨⟨d.name, table, keptFields 0 d.fields written⟩, hs, hp, rfl, ht, written, hw, rfl⟩
  · rintro t ⟨-, -, hn, ht, written, hw, hfields⟩
    exact reflects_of_kept hw hn ht hfields

-- A field without tags stands between two that have some. The last one has them in several
-- attributes, of which one ends with a comma. Its name and a namespace carry the mark.
def season : TypeDeclaration where
  name := "Season"
  afterName := "/* none */ < >"
  shape := .named
  attributes := [⟨"doc", .assigned⟩, ⟨"record", .list [⟨"table", .literal "ref_season"⟩]⟩,
    ⟨"record", .bare⟩]
  fields := [
    ⟨"id", [⟨"tag", .list [⟨"sql", .literal "season_id"⟩, ⟨" json ", .literal "id"⟩]⟩]⟩,
    ⟨"score", [⟨"doc", .assigned⟩]⟩,
    ⟨"r#type", [⟨"tag", .list [⟨"r#type", .literal "kind,omitempty"⟩]⟩, ⟨"tag", .list []⟩,
      ⟨"tag", .contents (tokens "json" ++ [.equals, .value (.expression "\"kind\""), .comma])⟩]⟩]

theorem fieldTable_grammar_season :
    season.Recordable ∧ ∃ t, fieldTable season = .ok t ∧ t.Reflects season ∧
      t.fields.map (fun f => (f.name, f.getter, f.tags)) =
        [("id", "__tagsql_get_0", [("sql", "season_id"), ("json", "id")]),
          ("type", "__tagsql_get_2", [("type", "kind,omitempty"), ("json", "kind")])] := by
  have hread : (fieldTable season).toOption.map
      (·.fields.map fun f => (f.name, f.getter, f.tags)) = some
        [("id", "__tagsql_get_0", [("sql", "season_id"), ("json", "id")]),
          ("type", "__tagsql_get_2", [("type", "kind,omitempty"), ("json", "kind")])] := by
    decide +kernel
  obtain ⟨hgrammar, hreflects⟩ := fieldTable_grammar season
  cases ht : fieldTable season with
  | error e => simp [ht, Except.toOption] at hread
  | ok t =>
    rw [ht] at hread
    exact ⟨hgrammar.mp ⟨t, ht⟩, t, rfl, hreflects t ht, Option.some.inj hread⟩

-- A namespace has to be one name, and behind the table nothing may stand, not even a comma.
example :
    (["sql json", "sql-json", "sql.json", "a::b", "r#", "type", ""].all fun space =>
      (addTags [] ⟨"tag", .list [⟨space, .literal "id"⟩]⟩).toOption.isNone) = true ∧
    (tableOf ⟨"record",
      .contents (tokens "table" ++ [.equals, .value (.literal "game"), .comma])⟩).toOption =
        none := by
  decide +kernel

end RecordSql.Declaration
