import RecordSql.Proofs.Record.Extraction
import RecordSql.Proofs.Text.Entries

namespace RecordSql

section Tag

-- A raw tag is a name without a comma, and after a first comma the text of its options.
inductive Tag.Spells : String → Tag → Prop
  | bare (name : String) (h : ',' ∉ name.toList) : Spells name ⟨name, ""⟩
  | listed (name options : String) (h : ',' ∉ name.toList) :
      Spells (name ++ "," ++ options) ⟨name, options⟩

theorem Tag.parse_of_spells {raw : String} {tag : Tag} (h : Tag.Spells raw tag) :
    Tag.parse raw = tag := by
  cases h with
  | bare name h =>
    rw [Tag.parse, Text.cut_eq_none h]
    exact congrArg (Tag.mk · "") String.ofList_toList
  | listed name options h =>
    have hcomma : ",".toList = [','] := rfl
    have hraw : (name ++ "," ++ options).toList = name.toList ++ ',' :: options.toList := by
      simp [hcomma]
    rw [Tag.parse, Text.cut_eq_some_iff.mpr ⟨h, hraw⟩]
    simp

theorem Tag.spells_parse (raw : String) : Tag.Spells raw (Tag.parse raw) := by
  have hspells : ∃ tag, Tag.Spells raw tag := by
    by_cases h : ',' ∈ raw.toList
    · obtain ⟨name, options, hraw, hname⟩ := List.eq_append_cons_of_mem h
      have hcomma : ",".toList = [','] := rfl
      obtain rfl : raw = String.ofList name ++ "," ++ String.ofList options := by
        rw [← String.toList_inj]
        simpa [hcomma] using hraw
      exact ⟨_, Spells.listed _ _ (by simpa using hname)⟩
    · exact ⟨_, Spells.bare raw h⟩
  obtain ⟨tag, htag⟩ := hspells
  rwa [Tag.parse_of_spells htag]

end Tag

section Descriptor

variable {ρ : Type} {space : String} {record : ρ} {f : ExtractedField}

-- The tag of a field that counts in a namespace is the first one there.
def Descriptor.FirstTag (d : Descriptor ρ) (space raw : String) : Prop :=
  ∃ front back, d.tags = front ++ (space, raw) :: back ∧ ∀ tag ∈ front, tag.1 ≠ space

-- What a field gives in a namespace where it is usable: its tag there has a name that a field may
-- have, and the field is not zero.
structure Descriptor.Gives (d : Descriptor ρ) (space : String) (record : ρ) (f : ExtractedField) :
    Prop where
  tag : ∃ raw, d.FirstTag space raw ∧ Tag.Spells raw f.tag
  name : Tag.isValidName f.name = true
  set : (d.get record).isZero = false
  value : f.value = (d.get record).toValue

theorem Descriptor.firstTag_iff (d : Descriptor ρ) (raw : String) :
    d.FirstTag space raw ↔ d.tag? space = some raw := by
  unfold Descriptor.FirstTag Descriptor.tag?
  rw [List.lookup_eq_some_iff]
  refine exists_congr fun front => exists_congr fun back => and_congr_right fun _ => ?_
  exact forall₂_congr fun tag _ => by rw [bne_iff_ne, ne_comm]

theorem Descriptor.gives_iff (d : Descriptor ρ) :
    d.Gives space record f ↔ d.extract? space record = some f := by
  unfold Descriptor.extract?
  constructor
  · rintro ⟨⟨raw, hraw, htag⟩, hname, hset, hvalue⟩
    have hname : Tag.isValidName f.tag.name = true := hname
    rw [(d.firstTag_iff raw).mp hraw]
    dsimp only
    rw [Tag.parse_of_spells htag, hset, ← hvalue, hname, if_neg (by simp)]
  · intro h
    cases hraw : d.tag? space with
    | none => simp [hraw] at h
    | some raw =>
      simp only [hraw, Option.ite_none_left_eq_some, Option.some.injEq, Bool.or_eq_true,
        Bool.not_eq_true', not_or, Bool.not_eq_false, Bool.not_eq_true] at h
      obtain ⟨⟨hname, hset⟩, rfl⟩ := h
      exact ⟨⟨raw, (d.firstTag_iff raw).mpr hraw, Tag.spells_parse raw⟩, hname, hset, rfl⟩

end Descriptor

section FirstUsable

variable {ρ : Type} {space : String} {record : ρ} {f g : ExtractedField}
  {d : Descriptor ρ} {fields : List (Descriptor ρ)} {place : Nat}

-- What is given at a place, where no field before it gives anything under the same name.
structure FirstUsable (fields : List (Descriptor ρ)) (space : String) (record : ρ) (place : Nat)
    (f : ExtractedField) : Prop where
  given : ∃ d, fields[place]? = some d ∧ d.Gives space record f
  first : ∀ before < place, ∀ d g, fields[before]? = some d → d.Gives space record g →
    g.name ≠ f.name

theorem not_firstUsable_nil : ¬FirstUsable [] space record place f := by
  rintro ⟨⟨d, hd, -⟩, -⟩
  simp at hd

-- What is first among the fields behind another one is first, unless the other one gives something
-- under its name.
theorem firstUsable_cons_iff :
    FirstUsable (d :: fields) space record place f ↔
      place = 0 ∧ d.Gives space record f ∨
        ∃ before, place = before + 1 ∧ FirstUsable fields space record before f ∧
          ∀ g, d.Gives space record g → g.name ≠ f.name := by
  cases place with
  | zero =>
    refine ⟨fun ⟨⟨e, he, hgives⟩, _⟩ => .inl ⟨rfl, ?_⟩, ?_⟩
    · obtain rfl := Option.some.inj he
      exact hgives
    · rintro (⟨-, hgives⟩ | ⟨before, hzero, -⟩)
      · exact ⟨⟨d, rfl, hgives⟩, fun before hb => absurd hb (Nat.not_lt_zero _)⟩
      · omega
  | succ place =>
    constructor
    · rintro ⟨hgiven, hfirst⟩
      refine .inr ⟨place, rfl, ⟨hgiven, fun before hb => ?_⟩, fun g hg => ?_⟩
      · exact hfirst (before + 1) (by omega)
      · exact hfirst 0 (Nat.succ_pos _) d g rfl hg
    · rintro (⟨hzero, -⟩ | ⟨before, hplace, ⟨hgiven, hfirst⟩, hhead⟩)
      · omega
      · obtain rfl : place = before := by omega
        refine ⟨hgiven, fun earlier he e g hget hg => ?_⟩
        cases earlier with
        | zero =>
          obtain rfl := Option.some.inj hget
          exact hhead g hg
        | succ earlier => exact hfirst earlier (by omega) e g hget hg

-- The fields that are kept are the first ones, each at its place. The induction is on the fields of
-- the type.
theorem mem_firstOfEachName_iff (f : ExtractedField) :
    f ∈ firstOfEachName (fields.filterMap (·.extract? space record)) ↔
      ∃ place, FirstUsable fields space record place f := by
  induction fields with
  | nil => simp [firstOfEachName, not_firstUsable_nil]
  | cons d fields ih =>
    simp only [firstUsable_cons_iff, d.gives_iff]
    cases hd : d.extract? space record with
    | none =>
      have hskip : (d :: fields).filterMap (·.extract? space record) =
          fields.filterMap (·.extract? space record) := List.filterMap_cons_none hd
      rw [hskip, ih]
      constructor
      · rintro ⟨place, h⟩
        exact ⟨place + 1, .inr ⟨place, rfl, h, by simp⟩⟩
      · rintro ⟨place, ⟨-, h⟩ | ⟨before, -, h, -⟩⟩
        · simp at h
        · exact ⟨before, h⟩
    | some g =>
      have htake : (d :: fields).filterMap (·.extract? space record) =
          g :: fields.filterMap (·.extract? space record) := List.filterMap_cons_some hd
      rw [htake, firstOfEachName, List.mem_cons, List.mem_filter, ih]
      constructor
      · rintro (rfl | ⟨⟨place, h⟩, hne⟩)
        · exact ⟨0, .inl ⟨rfl, rfl⟩⟩
        · refine ⟨place + 1, .inr ⟨place, rfl, h, fun other hother => ?_⟩⟩
          obtain rfl := Option.some.inj hother
          exact Ne.symm (by simpa using hne)
      · rintro ⟨place, ⟨-, h⟩ | ⟨before, -, h, hne⟩⟩
        · exact .inl (Option.some.inj h).symm
        · exact .inr ⟨⟨before, h⟩, by simpa using Ne.symm (hne g rfl)⟩

-- Whether one extracted field is declared before another.
def DeclaredBefore (fields : List (Descriptor ρ)) (space : String) (record : ρ)
    (f g : ExtractedField) : Prop :=
  ∀ i j, FirstUsable fields space record i f → FirstUsable fields space record j g → i < j

theorem declaredBefore_cons (hf : ¬d.Gives space record f) (hg : ¬d.Gives space record g)
    (h : DeclaredBefore fields space record f g) :
    DeclaredBefore (d :: fields) space record f g := by
  intro i j hi hj
  obtain ⟨-, hgives⟩ | ⟨i, rfl, hi, -⟩ := firstUsable_cons_iff.mp hi
  · exact absurd hgives hf
  obtain ⟨-, hgives⟩ | ⟨j, rfl, hj, -⟩ := firstUsable_cons_iff.mp hj
  · exact absurd hgives hg
  have hlt := h i j hi hj
  omega

-- They stand in the order of their declaration. A field in front of the others gives at most one
-- of those that are kept, and that one comes first.
theorem pairwise_firstOfEachName (fields : List (Descriptor ρ)) (space : String) (record : ρ) :
    (firstOfEachName (fields.filterMap (·.extract? space record))).Pairwise
      (DeclaredBefore fields space record) := by
  induction fields with
  | nil => exact List.Pairwise.nil
  | cons d fields ih =>
    have hbehind : ∀ kept : List ExtractedField,
        kept.Sublist (firstOfEachName (fields.filterMap (·.extract? space record))) →
        (∀ f ∈ kept, ¬d.Gives space record f) →
        kept.Pairwise (DeclaredBefore (d :: fields) space record) := fun kept hsub hnone =>
      (ih.sublist hsub).imp_of_mem fun hf hg h => declaredBefore_cons (hnone _ hf) (hnone _ hg) h
    cases hd : d.extract? space record with
    | none =>
      have hskip : (d :: fields).filterMap (·.extract? space record) =
          fields.filterMap (·.extract? space record) := List.filterMap_cons_none hd
      rw [hskip]
      refine hbehind _ (.refl _) fun f _ hgives => ?_
      rw [d.gives_iff, hd] at hgives
      cases hgives
    | some g =>
      have htake : (d :: fields).filterMap (·.extract? space record) =
          g :: fields.filterMap (·.extract? space record) := List.filterMap_cons_some hd
      have hother : ∀ f : ExtractedField, f.name ≠ g.name → ¬d.Gives space record f := by
        intro f hne hgives
        rw [d.gives_iff, hd] at hgives
        obtain rfl := Option.some.inj hgives
        exact hne rfl
      rw [htake, firstOfEachName, List.pairwise_cons]
      refine ⟨fun f hf i j hi hj => ?_, hbehind _ List.filter_sublist fun f hf => ?_⟩
      · have hne : f.name ≠ g.name := by simpa using (List.mem_filter.mp hf).2
        obtain ⟨rfl, -⟩ | ⟨_, -, -, hfirst⟩ := firstUsable_cons_iff.mp hi
        · obtain ⟨-, hgives⟩ | ⟨j, rfl, -⟩ := firstUsable_cons_iff.mp hj
          · exact absurd hgives (hother f hne)
          · exact Nat.succ_pos j
        · exact absurd rfl (hfirst g (d.gives_iff.mpr hd))
      · exact hother f (by simpa using (List.mem_filter.mp hf).2)

-- No name is lost.
theorem mem_names_firstOfEachName (name : String) (xs : List ExtractedField) :
    name ∈ (firstOfEachName xs).map (·.name) ↔ name ∈ xs.map (·.name) := by
  induction xs with
  | nil => rfl
  | cons f rest ih =>
    rw [firstOfEachName, List.map_cons, List.map_cons, List.mem_cons, List.mem_cons, ← ih]
    refine or_congr_right' fun hne => ?_
    simp only [List.mem_map, List.mem_filter]
    constructor
    · rintro ⟨g, ⟨hg, -⟩, rfl⟩
      exact ⟨g, hg, rfl⟩
    · rintro ⟨g, hg, rfl⟩
      exact ⟨g, ⟨hg, by simpa using hne⟩, rfl⟩

end FirstUsable

namespace RecordType

variable {ρ : Type} (type : RecordType ρ) (space : String) (record : ρ)

-- What is extracted of a record are the first usable fields of its type: under each name that some
-- usable field has, the value and the options of the first one, in the order of the declaration.
-- A field that is zero, or has no usable tag, does not stand in the way of a later one. Sorted, the
-- same fields rise by the bytes of their names.
theorem extract_firstUsable :
    (type.extract space record).names.Nodup ∧
      (∀ f ∈ (type.extract space record).fields, Tag.isValidName f.name = true) ∧
      (type.extract space record).fields.Pairwise (DeclaredBefore type.fields space record) ∧
      (∀ name, name ∈ (type.extract space record).names ↔
        ∃ d ∈ type.fields, ∃ f, d.Gives space record f ∧ f.name = name) ∧
      (∀ f, f ∈ (type.extract space record).fields ↔
        ∃ place, FirstUsable type.fields space record place f) ∧
      (type.extract space record).sorted.Perm (type.extract space record).fields ∧
      ((type.extract space record).sorted.map (·.name)).Pairwise
        fun a b => Wire.utf8 a < Wire.utf8 b := by
  have hnodup := type.nodup_names_extract space record
  have hmem : ∀ f, f ∈ (type.extract space record).fields ↔
      ∃ place, FirstUsable type.fields space record place f := mem_firstOfEachName_iff
  refine ⟨hnodup, fun f hf => ?_, pairwise_firstOfEachName type.fields space record,
    fun name => ?_, hmem, Extracted.sorted_perm _, Extracted.ascending_sorted hnodup⟩
  · obtain ⟨_, ⟨d, -, hgives⟩, -⟩ := (hmem f).mp hf
    exact hgives.name
  · have hnames : name ∈ (type.extract space record).names ↔
        name ∈ (type.fields.filterMap (·.extract? space record)).map (·.name) :=
      mem_names_firstOfEachName name _
    simp only [hnames, List.mem_map, List.mem_filterMap, Descriptor.gives_iff]
    constructor
    · rintro ⟨f, ⟨d, hd, hf⟩, rfl⟩
      exact ⟨d, hd, f, hf, rfl⟩
    · rintro ⟨d, hd, f, hf, rfl⟩
      exact ⟨f, ⟨d, hd, hf⟩, rfl⟩

-- Fields that share a name in the namespace for statements, and fields that have none there: the
-- first title is empty, the name of a note holds a semicolon, and of two tags the first counts.
def untidyFields : List (Descriptor (String × Int64)) :=
  [⟨"nick", [("sql", "title,key")], fun game => .required (.text game.1)⟩,
    ⟨"hint", [("json", "hint")], fun _ => .required (.text "none")⟩,
    ⟨"note", [("sql", "note;")], fun _ => .required (.text "none")⟩,
    ⟨"title", [("json", "name"), ("sql", "title,short"), ("sql", "name")],
      fun _ => .required (.text "Go")⟩,
    ⟨"draft", [("sql", "draft")], fun _ => .absent⟩,
    ⟨"id", [("sql", "game_id,")], fun game => .present (.required (.int game.2))⟩,
    ⟨"label", [("sql", "title")], fun _ => .required (.text "Chess")⟩]

-- The title comes from the second field that has its name, and the third one is left out. A number
-- that is zero and may be absent is there.
theorem extract_firstUsable_untidyGame :
    let type : RecordType (String × Int64) := ⟨"ref_game", untidyFields⟩
    let title : ExtractedField := ⟨⟨"title", "short"⟩, .text "Go"⟩
    let number : ExtractedField := ⟨⟨"game_id", ""⟩, .int 0⟩
    (type.extract "sql" ("", 0)).fields = [title, number] ∧
      (∃ place, FirstUsable untidyFields "sql" ("", 0) place title) ∧
      DeclaredBefore untidyFields "sql" ("", 0) title number ∧
      (¬∃ d ∈ untidyFields, ∃ f, d.Gives "sql" ("", 0) f ∧ f.name = "note;") ∧
      (type.extract "sql" ("", 0)).sorted = [number, title] := by
  intro type title number
  obtain ⟨-, -, hordered, hnames, hmem, hperm, hascending⟩ := type.extract_firstUsable "sql" ("", 0)
  have hfields : (type.extract "sql" ("", 0)).fields = [title, number] := by decide +kernel
  have hsorted : (type.extract "sql" ("", 0)).sorted = [number, title] := by
    rw [Extracted.sorted, hfields]
    simp [List.mergeSort, title, number, ExtractedField.name]
  have hnote : "note;" ∉ (type.extract "sql" ("", 0)).names := by decide +kernel
  refine ⟨hfields, (hmem title).mp (by simp [hfields]), ?_, fun h => hnote ((hnames _).mpr h),
    hsorted⟩
  rw [hfields] at hordered
  exact List.pairwise_pair.mp hordered

end RecordType

end RecordSql
