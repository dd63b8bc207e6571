import Mathlib.Data.List.Forall2
import Mathlib.Data.List.Nodup
import RecordSql.Declaration.FieldTable
import RecordSql.Proofs.Outcome

namespace RecordSql.Declaration

section Path

variable {missed : List Token → DeclarationError} {tokens rest : List Token} {w : Word}
  {v : ItemValue}

-- A word that is a path by itself. Keywords are none, except for `unsafe`.
def Word.IsPlain (w : Word) : Prop := w.marked = true ∨ w.name ∉ keywords ∨ w.name = "unsafe"

theorem Word.isPlain_iff (w : Word) : w.IsPlain ↔ w.isName = true ∨ w.text = "unsafe" := by
  cases h : w.marked <;> simp [IsPlain, isName, text, h]

theorem Path.word?_eq_some_iff {p : Path} : p.word? = some w ↔ p = ⟨false, [w]⟩ := by
  obtain ⟨rooted, words⟩ := p
  match rooted, words with
  | true, _ => simp [word?]
  | false, [] => simp [word?]
  | false, [other] => simp [word?]
  | false, _ :: _ :: _ => simp [word?]

theorem readNames_ne_nil {words : List Word} (h : readNames missed tokens = .ok (words, rest)) :
    words ≠ [] := by
  unfold readNames at h
  split at h
  · split at h
    · split at h
      · obtain ⟨_, -, h⟩ := bind_eq_ok_iff.mp h
        obtain ⟨rfl, -⟩ := Prod.mk.inj (Except.ok.inj h)
        exact List.cons_ne_nil _ _
      · obtain ⟨rfl, -⟩ := Prod.mk.inj (Except.ok.inj h)
        exact List.cons_ne_nil _ _
    · cases h
  · cases h

-- Colons behind a word bring a second one, or an error.
theorem readNames_eq_ok_singleton_iff : readNames missed tokens = .ok ([w], rest) ↔
    tokens = .word w :: rest ∧ w.isName = true ∧ rest.head? ≠ some .colons := by
  unfold readNames
  split
  · rename_i first after
    cases hname : first.isName with
    | false =>
      refine iff_of_false (by simp) ?_
      rintro ⟨htokens, hw, -⟩
      obtain ⟨hfirst, -⟩ := List.cons.inj htokens
      rw [Token.word.inj hfirst, hw] at hname
      cases hname
    | true =>
      rw [if_pos rfl]
      split
      · refine iff_of_false (fun h => ?_) ?_
        · obtain ⟨⟨words, left⟩, hread, h⟩ := bind_eq_ok_iff.mp h
          obtain ⟨hwords, -⟩ := Prod.mk.inj (Except.ok.inj h)
          exact readNames_ne_nil hread (List.cons.inj hwords).2
        · rintro ⟨htokens, -, hcolons⟩
          rw [← (List.cons.inj htokens).2] at hcolons
          exact hcolons rfl
      · rename_i hcolons
        constructor
        · intro h
          obtain ⟨hw, rfl⟩ := Prod.mk.inj (Except.ok.inj h)
          obtain rfl := (List.cons.inj hw).1
          refine ⟨rfl, hname, fun hhead => ?_⟩
          obtain ⟨left, hleft⟩ := List.head?_eq_some_iff.mp hhead
          exact hcolons left hleft
        · rintro ⟨htokens, -, -⟩
          obtain ⟨hfirst, rfl⟩ := List.cons.inj htokens
          rw [Token.word.inj hfirst]
  · rename_i hword
    refine iff_of_false (by simp) ?_
    rintro ⟨htokens, -⟩
    exact hword w rest htokens

-- A path of one word is that word, as long as no colons follow.
theorem readPath_word (h : w.IsPlain) (hcolons : rest.head? ≠ some .colons) :
    readPath (.word w :: rest) = .ok (⟨false, [w]⟩, rest) := by
  rw [readPath]
  by_cases hunsafe : w.text = "unsafe"
  · exact if_pos hunsafe
  · have hname := ((Word.isPlain_iff w).mp h).resolve_right hunsafe
    rw [if_neg hunsafe]
    exact bind_eq_ok_iff.mpr
      ⟨_, readNames_eq_ok_singleton_iff.mpr ⟨rfl, hname, hcolons⟩, rfl⟩

theorem of_readPath (h : readPath tokens = .ok (⟨false, [w]⟩, rest)) :
    tokens = .word w :: rest ∧ w.IsPlain := by
  unfold readPath at h
  split at h
  · split at h
    · rename_i hunsafe
      obtain ⟨hpath, rfl⟩ := Prod.mk.inj (Except.ok.inj h)
      obtain ⟨-, hwords⟩ := Path.mk.inj hpath
      obtain rfl := (List.cons.inj hwords).1
      exact ⟨rfl, (Word.isPlain_iff _).mpr (.inr hunsafe)⟩
    · obtain ⟨⟨words, left⟩, hread, h⟩ := bind_eq_ok_iff.mp h
      obtain ⟨hpath, rfl⟩ := Prod.mk.inj (Except.ok.inj h)
      obtain ⟨-, rfl⟩ := Path.mk.inj hpath
      obtain ⟨htokens, hname, -⟩ := readNames_eq_ok_singleton_iff.mp hread
      exact ⟨htokens, (Word.isPlain_iff w).mpr (.inl hname)⟩
  · obtain ⟨_, -, h⟩ := bind_eq_ok_iff.mp h
    obtain ⟨hpath, -⟩ := Prod.mk.inj (Except.ok.inj h)
    cases hpath
  · cases h

-- An item with a word for its path is read as three tokens.
theorem readItem_eq_ok_word_iff : readItem tokens = .ok ((⟨false, [w]⟩, v), rest) ↔
    tokens = .word w :: .equals :: .value v :: rest ∧ w.IsPlain := by
  constructor
  · intro h
    obtain ⟨⟨path, left⟩, hpath, h⟩ := bind_eq_ok_iff.mp h
    dsimp only at h
    split at h
    · obtain ⟨hitem, rfl⟩ := Prod.mk.inj (Except.ok.inj h)
      obtain ⟨rfl, rfl⟩ := Prod.mk.inj hitem
      exact of_readPath hpath
    · cases h
    · cases h
  · rintro ⟨rfl, hw⟩
    have hpath : readPath (.word w :: .equals :: .value v :: rest) =
        .ok (⟨false, [w]⟩, .equals :: .value v :: rest) := readPath_word hw (by simp)
    exact bind_eq_ok_iff.mpr ⟨_, hpath, rfl⟩

end Path

-- Members of two lists that belong to each other.
theorem exists_right_of_forall₂ {α β : Type} {related : α → β → Prop} {as : List α} {bs : List β}
    (h : List.Forall₂ related as bs) {a : α} (ha : a ∈ as) : ∃ b ∈ bs, related a b := by
  induction h with
  | nil => simp at ha
  | cons hab _ ih =>
    rcases List.mem_cons.mp ha with rfl | ha
    · exact ⟨_, List.mem_cons_self, hab⟩
    · obtain ⟨b, hb, hr⟩ := ih ha
      exact ⟨b, List.mem_cons_of_mem _ hb, hr⟩

-- When every member of a list has something related to it, a list of these can be made.
theorem exists_forall₂ {α β : Type} {related : α → β → Prop} {as : List α}
    (h : ∀ a ∈ as, ∃ b, related a b) : ∃ bs, List.Forall₂ related as bs := by
  induction as with
  | nil => exact ⟨[], .nil⟩
  | cons a rest ih =>
    obtain ⟨⟨b, hb⟩, hrest⟩ := List.forall_mem_cons.mp h
    obtain ⟨bs, hbs⟩ := ih hrest
    exact ⟨b :: bs, .cons hb hbs⟩

section Tags

-- The tokens give a namespace a text. The mark that lets a name be a keyword does not belong to
-- the namespace.
inductive Assigns : List Token → String × String → Prop
  | intro {w : Word} {v : ItemValue} {text : String} (hw : w.IsPlain) (hv : v.text? = some text) :
      Assigns [.word w, .equals, .value v] (w.name, text)

-- Tags with commas between them. One more comma may stand behind the last.
inductive TagList : List Token → List (String × String) → Prop
  | nil : TagList [] []
  | last {item : List Token} {tag : String × String} (h : Assigns item tag) : TagList item [tag]
  | cons {item rest : List Token} {tag : String × String} {tags : List (String × String)}
      (h : Assigns item tag) (hrest : TagList rest tags) :
      TagList (item ++ .comma :: rest) (tag :: tags)

-- The attribute is a list of tags.
def Attribute.Assigns (a : Attribute) (tags : List (String × String)) : Prop :=
  ∃ tokens, a.body = .contents tokens ∧ TagList tokens tags

-- All `tag` attributes of a field are lists of tags, and no namespace comes twice in them.
structure FieldDeclaration.Tagged (field : FieldDeclaration) (tags : List (String × String)) :
    Prop where
  assigned : ∃ groups, List.Forall₂ Attribute.Assigns
    (field.attributes.filter (·.isCalled "tag")) groups ∧ tags = groups.flatten
  distinct : (tags.map (·.1)).Nodup

-- A fold whose steps append to a list without names that come twice. What a step may append is
-- given by a relation.
theorem foldlM_appends {α : Type}
    {step : List (String × String) → α → Except DeclarationError (List (String × String))}
    {adds : α → List (String × String) → Prop}
    (hstep : ∀ tags a result, (tags.map (·.1)).Nodup → (step tags a = .ok result ↔
      ∃ more, adds a more ∧ result = tags ++ more ∧ (result.map (·.1)).Nodup))
    (as : List α) (tags result : List (String × String)) (hn : (tags.map (·.1)).Nodup) :
    as.foldlM step tags = .ok result ↔
      ∃ groups, List.Forall₂ adds as groups ∧ result = tags ++ groups.flatten ∧
        (result.map (·.1)).Nodup := by
  induction as generalizing tags with
  | nil =>
    simp only [List.foldlM_nil, List.forall₂_nil_left_iff, exists_eq_left, List.flatten_nil,
      List.append_nil]
    constructor
    · intro h
      obtain rfl := Except.ok.inj h
      exact ⟨rfl, hn⟩
    · rintro ⟨rfl, -⟩
      rfl
  | cons a rest ih =>
    simp only [List.foldlM_cons, bind_eq_ok_iff, List.forall₂_cons_left_iff]
    constructor
    · rintro ⟨mid, hmid, h⟩
      obtain ⟨more, ha, rfl, hm⟩ := (hstep tags a mid hn).mp hmid
      obtain ⟨groups, hg, rfl, hr⟩ := (ih _ hm).mp h
      exact ⟨more :: groups, ⟨more, groups, ha, hg, rfl⟩, by simp, hr⟩
    · rintro ⟨_, ⟨more, groups, ha, hg, rfl⟩, rfl, hr⟩
      have hm : ((tags ++ more).map (·.1)).Nodup := by
        rw [List.flatten_cons, ← List.append_assoc, List.map_append] at hr
        exact hr.of_append_left
      refine ⟨tags ++ more, (hstep tags a _ hn).mpr ⟨more, ha, rfl, hm⟩, ?_⟩
      exact (ih _ hm).mpr ⟨groups, hg, by simp, hr⟩

theorem literalOf_eq_ok_iff (value : ItemValue) (text : String) :
    literalOf value = .ok text ↔ value.text? = some text := by
  unfold literalOf
  cases value.text? <;> simp

-- One item that has been read adds one tag.
def AddsTag (read : Path × ItemValue) (more : List (String × String)) : Prop :=
  ∃ w text, read.1.word? = some w ∧ read.2.text? = some text ∧ more = [(w.name, text)]

theorem addTag_eq_ok_iff (tags : List (String × String)) (read : Path × ItemValue)
    (result : List (String × String)) (hn : (tags.map (·.1)).Nodup) :
    addTag tags read = .ok result ↔
      ∃ more, AddsTag read more ∧ result = tags ++ more ∧ (result.map (·.1)).Nodup := by
  have hfresh : ∀ (name text : String), ((tags ++ [(name, text)]).map (·.1)).Nodup ↔
      tags.any (·.1 == name) = false := by
    intro name text
    have hnew : (∀ other, (name, other) ∉ tags) ↔
        ∀ space other, (space, other) ∈ tags → space ≠ name :=
      ⟨fun h _ other hm he => h other (he ▸ hm), fun h other hm => h name other hm rfl⟩
    rw [List.map_append, List.nodup_append_comm]
    simpa [hn] using hnew
  unfold addTag AddsTag
  cases hword : read.1.word? with
  | none => simp
  | some w =>
    simp only [Option.some.injEq]
    cases hany : tags.any (·.1 == w.name) with
    | true =>
      refine iff_of_false (throw_bind_ne_ok _ _ _) ?_
      rintro ⟨_, ⟨_, text, rfl, -, rfl⟩, rfl, hd⟩
      rw [hfresh, hany] at hd
      exact absurd hd (by decide)
    | false =>
      simp only [Bool.false_eq_true, if_false, bind_eq_ok_iff, literalOf_eq_ok_iff]
      constructor
      · rintro ⟨text, ht, h⟩
        obtain rfl := Except.ok.inj h
        exact ⟨_, ⟨w, text, rfl, ht, rfl⟩, rfl, (hfresh _ _).mpr hany⟩
      · rintro ⟨_, ⟨_, text, rfl, ht, rfl⟩, rfl, -⟩
        exact ⟨text, ht, rfl⟩

theorem contents_eq_ok_iff (name : String) (a : Attribute) (tokens : List Token) :
    a.contents name = .ok tokens ↔ a.body = .contents tokens := by
  unfold Attribute.contents
  cases a.body <;> simp

-- What is read as an item and adds a tag gives a namespace a text.
theorem AddsTag.assigns {tokens rest : List Token} {read : Path × ItemValue}
    {more : List (String × String)} (hread : readItem tokens = .ok (read, rest))
    (h : AddsTag read more) :
    ∃ item tag, Assigns item tag ∧ tokens = item ++ rest ∧ more = [tag] := by
  obtain ⟨path, v⟩ := read
  obtain ⟨w, text, hw, hv, rfl⟩ := h
  obtain rfl := Path.word?_eq_some_iff.mp hw
  obtain ⟨rfl, hplain⟩ := readItem_eq_ok_word_iff.mp hread
  exact ⟨_, _, .intro hplain hv, rfl, rfl⟩

theorem Assigns.readItem {item : List Token} {tag : String × String} (h : Assigns item tag)
    (rest : List Token) :
    ∃ read, readItem (item ++ rest) = .ok (read, rest) ∧ AddsTag read [tag] := by
  obtain ⟨hw, hv⟩ := h
  exact ⟨_, readItem_eq_ok_word_iff.mpr ⟨rfl, hw⟩, _, _, rfl, hv, rfl⟩

theorem Assigns.ne_nil {item : List Token} {tag : String × String} (h : Assigns item tag) :
    item ≠ [] := by
  cases h
  exact List.cons_ne_nil _ _

section Items

variable {tokens rest : List Token} {read : Path × ItemValue} {fuel : Nat}

theorem readItems_last (hread : readItem tokens = .ok (read, [])) (hne : tokens ≠ []) :
    readItems (fuel + 1) tokens = .ok [read] := by
  rw [readItems.eq_3 _ _ hne, hread]
  rfl

theorem readItems_comma (hread : readItem tokens = .ok (read, .comma :: rest))
    (hne : tokens ≠ []) :
    readItems (fuel + 1) tokens = (read :: ·) <$> readItems fuel rest := by
  rw [readItems.eq_3 _ _ hne, hread]
  rfl

end Items

theorem tagList_of_readItems {fuel : Nat} {tokens : List Token} {reads : List (Path × ItemValue)}
    {groups : List (List (String × String))} (hfuel : tokens.length ≤ fuel)
    (h : readItems fuel tokens = .ok reads) (hadds : List.Forall₂ AddsTag reads groups) :
    TagList tokens groups.flatten := by
  induction fuel generalizing tokens reads groups with
  | zero =>
    obtain rfl := List.length_eq_zero_iff.mp (Nat.le_zero.mp hfuel)
    obtain rfl := Except.ok.inj h
    cases hadds
    exact .nil
  | succ fuel ih =>
    by_cases hne : tokens = []
    · subst hne
      obtain rfl := Except.ok.inj h
      cases hadds
      exact .nil
    · rw [readItems.eq_3 _ _ hne] at h
      obtain ⟨⟨read, rest⟩, hread, h⟩ := bind_eq_ok_iff.mp h
      dsimp only at h
      split at h
      · obtain rfl := Except.ok.inj h
        obtain ⟨more, _, hmore, hnone, rfl⟩ := List.forall₂_cons_left_iff.mp hadds
        cases hnone
        obtain ⟨item, tag, hassigns, rfl, rfl⟩ := hmore.assigns hread
        rw [List.append_nil]
        exact .last hassigns
      · obtain ⟨others, hothers, h⟩ := bind_eq_ok_iff.mp h
        obtain rfl := Except.ok.inj h
        obtain ⟨more, left, hmore, hleft, rfl⟩ := List.forall₂_cons_left_iff.mp hadds
        obtain ⟨item, tag, hassigns, rfl, rfl⟩ := hmore.assigns hread
        refine .cons hassigns (ih ?_ hothers hleft)
        rw [List.length_append, List.length_cons] at hfuel
        omega
      · cases h

theorem TagList.readItems {tokens : List Token} {tags : List (String × String)}
    (h : TagList tokens tags) {fuel : Nat} (hfuel : tokens.length ≤ fuel) :
    ∃ reads, readItems fuel tokens = .ok reads ∧
      List.Forall₂ AddsTag reads (tags.map fun tag => [tag]) := by
  induction h generalizing fuel with
  | nil => exact ⟨[], by cases fuel <;> rfl, .nil⟩
  | @last item tag hassigns =>
    obtain ⟨read, hread, hadds⟩ := hassigns.readItem []
    rw [List.append_nil] at hread
    cases fuel with
    | zero => exact absurd (List.length_eq_zero_iff.mp (Nat.le_zero.mp hfuel)) hassigns.ne_nil
    | succ fuel => exact ⟨[read], readItems_last hread hassigns.ne_nil, .cons hadds .nil⟩
  | @cons item rest tag tags hassigns _ ih =>
    obtain ⟨read, hread, hadds⟩ := hassigns.readItem (.comma :: rest)
    rw [List.length_append, List.length_cons] at hfuel
    cases fuel with
    | zero => omega
    | succ fuel =>
      have hrest : rest.length ≤ fuel := by omega
      obtain ⟨reads, hreads, hothers⟩ := ih hrest
      refine ⟨read :: reads, ?_, .cons hadds hothers⟩
      rw [readItems_comma hread (List.append_ne_nil_of_left_ne_nil hassigns.ne_nil _), hreads]
      rfl

-- The items that are read and add tags are the tags that are listed.
theorem readItems_iff_tagList (tokens : List Token) (tags : List (String × String)) :
    (∃ reads groups, Declaration.readItems tokens.length tokens = .ok reads ∧
      List.Forall₂ AddsTag reads groups ∧ tags = groups.flatten) ↔ TagList tokens tags := by
  constructor
  · rintro ⟨reads, groups, hreads, hadds, rfl⟩
    exact tagList_of_readItems (Nat.le_refl _) hreads hadds
  · intro h
    obtain ⟨reads, hreads, hadds⟩ := h.readItems (Nat.le_refl _)
    exact ⟨reads, _, hreads, hadds, (List.flatMap_singleton' tags).symm⟩

-- An attribute adds the tags that it lists.
theorem addTags_eq_ok_iff (tags : List (String × String)) (a : Attribute)
    (result : List (String × String)) (hn : (tags.map (·.1)).Nodup) :
    addTags tags a = .ok result ↔
      ∃ more, a.Assigns more ∧ result = tags ++ more ∧ (result.map (·.1)).Nodup := by
  unfold addTags
  simp only [bind_eq_ok_iff, contents_eq_ok_iff, foldlM_appends addTag_eq_ok_iff _ _ _ hn,
    Attribute.Assigns, ← readItems_iff_tagList]
  constructor
  · rintro ⟨tokens, hb, reads, hr, groups, hg, rfl, hd⟩
    exact ⟨groups.flatten, ⟨tokens, hb, reads, groups, hr, hg, rfl⟩, rfl, hd⟩
  · rintro ⟨_, ⟨tokens, hb, reads, groups, hr, hg, rfl⟩, rfl, hd⟩
    exact ⟨tokens, hb, reads, hr, groups, hg, rfl, hd⟩

-- The tags of a field are those that its attributes assign.
theorem tagsOf_eq_ok_iff (field : FieldDeclaration) (tags : List (String × String)) :
    tagsOf field = .ok tags ↔ field.Tagged tags := by
  unfold tagsOf
  rw [foldlM_appends addTags_eq_ok_iff _ _ _ (by simp)]
  constructor
  · rintro ⟨groups, hg, rfl, hd⟩
    exact ⟨⟨groups, hg, List.nil_append _⟩, hd⟩
  · rintro ⟨⟨groups, hg, rfl⟩, hd⟩
    exact ⟨groups, hg, (List.nil_append _).symm, hd⟩

end Tags

end RecordSql.Declaration
