import Mathlib.Data.List.Nodup
import RecordSql.Proofs.Wire.ByteOrder
import RecordSql.Record

namespace RecordSql

section FirstOfEachName

variable {xs : List ExtractedField}

theorem nodup_names_firstOfEachName (xs : List ExtractedField) :
    ((firstOfEachName xs).map (·.name)).Nodup := by
  induction xs with
  | nil => exact List.nodup_nil
  | cons f rest ih =>
    rw [firstOfEachName, List.map_cons, List.nodup_cons]
    refine ⟨fun hmem => ?_, ih.sublist (List.filter_sublist.map _)⟩
    obtain ⟨g, hg, hname⟩ := List.mem_map.mp hmem
    have hne : g.name ≠ f.name := by simpa using (List.mem_filter.mp hg).2
    exact hne hname

theorem firstOfEachName_eq_self (h : (xs.map (·.name)).Nodup) : firstOfEachName xs = xs := by
  induction xs with
  | nil => rfl
  | cons f rest ih =>
    rw [List.map_cons, List.nodup_cons] at h
    have hkeep : ∀ g ∈ rest, g.name != f.name := fun g hg => by
      simpa using fun hname => h.1 (List.mem_map.mpr ⟨g, hg, hname⟩)
    rw [firstOfEachName, ih h.2, List.filter_eq_self.mpr hkeep]

end FirstOfEachName

namespace Extracted

variable {e other : Extracted}

-- Under pairwise distinct names a name is looked up in any order of the fields.
theorem get?_eq_some_iff (h : e.names.Nodup) {name : String} {f : ExtractedField} :
    e.get? name = some f ↔ f ∈ e.fields ∧ f.name = name := by
  constructor
  · intro hget
    exact ⟨List.mem_of_find?_eq_some hget, by simpa using List.find?_some hget⟩
  · rintro ⟨hf, rfl⟩
    obtain ⟨g, hget⟩ : ∃ g, e.get? f.name = some g :=
      Option.isSome_iff_exists.mp (List.find?_isSome.mpr ⟨f, hf, beq_self_eq_true _⟩)
    have hname : g.name = f.name := by simpa using List.find?_some hget
    have hg : g ∈ e.fields := List.mem_of_find?_eq_some hget
    rw [hget, List.inj_on_of_nodup_map h hg hf hname]

theorem sorted_perm (e : Extracted) : e.sorted.Perm e.fields :=
  List.mergeSort_perm _ _

theorem names_sorted_perm (e : Extracted) : (e.sorted.map (·.name)).Perm e.names :=
  e.sorted_perm.map _

theorem pairwise_sorted (e : Extracted) : e.sorted.Pairwise fun a b => a.name ≤ b.name := by
  have hsort : e.sorted.Pairwise fun a b => decide (a.name ≤ b.name) = true := by
    refine List.pairwise_mergeSort ?_ ?_ e.fields
    · intro a b c hab hbc
      exact decide_eq_true (String.le_trans (of_decide_eq_true hab) (of_decide_eq_true hbc))
    · intro a b
      rw [Bool.or_eq_true, decide_eq_true_iff, decide_eq_true_iff]
      exact String.le_total _ _
  exact hsort.imp of_decide_eq_true

-- The names rise strictly, byte by byte.
theorem ascending_sorted (h : e.names.Nodup) :
    (e.sorted.map (·.name)).Pairwise fun a b => Wire.utf8 a < Wire.utf8 b := by
  have hle : (e.sorted.map (·.name)).Pairwise fun a b => a ≤ b :=
    List.pairwise_map.mpr e.pairwise_sorted
  have hne : (e.sorted.map (·.name)).Nodup := e.names_sorted_perm.nodup_iff.mpr h
  refine hle.imp₂ (fun a b hab hdistinct => ?_) hne
  rw [Wire.utf8_lt_utf8_iff]
  by_contra hlt
  exact hdistinct (String.le_antisymm hab (String.not_lt.mp hlt))

-- The two orders that hold of one extraction are put into the same order.
theorem sorted_eq_of_perm (h : e.names.Nodup) (hperm : e.fields.Perm other.fields) :
    e.sorted = other.sorted := by
  have hsorted : e.sorted.Perm other.sorted :=
    e.sorted_perm.trans (hperm.trans other.sorted_perm.symm)
  refine hsorted.eq_of_pairwise ?_ e.pairwise_sorted other.pairwise_sorted
  intro a b ha hb hab hba
  have ha : a ∈ e.fields := e.sorted_perm.mem_iff.mp ha
  have hb : b ∈ e.fields := hperm.mem_iff.mpr (other.sorted_perm.mem_iff.mp hb)
  exact List.inj_on_of_nodup_map h ha hb (String.le_antisymm hab hba)

theorem get?_eq_of_perm (h : e.names.Nodup) (hperm : e.fields.Perm other.fields) (name : String) :
    e.get? name = other.get? name := by
  have hother : other.names.Nodup := (hperm.map _).nodup_iff.mp h
  refine Option.ext fun f => ?_
  rw [get?_eq_some_iff h, get?_eq_some_iff hother, hperm.mem_iff]

end Extracted

namespace Descriptor

variable {ρ : Type}

-- The name that a field has in a namespace.
def tagName? (d : Descriptor ρ) (space : String) : Option String :=
  (d.tag? space).map fun raw => (Tag.parse raw).name

theorem tagName?_of_extract? {d : Descriptor ρ} {space : String} {record : ρ}
    {f : ExtractedField} (h : d.extract? space record = some f) :
    d.tagName? space = some f.name := by
  unfold extract? at h
  cases hraw : d.tag? space with
  | none => rw [hraw] at h; cases h
  | some raw =>
    rw [hraw] at h
    simp only [Option.ite_none_left_eq_some, Option.some.injEq] at h
    rw [tagName?, hraw, ← h.2]
    rfl

end Descriptor

namespace RecordType

variable {ρ : Type} {type other : RecordType ρ} {space : String}

-- The names that the fields of a type have in a namespace, in the order of their declaration.
def tagNames (type : RecordType ρ) (space : String) : List String :=
  type.fields.filterMap (·.tagName? space)

theorem nodup_names_extract (type : RecordType ρ) (space : String) (record : ρ) :
    (type.extract space record).names.Nodup :=
  nodup_names_firstOfEachName _

theorem names_filterMap_sublist (fields : List (Descriptor ρ)) (space : String) (record : ρ) :
    ((fields.filterMap (·.extract? space record)).map (·.name)).Sublist
      (fields.filterMap (·.tagName? space)) := by
  induction fields with
  | nil => exact List.Sublist.refl []
  | cons d fields ih =>
    cases hd : d.extract? space record with
    | none =>
      have hskip : (d :: fields).filterMap (·.extract? space record) =
          fields.filterMap (·.extract? space record) := List.filterMap_cons_none hd
      rw [hskip]
      exact ih.trans ((List.sublist_cons_self d fields).filterMap _)
    | some f =>
      simp only [List.filterMap_cons, hd, Descriptor.tagName?_of_extract? hd, List.map_cons]
      exact ih.cons_cons f.name

-- Where no two fields share a name, every usable field is extracted.
theorem fields_extract (h : (type.tagNames space).Nodup) (record : ρ) :
    (type.extract space record).fields = type.fields.filterMap (·.extract? space record) :=
  firstOfEachName_eq_self (h.sublist (names_filterMap_sublist type.fields space record))

theorem extract_perm (h : (type.tagNames space).Nodup) (hperm : type.fields.Perm other.fields)
    (record : ρ) :
    (type.extract space record).fields.Perm (other.extract space record).fields := by
  have hother : (other.tagNames space).Nodup := (hperm.filterMap _).nodup_iff.mp h
  rw [fields_extract h, fields_extract hother]
  exact hperm.filterMap _

end RecordType

end RecordSql
