import Mathlib.Data.List.Chain
import RecordSql.Proofs.Unicode.Blank

namespace RecordSql.Text

-- Whether two characters may stand next to each other.
def Apart (a b : Char) : Prop := ¬(a = ' ' ∧ b = ' ')

-- A text that has something in it, no space at either end, and never two spaces in a row.
structure Spaced (text : String) : Prop where
  nonempty : text ≠ ""
  leading : ' ' ∉ text.toList.head?
  trailing : ' ' ∉ text.toList.getLast?
  single : text.toList.IsChain Apart

-- A text with white space of no kind at its end.
def EndsVisibly (text : String) : Prop :=
  ∃ c ∈ text.toList.getLast?, Unicode.isBlank c = false

section Decidable

instance : DecidableRel Apart := fun a b => inferInstanceAs (Decidable ¬(a = ' ' ∧ b = ' '))

theorem spaced_iff {text : String} : Spaced text ↔
    text ≠ "" ∧ ' ' ∉ text.toList.head? ∧ ' ' ∉ text.toList.getLast? ∧
      text.toList.IsChain Apart :=
  ⟨fun h => ⟨h.nonempty, h.leading, h.trailing, h.single⟩,
    fun h => ⟨h.1, h.2.1, h.2.2.1, h.2.2.2⟩⟩

instance (text : String) : Decidable (Spaced text) := decidable_of_iff _ spaced_iff.symm

theorem endsVisibly_iff {text : String} :
    EndsVisibly text ↔ text.toList.getLast?.any (fun c => !Unicode.isBlank c) = true := by
  simp [EndsVisibly, Option.any_eq_true]

instance (text : String) : Decidable (EndsVisibly text) := decidable_of_iff _ endsVisibly_iff.symm

end Decidable

section Spaced

variable {s t text : String} {items : List String}

theorem Spaced.toList_ne_nil (h : Spaced text) : text.toList ≠ [] :=
  fun hnil => h.nonempty (String.toList_eq_nil_iff.mp hnil)

theorem Spaced.of_notMem (hne : text ≠ "") (h : ' ' ∉ text.toList) : Spaced text where
  nonempty := hne
  leading hfirst := h (List.mem_of_mem_head? hfirst)
  trailing hlast := h (List.mem_of_mem_getLast? hlast)
  single := List.isChain_iff_getElem.mpr fun _ _ hspaces => h (hspaces.1 ▸ List.getElem_mem _)

theorem Spaced.append (hs : Spaced s) (ht : Spaced t) : Spaced (s ++ t) where
  nonempty := by simp [hs.nonempty]
  leading := by
    rw [String.toList_append, List.head?_append_of_ne_nil _ hs.toList_ne_nil]
    exact hs.leading
  trailing := by
    rw [String.toList_append, List.getLast?_append_of_ne_nil _ ht.toList_ne_nil]
    exact ht.trailing
  single := by
    rw [String.toList_append]
    refine List.isChain_append.mpr ⟨hs.single, ht.single, fun a ha b _ hspaces => ?_⟩
    exact hs.trailing (hspaces.1 ▸ ha)

section Beside

variable {left right : List Char}

theorem leading_beside_iff :
    ' ' ∉ (left ++ ' ' :: right).head? ↔ left ≠ [] ∧ ' ' ∉ left.head? := by
  cases left <;> simp

theorem trailing_beside_iff :
    ' ' ∉ (left ++ ' ' :: right).getLast? ↔ right ≠ [] ∧ ' ' ∉ right.getLast? := by
  rw [List.getLast?_append_of_ne_nil _ (List.cons_ne_nil _ _)]
  cases right <;> simp [List.getLast?_cons]

theorem single_beside_iff :
    (left ++ ' ' :: right).IsChain Apart ↔
      left.IsChain Apart ∧ right.IsChain Apart ∧ ' ' ∉ left.getLast? ∧ ' ' ∉ right.head? := by
  have hbefore : (∀ a ∈ left.getLast?, ∀ b ∈ (' ' :: right).head?, Apart a b) ↔
      ' ' ∉ left.getLast? :=
    ⟨fun h hlast => h ' ' hlast ' ' rfl ⟨rfl, rfl⟩, fun h _ hlast _ _ hs => h (hs.1 ▸ hlast)⟩
  have hbehind : (∀ b ∈ right.head?, Apart ' ' b) ↔ ' ' ∉ right.head? :=
    ⟨fun h hfirst => h ' ' hfirst ⟨rfl, rfl⟩, fun h _ hfirst hs => h (hs.2 ▸ hfirst)⟩
  rw [List.isChain_append, List.isChain_cons, hbefore, hbehind]
  tauto

end Beside

-- A space between two texts is no part of either.
theorem spaced_beside_iff : Spaced (s ++ " " ++ t) ↔ Spaced s ∧ Spaced t := by
  have hchars : (s ++ " " ++ t).toList = s.toList ++ ' ' :: t.toList := by simp
  have hne : s ++ " " ++ t ≠ "" := by simp
  have hs : s.toList ≠ [] ↔ s ≠ "" := String.toList_eq_nil_iff.not
  have ht : t.toList ≠ [] ↔ t ≠ "" := String.toList_eq_nil_iff.not
  rw [spaced_iff, spaced_iff, spaced_iff, hchars, leading_beside_iff, trailing_beside_iff,
    single_beside_iff, hs, ht]
  tauto

-- Of texts in a row with a space in between, each one shows in the spacing of the whole.
theorem spaced_intercalate_iff (hne : items ≠ []) :
    Spaced (" ".intercalate items) ↔ ∀ item ∈ items, Spaced item := by
  induction items with
  | nil => contradiction
  | cons first rest ih =>
    cases rest with
    | nil => simp
    | cons next rest =>
      rw [String.intercalate_cons_cons, spaced_beside_iff, ih (List.cons_ne_nil _ _),
        List.forall_mem_cons (a := first)]

theorem Spaced.list (hne : items ≠ []) (h : ∀ item ∈ items, Spaced item) :
    Spaced (", ".intercalate items) := by
  induction items with
  | nil => contradiction
  | cons first rest ih =>
    obtain ⟨hfirst, hrest⟩ := List.forall_mem_cons.mp h
    cases rest with
    | nil => simpa using hfirst
    | cons next rest =>
      have hcomma : first ++ ", " = first ++ "," ++ " " := by
        rw [String.append_assoc]
        rfl
      rw [String.intercalate_cons_cons, hcomma]
      exact spaced_beside_iff.mpr
        ⟨hfirst.append (by decide), ih (List.cons_ne_nil _ _) hrest⟩

end Spaced

section EndsVisibly

variable {s t : String} {items : List String}

theorem EndsVisibly.append (s : String) (h : EndsVisibly t) : EndsVisibly (s ++ t) := by
  obtain ⟨c, hc, hvisible⟩ := h
  refine ⟨c, ?_, hvisible⟩
  rw [String.toList_append]
  exact List.mem_getLast?_append_of_mem_getLast? hc

theorem EndsVisibly.intercalate (separator : String) (hne : items ≠ [])
    (h : ∀ item ∈ items, EndsVisibly item) : EndsVisibly (separator.intercalate items) := by
  induction items with
  | nil => contradiction
  | cons first rest ih =>
    obtain ⟨hfirst, hrest⟩ := List.forall_mem_cons.mp h
    cases rest with
    | nil => simpa using hfirst
    | cons next rest =>
      rw [String.intercalate_cons_cons]
      exact (ih (List.cons_ne_nil _ _) hrest).append _

end EndsVisibly

end RecordSql.Text
