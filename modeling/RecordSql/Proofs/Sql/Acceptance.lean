import Mathlib.Data.List.Induction
import RecordSql.Proofs.Sql.NormalForm

namespace RecordSql.Sql

variable {ρ : Type}

section Programs

-- The kind of statement that a call is there to make.
def Call.kind? : Call ρ → Option StatementKind
  | .select .. => some .select
  | .insert .. => some .insert
  | .inserts .. => some .insert
  | .updates .. => some .update
  | _ => none

-- What a call has to be where it stands, apart from being the only one that makes a statement.
def Call.Fits (before : List (Call ρ)) : Call ρ → Prop
  | .select type record => (type.extract (dialectAfter before).space record).fields ≠ []
  | .inserts _ records => records ≠ []
  | .join .. => ∃ call ∈ before, call.kind? = some .select
  | .whereClause template arguments => gaps template.toList = arguments.length
  | _ => True

-- A program that a statement comes of.
structure Accepted (calls : List (Call ρ)) : Prop where
  single : (calls.filter (·.kind?.isSome)).length = 1
  fits : ∀ before call after, calls = before ++ call :: after → call.Fits before

-- Whether a call takes up the builder when it is free. An insert of no record leaves it free.
def Call.takes : Call ρ → Bool
  | .inserts _ records => !records.isEmpty
  | call => call.kind?.isSome

def Call.selectsFields (d : Dialect) : Call ρ → Bool
  | .select type record => !(type.extract d.space record).fields.isEmpty
  | _ => false

-- The call that has taken up the builder, and the dialect in which it did.
def taker? (calls : List (Call ρ)) : Option (Dialect × Call ρ) :=
  (inDialect {} calls).find? (·.2.takes)

def held? (calls : List (Call ρ)) : Option StatementKind := (taker? calls).bind (·.2.kind?)

-- Whether there is a table to join to. A selection of no field leaves none.
def canJoin (calls : List (Call ρ)) : Bool :=
  (taker? calls).any fun entry => entry.2.selectsFields entry.1

def another? (before : List (Call ρ)) (issued : StatementKind) : Option BuildError :=
  (held? before).map (.alreadyHolds issued)

-- What is wrong with a call behind the calls of a program.
def Call.fault? (before : List (Call ρ)) : Call ρ → Option BuildError
  | .tagNamespace _ => none
  | .naming _ => none
  | .select type record =>
    (another? before .select).or <|
      if (Call.select type record).selectsFields (dialectAfter before) then none
      else some (.nothingToSelect type.table)
  | .insert .. => another? before .insert
  | .inserts type [] => some (.noRecords type.table)
  | .inserts _ (_ :: _) => another? before .insert
  | .updates .. => another? before .update
  | .join type .. => if canJoin before then none else some (.joinBeforeSelect type.table)
  | .whereClause template arguments =>
    if gaps template.toList = arguments.length then none
    else some (.argumentMismatch template (gaps template.toList) arguments.length)

def firstFaultAfter (before : List (Call ρ)) : List (Call ρ) → Option BuildError
  | [] => none
  | call :: rest => (call.fault? before).or (firstFaultAfter (before ++ [call]) rest)

-- The first thing that is wrong in a program.
def firstFault? (calls : List (Call ρ)) : Option BuildError := firstFaultAfter [] calls

end Programs

section Concat

variable (calls : List (Call ρ)) (call : Call ρ)

theorem taker?_concat :
    taker? (calls ++ [call]) =
      (taker? calls).or (if call.takes then some (dialectAfter calls, call) else none) := by
  rw [taker?, inDialect_append, List.find?_append, taker?]
  cases h : call.takes <;> simp [inDialect, dialectAfter, h]

theorem firstFaultAfter_append (before more : List (Call ρ)) :
    firstFaultAfter before (calls ++ more) =
      (firstFaultAfter before calls).or (firstFaultAfter (before ++ calls) more) := by
  induction calls generalizing before with
  | nil => simp [firstFaultAfter]
  | cons first rest ih => simp [firstFaultAfter, ih, Option.or_assoc]

theorem firstFault?_concat :
    firstFault? (calls ++ [call]) = (firstFault? calls).or (call.fault? calls) := by
  simp [firstFault?, firstFaultAfter_append, firstFaultAfter]

-- A fault stays the first one, whatever comes after it.
theorem firstFault?_append (more : List (Call ρ)) {error : BuildError}
    (h : firstFault? calls = some error) : firstFault? (calls ++ more) = some error := by
  rw [firstFault?] at h
  rw [firstFault?, firstFaultAfter_append, h, Option.some_or]

theorem Call.kind?_isSome_of_takes {call : Call ρ} (h : call.takes = true) :
    call.kind?.isSome = true := by
  cases call <;> simp_all [Call.takes, Call.kind?]

theorem taker?_eq_none {calls : List (Call ρ)} (h : held? calls = none) : taker? calls = none := by
  cases ht : taker? calls with
  | none => rfl
  | some entry =>
    rw [taker?] at ht
    have htakes : entry.2.takes = true := by simpa using List.find?_some ht
    have hkind := Call.kind?_isSome_of_takes htakes
    rw [held?, taker?, ht, Option.bind_some] at h
    simp [h] at hkind

end Concat

section Tracking

theorem sorted_eq_nil_iff {extracted : Extracted} : extracted.sorted = [] ↔ extracted.fields = [] :=
  by
  rw [Extracted.sorted, ← List.length_eq_zero_iff, List.length_mergeSort, List.length_eq_zero_iff]

-- What a builder remembers of a program, also of one that has gone wrong.
structure Builder.Tracks (b : Builder) (calls : List (Call ρ)) : Prop where
  space : b.space = (dialectAfter calls).space
  kind : b.kind = held? calls
  selected : b.selected.isSome = canJoin calls
  error : b.error = firstFault? calls

namespace Builder

variable {b : Builder} {calls : List (Call ρ)} {call : Call ρ}

theorem tracks_empty : ({} : Builder).Tracks ([] : List (Call ρ)) := ⟨rfl, rfl, rfl, rfl⟩

-- A call that does not take up the builder changes neither its kind nor its selection.
theorem Tracks.keep {after : Builder} (h : b.Tracks calls) (ht : call.takes = false)
    (hs : after.space = ((dialectAfter calls).after call).space) (hk : after.kind = b.kind)
    (hj : after.selected.isSome = b.selected.isSome)
    (he : after.error = b.error.or (call.fault? calls)) : after.Tracks (calls ++ [call]) := by
  have htaker : taker? (calls ++ [call]) = taker? calls := by simp [taker?_concat, ht]
  refine ⟨by rw [hs, dialectAfter_concat], ?_, ?_, ?_⟩
  · rw [hk, h.kind, held?, held?, htaker]
  · rw [hj, h.selected, canJoin, canJoin, htaker]
  · rw [he, h.error, firstFault?_concat]

-- A builder that has been taken up refuses to make another statement.
theorem Tracks.refuse {issued existing : StatementKind} (h : b.Tracks calls)
    (hb : b.kind = some existing) (hd : (dialectAfter calls).after call = dialectAfter calls)
    (hf : call.fault? calls = some (.alreadyHolds issued existing)) :
    (b.reject (.alreadyHolds issued existing)).Tracks (calls ++ [call]) := by
  have hk : held? calls = some existing := h.kind ▸ hb
  have htaker : taker? (calls ++ [call]) = taker? calls := by
    cases ht : taker? calls with
    | none => simp [held?, ht] at hk
    | some entry => simp [taker?_concat, ht]
  refine ⟨?_, ?_, ?_, ?_⟩
  · rw [dialectAfter_concat, hd]
    exact h.space
  · rw [held?, htaker]
    exact h.kind
  · rw [canJoin, htaker]
    exact h.selected
  · rw [reject_error, firstFault?_concat, hf, h.error]

-- One that is free is taken up, whatever becomes of the statement.
theorem Tracks.take {after : Builder} (h : b.Tracks calls) (hb : b.kind = none)
    (ht : call.takes = true) (hd : (dialectAfter calls).after call = dialectAfter calls)
    (hs : after.space = b.space) (hk : after.kind = call.kind?)
    (hj : after.selected.isSome = (b.selected.isSome || call.selectsFields (dialectAfter calls)))
    (he : after.error = b.error.or (call.fault? calls)) : after.Tracks (calls ++ [call]) := by
  have hfree : taker? calls = none := taker?_eq_none (h.kind ▸ hb)
  have htaker : taker? (calls ++ [call]) = some (dialectAfter calls, call) := by
    simp [taker?_concat, hfree, ht]
  refine ⟨?_, ?_, ?_, ?_⟩
  · rw [hs, dialectAfter_concat, hd]
    exact h.space
  · rw [hk, held?, htaker]
    rfl
  · rw [hj, h.selected, canJoin, canJoin, hfree, htaker]
    rfl
  · rw [he, firstFault?_concat, h.error]

-- Selecting no field takes up the builder, and is an error all the same.
theorem Tracks.select (h : b.Tracks calls) (type : RecordType ρ) (record : ρ) :
    (b.select type record).Tracks (calls ++ [.select type record]) := by
  cases hb : b.kind with
  | some existing =>
    rw [Builder.select, start_of_held _ hb]
    exact h.refuse hb rfl (by simp [Call.fault?, another?, ← h.kind, hb])
  | none =>
    have hf : (Call.select type record).fault? calls =
        if (Call.select type record).selectsFields (dialectAfter calls) then none
        else some (.nothingToSelect type.table) := by
      simp [Call.fault?, another?, ← h.kind, hb]
    rw [Builder.select, start_of_free _ hb]
    dsimp only
    split
    · rename_i hnil
      rw [h.space, sorted_eq_nil_iff] at hnil
      refine h.take hb rfl rfl rfl rfl ?_ ?_
      · simp [Call.selectsFields, hnil, reject]
      · simp [Call.selectsFields, hnil, hf, reject_error]
    · rename_i hne
      have hne : (type.extract (dialectAfter calls).space record).fields ≠ [] := by
        rw [← h.space, ne_eq, ← sorted_eq_nil_iff]
        exact hne
      refine h.take hb rfl rfl rfl rfl ?_ ?_
      · simp [Call.selectsFields, hne]
      · simp [Call.selectsFields, hne, hf, addFragment]

-- A call that makes a statement of another kind fails only when there is one already.
theorem Tracks.fragment {kind : StatementKind} {go : Builder → Builder} (h : b.Tracks calls)
    (ht : call.takes = true) (hkind : call.kind? = some kind)
    (hd : (dialectAfter calls).after call = dialectAfter calls)
    (hf : call.fault? calls = another? calls kind)
    (hj : call.selectsFields (dialectAfter calls) = false)
    (hgo : ∀ b : Builder, ∃ text arguments, go b = b.addFragment text arguments) :
    (b.start kind go).Tracks (calls ++ [call]) := by
  cases hb : b.kind with
  | some existing =>
    rw [start_of_held _ hb]
    exact h.refuse hb hd (by simp [hf, another?, ← h.kind, hb])
  | none =>
    obtain ⟨text, arguments, hgo⟩ := hgo { b with kind := some kind }
    rw [start_of_free _ hb, hgo]
    refine h.take hb ht hd rfl hkind.symm ?_ ?_
    · simp [addFragment, hj]
    · simp [addFragment, hf, another?, ← h.kind, hb]

theorem Tracks.join (h : b.Tracks calls) (type : RecordType ρ) (left right : String) :
    (b.join type left right).Tracks (calls ++ [.join type left right]) := by
  have hselected := h.selected
  unfold Builder.join
  split
  · rename_i hs
    have hc : canJoin calls = false := by simpa [hs] using hselected.symm
    exact h.keep rfl h.space rfl rfl (by simp [reject_error, Call.fault?, hc])
  · rename_i short hs
    have hc : canJoin calls = true := by simpa [hs] using hselected.symm
    exact h.keep rfl h.space rfl rfl (by simp [addFragment, Call.fault?, hc])

theorem Tracks.whereClause (h : b.Tracks calls) (template : String) (arguments : List Argument) :
    (b.whereClause template arguments).Tracks (calls ++ [.whereClause template arguments]) := by
  unfold Builder.whereClause
  dsimp only
  split
  · rename_i hg
    exact h.keep rfl h.space rfl rfl (by simp [Call.fault?, hg])
  · rename_i hg
    exact h.keep rfl h.space rfl rfl (by simp [reject_error, Call.fault?, hg])

theorem Tracks.apply (h : b.Tracks calls) (call : Call ρ) :
    (b.apply call).Tracks (calls ++ [call]) := by
  cases call with
  | tagNamespace space =>
    exact h.keep rfl rfl rfl rfl (by simp [Builder.apply, tagNamespace, Call.fault?])
  | naming aliasOf =>
    exact h.keep rfl h.space rfl rfl (by simp [Builder.apply, Builder.naming, Call.fault?])
  | select type record => exact h.select type record
  | insert type record =>
    exact h.fragment rfl rfl rfl rfl rfl fun _ => ⟨_, _, rfl⟩
  | inserts type records =>
    cases records with
    | nil => exact h.keep rfl h.space rfl rfl (reject_error _ _)
    | cons first rest => exact h.fragment rfl rfl rfl rfl rfl fun _ => ⟨_, _, rfl⟩
  | updates type record => exact h.fragment rfl rfl rfl rfl rfl fun _ => ⟨_, _, rfl⟩
  | join type left right => exact h.join type left right
  | whereClause template arguments => exact h.whereClause template arguments

theorem Tracks.run (h : b.Tracks calls) (more : List (Call ρ)) :
    (b.run more).Tracks (calls ++ more) := by
  induction more generalizing b calls with
  | nil =>
    rw [List.append_nil]
    exact h
  | cons call rest ih =>
    have hrest := ih (h.apply call)
    rwa [List.append_assoc] at hrest

theorem start_arguments {kind : StatementKind} {go : Builder → Builder} (h : b.Tracks calls)
    (hf : (another? calls kind).isSome) : (b.start kind go).arguments = b.arguments := by
  rw [another?, Option.isSome_map, ← h.kind] at hf
  obtain ⟨existing, hb⟩ := Option.isSome_iff_exists.mp hf
  rw [start_of_held go hb, reject_arguments]

-- A call that is wrong binds nothing.
theorem Tracks.arguments_of_fault (h : b.Tracks calls) (hf : (call.fault? calls).isSome) :
    (b.apply call).arguments = b.arguments := by
  cases call with
  | tagNamespace space => rfl
  | naming aliasOf => rfl
  | select type record =>
    cases hb : b.kind with
    | some existing => rw [Builder.apply, Builder.select, start_of_held _ hb, reject_arguments]
    | none =>
      rw [Builder.apply, Builder.select, start_of_free _ hb]
      dsimp only
      split <;> simp [addFragment, Arguments.append]
  | insert type record => exact start_arguments h hf
  | inserts type records =>
    cases records with
    | nil => rfl
    | cons first rest => exact start_arguments h hf
  | updates type record => exact start_arguments h hf
  | join type left right =>
    unfold Builder.apply Builder.join
    dsimp only
    split <;> simp [addFragment, Arguments.append]
  | whereClause template arguments =>
    unfold Builder.apply Builder.whereClause
    dsimp only
    split <;> rfl

end Builder

end Tracking

section Acceptance

variable {calls : List (Call ρ)}

theorem map_inDialect (d : Dialect) (calls : List (Call ρ)) :
    (inDialect d calls).map (·.2) = calls := by
  induction calls generalizing d with
  | nil => rfl
  | cons call rest ih => simp [inDialect, ih]

-- The dialect of a call is the one that the calls before it leave.
theorem exists_of_mem_inDialect {d : Dialect} {entry : Dialect × Call ρ}
    (h : entry ∈ inDialect d calls) :
    ∃ before after,
      calls = before ++ entry.2 :: after ∧ entry.1 = before.foldl Dialect.after d := by
  induction calls generalizing d with
  | nil => simp [inDialect] at h
  | cons call rest ih =>
    rcases List.mem_cons.mp h with rfl | hrest
    · exact ⟨[], rest, rfl, rfl⟩
    · obtain ⟨before, after, rfl, hd⟩ := ih hrest
      exact ⟨call :: before, after, rfl, hd⟩

theorem exists_of_taker? {entry : Dialect × Call ρ} (h : taker? calls = some entry) :
    ∃ before after, calls = before ++ entry.2 :: after ∧ entry.1 = dialectAfter before :=
  exists_of_mem_inDialect (List.mem_of_find?_eq_some h)

theorem takes_of_taker? {entry : Dialect × Call ρ} (h : taker? calls = some entry) :
    entry.2.takes = true := by
  rw [taker?] at h
  simpa using List.find?_some h

theorem taker?_isSome_iff : (taker? calls).isSome ↔ ∃ call ∈ calls, call.takes = true := by
  have hcalls := map_inDialect {} calls
  rw [taker?, List.find?_isSome]
  constructor
  · rintro ⟨entry, hm, ht⟩
    exact ⟨entry.2, hcalls ▸ List.mem_map_of_mem hm, ht⟩
  · rintro ⟨call, hm, ht⟩
    have hmapped : call ∈ (inDialect {} calls).map (·.2) := by rwa [hcalls]
    obtain ⟨entry, hentry, rfl⟩ := List.mem_map.mp hmapped
    exact ⟨entry, hentry, ht⟩

theorem firstFaultAfter_eq_none_iff {before : List (Call ρ)} :
    firstFaultAfter before calls = none ↔
      ∀ first call after,
        calls = first ++ call :: after → call.fault? (before ++ first) = none := by
  induction calls generalizing before with
  | nil => simp [firstFaultAfter]
  | cons head rest ih =>
    rw [firstFaultAfter, Option.or_eq_none_iff, ih]
    constructor
    · rintro ⟨hhead, hrest⟩ first call after hsplit
      cases first with
      | nil =>
        obtain ⟨rfl, rfl⟩ := List.cons.inj hsplit
        rwa [List.append_nil]
      | cons other first =>
        obtain ⟨rfl, rfl⟩ := List.cons.inj hsplit
        simpa using hrest first call after rfl
    · intro h
      refine ⟨by simpa using h [] head rest rfl, fun first call after hsplit => ?_⟩
      simpa using h (head :: first) call after (by rw [hsplit, List.cons_append])

-- Nothing is wrong in a program when nothing is wrong with any of its calls.
theorem firstFault?_eq_none_iff :
    firstFault? calls = none ↔
      ∀ before call after, calls = before ++ call :: after → call.fault? before = none := by
  simp only [firstFault?, firstFaultAfter_eq_none_iff, List.nil_append]

-- A call that makes a statement finds no fault only in a builder that is free.
theorem Call.held?_of_fault? {call : Call ρ} {kind : StatementKind} (hk : call.kind? = some kind)
    (hf : call.fault? calls = none) : held? calls = none ∧ call.takes = true := by
  cases call with
  | select type record =>
    obtain ⟨hanother, -⟩ := Option.or_eq_none_iff.mp hf
    exact ⟨Option.map_eq_none_iff.mp hanother, rfl⟩
  | insert type record => exact ⟨Option.map_eq_none_iff.mp hf, rfl⟩
  | inserts type records =>
    cases records with
    | nil => simp [Call.fault?] at hf
    | cons first rest => exact ⟨Option.map_eq_none_iff.mp hf, rfl⟩
  | updates type record => exact ⟨Option.map_eq_none_iff.mp hf, rfl⟩
  | _ => simp [Call.kind?] at hk

theorem canJoin_iff :
    canJoin calls = true ↔
      ∃ entry, taker? calls = some entry ∧ entry.2.selectsFields entry.1 = true := by
  rw [canJoin]
  cases taker? calls <;> simp

theorem Call.kind?_of_selectsFields {d : Dialect} {call : Call ρ}
    (h : call.selectsFields d = true) : call.kind? = some .select := by
  cases call <;> simp_all [Call.selectsFields, Call.kind?]

theorem Call.fits_of_fault? {call : Call ρ} (hf : call.fault? calls = none) : call.Fits calls := by
  cases call with
  | select type record =>
    obtain ⟨-, hfields⟩ := Option.or_eq_none_iff.mp hf
    simpa [Call.selectsFields, Call.Fits] using hfields
  | inserts type records =>
    cases records with
    | nil => simp [Call.fault?] at hf
    | cons first rest => simp [Call.Fits]
  | join type left right =>
    have hjoin : canJoin calls = true := by simpa [Call.fault?] using hf
    obtain ⟨entry, ht, hs⟩ := canJoin_iff.mp hjoin
    obtain ⟨before, after, rfl, -⟩ := exists_of_taker? ht
    exact ⟨entry.2, by simp, Call.kind?_of_selectsFields hs⟩
  | whereClause template arguments => simpa [Call.fault?, Call.Fits] using hf
  | _ => trivial

-- Where nothing is wrong, the call that has taken up the builder is the only one of its sort.
theorem filter_kind?_of_firstFault? (h : firstFault? calls = none) :
    calls.filter (·.kind?.isSome) = (taker? calls).toList.map (·.2) := by
  induction calls using List.reverseRecOn with
  | nil => rfl
  | append_singleton calls call ih =>
    rw [firstFault?_concat, Option.or_eq_none_iff] at h
    obtain ⟨hcalls, hcall⟩ := h
    rw [List.filter_append, ih hcalls, taker?_concat]
    cases hk : call.kind? with
    | none =>
      have ht : call.takes = false := by
        by_contra ht
        have hkind := Call.kind?_isSome_of_takes (Bool.not_eq_false _ ▸ ht)
        simp [hk] at hkind
      simp [hk, ht]
    | some kind =>
      obtain ⟨hheld, ht⟩ := Call.held?_of_fault? hk hcall
      simp [hk, taker?_eq_none hheld, ht]

-- The statement of an accepted program is made by one call only.
theorem Accepted.eq_of_kind? (h : Accepted calls) {call other : Call ρ} (hcall : call ∈ calls)
    (hother : other ∈ calls) (hk : call.kind?.isSome = true) (hko : other.kind?.isSome = true) :
    call = other := by
  obtain ⟨only, honly⟩ := List.length_eq_one_iff.mp h.single
  have hc : call ∈ [only] := honly ▸ List.mem_filter.mpr ⟨hcall, hk⟩
  have ho : other ∈ [only] := honly ▸ List.mem_filter.mpr ⟨hother, hko⟩
  rw [List.mem_singleton.mp hc, List.mem_singleton.mp ho]

theorem Accepted.taker?_before (h : Accepted calls) {before after : List (Call ρ)} {call : Call ρ}
    (hsplit : calls = before ++ call :: after) (hk : call.kind?.isSome = true) :
    taker? before = none := by
  cases ht : taker? before with
  | none => rfl
  | some entry =>
    obtain ⟨first, rest, rfl, -⟩ := exists_of_taker? ht
    have hkind := Call.kind?_isSome_of_takes (takes_of_taker? ht)
    have hsingle := h.single
    simp [hsplit, hk, hkind] at hsingle
    omega

-- A table to join to is there as soon as a call has selected one.
theorem Accepted.canJoin_before (h : Accepted calls) {before after : List (Call ρ)}
    {call : Call ρ} (hsplit : calls = before ++ call :: after)
    (hs : ∃ call ∈ before, call.kind? = some .select) : canJoin before = true := by
  obtain ⟨selection, hm, hk⟩ := hs
  have htakes : selection.takes = true := by
    cases selection <;> simp_all [Call.kind?, Call.takes]
  obtain ⟨entry, ht⟩ := Option.isSome_iff_exists.mp (taker?_isSome_iff.mpr ⟨selection, hm, htakes⟩)
  obtain ⟨first, rest, rfl, hd⟩ := exists_of_taker? ht
  have heq : entry.2 = selection := by
    refine h.eq_of_kind? (by simp [hsplit]) ?_ (Call.kind?_isSome_of_takes (takes_of_taker? ht)) ?_
    · rw [hsplit]
      exact List.mem_append_left _ hm
    · simp [hk]
  have hfits := h.fits first entry.2 (rest ++ call :: after) (by simp [hsplit])
  refine canJoin_iff.mpr ⟨entry, ht, ?_⟩
  rw [hd]
  rw [heq] at hfits ⊢
  cases selection with
  | select type record => simpa [Call.selectsFields, Call.Fits] using hfits
  | _ => simp [Call.kind?] at hk

theorem Accepted.fault?_eq_none (h : Accepted calls) {before after : List (Call ρ)} {call : Call ρ}
    (hsplit : calls = before ++ call :: after) : call.fault? before = none := by
  have hfits := h.fits before call after hsplit
  have hfirst : call.kind?.isSome = true → ∀ kind, another? before kind = none := fun hk kind => by
    simp [another?, held?, h.taker?_before hsplit hk]
  cases call with
  | tagNamespace space => rfl
  | naming aliasOf => rfl
  | select type record =>
    have hfields : (type.extract (dialectAfter before).space record).fields ≠ [] := hfits
    simp [Call.fault?, hfirst rfl, Call.selectsFields, hfields]
  | insert type record => exact hfirst rfl _
  | inserts type records =>
    cases records with
    | nil => exact absurd rfl hfits
    | cons first rest => exact hfirst rfl _
  | updates type record => exact hfirst rfl _
  | join type left right => simp [Call.fault?, h.canJoin_before hsplit hfits]
  | whereClause template arguments =>
    have hgaps : gaps template.toList = arguments.length := hfits
    simp [Call.fault?, hgaps]

theorem Accepted.held?_isSome (h : Accepted calls) : (held? calls).isSome = true := by
  obtain ⟨only, honly⟩ := List.length_eq_one_iff.mp h.single
  obtain ⟨hm, hk⟩ := List.mem_filter.mp (honly ▸ List.mem_singleton_self only)
  obtain ⟨before, after, hsplit⟩ := List.append_of_mem hm
  obtain ⟨kind, hkind⟩ := Option.isSome_iff_exists.mp hk
  obtain ⟨-, ht⟩ := Call.held?_of_fault? hkind (h.fault?_eq_none hsplit)
  obtain ⟨entry, htaker⟩ := Option.isSome_iff_exists.mp (taker?_isSome_iff.mpr ⟨only, hm, ht⟩)
  simpa [held?, htaker] using Call.kind?_isSome_of_takes (takes_of_taker? htaker)

-- A program is accepted when nothing is wrong in it and there is a statement.
theorem accepted_iff : Accepted calls ↔ firstFault? calls = none ∧ (held? calls).isSome = true := by
  constructor
  · intro h
    exact ⟨firstFault?_eq_none_iff.mpr fun _ _ _ => h.fault?_eq_none, h.held?_isSome⟩
  · rintro ⟨hnone, hheld⟩
    refine ⟨?_, fun before call after hsplit => ?_⟩
    · obtain ⟨kind, hkind⟩ := Option.isSome_iff_exists.mp hheld
      obtain ⟨entry, ht, -⟩ := Option.bind_eq_some_iff.mp hkind
      rw [filter_kind?_of_firstFault? hnone, ht]
      rfl
    · exact Call.fits_of_fault? (firstFault?_eq_none_iff.mp hnone before call after hsplit)

end Acceptance

section Outcome

variable {b : Builder} {calls : List (Call ρ)}

theorem Builder.Tracks.toSql_of_fault (h : b.Tracks calls) {error : BuildError}
    (hf : firstFault? calls = some error) : b.toSql = .error (.misuse error.message) := by
  rw [Builder.toSql, Builder.statement?, h.error, hf]
  rfl

theorem Builder.Tracks.toSql_of_not_accepted (h : b.Tracks calls) (hn : ¬Accepted calls) :
    b.toSql = .error (.misuse ((firstFault? calls).getD .nothingIssued).message) := by
  cases hf : firstFault? calls with
  | some error => exact h.toSql_of_fault hf
  | none =>
    have hk : b.kind = none := by
      rw [h.kind, ← Option.not_isSome_iff_eq_none]
      exact fun hheld => hn (accepted_iff.mpr ⟨hf, hheld⟩)
    rw [Builder.toSql, Builder.statement?, h.error, hf, hk]
    rfl

theorem Builder.Tracks.accepted_of_toSql (h : b.Tracks calls) {statement : Statement}
    (hs : b.toSql = .ok statement) : Accepted calls := by
  by_contra hn
  simp [h.toSql_of_not_accepted hn] at hs

theorem Builder.Tracks.toSql_of_accepted (h : b.Tracks calls) (ha : Accepted calls) :
    ∃ statement, b.toSql = .ok statement := by
  obtain ⟨hf, hheld⟩ := accepted_iff.mp ha
  obtain ⟨kind, hk⟩ := Option.isSome_iff_exists.mp (h.kind ▸ hheld)
  rw [Builder.toSql, Builder.statement?, h.error, hf, hk]
  exact ⟨_, rfl⟩

end Outcome

-- A statement comes of exactly the programs that are accepted. Any other one gives the message
-- of the first call that is wrong, or tells that no call makes a statement. That error stays
-- whatever is called after it, and a call that is wrong binds no argument.
theorem toSql_accepted (calls : List (Call ρ)) :
    let built := fun calls : List (Call ρ) => ({} : Builder).run calls
    ((∃ statement, (built calls).toSql = .ok statement) ↔ Accepted calls) ∧
      (¬Accepted calls → (built calls).toSql =
        .error (.misuse ((firstFault? calls).getD .nothingIssued).message)) ∧
      (∀ error more, firstFault? calls = some error →
        (built (calls ++ more)).toSql = .error (.misuse error.message)) ∧
      ∀ call : Call ρ, (call.fault? calls).isSome →
        (built (calls ++ [call])).arguments = (built calls).arguments := by
  intro built
  have htracks : ∀ calls : List (Call ρ), (built calls).Tracks calls := Builder.tracks_empty.run
  refine ⟨⟨fun hmade => ?_, (htracks calls).toSql_of_accepted⟩,
    (htracks calls).toSql_of_not_accepted, fun error more hf => ?_, fun call hf => ?_⟩
  · obtain ⟨statement, hs⟩ := hmade
    by_contra hn
    simp [(htracks calls).toSql_of_not_accepted hn] at hs
  · exact (htracks (calls ++ more)).toSql_of_fault (firstFault?_append calls more hf)
  · have hsplit : built (calls ++ [call]) = (built calls).apply call :=
      Builder.run_append calls [call]
    rw [hsplit]
    exact (htracks calls).arguments_of_fault hf

-- A join comes too early, an insert of no record is tried, and a value is missing: the first of
-- these is told.
def hastyJoin : List (Call String) :=
  let game : RecordType String :=
    ⟨"ref_game", [⟨"title", [("sql", "game_title")], fun title => .required (.text title)⟩]⟩
  [.join ⟨"ref_score", []⟩ "game_id" "game_id", .select game "Go", .inserts game [],
    .whereClause "game_title = ?" []]

theorem toSql_accepted_hastyJoin :
    let message := "join on ref_score requires a preceding select"
    ¬Accepted hastyJoin ∧
      (({} : Builder).run hastyJoin).toSql = .error (.misuse message) ∧
      (({} : Builder).run (hastyJoin ++ [.tagNamespace "json"])).toSql =
        .error (.misuse message) := by
  intro message
  have hf : firstFault? hastyJoin = some (.joinBeforeSelect "ref_score") := rfl
  obtain ⟨hmade, hfailed, hstays, -⟩ := toSql_accepted hastyJoin
  have hn : ¬Accepted hastyJoin := fun ha => by simp [(accepted_iff.mp ha).1] at hf
  refine ⟨hn, ?_, hstays _ [.tagNamespace "json"] hf⟩
  rw [hfailed hn, hf]
  rfl

end RecordSql.Sql
