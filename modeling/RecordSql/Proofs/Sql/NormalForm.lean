import RecordSql.Proofs.Sql.Numbering
import RecordSql.Store.Statement

namespace RecordSql.Sql

variable {ρ : Type}

-- How names are found: the tag namespace of the fields, and the aliases of tables.
structure Dialect where
  space : String := "sql"
  aliasOf : String → String := Naming.camelCase

-- What a statement starts with, and the arguments that belong to it.
structure Head where
  kind : StatementKind
  text : String
  arguments : List Argument
  -- The alias of the selected table. An insert or an update selects none.
  short : String := ""

section Parts

def Dialect.after (d : Dialect) : Call ρ → Dialect
  | .tagNamespace space => { d with space }
  | .naming aliasOf => { d with aliasOf }
  | _ => d

-- The calls of a program, each with the dialect in force.
def inDialect (d : Dialect) : List (Call ρ) → List (Dialect × Call ρ)
  | [] => []
  | call :: rest => (d, call) :: inDialect (d.after call) rest

def insertText (table : String) (columns : List String) (rows : List (List Argument)) : String :=
  "INSERT INTO " ++ table ++ " " ++ inParentheses (columns ++ auditColumns) ++ " VALUES " ++
    joined (renderRows 1 rows)

-- The rows of an insert of several records.
def rowsUnder (space : String) (type : RecordType ρ) (names : List String) (records : List ρ) :
    List (List Argument) :=
  records.mapIdx fun reading record =>
    Builder.rowArguments reading (Builder.valuesUnder names (type.extract space record))

def Call.head? (d : Dialect) : Call ρ → Option Head
  | .select type record =>
    let short := d.aliasOf type.table
    let columns := (type.extract d.space record).sorted.map fun f => qualified short f.name
    some ⟨.select, "SELECT " ++ joined columns ++ " FROM " ++ type.table ++ " " ++ short, [], short⟩
  | .insert type record =>
    let fields := (type.extract d.space record).sorted
    let row := Builder.rowArguments 0 (fields.map (·.value))
    some { kind := .insert, text := insertText type.table (fields.map (·.name)) [row]
           arguments := row }
  | .inserts _ [] => none
  | .inserts type (first :: rest) =>
    let names := (type.extract d.space first).sorted.map (·.name)
    let rows := rowsUnder d.space type names (first :: rest)
    some { kind := .insert, text := insertText type.table names rows, arguments := rows.flatten }
  | .updates type record =>
    let fields := (type.extract d.space record).sorted
    let assignments :=
      List.zipWith (fun f place => Builder.assignment f.name place) fields
        (placeholders 2 fields.length) ++ [Builder.assignment writeDate (placeholder 1)]
    some { kind := .update, text := "UPDATE " ++ type.table ++ " SET " ++ joined assignments
           arguments := @Argument.now 0 :: fields.map (.value ·.value) }
  | _ => none

-- A join to the table that goes by an alias.
def Call.join? (selected : String) (d : Dialect) : Call ρ → Option String
  | .join type left right =>
    let short := d.aliasOf type.table
    some ("INNER JOIN " ++ type.table ++ " " ++ short ++ " ON " ++ qualified short left ++ " = " ++
      qualified selected right)
  | _ => none

def Call.condition? : Call ρ → Option Condition
  | .whereClause template arguments => some ⟨template.toList, arguments⟩
  | _ => none

-- The parts of a program, each in the order of the calls.
def heads (calls : List (Call ρ)) : List Head :=
  (inDialect {} calls).filterMap fun entry => entry.2.head? entry.1

def joins (selected : String) (calls : List (Call ρ)) : List String :=
  (inDialect {} calls).filterMap fun entry => entry.2.join? selected entry.1

def conditions (calls : List (Call ρ)) : List Condition :=
  calls.filterMap Call.condition?

-- The conditions of a program behind everything else.
def conditionsLast (calls : List (Call ρ)) : List (Call ρ) :=
  calls.filter (·.condition?.isNone) ++ calls.filter (·.condition?.isSome)

end Parts

section Append

variable (d : Dialect) (calls : List (Call ρ)) (call : Call ρ)

theorem inDialect_append (more : List (Call ρ)) :
    inDialect d (calls ++ more) = inDialect d calls ++ inDialect (calls.foldl Dialect.after d) more := by
  induction calls generalizing d with
  | nil => rfl
  | cons first rest ih => simp [inDialect, ih]

-- The dialect that a program leaves in force.
def dialectAfter (calls : List (Call ρ)) : Dialect := calls.foldl Dialect.after {}

theorem dialectAfter_concat : dialectAfter (calls ++ [call]) = (dialectAfter calls).after call := by
  simp [dialectAfter]

theorem heads_concat :
    heads (calls ++ [call]) = heads calls ++ (call.head? (dialectAfter calls)).toList := by
  rw [heads, inDialect_append, List.filterMap_append, heads]
  cases h : call.head? (dialectAfter calls) <;> simp_all [inDialect, dialectAfter]

theorem joins_concat (selected : String) :
    joins selected (calls ++ [call]) =
      joins selected calls ++ (call.join? selected (dialectAfter calls)).toList := by
  rw [joins, inDialect_append, List.filterMap_append, joins]
  cases h : call.join? selected (dialectAfter calls) <;> simp_all [inDialect, dialectAfter]

theorem conditions_concat :
    conditions (calls ++ [call]) = conditions calls ++ call.condition?.toList := by
  rw [conditions, List.filterMap_append, conditions]
  cases h : call.condition? <;> simp [h]

end Append

namespace Builder

variable {b : Builder}

section Errors

@[simp] theorem error_reject (b : Builder) (error : BuildError) : (b.reject error).error ≠ none := by
  simp [reject_error]

theorem start_eq_of_error {kind : StatementKind} {go : Builder → Builder}
    (h : (b.start kind go).error = none) :
    b.kind = none ∧ b.start kind go = go { b with kind := some kind } := by
  unfold start at h ⊢
  split at h
  · exact absurd h (error_reject _ _)
  · rename_i hk
    exact ⟨hk, rfl⟩

theorem whereClause_eq_of_error {template : String} {arguments : List Argument}
    (h : (b.whereClause template arguments).error = none) :
    b.whereClause template arguments =
      { b with conditions := b.conditions ++ [⟨template.toList, arguments⟩] } := by
  unfold whereClause at h ⊢
  dsimp only at h ⊢
  split at h
  · rename_i hg
    simp [hg]
  · exact absurd h (error_reject _ _)

-- A builder that has gone wrong stays so.
theorem error_of_apply (call : Call ρ) (h : (b.apply call).error = none) : b.error = none := by
  cases call with
  | tagNamespace space => exact h
  | naming aliasOf => exact h
  | select type record =>
    have hs := (start_eq_of_error h).2
    rw [Builder.apply, Builder.select, hs] at h
    dsimp only at h
    split at h
    · exact absurd h (error_reject _ _)
    · exact h
  | insert type record =>
    have hs := (start_eq_of_error h).2
    rw [Builder.apply, Builder.insert, hs] at h
    exact h
  | inserts type records =>
    cases records with
    | nil => exact absurd h (error_reject _ _)
    | cons first rest =>
      have hs := (start_eq_of_error h).2
      rw [Builder.apply, Builder.inserts, hs] at h
      exact h
  | updates type record =>
    have hs := (start_eq_of_error h).2
    rw [Builder.apply, Builder.updates, hs] at h
    exact h
  | join type left right =>
    unfold Builder.apply Builder.join at h
    dsimp only at h
    split at h
    · exact absurd h (error_reject _ _)
    · exact h
  | whereClause template arguments =>
    have hw := whereClause_eq_of_error h
    rw [Builder.apply, hw] at h
    exact h

theorem error_of_run (calls : List (Call ρ)) (h : (b.run calls).error = none) : b.error = none := by
  induction calls generalizing b with
  | nil => exact h
  | cons call rest ih => exact error_of_apply call (ih h)

end Errors

section Holds

-- What the statement of a builder is made of, by the head that its program has.
def Made (b : Builder) (calls : List (Call ρ)) : Option Head → Prop
  | none =>
    heads calls = [] ∧ (∀ selected, joins selected calls = []) ∧
      b.kind = none ∧ b.fragments = [] ∧ b.arguments = {} ∧ b.selected = none
  | some head =>
    heads calls = [head] ∧ b.kind = some head.kind ∧
      b.fragments = head.text :: joins head.short calls ∧
      b.arguments = ⟨head.arguments⟩ ∧
      b.selected = if head.kind = .select then some head.short else none

-- What a builder holds that has followed a program without an error.
structure Holds (b : Builder) (calls : List (Call ρ)) : Prop where
  space : b.space = (dialectAfter calls).space
  aliasOf : b.aliasOf = (dialectAfter calls).aliasOf
  conditions : b.conditions = Sql.conditions calls
  made : ∃ head, b.Made calls head

variable {calls : List (Call ρ)} {call : Call ρ}

theorem holds_empty : ({} : Builder).Holds ([] : List (Call ρ)) :=
  ⟨rfl, rfl, rfl, none, rfl, fun _ => rfl, rfl, rfl, rfl, rfl⟩

-- A call that is neither head nor join leaves the statement as it is.
theorem Made.keep {after : Builder} {head : Option Head} (h : b.Made calls head)
    (hh : call.head? (dialectAfter calls) = none)
    (hj : ∀ selected, call.join? selected (dialectAfter calls) = none)
    (hk : after.kind = b.kind) (hf : after.fragments = b.fragments)
    (ha : after.arguments = b.arguments) (hs : after.selected = b.selected) :
    after.Made (calls ++ [call]) head := by
  have hheads : heads (calls ++ [call]) = heads calls := by simp [heads_concat, hh]
  have hjoins : ∀ selected, joins selected (calls ++ [call]) = joins selected calls := fun selected =>
    by simp [joins_concat, hj]
  cases head <;> simpa only [Made, hheads, hjoins, hk, hf, ha, hs] using h

-- A head is the first thing that is written.
theorem Holds.begin {after : Builder} {head : Head} (h : b.Holds calls) (hb : b.kind = none)
    (hh : call.head? (dialectAfter calls) = some head)
    (hj : ∀ selected, call.join? selected (dialectAfter calls) = none)
    (hk : after.kind = some head.kind) (hf : after.fragments = b.fragments ++ [head.text])
    (ha : after.arguments = b.arguments.append head.arguments)
    (hs : after.selected = if head.kind = .select then some head.short else b.selected) :
    after.Made (calls ++ [call]) (some head) := by
  obtain ⟨old, hm⟩ := h.made
  cases old with
  | some old => simp [hb, Made] at hm
  | none =>
    obtain ⟨hheads, hjoins, -, hfragments, harguments, hselected⟩ := hm
    refine ⟨?_, hk, ?_, ?_, ?_⟩
    · simp [heads_concat, hheads, hh]
    · simp [hf, hfragments, joins_concat, hjoins, hj]
    · simp [ha, harguments, Arguments.append]
    · rw [hs, hselected]

-- Arguments are numbered from one, for nothing comes before a head.
theorem Holds.nextIndex (h : b.Holds calls) (hb : b.kind = none) : b.arguments.nextIndex = 1 := by
  obtain ⟨old, hm⟩ := h.made
  cases old with
  | some old => simp [hb, Made] at hm
  | none => simp [hm.2.2.2.2.1, Arguments.nextIndex, Arguments.size]

theorem Holds.goOn {after : Builder} (head : Option Head)
    (hs : after.space = ((dialectAfter calls).after call).space)
    (ha : after.aliasOf = ((dialectAfter calls).after call).aliasOf)
    (hc : after.conditions = Sql.conditions calls ++ call.condition?.toList)
    (hm : after.Made (calls ++ [call]) head) : after.Holds (calls ++ [call]) :=
  ⟨dialectAfter_concat calls call ▸ hs, dialectAfter_concat calls call ▸ ha,
    conditions_concat calls call ▸ hc, head, hm⟩

-- The head of a program is written by the first call that can, and later ones are errors.
theorem Holds.apply_head {head : Head} {after : Builder} (h : b.Holds calls) (hb : b.kind = none)
    (hd : (dialectAfter calls).after call = dialectAfter calls) (hc : call.condition? = none)
    (hh : call.head? (dialectAfter calls) = some head)
    (hj : ∀ selected, call.join? selected (dialectAfter calls) = none)
    (he : after = { b.addFragment head.text head.arguments with
      kind := some head.kind
      selected := if head.kind = .select then some head.short else b.selected }) :
    after.Holds (calls ++ [call]) := by
  subst he
  refine Holds.goOn (some head) ?_ ?_ ?_ (h.begin hb hh hj rfl rfl rfl rfl)
  · rw [hd]
    exact h.space
  · rw [hd]
    exact h.aliasOf
  · rw [hc]
    simpa [addFragment] using h.conditions

theorem Holds.select (h : b.Holds calls) (type : RecordType ρ) (record : ρ)
    (he : (b.select type record).error = none) :
    (b.select type record).Holds (calls ++ [.select type record]) := by
  obtain ⟨hb, hs⟩ := start_eq_of_error he
  refine h.apply_head hb rfl rfl rfl (fun _ => rfl) ?_
  rw [Builder.select, hs] at he ⊢
  dsimp only at he ⊢
  split at he
  · exact absurd he (error_reject _ _)
  · rw [← h.space, ← h.aliasOf]
    rfl

theorem Holds.insert (h : b.Holds calls) (type : RecordType ρ) (record : ρ)
    (he : (b.insert type record).error = none) :
    (b.insert type record).Holds (calls ++ [.insert type record]) := by
  obtain ⟨hb, hs⟩ := start_eq_of_error he
  refine h.apply_head hb rfl rfl rfl (fun _ => rfl) ?_
  rw [Builder.insert, hs, insertRows]
  dsimp only
  rw [h.nextIndex hb, ← h.space, List.flatten_singleton]
  rfl

theorem Holds.inserts (h : b.Holds calls) (type : RecordType ρ) (records : List ρ)
    (he : (b.inserts type records).error = none) :
    (b.inserts type records).Holds (calls ++ [.inserts type records]) := by
  cases records with
  | nil => exact absurd he (error_reject _ _)
  | cons first rest =>
    obtain ⟨hb, hs⟩ := start_eq_of_error he
    refine h.apply_head hb rfl rfl rfl (fun _ => rfl) ?_
    rw [Builder.inserts, hs, insertRows]
    dsimp only
    rw [h.nextIndex hb, ← h.space]
    rfl

theorem Holds.updates (h : b.Holds calls) (type : RecordType ρ) (record : ρ)
    (he : (b.updates type record).error = none) :
    (b.updates type record).Holds (calls ++ [.updates type record]) := by
  obtain ⟨hb, hs⟩ := start_eq_of_error he
  refine h.apply_head hb rfl rfl rfl (fun _ => rfl) ?_
  rw [Builder.updates, hs]
  dsimp only
  rw [h.nextIndex hb, ← h.space]
  rfl

-- There is a table to join to only when a select was the head.
theorem Holds.join (h : b.Holds calls) (type : RecordType ρ) (left right : String)
    (he : (b.join type left right).error = none) :
    (b.join type left right).Holds (calls ++ [.join type left right]) := by
  obtain ⟨head, hm⟩ := h.made
  unfold Builder.join at he ⊢
  split at he
  · exact absurd he (error_reject _ _)
  · rename_i selected hs
    cases head with
    | none => simp [hm.2.2.2.2.2] at hs
    | some head =>
      obtain ⟨hheads, hk, hf, ha, hselected⟩ := hm
      have hshort : head.short = selected := by
        rw [hselected] at hs
        split at hs
        · exact Option.some.inj hs
        · simp at hs
      refine Holds.goOn (some head) h.space h.aliasOf ?_ ⟨?_, hk, ?_, ?_, hselected⟩
      · simpa [addFragment, Call.condition?] using h.conditions
      · simp [heads_concat, hheads, Call.head?]
      · simp [addFragment, hf, joins_concat, Call.join?, hshort, h.aliasOf]
      · simp [addFragment, ha, Arguments.append]

theorem Holds.whereClause (h : b.Holds calls) (template : String) (arguments : List Argument)
    (he : (b.whereClause template arguments).error = none) :
    (b.whereClause template arguments).Holds (calls ++ [.whereClause template arguments]) := by
  obtain ⟨head, hm⟩ := h.made
  rw [whereClause_eq_of_error he]
  refine Holds.goOn _ h.space h.aliasOf ?_ (hm.keep rfl (fun _ => rfl) rfl rfl rfl rfl)
  simp [h.conditions, Call.condition?]

theorem Holds.apply (h : b.Holds calls) (he : (b.apply call).error = none) :
    (b.apply call).Holds (calls ++ [call]) := by
  obtain ⟨head, hm⟩ := h.made
  cases call with
  | tagNamespace space =>
    refine Holds.goOn _ rfl h.aliasOf ?_ (hm.keep rfl (fun _ => rfl) rfl rfl rfl rfl)
    exact h.conditions.trans (List.append_nil _).symm
  | naming aliasOf =>
    refine Holds.goOn _ h.space rfl ?_ (hm.keep rfl (fun _ => rfl) rfl rfl rfl rfl)
    exact h.conditions.trans (List.append_nil _).symm
  | select type record => exact h.select type record he
  | insert type record => exact h.insert type record he
  | inserts type records => exact h.inserts type records he
  | updates type record => exact h.updates type record he
  | join type left right => exact h.join type left right he
  | whereClause template arguments => exact h.whereClause template arguments he

theorem Holds.run (h : b.Holds calls) (more : List (Call ρ)) (he : (b.run more).error = none) :
    (b.run more).Holds (calls ++ more) := by
  induction more generalizing b calls with
  | nil =>
    rw [List.append_nil]
    exact h
  | cons call rest ih =>
    have hrest := ih (h.apply (error_of_run rest he)) he
    rwa [List.append_assoc] at hrest

end Holds

section Order

-- A builder with one condition more.
def withCondition (b : Builder) (condition : Condition) : Builder :=
  { b with conditions := b.conditions ++ [condition] }

theorem start_withCondition (condition : Condition) (kind : StatementKind)
    (go : Builder → Builder)
    (hgo : ∀ b : Builder, go (b.withCondition condition) = (go b).withCondition condition) :
    (b.withCondition condition).start kind go = (b.start kind go).withCondition condition := by
  unfold start
  rw [show (b.withCondition condition).kind = b.kind from rfl]
  cases b.kind with
  | some existing => rfl
  | none => exact hgo { b with kind := some kind }

-- A condition is kept apart from everything that other calls look at.
theorem apply_withCondition (condition : Condition) (call : Call ρ) (h : call.condition? = none) :
    (b.withCondition condition).apply call = (b.apply call).withCondition condition := by
  cases call with
  | tagNamespace space => rfl
  | naming aliasOf => rfl
  | select type record =>
    unfold Builder.apply Builder.select
    refine start_withCondition condition _ _ fun b => ?_
    dsimp only
    rw [show (b.withCondition condition).space = b.space from rfl]
    split <;> rfl
  | insert type record =>
    unfold Builder.apply Builder.insert
    exact start_withCondition condition _ _ fun b => rfl
  | inserts type records =>
    cases records with
    | nil => rfl
    | cons first rest =>
      unfold Builder.apply Builder.inserts
      exact start_withCondition condition _ _ fun b => rfl
  | updates type record =>
    unfold Builder.apply Builder.updates
    exact start_withCondition condition _ _ fun b => rfl
  | join type left right =>
    unfold Builder.apply Builder.join
    rw [show (b.withCondition condition).selected = b.selected from rfl]
    cases b.selected <;> rfl
  | whereClause template arguments => simp [Call.condition?] at h

theorem run_withCondition (condition : Condition) (calls : List (Call ρ))
    (h : ∀ call ∈ calls, call.condition? = none) :
    (b.withCondition condition).run calls = (b.run calls).withCondition condition := by
  induction calls generalizing b with
  | nil => rfl
  | cons call rest ih =>
    obtain ⟨hc, hr⟩ := List.forall_mem_cons.mp h
    rw [Builder.run, List.foldl_cons, apply_withCondition condition call hc]
    exact ih hr

-- Whether a condition is taken up does not depend on the builder.
theorem apply_of_condition? {call : Call ρ} {condition : Condition}
    (hc : call.condition? = some condition) (he : (b.apply call).error = none)
    (other : Builder) : other.apply call = other.withCondition condition := by
  cases call with
  | whereClause template arguments =>
    have hg : gaps template.toList = arguments.length := by
      by_contra hg
      rw [Builder.apply, whereClause] at he
      simp [hg] at he
    obtain rfl := Option.some.inj hc
    simp [Builder.apply, whereClause, hg, withCondition]
  | _ => simp [Call.condition?] at hc

theorem run_append (calls more : List (Call ρ)) :
    b.run (calls ++ more) = (b.run calls).run more := by
  rw [Builder.run, List.foldl_append]
  rfl

-- The induction is on the program: each condition passes over what comes after it.
theorem run_conditionsLast (calls : List (Call ρ)) (he : (b.run calls).error = none) :
    b.run (conditionsLast calls) = b.run calls := by
  induction calls generalizing b with
  | nil => rfl
  | cons call rest ih =>
    have hrest : (b.apply call).run (conditionsLast rest) = b.run (call :: rest) := ih he
    rw [conditionsLast, run_append] at hrest ⊢
    cases hc : call.condition? with
    | none =>
      rw [List.filter_cons_of_pos (by simp [hc]), List.filter_cons_of_neg (by simp [hc])]
      exact hrest
    | some condition =>
      have hothers : ∀ call ∈ rest.filter (·.condition?.isNone), call.condition? = none :=
        fun call hm => by simpa using (List.mem_filter.mp hm).2
      have hcall := apply_of_condition? hc (error_of_run rest he)
      rw [hcall, run_withCondition condition _ hothers, ← hcall] at hrest
      rw [List.filter_cons_of_neg (by simp [hc]), List.filter_cons_of_pos (by simp [hc])]
      exact hrest

end Order

end Builder

section ReturningClause

theorem contains_append (before part : List Char) : Store.contains part (before ++ part) = true := by
  induction before with
  | nil =>
    cases part with
    | nil => rfl
    | cons c rest => simp [Store.contains]
  | cons c rest ih => simp [Store.contains, ih]

theorem intercalate_concat (separator : String) (items : List String) (last : String) :
    ∃ before, separator.intercalate (items ++ [last]) = before ++ last :=
  match items with
  | [] => ⟨"", by simp⟩
  | [first] => ⟨first ++ separator, by
      rw [List.singleton_append, String.intercalate_cons_cons, String.intercalate_singleton]⟩
  | first :: second :: rest => by
    obtain ⟨before, hb⟩ := intercalate_concat separator (second :: rest) last
    rw [List.cons_append] at hb
    refine ⟨first ++ separator ++ before, ?_⟩
    rw [List.cons_append, List.cons_append, String.intercalate_cons_cons, hb, ← String.append_assoc]

-- A text whose last fragment is the clause is let through.
theorem hasReturningClause_intercalate (fragments : List String) :
    Store.hasReturningClause (" ".intercalate (fragments ++ [returningId])) = true := by
  obtain ⟨before, hb⟩ := intercalate_concat " " fragments returningId
  rw [Store.hasReturningClause, hb, String.toList_append]
  exact contains_append _ _

end ReturningClause

-- The statement that a program gives, from its parts.
def normalForm (head : Head) (calls : List (Call ρ)) : Statement :=
  let tail := if head.kind = .insert then [returningId] else []
  ⟨" ".intercalate (head.text :: (joins head.short calls ++
      renderConditions (head.arguments.length + 1) (conditions calls) ++ tail)),
    ⟨head.arguments ++ (conditions calls).flatMap (·.arguments)⟩⟩

theorem Builder.Holds.statement? {b : Builder} {calls : List (Call ρ)} {statement : Statement}
    (h : b.Holds calls) (hs : b.statement? = .ok statement) :
    ∃ head, heads calls = [head] ∧ statement = normalForm head calls := by
  obtain ⟨head, hm⟩ := h.made
  unfold Builder.statement? at hs
  split at hs
  · simp at hs
  · simp at hs
  · rename_i kind _ hkind
    cases head with
    | none => simp [hm.2.2.1] at hkind
    | some head =>
      obtain ⟨hheads, hk, hf, ha, -⟩ := hm
      obtain rfl : head.kind = kind := by simpa [hk] using hkind
      refine ⟨head, hheads, ?_⟩
      simp [hf, ha, h.conditions, Arguments.append, Arguments.nextIndex, Arguments.size] at hs
      simpa [normalForm] using hs.symm

theorem Builder.error_of_statement? {b : Builder} {statement : Statement}
    (h : b.statement? = .ok statement) : b.error = none := by
  unfold Builder.statement? at h
  split at h <;> simp_all

-- Whatever the order of the calls, a statement is its one head, the joins, the conditions and
-- the clause of an insert, and its arguments are those of the head and of the conditions. So
-- the conditions may as well come last, and what an insert gives is let through where the
-- identifier of a row is asked for.
theorem toSql_normalForm (calls : List (Call ρ)) (statement : Statement)
    (h : (({} : Builder).run calls).toSql = .ok statement) :
    ∃ head, heads calls = [head] ∧
      statement.sql = " ".intercalate (head.text :: (joins head.short calls ++
        renderConditions (head.arguments.length + 1) (conditions calls) ++
        if head.kind = .insert then [returningId] else [])) ∧
      statement.arguments.toList = head.arguments ++ (conditions calls).flatMap (·.arguments) ∧
      (({} : Builder).run (conditionsLast calls)).toSql = .ok statement ∧
      (head.kind = .insert → Store.hasReturningClause statement.sql = true) := by
  have hs := toSql_eq_ok h
  have he := Builder.error_of_statement? hs
  have holds : (({} : Builder).run calls).Holds calls := Builder.holds_empty.run calls he
  obtain ⟨head, hheads, rfl⟩ := holds.statement? hs
  refine ⟨head, hheads, rfl, rfl, ?_, fun hk => ?_⟩
  · rw [Builder.run_conditionsLast calls he]
    exact h
  · rw [normalForm, if_pos hk, ← List.cons_append]
    exact hasReturningClause_intercalate _

-- A selection with a join. The condition stands before either, and the names change between
-- them.
def scoresOfGame : List (Call String) :=
  let game : RecordType String :=
    ⟨"ref_game", [⟨"title", [("sql", "game_title"), ("short", "t")],
      fun title => .required (.text title)⟩]⟩
  let score : RecordType String := ⟨"ref_score", []⟩
  [.whereClause "game_title = ?" [.value (.text "Go")], .tagNamespace "short",
    .select game "Go", .naming fun table => table ++ "_of", .join score "game_id" "game_id",
    .whereClause "score > ?" [.value (.int 9)]]

theorem toSql_normalForm_scoresOfGame :
    let sql := "SELECT refGame.t FROM ref_game refGame " ++
      "INNER JOIN ref_score ref_score_of ON ref_score_of.game_id = refGame.game_id " ++
      "WHERE game_title = $1 WHERE score > $2"
    let statement : Statement := ⟨sql, ⟨[.value (.text "Go"), .value (.int 9)]⟩⟩
    (({} : Builder).run scoresOfGame).toSql = .ok statement ∧
      (({} : Builder).run (conditionsLast scoresOfGame)).toSql = .ok statement := by
  intro sql statement
  have hs : (({} : Builder).run scoresOfGame).toSql = .ok statement := by with_unfolding_all rfl
  obtain ⟨_, _, _, _, hlast, _⟩ := toSql_normalForm scoresOfGame _ hs
  exact ⟨hs, hlast⟩

end RecordSql.Sql
