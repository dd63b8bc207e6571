import RecordSql.Proofs.Store.Conservation
import RecordSql.Proofs.Store.Reply

namespace RecordSql.Store

open Server

variable {σ : Type}

namespace Scan

section Statements

variable (scan : Scan σ) (state : σ) (rows : List Row)

-- The state that is left when each of the rows has been handed over, whatever was refused.
def through : σ := rows.foldl (fun state row => (scan state row).1) state

-- Why the scan refuses a row, if it does, after all rows in front of it.
def refusal? (n : Nat) : Option Error :=
  rows[n]?.bind fun row => (scan (scan.through state (rows.take n)) row).2

-- The scan refuses the row with this number, and none before it.
structure FirstRefusal (n : Nat) (e : Error) : Prop where
  refused : scan.refusal? state rows n = some e
  first : ∀ m < n, scan.refusal? state rows m = none

-- The same scan, but with a list of the rows that it was handed.
def noting : Scan (σ × List Row) := fun noted row =>
  (((scan noted.1 row).1, noted.2 ++ [row]), (scan noted.1 row).2)

-- What comes of rows for a scan: the rows that it is handed, its state in the end and the
-- result. It is handed each row that no refusal stands in front of. That a row is refused since
-- something is not found is no error.
structure Handed (seen : List Row) (last : σ) (result : Except Error Unit) : Prop where
  inOrder : seen <+: rows
  seen_iff : ∀ n, n < seen.length ↔ n < rows.length ∧ ∀ m < n, scan.refusal? state rows m = none
  last_eq : last = scan.through state seen
  ok_iff : result = .ok () ↔ (∀ n, scan.refusal? state rows n = none) ∨
    ∃ n reason, scan.FirstRefusal state rows n (.notFound reason)
  error_iff : ∀ e, result = .error e ↔ e.isNotFound = false ∧
    ∃ n, scan.FirstRefusal state rows n e

-- What comes of a query for a scan. When the query fails it is handed nothing.
inductive Ends : Except Error (List Row) → List Row → σ → Except Error Unit → Prop
  | failed (e : Error) : Ends (.error e) [] state (.error e)
  | handed {rows seen : List Row} {last : σ} {result : Except Error Unit}
      (h : scan.Handed state rows seen last result) : Ends (.ok rows) seen last result

-- How far the rows are handed over, and the refusal that this ends with.
inductive Stops : List Row → Option Error → Prop
  | never (h : ∀ n, scan.refusal? state rows n = none) : Stops rows none
  | behind {n : Nat} {e : Error} (h : scan.FirstRefusal state rows n e) :
    Stops (rows.take (n + 1)) (some e)

end Statements

section Handing

variable {scan : Scan σ} {state : σ} {row : Row} {rows seen : List Row} {n : Nat} {e : Error}

theorem FirstRefusal.lt (h : scan.FirstRefusal state rows n e) : n < rows.length := by
  refine Nat.lt_of_not_le fun hn => ?_
  have hrefused := h.refused
  rw [refusal?, List.getElem?_eq_none hn] at hrefused
  simp at hrefused

theorem FirstRefusal.unique {m : Nat} {other : Error} (h : scan.FirstRefusal state rows n e)
    (ho : scan.FirstRefusal state rows m other) : n = m ∧ e = other := by
  have hn : ¬ n < m := fun hlt => by simpa [h.refused] using ho.first n hlt
  have hm : ¬ m < n := fun hlt => by simpa [ho.refused] using h.first m hlt
  obtain rfl : n = m := by omega
  exact ⟨rfl, Option.some.inj (h.refused.symm.trans ho.refused)⟩

theorem FirstRefusal.head (h : (scan state row).2 = some e) :
    scan.FirstRefusal state (row :: rows) 0 e :=
  ⟨h, fun m hm => absurd hm (Nat.not_lt_zero m)⟩

theorem FirstRefusal.cons (hrow : (scan state row).2 = none)
    (h : scan.FirstRefusal (scan state row).1 rows n e) :
    scan.FirstRefusal state (row :: rows) (n + 1) e := by
  refine ⟨h.refused, fun m hm => ?_⟩
  cases m with
  | zero => exact hrow
  | succ m => exact h.first m (Nat.lt_of_succ_lt_succ hm)

theorem Stops.cons {refused : Option Error} (hrow : (scan state row).2 = none)
    (h : scan.Stops (scan state row).1 rows seen refused) :
    scan.Stops state (row :: rows) (row :: seen) refused := by
  cases h with
  | never h =>
    refine .never fun n => ?_
    cases n with
    | zero => exact hrow
    | succ n => exact h n
  | behind h => exact .behind (h.cons hrow)

theorem all_cons_of_refused (h : (scan state row).2 = some e) :
    scan.all state (row :: rows) = ((scan state row).1, some e) := by
  rw [all]
  split
  · rename_i hscan
    rw [hscan] at h
    rw [hscan, ← h]
  · rename_i hscan
    rw [hscan] at h
    simp at h

theorem all_cons_of_taken (h : (scan state row).2 = none) :
    scan.all state (row :: rows) = scan.all (scan state row).1 rows := by
  rw [all]
  split
  · rename_i hscan
    rw [hscan] at h
    simp at h
  · rename_i hscan
    rw [hscan]

theorem all_singleton (scan : Scan σ) (state : σ) (row : Row) :
    scan.all state [row] = scan state row := by
  cases hrow : (scan state row).2 with
  | some e => rw [all_cons_of_refused hrow, ← hrow]
  | none => rw [all_cons_of_taken hrow, all, ← hrow]

-- The induction is on the rows. A row that is taken is put in front of what is seen of the rest.
theorem all_stops (scan : Scan σ) (state : σ) (rows : List Row) :
    ∃ seen refused, scan.Stops state rows seen refused ∧
      scan.all state rows = (scan.through state seen, refused) ∧
      ∀ before, scan.noting.all (state, before) rows =
        ((scan.through state seen, before ++ seen), refused) := by
  induction rows generalizing state with
  | nil => exact ⟨[], none, .never fun _ => rfl, rfl, fun before => by simp [all, through]⟩
  | cons row rest ih =>
    cases hrow : (scan state row).2 with
    | some e =>
      exact ⟨[row], some e, .behind (.head hrow), all_cons_of_refused hrow,
        fun before => all_cons_of_refused hrow⟩
    | none =>
      obtain ⟨seen, refused, hstops, hall, hnoting⟩ := ih (scan state row).1
      refine ⟨row :: seen, refused, hstops.cons hrow, (all_cons_of_taken hrow).trans hall,
        fun before => ?_⟩
      have htaken : scan.noting.all (state, before) (row :: rest) =
          scan.noting.all ((scan state row).1, before ++ [row]) rest := all_cons_of_taken hrow
      rw [htaken, hnoting, List.append_assoc]
      rfl

-- What a refusal, or none, makes of a query.
def resultOf : Option Error → Except Error Unit
  | none => .ok ()
  | some e => if e.isNotFound then .ok () else .error e

theorem resultOf_some_eq_error {other : Error} :
    resultOf (some e) = .error other ↔ other.isNotFound = false ∧ e = other := by
  rw [resultOf]
  cases h : e.isNotFound with
  | true =>
    simp only [if_true, reduceCtorEq, false_iff, not_and]
    rintro hother rfl
    exact absurd (h.symm.trans hother) (by decide)
  | false =>
    simp only [Bool.false_eq_true, if_false, Except.error.injEq]
    exact ⟨fun he => ⟨he ▸ h, he⟩, And.right⟩

theorem resultOf_some_eq_ok :
    resultOf (some e) = .ok () ↔ ∃ reason, e = .notFound reason := by
  cases e <;> simp [resultOf, Error.isNotFound]

theorem Stops.handed {refused : Option Error} (h : scan.Stops state rows seen refused) :
    scan.Handed state rows seen (scan.through state seen) (resultOf refused) := by
  cases h with
  | never h =>
    have hnone : ∀ n e, ¬ scan.FirstRefusal state rows n e := fun n e hfirst => by
      simpa [h n] using hfirst.refused
    refine ⟨List.prefix_rfl, fun n => ?_, rfl, ?_, fun e => ?_⟩
    · exact ⟨fun hn => ⟨hn, fun m _ => h m⟩, fun hn => hn.1⟩
    · simp [resultOf, h]
    · simp [resultOf, hnone]
  | @behind n e h =>
    have hlt := h.lt
    have hlength : (rows.take (n + 1)).length = n + 1 := by
      rw [List.length_take]
      omega
    refine ⟨List.take_prefix _ _, fun m => ?_, rfl, ?_, fun other => ?_⟩
    · rw [hlength]
      constructor
      · exact fun hm => ⟨by omega, fun k hk => h.first k (by omega)⟩
      · rintro ⟨-, hfree⟩
        refine Nat.lt_of_not_le fun hm => ?_
        simpa [h.refused] using hfree n (by omega)
    · rw [resultOf_some_eq_ok]
      constructor
      · rintro ⟨reason, rfl⟩
        exact .inr ⟨n, reason, h⟩
      · rintro (hnone | ⟨m, reason, hm⟩)
        · simpa [h.refused] using hnone n
        · exact ⟨reason, (h.unique hm).2⟩
    · rw [resultOf_some_eq_error]
      refine and_congr_right fun _ => ⟨?_, ?_⟩
      · rintro rfl
        exact ⟨n, h⟩
      · rintro ⟨m, hm⟩
        exact (h.unique hm).2

-- What a query gives, with the rows that it fetched or the error that it failed with.
def outcome (scan : Scan σ) (state : σ) : Except Error (List Row) → σ × Except Error Unit
  | .error e => (state, .error e)
  | .ok rows => ((scan.all state rows).1, resultOf (scan.all state rows).2)

-- An operation gives what comes of the fetched rows for its scan. What the scan is handed shows
-- when it notes the rows.
def RunsOver (scan : Scan σ) (state : σ) (fetched : Except Error (List Row))
    (operation : ∀ {τ : Type}, Scan τ → τ → Action (τ × Except Error Unit)) (w : World) : Prop :=
  ∃ seen last result, scan.Ends state fetched seen last result ∧
    (operation scan state).answer w = (last, result) ∧
    (operation scan.noting (state, [])).answer w = ((last, seen), result)

theorem runsOver_of_outcome {fetched : Except Error (List Row)}
    {operation : ∀ {τ : Type}, Scan τ → τ → Action (τ × Except Error Unit)} {w : World}
    (h : ∀ {τ : Type} (scan : Scan τ) (state : τ),
      (operation scan state).answer w = scan.outcome state fetched) (scan : Scan σ) (state : σ) :
    scan.RunsOver state fetched operation w := by
  cases fetched with
  | error e => exact ⟨[], state, .error e, .failed e, h scan state, h scan.noting (state, [])⟩
  | ok rows =>
    obtain ⟨seen, refused, hstops, hall, hnoting⟩ := scan.all_stops state rows
    refine ⟨seen, _, _, .handed hstops.handed, ?_, ?_⟩
    · rw [h, outcome, hall]
    · rw [h, outcome, hnoting, List.nil_append]

end Handing

end Scan

section Operations

variable (scan : Scan σ) (state : σ) (limit : Deadline) (sql : String) (arguments : List Value)
  (w : World)

-- The rows that a statement gives over a connection.
def World.rowsOver (w : World) (lease : Lease) (limit : Deadline) (sql : String)
    (arguments : List Value) : Except Error (List Row) :=
  ((statement lease (some limit) sql arguments).answer
    (w.log (.executing sql arguments.length))).map (·.rows)

-- The rows that a statement gives over a connection of the pool, if there is one to be had.
def World.rowsOf (w : World) (limit : Deadline) (sql : String) (arguments : List Value) :
    Except Error (List Row) :=
  ((acquire limit).answer w).bind fun lease =>
    ((acquire limit).after w).rowsOver lease limit sql arguments

theorem answer_scanned (failure : String) (count : Nat) (refused : Option Error) :
    (scanned failure sql count refused).answer w = Scan.resultOf refused := by
  cases refused with
  | none => rfl
  | some e =>
    rw [scanned, Scan.resultOf]
    cases e.isNotFound <;> rfl

theorem answer_queryOn (lease : Lease) :
    (queryOn lease limit scan state sql arguments).answer w =
      scan.outcome state (w.rowsOver lease limit sql arguments) := by
  rw [queryOn, Action.answer_bind, World.rowsOver, ← loggedStatement_answer _ _ _ "query failed"]
  cases (loggedStatement "query failed" lease limit sql arguments).answer w with
  | error e => rfl
  | ok done =>
    cases hrows : done.rows with
    | nil => simp [hrows, Except.map, Scan.outcome, Scan.all, Scan.resultOf]
    | cons row rest =>
      simp [hrows, Except.map, Scan.outcome, answer_scanned]

theorem answer_queryRowOn (lease : Lease) :
    (queryRowOn lease limit scan state sql arguments).answer w =
      scan.outcome state ((w.rowsOver lease limit sql arguments).map (·.take 1)) := by
  rw [queryRowOn, Action.answer_bind, World.rowsOver,
    ← loggedStatement_answer _ _ _ "query row failed"]
  cases (loggedStatement "query row failed" lease limit sql arguments).answer w with
  | error e => rfl
  | ok done =>
    cases hrows : done.rows with
    | nil => simp [hrows, Except.map, Scan.outcome, Scan.all, Scan.resultOf]
    | cons row rest =>
      simp [hrows, Except.map, Scan.outcome, answer_scanned, Scan.all_singleton]

theorem answer_query :
    (query limit scan state sql arguments).answer w =
      scan.outcome state (w.rowsOf limit sql arguments) := by
  rw [query, Action.answer_bind, Action.answer_pure, withLease_answer, World.rowsOf]
  cases (acquire limit).answer w with
  | error e => rfl
  | ok lease => rw [Except.map, scanResult, Except.bind, answer_queryOn]

theorem answer_queryRow :
    (queryRow limit scan state sql arguments).answer w =
      scan.outcome state ((w.rowsOf limit sql arguments).map (·.take 1)) := by
  rw [queryRow, Action.answer_bind, Action.answer_pure, withLease_answer, World.rowsOf]
  cases (acquire limit).answer w with
  | error e => rfl
  | ok lease => rw [Except.map, scanResult, Except.bind, answer_queryRowOn]

end Operations

section Answers

variable {α : Type} {stale : Lease → Prop} {origin : Scene} {held : List Lease} {w after : World}
  {lease : Lease} {limit : Deadline} {sql : String} {arguments : List Value}

-- The rows over a connection are those that the server answers with.
def World.FetchedOver (w after : World) (lease : Lease) (limit : Deadline) (sql : String)
    (arguments : List Value) (fetched : Except Error (List Row)) : Prop :=
  ∃ done, Concluded lease limit sql arguments w after done ∧ fetched = done.map (·.rows)

-- The rows over whatever connection the pool hands out, when it hands out one.
inductive World.Fetched (w after : World) (limit : Deadline) (sql : String)
    (arguments : List Value) : Except Error (List Row) → Prop
  | unconnected {e : Error} (ha : (acquire limit).answer w = .error e) :
    Fetched w after limit sql arguments (.error e)
  | over {lease : Lease} {fetched : Except Error (List Row)}
    (ha : (acquire limit).answer w = .ok lease)
    (hf : w.FetchedOver after lease limit sql arguments fetched) :
    Fetched w after limit sql arguments fetched

theorem Runs.fetchedOver {failed : Error → α} {action : Action α}
    (hr : Runs lease limit sql arguments failed action) (h : Arrives stale origin held w)
    (hu : w.Uses held lease) :
    w.FetchedOver (action.after w) lease limit sql arguments
      (w.rowsOver lease limit sql arguments) :=
  ⟨_, hr.concluded h hu, rfl⟩

theorem withLease_after {use : Lease → Action α} (ha : (acquire limit).answer w = .ok lease) :
    (withLease limit use).after w =
      ((use lease).after ((acquire limit).after w)).giveBack lease := by
  rw [withLease, Action.after_bind, ha]
  dsimp only
  rw [Action.after_bind, Action.after_bind, Action.after_modify, Action.after_pure]

-- Checking a connection out before and giving it back afterwards say nothing.
theorem withLease_fetched {failed : Error → α} {use : Lease → Action α}
    (hr : ∀ lease, Runs lease limit sql arguments failed (use lease))
    (h : Arrives stale origin held w) :
    w.Fetched ((withLease limit use).after w) limit sql arguments
      (w.rowsOf limit sql arguments) := by
  obtain ⟨hf, -⟩ := acquire_acquires limit w h.custody
  have htaken := acquire_takes limit h
  rw [World.rowsOf]
  cases ha : (acquire limit).answer w with
  | error e => exact .unconnected ha
  | ok lease =>
    rw [ha] at htaken
    rw [withLease_after ha, Except.bind]
    generalize (acquire limit).after w = mid at hf htaken ⊢
    have hlent : Arrives stale origin (lease :: held) mid := htaken
    obtain ⟨done, hc, hrows⟩ :=
      (hr lease).fetchedOver hlent (List.mem_append_left _ List.mem_cons_self)
    generalize (use lease).after mid = used at hc ⊢
    have hnow : (used.giveBack lease).now = used.now := (World.elapsed_giveBack used lease).now_eq
    exact .over ha ⟨done, hc.silently hf (follows_giveBack used lease) hnow, hrows⟩

-- Whoever queries, outside of a transaction or in one: the rows are handed over one by one until
-- one of them is refused, and the result is the refusal, unless that only says that nothing was
-- found. A query for one row does with the first row what a query does with all of them. In
-- whatever state the store has come to, the rows are those of the server's answer.
theorem queries_runOver (scan : Scan σ) (state : σ) (limit : Deadline) (sql : String)
    (arguments : List Value) (w : World) (lease : Lease) :
    ((scan.RunsOver state (w.rowsOf limit sql arguments)
        (fun scan state => query limit scan state sql arguments) w ∧
      scan.RunsOver state ((w.rowsOf limit sql arguments).map (·.take 1))
        (fun scan state => queryRow limit scan state sql arguments) w) ∧
      scan.RunsOver state (w.rowsOver lease limit sql arguments)
        (fun scan state => queryOn lease limit scan state sql arguments) w ∧
      scan.RunsOver state ((w.rowsOver lease limit sql arguments).map (·.take 1))
        (fun scan state => queryRowOn lease limit scan state sql arguments) w) ∧
    ∀ config server welcomes races held gone,
      Moves anyLease (Scene.start config server welcomes races) ⟨held, gone, w⟩ →
      (w.Fetched ((query limit scan state sql arguments).after w) limit sql arguments
          (w.rowsOf limit sql arguments) ∧
        w.Fetched ((queryRow limit scan state sql arguments).after w) limit sql arguments
          (w.rowsOf limit sql arguments)) ∧
      (w.Uses held lease →
        w.FetchedOver ((queryOn lease limit scan state sql arguments).after w) lease limit sql
          arguments (w.rowsOver lease limit sql arguments) ∧
        w.FetchedOver ((queryRowOn lease limit scan state sql arguments).after w) lease limit sql
          arguments (w.rowsOver lease limit sql arguments)) := by
  refine ⟨⟨⟨?_, ?_⟩, ?_, ?_⟩, fun config server welcomes races held gone hw => ?_⟩
  · exact Scan.runsOver_of_outcome (fun scan state => answer_query ..) scan state
  · exact Scan.runsOver_of_outcome (fun scan state => answer_queryRow ..) scan state
  · exact Scan.runsOver_of_outcome (fun scan state => answer_queryOn ..) scan state
  · exact Scan.runsOver_of_outcome (fun scan state => answer_queryRowOn ..) scan state
  · have h : Arrives anyLease (Scene.start config server welcomes races) held w :=
      ⟨gone, hw, hw.sound (sound_start config server welcomes races)⟩
    refine ⟨⟨?_, ?_⟩, fun hu => ⟨?_, ?_⟩⟩
    · rw [query, Action.after_bind, Action.after_pure]
      exact withLease_fetched (fun _ => queryOn_runs limit sql arguments scan state) h
    · rw [queryRow, Action.after_bind, Action.after_pure]
      exact withLease_fetched (fun _ => queryRowOn_runs limit sql arguments scan state) h
    · exact (queryOn_runs limit sql arguments scan state).fetchedOver h hu
    · exact (queryRowOn_runs limit sql arguments scan state).fetchedOver h hu

def listing : String := "SELECT v FROM t"

def threeRows : Script :=
  ⟨[{ sql := listing,
      result := some ⟨[.parsed .int4],
        [[some [0, 0, 0, 7]], [some [0, 0, 0, 8]], [some [0, 0, 0, 9]]]⟩ }]⟩

-- Counts the rows, and refuses the second one.
def refusingSecond (e : Error) : Scan Nat := fun count _ =>
  (count + 1, if count = 1 then some e else none)

-- How many rows are handed over when the second one is refused, and with what result.
theorem listing_noted {w : World} (hw : w = World.start {} threeRows [] []) :
    ((w.rowsOf w.context listing []).map List.length = .ok 3) ∧
      (((query w.context (refusingSecond (.notFound "v")).noting (0, []) listing []).answer w).map
        (·.2.length) id = (2, .ok ())) ∧
      ((query w.context (refusingSecond (.misuse "v")).noting (0, []) listing []).answer w).map
        (·.2.length) id = (2, .error (.misuse "v")) := by
  subst hw
  exact ⟨by decide +kernel, by decide +kernel, by decide +kernel⟩

theorem Scan.RunsOver.handed {scan : Scan σ} {state : σ} {rows : List Row}
    {operation : ∀ {τ : Type}, Scan τ → τ → Action (τ × Except Error Unit)}
    (h : scan.RunsOver state (.ok rows) operation w) :
    ∃ seen last result, scan.Handed state rows seen last result ∧
      (operation scan.noting (state, [])).answer w = ((last, seen), result) := by
  obtain ⟨seen, last, result, hends, -, hnoting⟩ := h
  cases hends with
  | handed hh => exact ⟨seen, last, result, hh, hnoting⟩

-- Of three rows the third is not handed over when the second is refused. That the second is not
-- found is no error, and anything else is.
theorem queries_runOver_secondRow :
    ∃ w rows, w = World.start {} threeRows [] [] ∧ rows.length = 3 ∧
      w.Fetched ((query w.context (refusingSecond (.misuse "v")) 0 listing []).after w) w.context
        listing [] (.ok rows) ∧
      (∃ seen last, seen.length = 2 ∧
        (refusingSecond (.notFound "v")).Handed 0 rows seen last (.ok ())) ∧
      ∃ seen last, seen.length = 2 ∧
        (refusingSecond (.misuse "v")).Handed 0 rows seen last (.error (.misuse "v")) := by
  obtain ⟨w, hw⟩ : ∃ w, w = World.start {} threeRows [] [] := ⟨_, rfl⟩
  obtain ⟨hthree, hmissing, hbroken⟩ := listing_noted hw
  have hmoves : Moves anyLease (Scene.start {} threeRows [] []) ⟨[], [], w⟩ := hw ▸ .refl
  obtain ⟨⟨⟨hfirst, -⟩, -⟩, -⟩ :=
    queries_runOver (refusingSecond (.notFound "v")) 0 w.context listing [] w ⟨0, 0, true⟩
  obtain ⟨⟨⟨hsecond, -⟩, -⟩, hreached⟩ :=
    queries_runOver (refusingSecond (.misuse "v")) 0 w.context listing [] w ⟨0, 0, true⟩
  have hfetched := (hreached _ _ _ _ _ _ hmoves).1.1
  cases hrows : w.rowsOf w.context listing [] with
  | error e => simp [hrows, Except.map] at hthree
  | ok rows =>
    rw [hrows] at hthree hfirst hsecond hfetched
    obtain ⟨seen, last, result, hhanded, hnoted⟩ := hfirst.handed
    obtain ⟨others, final, refused, hother, hlast⟩ := hsecond.handed
    rw [hnoted, Prod.map, Prod.mk.injEq] at hmissing
    rw [hlast, Prod.map, Prod.mk.injEq] at hbroken
    obtain ⟨hseen, rfl⟩ := hmissing
    obtain ⟨hothers, rfl⟩ := hbroken
    exact ⟨w, rows, hw, Except.ok.inj hthree, hfetched, ⟨seen, last, hseen, hhanded⟩,
      others, final, hothers, hother⟩

end Answers

end RecordSql.Store
