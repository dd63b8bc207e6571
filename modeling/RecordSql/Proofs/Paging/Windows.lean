import Mathlib.Data.List.Induction
import RecordSql.Proofs.Bind.Spelling
import RecordSql.Proofs.Paging.Configuration
import RecordSql.Proofs.Paging.Noninterference
import RecordSql.Proofs.Paging.Numbering

namespace RecordSql.Paging

-- The digits of a number are read as the number, if it is not too large.
theorem positive?_decimalNat {n : Nat} (h : 1 ≤ n) (hn : n ≤ largestNumber) :
    positive? (decimalNat n) = some n := by
  have hcontains : (IntegerRange.unsigned 64).contains n = true := by
    have hbound : largestNumber < 2 ^ 64 := by decide
    exact (IntegerRange.contains_unsigned 64 n).mpr (by omega)
  unfold positive?
  rw [IntegerRange.read?_trim_decimalNat (by decide) (by decide), if_pos hcontains]
  dsimp only
  rw [if_pos (by omega), Int.toNat_natCast]

-- Which rows a statement takes: it leaves some out, and takes those that come next.
structure Window where
  skipped : Nat
  taken : Nat
  deriving DecidableEq

def Window.rows (w : Window) : List Nat := List.range' w.skipped w.taken

-- A statement that ends with the clauses for a window.
def Takes (statement : Sql.Statement) (w : Window) : Prop :=
  ∃ selection, statement.sql =
    selection ++ " LIMIT " ++ decimalNat w.taken ++ " OFFSET " ++ decimalNat w.skipped

namespace Request

variable (r : Request)

def window : Window := ⟨r.offset, r.size⟩

-- Parameters that ask for the pages of one size, from the first page on and none left out.
structure Pages (size : Nat) (asks : List Parameters) : Prop where
  size : ∀ ask ∈ asks, (r.withParameters ask).size = size
  page : asks.map (fun ask => (r.withParameters ask).page) = List.range' 1 asks.length

def Fits (size : Nat) : Prop :=
  1 ≤ size ∧ size ≤ largestNumber ∧ ∀ cap, r.maxSize = some cap → size ≤ max cap 1

theorem size_fits : r.Fits r.size := by
  refine ⟨r.one_le_size, r.size_le_largestNumber, fun cap hcap => ?_⟩
  unfold size
  rw [hcap]
  exact Nat.min_le_right _ _

theorem takes_window (h : ¬r.Misconfigured) :
    ∃ statement, r.compile = .ok statement ∧ Takes statement r.window := by
  refine ⟨_, compile_of_passed (r.check_eq_ok_iff_not_misconfigured.mpr h), ?_⟩
  exact ⟨_, rfl⟩

theorem exists_before : ∃ before, r.page = before + 1 :=
  Nat.exists_eq_add_of_le' r.page_bounds.1

theorem offset_eq {before : Nat} (hpage : r.page = before + 1)
    (h : before * r.size ≤ largestNumber) : r.offset = before * r.size := by
  rw [offset, hpage, Nat.add_sub_cancel, Nat.min_eq_left h]

-- A page starts where the page before it ends, as long as that can be written.
theorem offset_next {next : Parameters} (hsize : (r.withParameters next).size = r.size)
    (hpage : (r.withParameters next).page = r.page + 1) (h : r.page * r.size ≤ largestNumber) :
    (r.withParameters next).offset = r.offset + r.size := by
  obtain ⟨before, hbefore⟩ := r.exists_before
  have hsplit : r.page * r.size = before * r.size + r.size := by rw [hbefore, Nat.succ_mul]
  have hhere : r.offset = before * r.size := r.offset_eq hbefore (by omega)
  have hnext : (r.withParameters next).offset = r.page * r.size := by
    rw [offset_eq _ hpage (by rw [hsize]; exact h), hsize]
  omega

section Tiling

variable {r} {size : Nat} {asks : List Parameters}

theorem pages_concat {ask : Parameters} (h : r.Pages size (asks ++ [ask])) :
    r.Pages size asks ∧ (r.withParameters ask).size = size ∧
      (r.withParameters ask).page = asks.length + 1 := by
  have hpage := h.page
  rw [List.map_append, List.length_append, List.length_singleton, List.range'_1_concat] at hpage
  obtain ⟨hinit, hlast⟩ := List.append_inj hpage (by simp)
  refine ⟨⟨fun other hother => h.size other (by simp [hother]), hinit⟩, h.size ask (by simp), ?_⟩
  have hone : (r.withParameters ask).page = 1 + asks.length := List.singleton_inj.mp hlast
  rw [hone, Nat.add_comm]

-- The windows of the pages, one after the other, are the rows from the first one on. Each row is in
-- one of them.
theorem rows_tile (h : r.Pages size asks) (hfits : asks.length * size ≤ largestNumber) :
    asks.flatMap (fun ask => (r.withParameters ask).window.rows) =
      List.range (asks.length * size) := by
  induction asks using List.reverseRecOn with
  | nil => simp
  | append_singleton asks ask ih =>
    obtain ⟨hpages, hsize, hpage⟩ := pages_concat h
    have hlength : (asks ++ [ask]).length * size = asks.length * size + size := by
      rw [List.length_append, List.length_singleton, Nat.succ_mul]
    -- the pages before this one are full, so that it starts behind all of their rows
    have hoffset : (r.withParameters ask).offset = asks.length * size := by
      rw [offset_eq _ hpage (by rw [hsize]; omega), hsize]
    have hrows : (r.withParameters ask).window.rows = List.range' (asks.length * size) size := by
      rw [window, Window.rows, hoffset, hsize]
    rw [List.flatMap_append, ih hpages (by omega), List.flatMap_singleton, hrows, hlength,
      List.range_eq_range', List.range_eq_range', ← List.range'_append_1, Nat.zero_add]

end Tiling

section Asking

def asking (page size : Nat) : Parameters :=
  Parameters.ofPairs [("page", decimalNat page), ("size", decimalNat size)]

theorem get?_asking (page size : Nat) :
    (asking page size).get? "page" = some (decimalNat page) ∧
      (asking page size).get? "size" = some (decimalNat size) := by
  have hentries : (asking page size).entries =
      [("page", [decimalNat page]), ("size", [decimalNat size])] := by
    have hrises : "page" < "size" := by decide +kernel
    simp only [asking, Parameters.ofPairs, Parameters.appendAll, Parameters.append, insertValue,
      List.foldl_cons, List.foldl_nil, if_neg (String.lt_asymm hrises), if_pos hrises]
  rw [Parameters.get?_eq_some_iff, Parameters.get?_eq_some_iff, hentries]
  simp

theorem page_asking {page : Nat} (h : 1 ≤ page) (hl : page ≤ largestNumber) (size : Nat) :
    (r.withParameters (asking page size)).page = page := by
  have hget : (r.withParameters (asking page size)).parameters.get? "page" =
      some (decimalNat page) := (get?_asking page size).1
  rw [Request.page, hget, Option.bind_some, positive?_decimalNat h hl, Option.getD_some]

theorem size_asking {size : Nat} (h : r.Fits size) (page : Nat) :
    (r.withParameters (asking page size)).size = size := by
  have hget : (r.withParameters (asking page size)).parameters.get? "size" =
      some (decimalNat size) := (get?_asking page size).2
  obtain ⟨hone, hlargest, hcap⟩ := h
  unfold Request.size
  rw [hget, Option.bind_some, positive?_decimalNat hone hlargest, Option.getD_some]
  split
  · rfl
  · rename_i cap hmax
    -- a size that fits is left alone by the cap
    exact Nat.min_eq_left (hcap cap hmax)

theorem exists_pages {size count : Nat} (h : r.Fits size) (hcount : count ≤ largestNumber) :
    ∃ asks, asks.length = count ∧ r.Pages size asks := by
  refine ⟨(List.range' 1 count).map (asking · size), by simp, ?_, ?_⟩
  · intro ask hask
    obtain ⟨page, -, rfl⟩ := List.mem_map.mp hask
    exact r.size_asking h page
  · rw [List.map_map, List.length_map, List.length_range']
    refine (List.map_congr_left fun page hpage => ?_).trans (List.map_id _)
    rw [List.mem_range'_1] at hpage
    exact r.page_asking hpage.1 (by omega) size

end Asking

-- Whatever a request asks for, its page and its size are numbers from one on, no size leaves the
-- cap, and the offset is computed without a loss. A page starts where the page before it ends, so
-- that the pages of one size take each row once and leave none out.
theorem windows_tile :
    1 ≤ r.page ∧ r.Fits r.size ∧
      (∃ before, r.page = before + 1 ∧ r.offset = min (before * r.size) largestNumber) ∧
      (¬r.Misconfigured → ∃ statement, r.compile = .ok statement ∧ Takes statement r.window) ∧
      (∀ next, (r.withParameters next).size = r.size →
        (r.withParameters next).page = r.page + 1 → r.page * r.size ≤ largestNumber →
        (r.withParameters next).offset = r.offset + r.size) ∧
      (∀ size asks, r.Pages size asks → asks.length * size ≤ largestNumber →
        asks.flatMap (fun ask => (r.withParameters ask).window.rows) =
          List.range (asks.length * size)) ∧
      ∀ size count, r.Fits size → count ≤ largestNumber →
        ∃ asks, asks.length = count ∧ r.Pages size asks := by
  obtain ⟨before, hbefore⟩ := r.exists_before
  have hoffset : r.offset = min (before * r.size) largestNumber := by
    rw [offset, hbefore, Nat.add_sub_cancel]
  refine ⟨r.page_bounds.1, r.size_fits, ⟨before, hbefore, hoffset⟩, r.takes_window, ?_, ?_, ?_⟩
  · exact fun next hsize hpage h => r.offset_next hsize hpage h
  · exact fun size asks hpages h => rows_tile hpages h
  · exact fun size count hsize h => r.exists_pages hsize h

end Request

-- A configuration with a cap, and the first pages of it. One asks for no page that there is, and
-- another one for more rows than it may.
def cappedPages : Request where
  query := "SELECT name FROM groups"
  parameters := Parameters.ofPairs [("page", " 3 "), ("size", "2")]
  tableAlias := "g"
  maxSize := some 2

def cappedAsks : List Parameters :=
  [Parameters.ofPairs [("page", "0")], Parameters.ofPairs [("page", "+2"), ("size", "9")],
    cappedPages.parameters]

theorem windows_tile_cappedPages :
    ¬cappedPages.Misconfigured ∧ cappedPages.Pages 2 cappedAsks ∧
      cappedAsks.flatMap (fun ask => (cappedPages.withParameters ask).window.rows) =
        [0, 1, 2, 3, 4, 5] ∧
      ∃ statement, cappedPages.compile = .ok statement ∧ Takes statement ⟨4, 2⟩ ∧
        statement.sql = "SELECT * FROM (SELECT name FROM groups) AS g LIMIT 2 OFFSET 4" := by
  obtain ⟨-, -, -, htakes, -, htile, -⟩ := cappedPages.windows_tile
  have hvalid : ¬cappedPages.Misconfigured :=
    cappedPages.check_eq_ok_iff_not_misconfigured.mp rfl
  have hpages : cappedPages.Pages 2 cappedAsks := ⟨by decide +kernel, by decide +kernel⟩
  have hwindow : cappedPages.window = ⟨4, 2⟩ := by decide +kernel
  obtain ⟨statement, hok, hwhere⟩ := htakes hvalid
  refine ⟨hvalid, hpages, htile 2 cappedAsks hpages (by decide), statement, hok, ?_, ?_⟩
  · rw [← hwindow]
    exact hwhere
  · rw [(compile_eq_ok _ _ hok).2]
    decide +kernel

end RecordSql.Paging
