import RecordSql.Proofs.Paging.Windows
import RecordSql.Proofs.Text.Entries

namespace RecordSql.Paging

-- The largest number that the server takes behind `LIMIT` and behind `OFFSET`.
def largestBigint : Nat := Nat.pow 2 63 - 1

-- Whether the server takes the clauses for a window.
structure Window.InRange (w : Window) : Prop where
  taken : w.taken ≤ largestBigint
  skipped : w.skipped ≤ largestBigint

section Text

-- A text that ends with a space and a number shows the number, and what stands before it.
theorem decimalNat_end_inj {front other : String} {m n : Nat}
    (h : front ++ " " ++ decimalNat m = other ++ " " ++ decimalNat n) : front = other ∧ m = n := by
  have hdigits : ∀ k : Nat, ' ' ∉ (Nat.toDigits 10 k).reverse := fun k hm => by
    have hd := Nat.isDigit_of_mem_toDigits (by decide) (by decide) (List.mem_reverse.mp hm)
    exact absurd hd (by decide)
  -- read from its end, the text is cut at the first space
  have hcut : ∀ (text : String) (k : Nat),
      Text.cut ' ' (text ++ " " ++ decimalNat k).toList.reverse =
        ((Nat.toDigits 10 k).reverse, some text.toList.reverse) := fun text k => by
    have hspace : " ".toList = [' '] := rfl
    refine Text.cut_eq_some_iff.mpr ⟨hdigits k, ?_⟩
    simp [decimalNat, hspace]
  have hboth := hcut front m
  rw [h, hcut other n] at hboth
  simp only [Prod.mk.injEq, Option.some.injEq, List.reverse_inj, String.toList_inj] at hboth
  exact ⟨hboth.2.symm, (toDigits_inj hboth.1).symm⟩

-- The window that a statement takes can be read from its text.
theorem Takes.unique {statement : Sql.Statement} {v w : Window} (hv : Takes statement v)
    (hw : Takes statement w) : v = w := by
  have hwords : ∀ (selection : String) (w : Window),
      selection ++ " LIMIT " ++ decimalNat w.taken ++ " OFFSET " ++ decimalNat w.skipped =
        selection ++ " LIMIT" ++ " " ++ decimalNat w.taken ++ " OFFSET" ++ " " ++
          decimalNat w.skipped := fun selection w => by
    have hlimit : " LIMIT " = " LIMIT" ++ " " := rfl
    have hoffset : " OFFSET " = " OFFSET" ++ " " := rfl
    simp only [hlimit, hoffset, String.append_assoc]
  obtain ⟨first, hfirst⟩ := hv
  obtain ⟨second, hsecond⟩ := hw
  obtain ⟨vskipped, vtaken⟩ := v
  obtain ⟨wskipped, wtaken⟩ := w
  rw [hfirst, hwords, hwords] at hsecond
  obtain ⟨hfront, rfl⟩ := decimalNat_end_inj hsecond
  obtain ⟨-, rfl⟩ := decimalNat_end_inj ((String.append_left_inj _).mp hfront)
  rfl

end Text

namespace Request

variable (r : Request)

-- A cap that the server takes keeps every size in its range.
theorem size_le_largestBigint {cap : Nat} (hcap : r.maxSize = some cap)
    (h : cap ≤ largestBigint) : r.size ≤ largestBigint := by
  have hone : 1 ≤ largestBigint := by decide
  have hsize := r.size_fits.2.2 cap hcap
  omega

-- Without such a cap there is a size that leaves the range.
theorem exists_size_gt (h : ∀ cap, r.maxSize = some cap → largestBigint < cap) :
    ∃ parameters, largestBigint < (r.withParameters parameters).size := by
  have hlargest : largestBigint + 1 ≤ largestNumber := by decide
  have hfits : r.Fits (largestBigint + 1) :=
    ⟨by omega, hlargest, fun cap hcap =>
      Nat.le_trans (h cap hcap) (Nat.le_max_left _ _)⟩
  exact ⟨asking 1 (largestBigint + 1), by rw [r.size_asking hfits]; omega⟩

-- The last page leaves the range, with one row on every page.
theorem exists_offset_gt : ∃ parameters, largestBigint < (r.withParameters parameters).offset := by
  have hlast : largestBigint < largestNumber - 1 := by decide
  have hone : r.Fits 1 :=
    ⟨Nat.le_refl _, by decide, fun cap _ => Nat.le_max_right _ _⟩
  refine ⟨asking largestNumber 1, ?_⟩
  rw [offset, r.page_asking (by decide) (Nat.le_refl _), r.size_asking hone, Nat.mul_one]
  omega

-- An offset is in the range when the rows before the page are.
theorem offset_le_largestBigint_iff :
    r.offset ≤ largestBigint ↔ (r.page - 1) * r.size ≤ largestBigint := by
  have hless : largestBigint < largestNumber := by decide
  rw [offset]
  omega

-- The window of a statement is read from its text. Whatever a client asks for, its numbers fit into
-- 64 bits, and they are in the range of the server exactly when the size is, and the rows before
-- the page are. What keeps the size in that range is a cap in it, and nothing keeps the offset
-- there: under every configuration some page is refused by the server.
theorem compile_inRange_iff (h : ¬r.Misconfigured) :
    (∃ statement, r.compile = .ok statement ∧
      (∀ w, Takes statement w ↔ w = r.window) ∧
      r.window.taken ≤ largestNumber ∧ r.window.skipped ≤ largestNumber ∧
      (r.window.InRange ↔ r.size ≤ largestBigint ∧ (r.page - 1) * r.size ≤ largestBigint)) ∧
    ((∀ parameters, (r.withParameters parameters).window.taken ≤ largestBigint) ↔
      ∃ cap, r.maxSize = some cap ∧ cap ≤ largestBigint) ∧
    ∃ parameters, largestBigint < (r.withParameters parameters).window.skipped := by
  refine ⟨?_, ⟨fun hall => ?_, ?_⟩, r.exists_offset_gt⟩
  · obtain ⟨statement, hok, htakes⟩ := r.takes_window h
    refine ⟨statement, hok, fun w => ⟨fun hw => hw.unique htakes, ?_⟩, r.size_le_largestNumber,
      Nat.min_le_right _ _, ?_⟩
    · rintro rfl
      exact htakes
    · rw [← offset_le_largestBigint_iff]
      exact ⟨fun hw => ⟨hw.taken, hw.skipped⟩, fun hw => ⟨hw.1, hw.2⟩⟩
  · by_contra hnone
    obtain ⟨parameters, hgt⟩ := r.exists_size_gt fun cap hcap => by
      by_contra hle
      exact hnone ⟨cap, hcap, by omega⟩
    exact absurd (hall parameters) (by simpa [window] using hgt)
  · rintro ⟨cap, hcap, hle⟩ parameters
    exact (r.withParameters parameters).size_le_largestBigint hcap hle

end Request

-- The last page that the server takes under a cap of a hundred rows, with more rows asked for.
def lastCappedPage : Request where
  query := "SELECT name FROM groups"
  parameters := Parameters.ofPairs [("page", "92233720368547759"), ("size", "18446744073709551615")]
  tableAlias := "g"
  maxSize := some 100

theorem compile_inRange_lastCappedPage :
    ¬lastCappedPage.Misconfigured ∧
      ∃ statement, lastCappedPage.compile = .ok statement ∧
        statement.sql = "SELECT * FROM (SELECT name FROM groups) AS g " ++
          "LIMIT 100 OFFSET 9223372036854775800" ∧
        ∃ w, Takes statement w ∧ w.InRange := by
  have hvalid : ¬lastCappedPage.Misconfigured :=
    lastCappedPage.check_eq_ok_iff_not_misconfigured.mp rfl
  obtain ⟨⟨statement, hok, htakes, -, -, hrange⟩, -⟩ := lastCappedPage.compile_inRange_iff hvalid
  refine ⟨hvalid, statement, hok, ?_, _, (htakes _).mpr rfl, ?_⟩
  · rw [(compile_eq_ok _ _ hok).2]
    decide +kernel
  · exact hrange.mpr (by decide +kernel)

-- A page of the usual size that is so far behind that its offset is cut to 64 bits.
def farPage : Request where
  query := "SELECT name FROM groups"
  parameters := Parameters.ofPairs [("page", "18446744073709551615")]
  tableAlias := "g"

-- The configuration is in order, and the server refuses the page all the same.
theorem not_inRange_farPage :
    ¬farPage.Misconfigured ∧
      ∃ statement, farPage.compile = .ok statement ∧
        statement.sql = "SELECT * FROM (SELECT name FROM groups) AS g " ++
          "LIMIT 20 OFFSET 18446744073709551615" ∧
        Takes statement farPage.window ∧ ¬farPage.window.InRange := by
  have hvalid : ¬farPage.Misconfigured := farPage.check_eq_ok_iff_not_misconfigured.mp rfl
  obtain ⟨statement, hok, htakes⟩ := farPage.takes_window hvalid
  refine ⟨hvalid, statement, hok, ?_, htakes, fun h => ?_⟩
  · rw [(compile_eq_ok _ _ hok).2]
    decide +kernel
  · exact absurd h.skipped (by decide +kernel)

end RecordSql.Paging
