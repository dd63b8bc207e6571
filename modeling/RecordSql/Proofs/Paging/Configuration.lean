import RecordSql.Proofs.Paging.Grammar
import RecordSql.Proofs.Unicode.Blank

namespace RecordSql.Paging

namespace Request

-- What can be wrong with a configuration.
inductive Misconfigured (r : Request) : Prop
  | blankQuery (h : ∀ c ∈ r.query.toList, Unicode.isBlank c = true)
  | tableAlias (h : ¬Sql.PlainName r.tableAlias)
  | defaultField (hd : r.defaultField ≠ "") (h : ¬Sql.PlainName r.defaultField)
  | allowedField (field : String) (hf : field ∈ r.allowed) (h : ¬Sql.PlainName field)

variable (r : Request)

-- The same configuration, asked for something else.
def withParameters (parameters : Parameters) : Request := { r with parameters }

theorem check_eq_ok_iff_not_misconfigured : r.check = .ok () ↔ ¬r.Misconfigured := by
  rw [check_eq_ok_iff, ne_eq, Unicode.trim_eq_nil_iff]
  constructor
  · rintro ⟨hq, ha, hd, hf⟩ (h | h | ⟨hne, h⟩ | ⟨field, hm, h⟩)
    · exact hq h
    · exact h ha
    · exact h (hd.resolve_left hne)
    · exact h (hf field hm)
  · intro h
    refine ⟨fun hq => h (.blankQuery hq), ?_, ?_, fun field hm => ?_⟩
    · by_contra ha
      exact h (.tableAlias ha)
    · by_cases hd : r.defaultField = ""
      · exact .inl hd
      · refine .inr ?_
        by_contra hn
        exact h (.defaultField hd hn)
    · by_contra hn
      exact h (.allowedField field hm hn)

-- A request that passes its check is compiled. One that does not is refused for what the check
-- has found.
theorem compile_of_check : (r.check = .ok () ∧ ∃ statement, r.compile = .ok statement) ∨
    ∃ refusal : PagingError, r.check = .error refusal ∧
      r.compile = .error (.validation refusal.message) := by
  unfold compile statement?
  cases r.check with
  | ok _ => exact .inl ⟨rfl, _, rfl⟩
  | error refusal => exact .inr ⟨refusal, rfl, rfl⟩

section Numbers

theorem positive?_bounds {text : String} {n : Nat} (h : positive? text = some n) :
    1 ≤ n ∧ n ≤ largestNumber := by
  unfold positive? at h
  split at h
  · rename_i number hread
    have hnumber : (IntegerRange.unsigned 64).read (Unicode.trim text.toList) = .ok number := by
      rw [IntegerRange.read?] at hread
      cases hr : (IntegerRange.unsigned 64).read (Unicode.trim text.toList) with
      | error e => simp [hr, Except.toOption] at hread
      | ok other =>
        obtain rfl : other = number := by simpa [hr, Except.toOption] using hread
        rfl
    have hcontains := IntegerRange.contains_of_read (by decide) (by decide) hnumber
    have hrange := IntegerRange.contains_iff.mp hcontains
    have hle : number ≤ 18446744073709551615 := hrange.2
    split at h
    · obtain rfl := Option.some.inj h
      change 1 ≤ number.toNat ∧ number.toNat ≤ 18446744073709551615
      omega
    · simp at h
  · simp at h

-- Whatever the text of a request is, a number that is read from it, or stands in for it, fits.
theorem asked_bounds (value : Option String) {usual : Nat} (h : 1 ≤ usual ∧ usual ≤ largestNumber) :
    1 ≤ (value.bind positive?).getD usual ∧ (value.bind positive?).getD usual ≤ largestNumber := by
  cases hv : value.bind positive? with
  | none => exact h
  | some n =>
    obtain ⟨text, -, hn⟩ := Option.bind_eq_some_iff.mp hv
    exact positive?_bounds hn

theorem page_bounds : 1 ≤ r.page ∧ r.page ≤ largestNumber :=
  asked_bounds _ (by decide)

theorem size_le_largestNumber : r.size ≤ largestNumber := by
  have husual : 1 ≤ defaultSize ∧ defaultSize ≤ largestNumber := by decide
  have hasked := asked_bounds (r.parameters.get? "size") husual
  unfold size
  split
  · exact hasked.2
  · exact (Nat.min_le_left _ _).trans hasked.2

end Numbers

-- A client cannot make a request fail. A request is refused exactly for its configuration, so
-- that a configuration compiles whatever is asked, or refuses everything for one reason. The
-- numbers that are computed on the way fit, and the page before the first is never asked for.
theorem compile_refused_iff :
    ((∃ e, r.compile = .error e) ↔ r.Misconfigured) ∧
      ((∀ parameters, ∃ statement, (r.withParameters parameters).compile = .ok statement) ∨
        ∃ reason, ∀ parameters,
          (r.withParameters parameters).compile = .error (.validation reason)) ∧
      ∀ parameters, 1 ≤ (r.withParameters parameters).page ∧
        (r.withParameters parameters).page ≤ largestNumber ∧
        (r.withParameters parameters).size ≤ largestNumber ∧
        (r.withParameters parameters).offset ≤ largestNumber := by
  have hsame : ∀ parameters, (r.withParameters parameters).check = r.check := fun _ => rfl
  refine ⟨?_, ?_, fun parameters => ?_⟩
  · rw [← not_iff_not, ← check_eq_ok_iff_not_misconfigured]
    rcases r.compile_of_check with ⟨hcheck, statement, hok⟩ | ⟨refusal, hcheck, herror⟩
    · simp [hcheck, hok]
    · simp [hcheck, herror]
  · rcases r.compile_of_check with ⟨hcheck, -⟩ | ⟨refusal, hcheck, -⟩
    · refine .inl fun parameters => ?_
      rcases (r.withParameters parameters).compile_of_check with ⟨-, hok⟩ | ⟨_, hrefused, -⟩
      · exact hok
      · rw [hsame, hcheck] at hrefused
        simp at hrefused
    · refine .inr ⟨refusal.message, fun parameters => ?_⟩
      rcases (r.withParameters parameters).compile_of_check with ⟨hpassed, -⟩ | ⟨other, hrefused, he⟩
      · rw [hsame, hcheck] at hpassed
        simp at hpassed
      · rw [hsame, hcheck] at hrefused
        obtain rfl := Except.error.inj hrefused
        exact he
  · obtain ⟨hfirst, hlast⟩ := (r.withParameters parameters).page_bounds
    exact ⟨hfirst, hlast, (r.withParameters parameters).size_le_largestNumber,
      Nat.min_le_right _ _⟩

end Request

end RecordSql.Paging
