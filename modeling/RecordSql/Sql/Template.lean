import RecordSql.Sql.Argument

namespace RecordSql.Sql

-- A condition as it was given: a question mark stands for each argument.
structure Condition where
  template : List Char
  arguments : List Argument
  deriving DecidableEq

def gaps (template : List Char) : Nat := template.count '?'

def fillFirst (text : List Char) : List Char → List Char
  | [] => []
  | c :: rest => if c = '?' then text ++ rest else c :: fillFirst text rest

-- Writes a placeholder for each argument in turn. It goes where the first question mark stands
-- that is left by then.
def fillEach (next : Nat) (template : List Char) : List Argument → List Char
  | [] => template
  | _ :: rest => fillEach (next + 1) (fillFirst (placeholder next).toList template) rest

def Condition.render (condition : Condition) (next : Nat) : String :=
  "WHERE " ++ String.ofList (fillEach next condition.template condition.arguments)

def renderConditions (next : Nat) : List Condition → List String
  | [] => []
  | condition :: rest =>
    condition.render next :: renderConditions (next + condition.arguments.length) rest

def fillGaps (next : Nat) : List Char → List Char
  | [] => []
  | c :: rest =>
    if c = '?' then (placeholder next).toList ++ fillGaps (next + 1) rest
    else c :: fillGaps next rest

theorem fillFirst_append {before : List Char} (text rest : List Char) (h : '?' ∉ before) :
    fillFirst text (before ++ '?' :: rest) = before ++ text ++ rest := by
  induction before with
  | nil => simp [fillFirst]
  | cons c before ih =>
    obtain ⟨hc, hbefore⟩ := List.ne_and_not_mem_of_not_mem_cons h
    simp [fillFirst, Ne.symm hc, ih hbefore]

theorem questionMark_notMem_placeholder (n : Nat) : '?' ∉ (placeholder n).toList := by
  intro h
  have hdigit : '?' ∈ Nat.toDigits 10 n := by
    simpa [placeholder, decimalNat] using h
  exact absurd (Nat.isDigit_of_mem_toDigits (by decide) (by decide) hdigit) (by decide)

-- What is already written offers no question mark, so the next placeholder goes to the next
-- question mark of the template.
theorem fillEach_append {before template : List Char} {arguments : List Argument} (next : Nat)
    (hbefore : '?' ∉ before) (h : gaps template = arguments.length) :
    fillEach next (before ++ template) arguments = before ++ fillGaps next template := by
  induction template generalizing before arguments next with
  | nil =>
    obtain rfl : arguments = [] := List.eq_nil_of_length_eq_zero h.symm
    simp [fillEach, fillGaps]
  | cons c rest ih =>
    by_cases hc : c = '?'
    · subst hc
      cases arguments with
      | nil => simp [gaps] at h
      | cons argument arguments =>
        have hrest : gaps rest = arguments.length := by
          simpa [gaps] using h
        have hwritten : '?' ∉ before ++ (placeholder next).toList := by
          simpa [hbefore] using questionMark_notMem_placeholder next
        rw [fillEach, fillFirst_append _ _ hbefore, ih (next + 1) hwritten hrest, fillGaps,
          if_pos rfl, List.append_assoc]
    · have hrest : gaps rest = arguments.length := by
        simpa [gaps, List.count_cons, hc] using h
      have hwritten : '?' ∉ before ++ [c] := by
        simp [hbefore, Ne.symm hc]
      have hstep := ih next hwritten hrest
      rw [fillGaps, if_neg hc]
      simpa using hstep

-- One placeholder after the other comes to the same as all of them at once.
theorem render_eq_fillGaps {condition : Condition}
    (h : gaps condition.template = condition.arguments.length) (next : Nat) :
    condition.render next = "WHERE " ++ String.ofList (fillGaps next condition.template) := by
  have hfill : fillEach next condition.template condition.arguments =
      fillGaps next condition.template := fillEach_append next List.not_mem_nil h
  rw [Condition.render, hfill]

end RecordSql.Sql
