namespace RecordSql.Text

-- The parts of a list between the items that separate. There is one part more than there
-- are separators.
def splitWhere {α : Type} (separates : α → Bool) : List α → List (List α)
  | [] => [[]]
  | a :: rest =>
    if separates a then [] :: splitWhere separates rest
    else
      match splitWhere separates rest with
      | [] => [[a]]
      | part :: parts => (a :: part) :: parts

def splitOn {α : Type} [BEq α] (separator : α) (text : List α) : List (List α) :=
  splitWhere (· == separator) text

def cut {α : Type} [BEq α] (separator : α) (text : List α) : List α × Option (List α) :=
  match text.dropWhile (· != separator) with
  | [] => (text, none)
  | _ :: after => (text.takeWhile (· != separator), some after)

theorem splitWhere_ne_nil {α : Type} (separates : α → Bool) (text : List α) :
    splitWhere separates text ≠ [] := by
  cases text with
  | nil => simp [splitWhere]
  | cons a rest =>
    simp only [splitWhere]
    split
    · simp
    · split <;> simp

end RecordSql.Text
