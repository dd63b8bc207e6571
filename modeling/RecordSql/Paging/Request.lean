import RecordSql.Integer
import RecordSql.Paging.Operator
import RecordSql.Paging.Parameters
import RecordSql.Unicode.Blank

namespace RecordSql.Paging

-- A query to be paged, the names that may be written into it, and what the client asks for.
structure Request where
  query : String
  parameters : Parameters := {}
  -- The fields that a client may filter and sort by.
  allowed : List String := []
  -- The field that free text is searched in.
  defaultField : String := ""
  -- The alias of the query as a table.
  tableAlias : String := ""
  -- The most rows that a page may have.
  maxSize : Option Nat := none

structure Filter where
  field : String
  operator : Operator
  operand : String
  deriving DecidableEq

structure SortKey where
  field : String
  descending : Bool
  deriving DecidableEq

def defaultSize : Nat := 20

def largestNumber : Nat := Nat.pow 2 64 - 1

-- A number of at least one, with blanks around it. Any other text counts as no number.
def positive? (text : String) : Option Nat :=
  match (IntegerRange.unsigned 64).read? (Unicode.trim text.toList) with
  | some n => if 1 ≤ n then some n.toNat else none
  | none => none

namespace Filter

-- The field and the operator in a key such as `filters[name:eq]`.
def ofKey? (key : String) : Option (String × Operator) :=
  match ("filters[".toList).isPrefixOf? key.toList with
  | none => none
  | some opened =>
    match [']'].isSuffixOf? opened with
    | none => none
    | some inner =>
      match Text.cut ':' inner with
      | (_, none) => none
      | (field, some name) =>
        (Operator.ofName? (String.ofList name)).map fun operator => (String.ofList field, operator)

def ofEntry? (entry : String × List String) : Option Filter :=
  match ofKey? entry.1, entry.2.head? with
  | some (field, operator), some operand => some ⟨field, operator, operand⟩
  | _, _ => none

-- Filters go by field, and those of one field by operator.
def precedes (a b : Filter) : Bool :=
  a.field < b.field || (a.field == b.field && a.operator.rank ≤ b.operator.rank)

end Filter

namespace SortKey

-- A name, after a minus sign when it sorts downwards. Blanks around it do not count, and an
-- empty entry is no sort key.
def ofEntry? (entry : List Char) : Option SortKey :=
  match Unicode.trim entry with
  | [] => none
  | '-' :: field => some ⟨String.ofList field, true⟩
  | field => some ⟨String.ofList field, false⟩

end SortKey

namespace Request

def isAllowed (r : Request) (field : String) : Bool :=
  r.allowed.contains field

def page (r : Request) : Nat :=
  ((r.parameters.get? "page").bind positive?).getD 1

-- The number of rows on a page. A cap of zero counts as one.
def size (r : Request) : Nat :=
  let asked := ((r.parameters.get? "size").bind positive?).getD defaultSize
  match r.maxSize with
  | none => asked
  | some cap => min asked (max cap 1)

-- The number of rows before the page, as far as it can be written.
def offset (r : Request) : Nat :=
  min ((r.page - 1) * r.size) largestNumber

-- The text to search for, unless it is empty or there is no field to search it in.
def search? (r : Request) : Option String :=
  match r.parameters.get? "q" with
  | none => none
  | some text => if text == "" || !r.isAllowed r.defaultField then none else some text

def filters (r : Request) : List Filter :=
  ((r.parameters.entries.filterMap Filter.ofEntry?).filter (r.isAllowed ·.field)).mergeSort
    Filter.precedes

def sortKeys (r : Request) : List SortKey :=
  match r.parameters.get? "sort" with
  | none => []
  | some sort =>
    ((Text.splitOn ',' sort.toList).filterMap SortKey.ofEntry?).filter (r.isAllowed ·.field)

theorem one_le_size (r : Request) : 1 ≤ r.size := by
  have asked : 1 ≤ ((r.parameters.get? "size").bind positive?).getD defaultSize := by
    cases h : (r.parameters.get? "size").bind positive? with
    | none => decide
    | some n =>
      obtain ⟨text, -, ht⟩ := Option.bind_eq_some_iff.mp h
      unfold positive? at ht
      split at ht
      · split at ht
        · simp only [Option.some.injEq] at ht
          simp only [Option.getD_some]
          omega
        · cases ht
      · cases ht
  unfold size
  split
  · exact asked
  · exact Nat.le_min.mpr ⟨asked, Nat.le_max_right _ _⟩

end Request

end RecordSql.Paging
