import RecordSql.Value

namespace RecordSql.Sql

-- What a statement binds to a placeholder: a value, or a moment that was read from the clock
-- while the statement was put together. The readings for a statement are counted from nought.
inductive Argument
  | value (content : Value)
  | now {reading : Nat}
  deriving DecidableEq

def Argument.inspect : Argument → String
  | .value content => content.inspect
  | .now => "Now"

-- The arguments of a statement. The placeholder `$n` stands for the n-th of them.
structure Arguments where
  toList : List Argument := []
  deriving DecidableEq

def placeholder (n : Nat) : String := "$" ++ decimalNat n

def placeholders (first count : Nat) : List String :=
  (List.range' first count).map placeholder

namespace Arguments

def size (a : Arguments) : Nat := a.toList.length

def isEmpty (a : Arguments) : Bool := a.toList.isEmpty

def nextIndex (a : Arguments) : Nat := a.size + 1

def push (a : Arguments) (argument : Argument) : Arguments :=
  ⟨a.toList ++ [argument]⟩

def append (a : Arguments) (more : List Argument) : Arguments :=
  ⟨a.toList ++ more⟩

def inspect (a : Arguments) : String :=
  "ParamList \x7b params: " ++
    Text.listed (a.toList.map fun argument => "Param(" ++ argument.inspect ++ ")") ++ " \x7d"

@[simp] theorem size_push (a : Arguments) (argument : Argument) :
    (a.push argument).size = a.nextIndex := by
  simp [push, size, nextIndex]

@[simp] theorem size_append (a : Arguments) (more : List Argument) :
    (a.append more).size = a.size + more.length := by
  simp [append, size]

end Arguments

@[simp] theorem placeholders_length (first count : Nat) :
    (placeholders first count).length = count := by
  simp [placeholders]

end RecordSql.Sql
