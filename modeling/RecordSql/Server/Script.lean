import RecordSql.Server.Behaviour

namespace RecordSql.Server

structure Rule where
  sql : String
  -- The types of the parameters, when they are not all text.
  parameters : Option (List ColumnType) := none
  result : Option ResultSet := none
  affected : Nat := 0
  failsToPrepare : Bool := false
  fails : Bool := false
  -- How long the statement takes before it succeeds or fails.
  delay : Duration := ⟨0⟩

structure Script where
  rules : List Rule

-- The number behind a dollar sign, as far as its digits go.
def numberAt (digits : List Char) : Nat :=
  Nat.ofDigitChars 10 (digits.takeWhile Char.isDigit) 0

def highestPlaceholder : List Char → Nat
  | [] => 0
  | c :: rest => if c = '$' then max (numberAt rest) (highestPlaceholder rest)
    else highestPlaceholder rest

namespace Rule

def signature? (rule : Rule) : Option Signature :=
  if rule.failsToPrepare then none
  else
    match rule.parameters with
    | some types => some ⟨types.length, types⟩
    | none => some ⟨highestPlaceholder rule.sql.toList, []⟩

def outcome? (rule : Rule) : Option (ResultSet × Nat) :=
  if rule.fails then none
  else
    match rule.result with
    | some result => some (result, result.rows.length)
    | none => some (⟨[], []⟩, rule.affected)

end Rule

namespace Script

-- The rule for a statement. A statement without one succeeds and affects nothing.
def rule (s : Script) (sql : String) : Rule :=
  (s.rules.find? (·.sql == sql)).getD { sql }

-- Preparing takes no time.
def delay (s : Script) : Content → Duration
  | .prepare _ => ⟨0⟩
  | content => (s.rule content.sql).delay

-- A server that keeps to a script does the same each time, and takes no time to connect.
def behaviour (s : Script) : Behaviour where
  opening _ := ⟨0⟩
  prepare _ message := (s.rule message.content.sql).signature?
  run _ message := (s.rule message.content.sql).outcome?
  delay _ message := s.delay message.content

instance : Coe Script Behaviour := ⟨behaviour⟩

end Script

end RecordSql.Server
