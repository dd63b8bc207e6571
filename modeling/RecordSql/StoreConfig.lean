import RecordSql.Connection.Target
import RecordSql.Error
import RecordSql.Json.Reader

namespace RecordSql

structure StoreConfig where
  databaseUrl : String := ""
  -- How long an operation or a transaction may take.
  timeout : Duration := Duration.ofSeconds 30
  -- How often a checkout that failed is tried again.
  retryCount : Nat := 0
  maxConnections : Nat := 16
  deriving DecidableEq

namespace StoreConfig

def secondsRange : IntegerRange := IntegerRange.unsigned 64

def retryRange : IntegerRange := IntegerRange.unsigned 32

def connectionsRange : IntegerRange := IntegerRange.unsigned 64

def ofParts (databaseUrl : String) (seconds retries connections : Option Nat) : StoreConfig :=
  let usual : StoreConfig := {}
  { databaseUrl
    timeout := (seconds.map Duration.ofSeconds).getD usual.timeout
    retryCount := retries.getD usual.retryCount
    maxConnections := connections.getD usual.maxConnections }

def number? (range : IntegerRange) : Json → Option Nat
  | .number n =>
    match n.integer? with
    | some i => if range.contains i then some i.toNat else none
    | none => none
  | _ => none

def text? : Json → Option String
  | .text value => some value
  | _ => none

-- A part that may be missing. One that is there has to be readable.
def optionally {α : Type} (read : Json → Option α) : Option Json → Option (Option α)
  | none => some none
  | some json => (read json).map some

def ofJsonParts? (url seconds retries connections : Option Json) : Option StoreConfig := do
  some (ofParts ((← optionally text? url).getD "") (← optionally (number? secondsRange) seconds)
    (← optionally (number? retryRange) retries)
    (← optionally (number? connectionsRange) connections))

def memberNames : List String :=
  ["database_url", "timeout_secs", "retry_count", "max_connections"]

def isRepeated (members : List (String × Json)) (name : String) : Bool :=
  1 < members.countP fun member => member.1 == name

-- Reads an object whose other members do not count, or an array that may be short. A member
-- that counts may not be repeated.
def ofJson? : Json → Option StoreConfig
  | .object members =>
    if memberNames.any (isRepeated members) then none
    else ofJsonParts? (members.lookup "database_url") (members.lookup "timeout_secs")
      (members.lookup "retry_count") (members.lookup "max_connections")
  | .array items =>
    if memberNames.length < items.length then none
    else ofJsonParts? items[0]? items[1]? items[2]? items[3]?
  | _ => none

def readJson? (text : String) : Option StoreConfig :=
  (Json.read? text.length text).bind ofJson?

def environmentNumber (range : IntegerRange) (key : String) :
    Option String → Except Error (Option Nat)
  | none => .ok none
  | some raw =>
    match range.read? (Unicode.trim raw.toList) with
    | some n => .ok (some n.toNat)
    | none => .error (.validation (key ++ " must be a number, got '" ++ raw ++ "'"))

-- Reads the environment. Apart from the address, the names of the variables start with the
-- given stem.
def ofEnvironment (stem : String) (valueOf : String → Option String) :
    Except Error StoreConfig := do
  let number (range : IntegerRange) (name : String) :=
    environmentNumber range (stem ++ name) (valueOf (stem ++ name))
  match valueOf "DATABASE_URL" with
  | none => throw (.connection "DATABASE_URL is not set")
  | some url =>
    let seconds ← number secondsRange "_TIMEOUT_SECS"
    let retries ← number retryRange "_RETRY_COUNT"
    let connections ← number connectionsRange "_MAX_CONNECTIONS"
    return ofParts url seconds retries connections

def poolSize (config : StoreConfig) : Nat := max config.maxConnections 1

inductive PoolRefusal
  | blankUrl
  | malformedUrl
  deriving DecidableEq

def pool (config : StoreConfig) : Except PoolRefusal Nat :=
  if (Unicode.trim config.databaseUrl.toList).isEmpty then .error .blankUrl
  else if (Connection.read? config.databaseUrl).isSome then .ok config.poolSize
  else .error .malformedUrl

end StoreConfig

-- A blank address is told by its text. What is wrong with a malformed one is left open.
def StoreConfig.PoolRefusal.reason? : StoreConfig.PoolRefusal → Option String
  | .blankUrl => some "database url is empty"
  | .malformedUrl => none

end RecordSql
