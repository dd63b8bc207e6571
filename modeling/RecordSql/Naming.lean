import RecordSql.Text.Split
import RecordSql.Unicode.Case
import RecordSql.Unicode.Letter

namespace RecordSql.Naming

inductive CaseMode
  | none
  | lower
  | upper
  deriving DecidableEq

def modeAfter (mode : CaseMode) (c : Char) : CaseMode :=
  if Unicode.isLowercase c then .lower
  else if Unicode.isUppercase c then .upper
  else mode

-- Splits a run of letters and digits where the case changes: after a lower-case stretch that
-- a capital follows, and before the last capital of a stretch that small letters follow. The
-- word read so far is held back to front.
def splitCase (mode : CaseMode) (word : List Char) : List Char → List (List Char)
  | [] => []
  | [c] => [(c :: word).reverse]
  | c :: next :: rest =>
    let after := modeAfter mode c
    if after = .lower ∧ Unicode.isUppercase next then
      (c :: word).reverse :: splitCase .none [] (next :: rest)
    else if mode = .upper ∧ Unicode.isUppercase c ∧ Unicode.isLowercase next then
      word.reverse :: splitCase .none [c] (next :: rest)
    else splitCase after (c :: word) (next :: rest)

def words (name : List Char) : List (List Char) :=
  (Text.splitWhere (!Unicode.isAlphanumeric ·) name).flatMap (splitCase .none [])

-- The lower case of a word. A capital sigma at its end turns into the final small sigma.
def lowerWord : List Char → List Char
  | [] => []
  | [c] => if c = '\u03a3' then ['\u03c2'] else Unicode.lower c
  | c :: rest => Unicode.lower c ++ lowerWord rest

def capitalize : List Char → List Char
  | [] => []
  | c :: rest => Unicode.upper c ++ lowerWord rest

-- The name as one word that starts small and has a capital at the start of every other word.
def camelCase (name : String) : String :=
  match words name.toList with
  | [] => ""
  | first :: rest => String.ofList (lowerWord first ++ rest.flatMap capitalize)

end RecordSql.Naming
