namespace RecordSql.Paging

inductive Operator
  | equal
  | notEqual
  | greater
  | greaterOrEqual
  | less
  | lessOrEqual
  | like
  | likeAnyCase
  deriving DecidableEq

namespace Operator

def ofName? : String → Option Operator
  | "eq" => some .equal
  | "ne" => some .notEqual
  | "gt" => some .greater
  | "gte" => some .greaterOrEqual
  | "lt" => some .less
  | "lte" => some .lessOrEqual
  | "like" => some .like
  | "ilike" => some .likeAnyCase
  | _ => none

def sql : Operator → String
  | .equal => "="
  | .notEqual => "<>"
  | .greater => ">"
  | .greaterOrEqual => ">="
  | .less => "<"
  | .lessOrEqual => "<="
  | .like => "LIKE"
  | .likeAnyCase => "ILIKE"

def rank : Operator → Nat
  | .equal => 0
  | .notEqual => 1
  | .greater => 2
  | .greaterOrEqual => 3
  | .less => 4
  | .lessOrEqual => 5
  | .like => 6
  | .likeAnyCase => 7

theorem rank_inj {a b : Operator} (h : a.rank = b.rank) : a = b := by
  revert h
  cases a <;> cases b <;> decide

end Operator

end RecordSql.Paging
