import RecordSql.Unicode.Identifier

namespace RecordSql.Declaration

-- Words that name nothing. Those that stand for places, such as `self`, are not among them.
def keywords : List String := [
  "_", "abstract", "as", "async", "await", "become", "box", "break", "const", "continue", "do",
  "dyn", "else", "enum", "extern", "false", "final", "fn", "for", "if", "impl", "in", "let",
  "loop", "macro", "match", "mod", "move", "mut", "override", "priv", "pub", "ref", "return",
  "static", "struct", "trait", "true", "try", "type", "typeof", "unsafe", "unsized", "use",
  "virtual", "where", "while", "yield"]

-- Words that the mark `r#` cannot turn into names.
def unmarkable : List String := ["_", "crate", "self", "super", "Self"]

def startsWord (c : Char) : Bool := c == '_' || Unicode.isIdentifierStart c

def isSpelling : List Char → Bool
  | [] => false
  | c :: rest => startsWord c && rest.all Unicode.isIdentifierContinue

structure Word where
  name : String
  marked : Bool
  spelled : isSpelling name.toList = true
  markable : marked = true → name ∉ unmarkable
  deriving DecidableEq

namespace Word

def text (w : Word) : String :=
  if w.marked then "r#" ++ w.name else w.name

-- A mark lets a keyword be a name.
def isName (w : Word) : Bool :=
  w.marked || !keywords.contains w.name

def ofLetters? (marked : Bool) (letters : List Char) : Option Word :=
  if h : isSpelling letters = true ∧ (marked = true → String.ofList letters ∉ unmarkable) then
    some ⟨String.ofList letters, marked, by rw [String.toList_ofList]; exact h.1, h.2⟩
  else none

def read? (marked : Bool) (text : List Char) : Option (Word × List Char) :=
  (ofLetters? marked (text.takeWhile Unicode.isIdentifierContinue)).map fun w =>
    (w, text.dropWhile Unicode.isIdentifierContinue)

end Word

def unmarked (name : String) : String :=
  match name.toList with
  | 'r' :: '#' :: rest => String.ofList rest
  | _ => name

end RecordSql.Declaration
