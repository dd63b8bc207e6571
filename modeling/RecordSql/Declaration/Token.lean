import RecordSql.Declaration.Word
import RecordSql.Unicode.Blank

namespace RecordSql.Declaration

-- The value of an item in an attribute: a text literal, or an expression as it is written.
inductive ItemValue
  | literal (content : String)
  | expression (source : String)
  deriving DecidableEq

-- A piece of a declaration as its readers see it. A value is one piece as far as its expression
-- goes.
inductive Token
  | word (w : Word)
  | value (v : ItemValue)
  | colons
  | equals
  | comma
  | opens
  | closes
  | other
  deriving DecidableEq

-- The marks of direction are blanks too.
def isGap (c : Char) : Bool :=
  Unicode.isBlank c || c == '\u200e' || c == '\u200f'

-- Whether a comment documents what follows it, by what stands behind its opening. Such a comment
-- is a piece of the declaration.
def documents (mark : Char) : List Char → Bool
  | '!' :: _ => true
  | c :: rest => c == mark && rest.head? != some mark && rest.head? != some '/'
  | [] => false

def closeComment? : Nat → List Char → Option (List Char)
  | _, [] => none
  | 0, '*' :: '/' :: rest => some rest
  | depth + 1, '*' :: '/' :: rest => closeComment? depth rest
  | depth, '/' :: '*' :: rest => closeComment? (depth + 1) rest
  | depth, _ :: rest => closeComment? depth rest

def skipComment? : List Char → Option (List Char)
  | '/' :: '/' :: rest => if documents '/' rest then none else some (rest.dropWhile (· != '\n'))
  | '/' :: '*' :: rest => if documents '*' rest then none else closeComment? 0 rest
  | _ => none

def skipGaps : Nat → List Char → List Char
  | 0, text => text
  | _, [] => []
  | fuel + 1, c :: rest =>
    if isGap c then skipGaps fuel rest
    else
      match skipComment? (c :: rest) with
      | some after => skipGaps fuel after
      | none => c :: rest

def withoutGaps (text : List Char) : List Char := skipGaps text.length text

def readWord? : List Char → Option (Word × List Char)
  | 'r' :: '#' :: rest => (Word.read? true rest).or (Word.read? false ('r' :: '#' :: rest))
  | text => Word.read? false text

-- The pieces of a text that holds no value. The length of the text is fuel enough.
def scan : Nat → List Char → List Token
  | 0, _ => []
  | fuel + 1, text =>
    match withoutGaps text with
    | [] => []
    | ':' :: ':' :: rest => .colons :: scan fuel rest
    | '=' :: rest => .equals :: scan fuel rest
    | ',' :: rest => .comma :: scan fuel rest
    | '<' :: rest => .opens :: scan fuel rest
    | '>' :: rest => .closes :: scan fuel rest
    | c :: rest =>
      match readWord? (c :: rest) with
      | some (w, after) => .word w :: scan fuel after
      | none => .other :: scan fuel rest

def tokens (text : String) : List Token := scan text.toList.length text.toList

end RecordSql.Declaration
