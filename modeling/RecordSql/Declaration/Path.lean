import RecordSql.Declaration.Basic

namespace RecordSql.Declaration

-- Names between double colons. A path may start with such colons too.
structure Path where
  rooted : Bool
  words : List Word
  deriving DecidableEq

def Path.word? (p : Path) : Option Word :=
  match p.rooted, p.words with
  | false, [w] => some w
  | _, _ => none

def Expected.missed (what : Expected) : List Token → DeclarationError
  | [] => .endedBefore what
  | _ => .expected what

def missedName : List Token → DeclarationError
  | .word w :: _ => .keyword w.text
  | tokens => Expected.name.missed tokens

-- Reads the names of a path. Behind double colons there has to be one more.
def readNames (missed : List Token → DeclarationError) :
    List Token → Except DeclarationError (List Word × List Token)
  | .word w :: rest =>
    if w.isName then
      match rest with
      | .colons :: rest => do
        let (words, rest) ← readNames Expected.segment.missed rest
        return (w :: words, rest)
      | rest => .ok ([w], rest)
    else .error (missed (.word w :: rest))
  | tokens => .error (missed tokens)

-- Reads a path, and returns what follows it. One keyword may be a path by itself.
def readPath : List Token → Except DeclarationError (Path × List Token)
  | .word w :: rest =>
    if w.text = "unsafe" then .ok (⟨false, [w]⟩, rest)
    else do
      let (words, rest) ← readNames missedName (.word w :: rest)
      return (⟨false, words⟩, rest)
  | .colons :: rest => do
    let (words, rest) ← readNames missedName rest
    return (⟨true, words⟩, rest)
  | tokens => .error (missedName tokens)

end RecordSql.Declaration
