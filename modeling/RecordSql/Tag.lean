import RecordSql.Text.Split
import RecordSql.Unicode.Letter

namespace RecordSql

-- A tag of a field: a name, and the raw text of the options after the first comma.
structure Tag where
  name : String
  options : String
  deriving DecidableEq

namespace Tag

def parse (raw : String) : Tag :=
  let (name, options) := Text.cut ',' raw.toList
  ⟨String.ofList name, String.ofList (options.getD [])⟩

def optionList (tag : Tag) : List String :=
  ((Text.splitOn ',' tag.options.toList).filter (!·.isEmpty)).map String.ofList

-- Whether an option is given, in exactly this spelling. The empty option never is.
def hasOption (tag : Tag) (option : String) : Bool :=
  option != "" && tag.optionList.contains option

def hasNoOptions (tag : Tag) : Bool :=
  tag.options == ""

-- The punctuation that a name may hold. The backslash, the quotes, the comma and the
-- semicolon are not among it.
def punctuation : List Char :=
  ['!', '#', '$', '%', '&', '(', ')', '*', '+', '-', '.', '/', ':', '<', '=', '>', '?', '@',
    '[', ']', '^', '_', '\x7b', '|', '\x7d', '~', ' ']

def isNameChar (c : Char) : Bool :=
  punctuation.contains c || c.isDigit || (Unicode.isAlphabetic c && !Unicode.isNumeric c)

def isValidName (name : String) : Bool :=
  name != "" && name.toList.all isNameChar

end Tag

end RecordSql
