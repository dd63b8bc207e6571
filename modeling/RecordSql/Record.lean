import RecordSql.Tag
import RecordSql.Value

namespace RecordSql

structure Descriptor (ρ : Type) where
  ident : String
  tags : List (String × String)
  get : ρ → Field

structure RecordType (ρ : Type) where
  table : String
  fields : List (Descriptor ρ)

namespace Descriptor

variable {ρ : Type}

-- The raw tag in a namespace. Of two tags in one namespace the first counts.
def tag? (d : Descriptor ρ) (space : String) : Option String :=
  d.tags.lookup space

def inspectTag (tag : String × String) : String :=
  "(" ++ Text.quoted tag.1 ++ ", " ++ Text.quoted tag.2 ++ ")"

def inspect (d : Descriptor ρ) : String :=
  "FieldDescriptor \x7b ident: " ++ Text.quoted d.ident ++ ", tags: " ++
    Text.listed (d.tags.map inspectTag) ++ " \x7d"

end Descriptor

structure ExtractedField where
  tag : Tag
  value : Value
  deriving DecidableEq

namespace ExtractedField

def name (f : ExtractedField) : String := f.tag.name

def encoded (f : ExtractedField) : String := f.value.encode

end ExtractedField

-- The fields of a record that carry a usable tag in one namespace and are not zero, in the
-- order of their declaration.
structure Extracted where
  fields : List ExtractedField

namespace Extracted

def size (e : Extracted) : Nat := e.fields.length

def isEmpty (e : Extracted) : Bool := e.fields.isEmpty

def get? (e : Extracted) (name : String) : Option ExtractedField :=
  e.fields.find? (·.name == name)

def names (e : Extracted) : List String :=
  e.fields.map (·.name)

def sorted (e : Extracted) : List ExtractedField :=
  e.fields.mergeSort fun a b => decide (a.name ≤ b.name)

end Extracted

namespace Descriptor

variable {ρ : Type}

-- What a field adds to the extraction of a record: nothing when it has no tag in the
-- namespace, when the name is not usable, or when it is zero.
def extract? (d : Descriptor ρ) (space : String) (record : ρ) : Option ExtractedField :=
  match d.tag? space with
  | none => none
  | some raw =>
    let tag := Tag.parse raw
    let field := d.get record
    if !Tag.isValidName tag.name || field.isZero then none else some ⟨tag, field.toValue⟩

end Descriptor

def firstOfEachName : List ExtractedField → List ExtractedField
  | [] => []
  | f :: rest => f :: (firstOfEachName rest).filter (·.name != f.name)

namespace RecordType

variable {ρ : Type}

def extract (type : RecordType ρ) (space : String) (record : ρ) : Extracted :=
  ⟨firstOfEachName (type.fields.filterMap (·.extract? space record))⟩

end RecordType

end RecordSql
