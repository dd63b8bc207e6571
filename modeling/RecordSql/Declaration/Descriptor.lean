import RecordSql.Declaration.FieldTable
import RecordSql.Record

namespace RecordSql.Declaration

variable {ρ : Type}

def TaggedField.getter (f : TaggedField) : String := "__tagsql_get_" ++ decimalNat f.place

-- The field as statements see it, given how a field of a record is read by its ident.
def TaggedField.descriptor (read : String → ρ → Field) (f : TaggedField) : Descriptor ρ :=
  ⟨f.name, f.tags, read f.ident⟩

def FieldTable.recordType (read : String → ρ → Field) (t : FieldTable) : RecordType ρ :=
  ⟨t.table, t.fields.map (·.descriptor read)⟩

end RecordSql.Declaration
