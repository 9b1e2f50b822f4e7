import DomainModel.Graph.Basic
import DomainModel.Record.Basic
import DomainModel.Text.Comment

/-!
# Field records

Every named entity gets one record for each of its fields, in order. A field of a blob type becomes
an array of bytes with a note on what the bytes hold, and a field whose type is an enumeration
carries the values of that.
-/

namespace DomainModel

/-- What the bytes of a field hold, if its type is one of the blob types. -/
def blobContent? : String → Option String
  | "Blob" | "AnyBlob" => some "any"
  | "ImageBlob" => some "image"
  | "TextBlob" => some "text"
  | _ => none

/-- The record of a validation; one without a name has none. -/
def Validation.record? (v : Validation) : Option ValidationRecord :=
  v.name.map fun name => ⟨name, v.definedValue⟩

/-- The record of the field at `key`. -/
def Field.record (g : Graph) (key : String) (f : Field) : FieldRecord where
  name := f.name.getD key
  type := if (f.type.bind blobContent?).isSome then some "byte[]" else f.type
  javadoc := Text.docText f.comment
  values := (f.type.bind g.enumeration?).map fun e => String.intercalate "," e.values
  blobContent := f.type.bind blobContent?
  validations := f.validations.values.filterMap Validation.record?

def Entity.fieldRecords (g : Graph) (e : Entity) : List FieldRecord :=
  e.fields.toList.map fun entry => Field.record g entry.1 entry.2

/-- The records of the fields of every named entity; of two entities of one name the last counts. -/
def Graph.fieldRecords (g : Graph) : Dict (List FieldRecord) :=
  .ofList (g.entities.filterMap fun e => e.name.map fun name => (name, e.fieldRecords g))

end DomainModel
