import DomainModel.Catalogue
import DomainModel.Error
import DomainModel.Record.Basic
import DomainModel.Text.Comment
import DomainModel.Text.InjectedField
import DomainModel.Text.Words

/-!
# Relationship records

A relationship has a record at the end that declares it, and one at the other end if it puts a
field into the entity there. Each end has its own name, documentation and rules, and names the field
at the other end; the type is seen from the end that the record is for, and the declaring end is the
owner where a type has one. Only entities that are declared get records; both ends of a relationship
have to be declared or built in.
-/

namespace DomainModel

namespace Relationship

/-- The rule on a field that needs a value. -/
def requiredRule : String := "required"

/-- The record at the end that declares the relationship. -/
def sourceRecord (r : Relationship) : RelationshipRecord :=
  let field := Text.InjectedField.read r.source.injectedField
  let targetField := Text.InjectedField.read r.target.injectedField
  let type := r.type
  { type := type.kebab
    otherEntity := Text.lowerFirst r.target.entity
    name := Text.camelCase (field.name.getD r.target.entity)
    otherName := Text.lowerFirst (targetField.name.getD r.source.entity)
    otherField := field.display.map Text.lowerFirst
    owner := if type.hasOwner then some true else none
    javadoc := Text.docText r.source.comment
    rules := if r.source.required then some requiredRule else none }

/-- The record at the end that the relationship goes to. -/
def targetRecord (r : Relationship) : RelationshipRecord :=
  let field := Text.InjectedField.read r.target.injectedField
  let sourceField := Text.InjectedField.read r.source.injectedField
  let type := r.type.inverse
  { type := type.kebab
    otherEntity := Text.lowerFirst r.source.entity
    name := Text.camelCase (field.name.getD r.source.entity)
    otherName := Text.lowerFirst (sourceField.name.getD r.target.entity)
    otherField := field.display.map Text.lowerFirst
    owner := if type.hasOwner then some false else none
    javadoc := Text.docText r.target.comment
    rules := if r.target.required then some requiredRule else none }

/-- The first end whose entity is neither among the names nor built in. -/
def unknownEnd? (names : List String) (r : Relationship) : Option UnknownName :=
  [r.source.entity, r.target.entity].findSome? fun name =>
    if name ∈ names ∨ isBuiltIn name then none
    else some (.inRelationship r.source.entity r.target.entity name)

end Relationship

/-- The records of one entity: for the relationships that it declares, then for those that put a
field into it. -/
def recordsAt (relationships : List Relationship) (name : String) : List RelationshipRecord :=
  (relationships.filter (·.source.entity = name)).map Relationship.sourceRecord
    ++ (relationships.filter fun r =>
        r.target.entity = name && r.target.injectedField.isSome).map Relationship.targetRecord

/-- The records of every entity of a list, or the first entity of a relationship that is neither in
the list nor built in. -/
def relationshipRecords (relationships : List Relationship) (names : List String) :
    Except UnknownName (Dict (List RelationshipRecord)) :=
  match relationships.findSome? (Relationship.unknownEnd? names) with
  | some unknown => .error unknown
  | none => .ok (.ofList (names.map fun name => (name, recordsAt relationships name)))

end DomainModel
