import DomainModel.Json.Basic

/-!
# Records of entities

The record of an entity is what code generators are given: its names, its changelog date, its
documentation, the attributes that options set, its fields and its relationships. The attributes
start with defaults, which keep their places when an option overwrites them. In the document of a
record the attributes stand between the fixed keys, and an attribute may repeat one of these.
-/

namespace DomainModel

/-- A validation of a field record. -/
structure ValidationRecord where
  name : String
  value : Option Json
  deriving DecidableEq, Repr

/-- The record of a field. -/
structure FieldRecord where
  name : String
  type : Option String
  javadoc : Option String
  /-- The values of its type, if that is an enumeration. -/
  values : Option String
  /-- What the bytes of the field hold. -/
  blobContent : Option String
  validations : List ValidationRecord
  deriving DecidableEq, Repr

/-- The record of one end of a relationship. -/
structure RelationshipRecord where
  /-- The type of the relationship, seen from this end. -/
  type : String
  otherEntity : String
  /-- The name of the relationship at this end. -/
  name : String
  /-- The name of the relationship at the other end. -/
  otherName : String
  otherField : Option String
  /-- Whether this end is the owner, if one of the ends has to be. -/
  owner : Option Bool
  javadoc : Option String
  /-- The rules on the value of the relationship. -/
  rules : Option String
  deriving DecidableEq, Repr

/-- The record of an entity. -/
structure EntityRecord where
  name : String
  tableName : String
  changelogDate : String
  javadoc : Option String
  /-- What options have set. -/
  attributes : Dict Json
  fields : List FieldRecord
  relationships : List RelationshipRecord
  /-- The applications that the entity is for. -/
  applications : Json
  deriving DecidableEq, Repr

/-! ## Changing a record -/

namespace EntityRecord

/-- The value of a string option that is switched off. -/
def off : Json := .string "no"

/-- The service that an option gives to an entity that has none. -/
def serviceClass : String := "serviceClass"

/-- The attributes of a record that no option has changed. -/
def defaultAttributes : Dict Json :=
  .ofList
    [("dto", off), ("service", off), ("pagination", off), ("jpaMetamodelFiltering", .bool false),
     ("fluentMethods", .bool true), ("readOnly", .bool false), ("embedded", .bool false),
     ("clientRootFolder", .string "")]

/-- A record without fields, relationships and applications. -/
def fresh (name tableName changelogDate : String) (javadoc : Option String) : EntityRecord where
  name
  tableName
  changelogDate
  javadoc
  attributes := defaultAttributes
  fields := []
  relationships := []
  applications := .array []

def get? (r : EntityRecord) (key : String) : Option Json := r.attributes.get? key

def set (r : EntityRecord) (key : String) (value : Json) : EntityRecord :=
  { r with attributes := r.attributes.insert key value }

/-- Takes an attribute away; the others keep their order. -/
def remove (r : EntityRecord) (key : String) : EntityRecord :=
  { r with attributes := r.attributes.erase key }

/-- Takes an attribute away and gives the value that it had. -/
def takeOut (r : EntityRecord) (key : String) : Option Json × EntityRecord :=
  let (value, attributes) := r.attributes.takeOut key
  (value, { r with attributes })

theorem takeOut_eq (r : EntityRecord) (key : String) :
    r.takeOut key = (r.get? key, r.remove key) := by
  simp only [takeOut, r.attributes.takeOut_eq]
  rfl

/-- Sets an attribute to a value, or takes it away if there is none. -/
def put (r : EntityRecord) (key : String) : Option Json → EntityRecord
  | some value => r.set key value
  | none => r.remove key

/-- Adds fields after those that are there. -/
def addFields (r : EntityRecord) (fields : List FieldRecord) : EntityRecord :=
  { r with fields := r.fields ++ fields }

/-- Adds relationships after those that are there. -/
def addRelationships (r : EntityRecord) (relationships : List RelationshipRecord) : EntityRecord :=
  { r with relationships := r.relationships ++ relationships }

/-- Makes the record one for every application. -/
def setAllApplications (r : EntityRecord) : EntityRecord := { r with applications := .string "*" }

end EntityRecord

/-! ## Documents -/

/-- A member that is there if it has a text. -/
def textMember (key : String) (text : Option String) : List (String × Json) :=
  (text.map fun s => (key, Json.string s)).toList

def ValidationRecord.toJson (v : ValidationRecord) : Json :=
  .object (("name", .string v.name) :: (v.value.map fun x => ("value", x)).toList)

def FieldRecord.toJson (f : FieldRecord) : Json :=
  .object
    (("fieldName", .string f.name) :: textMember "fieldType" f.type
      ++ textMember "javadoc" f.javadoc ++ textMember "fieldValues" f.values
      ++ textMember "fieldTypeBlobContent" f.blobContent
      ++ [("validations", .array (f.validations.map ValidationRecord.toJson))])

def RelationshipRecord.toJson (r : RelationshipRecord) : Json :=
  .object
    ([("relationshipType", .string r.type), ("otherEntityName", .string r.otherEntity),
      ("relationshipName", .string r.name), ("otherEntityRelationshipName", .string r.otherName)]
      ++ textMember "otherEntityField" r.otherField
      ++ (r.owner.map fun b => ("ownerSide", Json.bool b)).toList
      ++ textMember "javadoc" r.javadoc ++ textMember "relationshipValidateRules" r.rules)

/-- The document of an entity. An attribute named like a fixed key makes the key come twice. -/
def EntityRecord.document (r : EntityRecord) : Json :=
  .object
    ([("name", .string r.name), ("tableName", .string r.tableName),
      ("changelogDate", .string r.changelogDate)]
      ++ textMember "javadoc" r.javadoc ++ r.attributes.toList
      ++ [("fields", .array (r.fields.map FieldRecord.toJson)),
          ("relationships", .array (r.relationships.map RelationshipRecord.toJson)),
          ("applications", r.applications)])

end DomainModel
