import DomainModel.Json.Basic
import DomainModel.NameSet

/-!
# The graph of a domain model

A graph holds what a domain model declares: entities with their fields and the validations of these,
enumerations, relationships, options and deployments. Everything keeps the order of declaration,
which decides the dates of the entities and the order of what is made of them. A graph may be
malformed: most parts of a declaration can be missing.
-/

namespace DomainModel

/-- A rule on the values of a field, such as `required` or `min(42)`. -/
structure Validation where
  name : Option String := none
  /-- The argument of the rule; null is the same as no argument. -/
  value : Option Json := none
  deriving DecidableEq, Repr, Inhabited

/-- A field of an entity. -/
structure Field where
  name : Option String := none
  /-- The type of the field, which may be the name of an enumeration. -/
  type : Option String := none
  comment : Option String := none
  validations : Dict Validation := .empty
  deriving DecidableEq, Repr, Inhabited

/-- An entity. -/
structure Entity where
  name : Option String := none
  tableName : Option String := none
  comment : Option String := none
  fields : Dict Field := .empty
  deriving DecidableEq, Repr, Inhabited

/-- An enumeration, which fields can have for their type. -/
structure Enumeration where
  name : String := ""
  values : List String := []
  comment : Option String := none
  deriving DecidableEq, Repr, Inhabited

/-- How many entities stand at the two ends of a relationship. -/
inductive RelationshipType where
  | oneToOne
  | oneToMany
  | manyToOne
  | manyToMany
  deriving DecidableEq, Repr, Inhabited

/-- One end of a relationship. -/
structure RelationshipEnd where
  entity : String
  /-- The field put into the entity for the relationship, as it is written: a name, and in
  parentheses a field of the other entity to show. -/
  injectedField : Option String := none
  /-- Whether the field needs a value. -/
  required : Bool := false
  comment : Option String := none
  deriving DecidableEq, Repr, Inhabited

/-- A relationship from one entity to another. -/
structure Relationship where
  /-- The end that declares the relationship. -/
  source : RelationshipEnd
  /-- The end that the relationship goes to. -/
  target : RelationshipEnd
  type : RelationshipType
  deriving DecidableEq, Repr, Inhabited

/-- An option on entities, such as `dto * with mapstruct except B`. -/
structure EntityOption where
  name : String := ""
  entityNames : NameSet := .empty
  /-- The entities that it is not for. -/
  excludedNames : NameSet := .empty
  value : Option String := none
  deriving DecidableEq, Repr, Inhabited

structure Deployment where
  deploymentType : Option String := none
  appsFolders : Option (List String) := none
  dockerRepositoryName : Option String := none
  dockerPushCommand : Option String := none
  directoryPath : Option String := none
  gatewayType : Option String := none
  monitoring : Option String := none
  serviceDiscoveryType : Option String := none
  kubernetesNamespace : Option String := none
  kubernetesServiceType : Option String := none
  ingressDomain : Option String := none
  openshiftNamespace : Option String := none
  storageType : Option String := none
  deriving DecidableEq, Repr, Inhabited

/-- What a domain model declares. -/
structure Graph where
  entities : List Entity := []
  enums : Dict Enumeration := .empty
  relationships : List Relationship := []
  options : List EntityOption := []
  deployments : List Deployment := []
  deriving DecidableEq, Repr, Inhabited

namespace Validation

/-- The argument, unless it is missing or null. -/
def definedValue (v : Validation) : Option Json := v.value.filter (· ≠ .null)

end Validation

namespace Field

/-- Adds a validation under its name, or under its place if it has no name. -/
def addValidation (f : Field) (v : Validation) : Field :=
  { f with
    validations := f.validations.insert (v.name.getD (toString f.validations.size)) v }

end Field

namespace Entity

/-- An entity with a table of its own name. -/
def named (name : String) : Entity := { name := some name, tableName := some name }

/-- Adds a field under its name, or under its place if it has no name. -/
def addField (e : Entity) (f : Field) : Entity :=
  { e with fields := e.fields.insert (f.name.getD (toString e.fields.size)) f }

end Entity

namespace RelationshipType

def all : List RelationshipType := [oneToOne, oneToMany, manyToOne, manyToMany]

/-- The name of a type in a graph. -/
def name : RelationshipType → String
  | oneToOne => "OneToOne"
  | oneToMany => "OneToMany"
  | manyToOne => "ManyToOne"
  | manyToMany => "ManyToMany"

/-- The name of a type in a record. -/
def kebab : RelationshipType → String
  | oneToOne => "one-to-one"
  | oneToMany => "one-to-many"
  | manyToOne => "many-to-one"
  | manyToMany => "many-to-many"

/-- The type seen from the other end. -/
def inverse : RelationshipType → RelationshipType
  | oneToMany => manyToOne
  | manyToOne => oneToMany
  | t => t

/-- Whether the ends are alike, so that one of them has to be the owner. -/
def hasOwner (t : RelationshipType) : Bool := t = oneToOne || t = manyToMany

end RelationshipType

namespace Relationship

/-- The same relationship declared from its other end. -/
def flip (r : Relationship) : Relationship := ⟨r.target, r.source, r.type.inverse⟩

end Relationship

namespace EntityOption

/-- The name that stands for every declared entity. -/
def wildcard : String := "*"

/-- Whether the option is for every entity: its only name is the wildcard. -/
def targetsAll (o : EntityOption) : Bool := o.entityNames.toList = [wildcard]

end EntityOption

namespace Graph

/-- The names of the declared entities, in order; entities without a name are left out. -/
def entityNames (g : Graph) : List String := g.entities.filterMap (·.name)

def entity? (g : Graph) (name : String) : Option Entity := g.entities.find? (·.name = some name)

def enumeration? (g : Graph) (name : String) : Option Enumeration := g.enums.get? name

def addEntity (g : Graph) (e : Entity) : Graph := { g with entities := g.entities ++ [e] }

def addEnumeration (g : Graph) (e : Enumeration) : Graph :=
  { g with enums := g.enums.insert e.name e }

def addRelationship (g : Graph) (r : Relationship) : Graph :=
  { g with relationships := g.relationships ++ [r] }

def addOption (g : Graph) (o : EntityOption) : Graph := { g with options := g.options ++ [o] }

def addDeployment (g : Graph) (d : Deployment) : Graph :=
  { g with deployments := g.deployments ++ [d] }

end Graph

end DomainModel
