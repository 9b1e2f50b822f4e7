/-!
# Errors

What can be wrong with a graph or with a request, by cause. A breach found inside an entity or a
field is wrapped in its name; the chain of a breach are the breaches inside it, and its root is the
innermost (`root_eq_getLast_chain`).
-/

namespace DomainModel

/-- The kinds of declarations that are checked. -/
inductive DescriptorKind where
  | entity
  | field
  | validation
  | deployment
  deriving DecidableEq, Repr

def DescriptorKind.name : DescriptorKind → String
  | entity => "entity"
  | field => "field"
  | validation => "validation"
  | deployment => "deployment"

/-- A rule that a declaration breaks. -/
inductive Breach where
  | absent (kind : DescriptorKind)
  | missingAttributes (kind : DescriptorKind) (attributes : List String)
  | noField
  | unknownValidation (name : String)
  | missingValidationValue (name : String)
  | unsupportedDeploymentType (type : String)
  | inEntity (entity : String) (cause : Breach)
  | inField (field : String) (cause : Breach)
  deriving DecidableEq, Repr

namespace Breach

/-- The words for the attributes that are missing. Those of deployments are always in the plural. -/
def missingText (kind : DescriptorKind) (attributes : List String) : String :=
  let list := String.intercalate ", " attributes
  if kind ≠ .deployment ∧ attributes.length = 1 then
    s!"The {kind.name} attribute {list} was not found."
  else s!"The {kind.name} attributes {list} were not found."

def message : Breach → String
  | absent kind => s!"No {kind.name}."
  | missingAttributes kind attributes => missingText kind attributes
  | noField => "No field."
  | unknownValidation name => s!"The validation {name} doesn't exist."
  | missingValidationValue name => s!"The validation {name} requires a value."
  | unsupportedDeploymentType type => s!"The deployment type {type} isn't supported."
  | inEntity entity cause => s!"Entity {entity},\n\t{cause.message}"
  | inField field cause => s!"Field {field}, \n\t{cause.message}"

def code : Breach → String
  | absent _ => "validation::absent"
  | missingAttributes _ _ => "validation::missing_attributes"
  | noField => "validation::no_field"
  | unknownValidation _ => "validation::unknown_validation"
  | missingValidationValue _ => "validation::missing_value"
  | unsupportedDeploymentType _ => "validation::unsupported_deployment"
  | inEntity _ _ => "validation::entity"
  | inField _ _ => "validation::field"

/-- Advice on how to mend a breach. -/
def help : Breach → Option String
  | missingAttributes _ _ => some "Every listed attribute must be present and not null."
  | noField => some "An entity must declare at least one field."
  | unknownValidation _ =>
    some ("Known validations: required, unique, min, max, minlength, maxlength, pattern, "
      ++ "minbytes, maxbytes.")
  | unsupportedDeploymentType _ =>
    some "Supported deployment types: docker-compose, kubernetes, openshift."
  | absent _ | missingValidationValue _ | inEntity _ _ | inField _ _ => none

/-- The breaches inside a breach, from the outside in. -/
def chain : Breach → List Breach
  | inEntity _ cause | inField _ cause => cause :: cause.chain
  | _ => []

/-- The innermost breach. -/
def root : Breach → Breach
  | inEntity _ cause | inField _ cause => cause.root
  | b => b

/-- The entity that a breach was found in. -/
def entity? : Breach → Option String
  | inEntity entity _ => some entity
  | _ => none

/-- The root is the last of the chain, or the breach itself if nothing is inside it. -/
theorem root_eq_getLast_chain (b : Breach) : b.root = b.chain.getLast?.getD b := by
  induction b with
  | inEntity _ cause ih | inField _ cause ih =>
    simp only [root, chain, List.getLast?_cons, Option.getD_some, ih]
  | _ => rfl

end Breach

/-- A name that nothing is declared under. -/
inductive UnknownName where
  | inRelationship (source target entity : String)
  | inOption (option entity : String)
  deriving DecidableEq, Repr

namespace UnknownName

def message : UnknownName → String
  | inRelationship source target entity =>
    s!"In the relationship between {source} and {target}, {entity} is not declared."
  | inOption option entity =>
    s!"The option {option} targets the entity {entity}, which is not declared."

def code : UnknownName → String
  | inRelationship _ _ _ => "reference::relationship_entity"
  | inOption _ _ => "reference::option_entity"

def help : UnknownName → Option String
  | inRelationship _ _ _ =>
    some "Declare the entity, or point the relationship at a built-in entity (User, Authority)."
  | inOption _ _ => none

end UnknownName

/-- What can be wrong in the use of the library. -/
inductive Failure where
  /-- The graph, the application's name or its database type is missing. -/
  | missingArguments
  | breach (b : Breach)
  | unknownName (n : UnknownName)
  deriving DecidableEq, Repr

namespace Failure

/-- The message of a failure; a breach or an unknown name has its own. -/
def message : Failure → String
  | missingArguments => "The JDL object, the application's name and its database type are mandatory."
  | breach b => b.message
  | unknownName n => n.message

def code : Failure → String
  | missingArguments => "convert::missing_arguments"
  | breach b => b.code
  | unknownName n => n.code

def help : Failure → Option String
  | missingArguments =>
    some "Pass the domain-object graph, a non-empty application name and a database type."
  | breach b => b.help
  | unknownName n => n.help

/-- The messages of the failures inside a failure, from the outside in. -/
def chain : Failure → List String
  | breach b => b.chain.map Breach.message
  | missingArguments | unknownName _ => []

end Failure

end DomainModel
