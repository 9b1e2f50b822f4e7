import DomainModel.Graph.Basic

/-!
# Presence of attributes

An attribute is present in a record if the record has it and it is not null; false, zero and the
empty text are present. A typed record has the attributes of its document: the collections, which
are never null, and those of the others that have a value.
-/

namespace DomainModel

/-- A record whose attributes are looked up by name. -/
class Attributed (α : Type) where
  has : α → String → Bool

export Attributed (has)

/-- The required attributes that are absent, in the order in which they are required. -/
def missingAttributes {α : Type} [Attributed α] (record : α) (required : List String) :
    List String :=
  required.filter fun name => !has record name

/-- Succeeds if every required attribute is present, and otherwise gives the absent ones. -/
def requireAttributes {α : Type} [Attributed α] (record : α) (required : List String) :
    Except (List String) Unit :=
  if missingAttributes record required = [] then .ok ()
  else .error (missingAttributes record required)

/-- Whether a member of that name is there with a value that is not null. Documents other than
objects have no attributes. -/
def Json.hasAttribute : Json → String → Bool
  | .object members, name => (members.lookup name).any (· ≠ .null)
  | _, _ => false

def Entity.hasAttribute (e : Entity) : String → Bool
  | "name" => e.name.isSome
  | "tableName" => e.tableName.isSome
  | "comment" => e.comment.isSome
  | "fields" => true
  | _ => false

def Field.hasAttribute (f : Field) : String → Bool
  | "name" => f.name.isSome
  | "type" => f.type.isSome
  | "comment" => f.comment.isSome
  | "validations" => true
  | _ => false

def Validation.hasAttribute (v : Validation) : String → Bool
  | "name" => v.name.isSome
  | "value" => v.definedValue.isSome
  | _ => false

def Deployment.hasAttribute (d : Deployment) : String → Bool
  | "deploymentType" => d.deploymentType.isSome
  | "appsFolders" => d.appsFolders.isSome
  | "dockerRepositoryName" => d.dockerRepositoryName.isSome
  | "dockerPushCommand" => d.dockerPushCommand.isSome
  | "directoryPath" => d.directoryPath.isSome
  | "gatewayType" => d.gatewayType.isSome
  | "monitoring" => d.monitoring.isSome
  | "serviceDiscoveryType" => d.serviceDiscoveryType.isSome
  | "kubernetesNamespace" => d.kubernetesNamespace.isSome
  | "kubernetesServiceType" => d.kubernetesServiceType.isSome
  | "ingressDomain" => d.ingressDomain.isSome
  | "openshiftNamespace" => d.openshiftNamespace.isSome
  | "storageType" => d.storageType.isSome
  | _ => false

instance : Attributed Json := ⟨Json.hasAttribute⟩
instance : Attributed Entity := ⟨Entity.hasAttribute⟩
instance : Attributed Field := ⟨Field.hasAttribute⟩
instance : Attributed Validation := ⟨Validation.hasAttribute⟩
instance : Attributed Deployment := ⟨Deployment.hasAttribute⟩

end DomainModel
