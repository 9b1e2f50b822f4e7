import DomainModel.Catalogue
import DomainModel.Error
import DomainModel.Presence

/-!
# Checks of declarations

A check accepts a declaration or gives the first rule that it breaks. A graph is checked in one pass
over its entities and its deployments, which ends at the first breach or goes on to collect every
one, at most one for each entity and each deployment.
-/

namespace DomainModel

/-- Checks that attributes are present. -/
def checkAttributes {α : Type} [Attributed α] (kind : DescriptorKind) (record : α)
    (required : List String) : Except Breach Unit :=
  (requireAttributes record required).mapError (.missingAttributes kind)

/-- Checks a declaration that may be absent. -/
def checkPresent {α : Type} (kind : DescriptorKind) (check : α → Except Breach Unit) :
    Option α → Except Breach Unit
  | none => .error (.absent kind)
  | some x => check x

/-- Checks each of a list, up to the first breach. -/
def checkAll {α : Type} (check : α → Except Breach Unit) : List α → Except Breach Unit
  | [] => .ok ()
  | x :: xs => do
    check x
    checkAll check xs

/-- Checks that a validation is known and has the argument that it needs. -/
def Validation.check (v : Validation) : Except Breach Unit := do
  checkAttributes .validation v ["name"]
  let name := v.name.getD ""
  match ValidationKind.ofName? name with
  | none => throw (.unknownValidation name)
  | some kind =>
    if kind.requiresValue && v.definedValue.isNone then throw (.missingValidationValue name)

/-- Checks a field and its validations. -/
def Field.check (f : Field) : Except Breach Unit := do
  checkAttributes .field f ["name", "type"]
  checkAll (fun v => v.check.mapError (.inField (f.name.getD ""))) f.validations.values

/-- Checks that an entity has fields, and each of them. -/
def Entity.checkFields (e : Entity) : Except Breach Unit :=
  if e.fields.toList = [] then .error .noField else checkAll Field.check e.fields.values

/-- Checks an entity: its own attributes, then its fields. -/
def Entity.check (e : Entity) : Except Breach Unit := do
  checkAttributes .entity e ["name", "tableName"]
  e.checkFields.mapError (.inEntity (e.name.getD ""))

/-- The attributes that a deployment of a type needs besides those of every deployment, if the type
is supported. -/
def Deployment.specificAttributes? (d : Deployment) : Option (List String) :=
  match d.deploymentType.getD "" with
  | "docker-compose" => some []
  | "kubernetes" => some (if d.kubernetesServiceType = some "Ingress" then ["ingressDomain"] else [])
  | "openshift" => some ["openshiftNamespace"]
  | _ => none

/-- Checks a deployment: the attributes of every deployment, its type, the attributes for the
type. -/
def Deployment.check (d : Deployment) : Except Breach Unit := do
  checkAttributes .deployment d ["deploymentType", "appsFolders", "dockerRepositoryName"]
  match d.specificAttributes? with
  | none => throw (.unsupportedDeploymentType (d.deploymentType.getD ""))
  | some required => checkAttributes .deployment d required

/-- The breach that a check gives, if any. -/
def breach? (result : Except Breach Unit) : Option Breach :=
  match result with
  | .ok () => none
  | .error b => some b

/-- The breaches of a list of entities, at most one for each. -/
def entityBreaches (entities : List Entity) : List Breach :=
  entities.filterMap fun e => breach? e.check

/-- Which breaches of a graph are reported. -/
inductive CheckMode where
  /-- The first one. -/
  | failFast
  /-- The first one of every entity and every deployment. -/
  | aggregate
  deriving DecidableEq, Repr, Inhabited

/-- A pass over results that collects the breaches, or ends at the first. -/
def collect : CheckMode → List (Except Breach Unit) → List Breach
  | _, [] => []
  | mode, .ok () :: results => collect mode results
  | .failFast, .error b :: _ => [b]
  | .aggregate, .error b :: results => b :: collect .aggregate results

/-- What a check reports: nothing, or what was collected. -/
def report : List Breach → Except (List Breach) Unit
  | [] => .ok ()
  | b :: bs => .error (b :: bs)

/-- The results of the checks of the entities, then of the deployments. -/
def Graph.checkResults (g : Graph) : List (Except Breach Unit) :=
  g.entities.map Entity.check ++ g.deployments.map Deployment.check

/-- Checks the entities of a graph, then its deployments, in one pass. -/
def Graph.check (g : Graph) (mode : CheckMode) : Except (List Breach) Unit :=
  report (collect mode g.checkResults)

end DomainModel
