import DomainModel.Graph.Basic

/-!
# Graphs as documents

Every record is written with all its fields in the order of their declaration, and a missing part
is written as null. The two ends of a relationship are written into one object.
-/

namespace DomainModel

def Validation.toJson (v : Validation) : Json :=
  .object [("name", .ofText? v.name), ("value", v.value.getD .null)]

def Field.toJson (f : Field) : Json :=
  .object
    [("name", .ofText? f.name), ("type", .ofText? f.type), ("comment", .ofText? f.comment),
     ("validations", .object (f.validations.map Validation.toJson).toList)]

def Entity.toJson (e : Entity) : Json :=
  .object
    [("name", .ofText? e.name), ("tableName", .ofText? e.tableName),
     ("comment", .ofText? e.comment), ("fields", .object (e.fields.map Field.toJson).toList)]

def Enumeration.toJson (e : Enumeration) : Json :=
  .object [("name", .string e.name), ("values", .ofTexts e.values), ("comment", .ofText? e.comment)]

def RelationshipType.toJson (t : RelationshipType) : Json := .string t.name

def Relationship.toJson (r : Relationship) : Json :=
  .object
    [("from", .string r.source.entity), ("to", .string r.target.entity), ("type", r.type.toJson),
     ("injectedFieldInFrom", .ofText? r.source.injectedField),
     ("injectedFieldInTo", .ofText? r.target.injectedField),
     ("isInjectedFieldInFromRequired", .bool r.source.required),
     ("isInjectedFieldInToRequired", .bool r.target.required),
     ("commentInFrom", .ofText? r.source.comment), ("commentInTo", .ofText? r.target.comment)]

def EntityOption.toJson (o : EntityOption) : Json :=
  .object
    [("name", .string o.name), ("entityNames", .ofTexts o.entityNames.toList),
     ("excludedNames", .ofTexts o.excludedNames.toList), ("value", .ofText? o.value)]

def Deployment.toJson (d : Deployment) : Json :=
  .object
    [("deploymentType", .ofText? d.deploymentType),
     ("appsFolders", (d.appsFolders.map Json.ofTexts).getD .null),
     ("dockerRepositoryName", .ofText? d.dockerRepositoryName),
     ("dockerPushCommand", .ofText? d.dockerPushCommand),
     ("directoryPath", .ofText? d.directoryPath), ("gatewayType", .ofText? d.gatewayType),
     ("monitoring", .ofText? d.monitoring),
     ("serviceDiscoveryType", .ofText? d.serviceDiscoveryType),
     ("kubernetesNamespace", .ofText? d.kubernetesNamespace),
     ("kubernetesServiceType", .ofText? d.kubernetesServiceType),
     ("ingressDomain", .ofText? d.ingressDomain),
     ("openshiftNamespace", .ofText? d.openshiftNamespace),
     ("storageType", .ofText? d.storageType)]

def Graph.toJson (g : Graph) : Json :=
  .object
    [("entities", .array (g.entities.map Entity.toJson)),
     ("enums", .object (g.enums.map Enumeration.toJson).toList),
     ("relationships", .array (g.relationships.map Relationship.toJson)),
     ("options", .array (g.options.map EntityOption.toJson)),
     ("deployments", .array (g.deployments.map Deployment.toJson))]

end DomainModel
