import DomainModel.Graph.Basic
import DomainModel.Json.Parser
import DomainModel.Json.Reader

/-!
# Reading graphs

What a document leaves out is missing or empty in the graph. Only a relationship has fields that
must be there: its two entities and its type.
-/

namespace DomainModel

open Reader

def Validation.reader : Reader Validation := fun o s =>
  Filled.record <$> Reader.record "JdlValidation"
    [field "name" (optional text) fun x v => { v with name := x },
     field "value" (optional json) fun x v => { v with value := x }] {} o s

def Field.reader : Reader Field := fun o s =>
  Filled.record <$> Reader.record "JdlField"
    [field "name" (optional text) fun x f => { f with name := x },
     field "type" (optional text) fun x f => { f with type := x },
     field "comment" (optional text) fun x f => { f with comment := x },
     field "validations" (dict Validation.reader) fun x f => { f with validations := x }] {} o s

def Entity.reader : Reader Entity := fun o s =>
  Filled.record <$> Reader.record "JdlEntity"
    [field "name" (optional text) fun x e => { e with name := x },
     field "tableName" (optional text) fun x e => { e with tableName := x },
     field "comment" (optional text) fun x e => { e with comment := x },
     field "fields" (dict Field.reader) fun x e => { e with fields := x }] {} o s

def Enumeration.reader : Reader Enumeration := fun o s =>
  Filled.record <$> Reader.record "JdlEnum"
    [field "name" text fun x e => { e with name := x },
     field "values" (list text) fun x e => { e with values := x },
     field "comment" (optional text) fun x e => { e with comment := x }] {} o s

/-- The relationship type of a name. -/
def RelationshipType.ofName (name : String) : Except Fault RelationshipType :=
  match RelationshipType.all.find? (·.name = name) with
  | some t => .ok t
  | none => .error (.unknownVariant name (RelationshipType.all.map RelationshipType.name))

/-- Reads null where a type is given as the key of an object. -/
def RelationshipType.content : Source → Except Fault Unit
  | .null => .ok ()
  | s => .error (s.unexpected .unit)

/-- Reads a relationship type: its name, or an object with the name as its only key and the value
null. In text the name is looked up before the rest of the object is read. -/
def RelationshipType.reader : Reader RelationshipType
  | _, .text name => RelationshipType.ofName name
  | .document, .object [(some name, x)] none => do
    let t ← RelationshipType.ofName name
    RelationshipType.content x
    return t
  | .document, .object _ _ => .error .notSingleKey
  | .text depth, .object members stray => do
    let _ ← (Origin.text depth).enter
    match members, stray with
    | (some name, x) :: rest, stray => do
      let t ← RelationshipType.ofName name
      RelationshipType.content x
      if rest.isEmpty && stray.isNone then return t else throw .malformed
    | [], some key => throw (key.unexpected .variant)
    | _, _ => throw .malformed
  | .document, s => .error (s.unexpected .textOrMap)
  | .text _, _ => .error .malformed

/-- A relationship of which not everything need have been read. -/
structure Relationship.Draft where
  source : Option String := none
  target : Option String := none
  type : Option RelationshipType := none
  /-- The rest of the source; its entity is left open. -/
  atSource : RelationshipEnd := { entity := "" }
  /-- The rest of the target; its entity is left open. -/
  atTarget : RelationshipEnd := { entity := "" }

def Relationship.fields : List (Reader.Field Relationship.Draft) :=
  [field "from" text fun x r => { r with source := some x },
   field "to" text fun x r => { r with target := some x },
   field "type" RelationshipType.reader fun x r => { r with type := some x },
   field "injectedFieldInFrom" (optional text) fun x r =>
    { r with atSource.injectedField := x },
   field "injectedFieldInTo" (optional text) fun x r => { r with atTarget.injectedField := x },
   field "isInjectedFieldInFromRequired" boolean fun x r => { r with atSource.required := x },
   field "isInjectedFieldInToRequired" boolean fun x r => { r with atTarget.required := x },
   field "commentInFrom" (optional text) fun x r => { r with atSource.comment := x },
   field "commentInTo" (optional text) fun x r => { r with atTarget.comment := x }]

/-- The relationship of a draft, if its entities and its type have been read. An array that is too
short is reported as such, and an object by the first field that is missing. -/
def Relationship.Draft.finish (d : Filled Relationship.Draft) : Except Fault Relationship :=
  let missing (name : String) : Fault :=
    match d.listed with
    | some count => .tooFew count "JdlRelationship" Relationship.fields.length
    | none => .missingField name
  match d.record.source, d.record.target, d.record.type with
  | some source, some target, some type =>
    .ok ⟨{ d.record.atSource with entity := source }, { d.record.atTarget with entity := target },
      type⟩
  | none, _, _ => .error (missing "from")
  | _, none, _ => .error (missing "to")
  | _, _, none => .error (missing "type")

def Relationship.reader : Reader Relationship := fun o s => do
  Relationship.Draft.finish (← Reader.record "JdlRelationship" Relationship.fields {} o s)

def EntityOption.reader : Reader EntityOption := fun o s =>
  Filled.record <$> Reader.record "JdlOption"
    [field "name" text fun x p => { p with name := x },
     field "entityNames" names fun x p => { p with entityNames := x },
     field "excludedNames" names fun x p => { p with excludedNames := x },
     field "value" (optional text) fun x p => { p with value := x }] {} o s

def Deployment.reader : Reader Deployment := fun o s =>
  Filled.record <$> Reader.record "JdlDeployment"
    [field "deploymentType" (optional text) fun x d => { d with deploymentType := x },
     field "appsFolders" (optional (list text)) fun x d => { d with appsFolders := x },
     field "dockerRepositoryName" (optional text) fun x d => { d with dockerRepositoryName := x },
     field "dockerPushCommand" (optional text) fun x d => { d with dockerPushCommand := x },
     field "directoryPath" (optional text) fun x d => { d with directoryPath := x },
     field "gatewayType" (optional text) fun x d => { d with gatewayType := x },
     field "monitoring" (optional text) fun x d => { d with monitoring := x },
     field "serviceDiscoveryType" (optional text) fun x d => { d with serviceDiscoveryType := x },
     field "kubernetesNamespace" (optional text) fun x d => { d with kubernetesNamespace := x },
     field "kubernetesServiceType" (optional text) fun x d =>
      { d with kubernetesServiceType := x },
     field "ingressDomain" (optional text) fun x d => { d with ingressDomain := x },
     field "openshiftNamespace" (optional text) fun x d => { d with openshiftNamespace := x },
     field "storageType" (optional text) fun x d => { d with storageType := x }] {} o s

def Graph.reader : Reader Graph := fun o s =>
  Filled.record <$> Reader.record "JdlObject"
    [field "entities" (list Entity.reader) fun x g => { g with entities := x },
     field "enums" (dict Enumeration.reader) fun x g => { g with enums := x },
     field "relationships" (list Relationship.reader) fun x g => { g with relationships := x },
     field "options" (list EntityOption.reader) fun x g => { g with options := x },
     field "deployments" (list Deployment.reader) fun x g => { g with deployments := x }] {} o s

/-- Reads a value from text that holds nothing else. -/
def Reader.ofText {α : Type} (r : Reader α) (s : String) : Except Fault α := do
  let (source, rest) := Source.ofText s
  let x ← r (.text 0) source
  match rest with
  | some cs => if Json.Parser.skipSpace cs = [] then return x else throw .malformed
  | none => throw .malformed

/-- The value of a JSON text, in which every object names a key once. -/
def Json.parse? (s : String) : Option Json := (Reader.ofText json s).toOption

end DomainModel
