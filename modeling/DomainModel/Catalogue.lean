import DomainModel.Graph.Basic

/-!
# Catalogues

The validations, the options and the entities that are known beforehand. An option of the catalogue
has a rule: the key that it writes, the value, and what else it does. Any other option writes under
its own name.
-/

namespace DomainModel

/-! ## Built-in entities -/

/-- Whether a name is `word`, whatever the case of its ASCII letters; `word` is in lower case. -/
def isWord (word name : String) : Bool := name.toList.map Char.toLower = word.toList

/-- Whether a name is that of the built-in user. -/
def isUser (name : String) : Bool := isWord "user" name

/-- Whether a name is that of a built-in entity, the user or the authority. -/
def isBuiltIn (name : String) : Bool := isUser name || isWord "authority" name

/-! ## Validations -/

/-- A validation that fields can have. -/
structure ValidationKind where
  name : String
  requiresValue : Bool
  deriving DecidableEq, Repr

namespace ValidationKind

def all : List ValidationKind :=
  [⟨"required", false⟩, ⟨"unique", false⟩, ⟨"min", true⟩, ⟨"max", true⟩, ⟨"minlength", true⟩,
   ⟨"maxlength", true⟩, ⟨"pattern", true⟩, ⟨"minbytes", true⟩, ⟨"maxbytes", true⟩]

def ofName? (name : String) : Option ValidationKind := all.find? (·.name = name)

end ValidationKind

/-! ## Options -/

/-- How the value that an option writes comes about. -/
inductive ValueRule where
  /-- The same value whatever the option says. -/
  | flag (b : Bool)
  /-- The value of the option; without one, the key is taken away. -/
  | optionValue
  /-- The value of the option, or true if there is none or it is empty. -/
  | optionValueOrTrue
  deriving DecidableEq, Repr

/-- The value to write for an option, or none to take the key away. -/
def ValueRule.apply (rule : ValueRule) (option : EntityOption) : Option Json :=
  match rule with
  | flag b => some (.bool b)
  | optionValue => option.value.map .string
  | optionValueOrTrue => some (((option.value.filter (· ≠ "")).map .string).getD (.bool true))

/-- What an option of the catalogue does. -/
structure OptionRule where
  name : String
  /-- Other names of the option. -/
  aliases : List String := []
  /-- The key that it writes, if not its name. -/
  key : Option String := none
  value : ValueRule
  /-- Whether its entities need a service. -/
  requiresService : Bool := false
  /-- Whether the entities that it is not for are left out of the search. -/
  excludesFromSearch : Bool := false
  deriving DecidableEq, Repr

namespace OptionRule

def outputKey (rule : OptionRule) : String := rule.key.getD rule.name

/-- Whether a name is one of the names of the option. -/
def matchesName (rule : OptionRule) (name : String) : Bool :=
  rule.name = name || rule.aliases.contains name

def all : List OptionRule :=
  [{ name := "skipClient", aliases := ["skip-client"], value := .flag true },
   { name := "skipServer", aliases := ["skip-server"], value := .flag true },
   { name := "readOnly", aliases := ["read-only"], value := .flag true },
   { name := "embedded", value := .flag true },
   { name := "dto", value := .optionValue, requiresService := true },
   { name := "microservice", key := some "microserviceName", value := .optionValue },
   { name := "noFluentMethod", aliases := ["no-fluent-method"], key := some "fluentMethods",
     value := .flag false },
   { name := "angularSuffix", aliases := ["angular-suffix"], key := some "angularJSSuffix",
     value := .optionValue },
   { name := "search", key := some "searchEngine", value := .optionValue,
     excludesFromSearch := true },
   { name := "filter", key := some "jpaMetamodelFiltering", value := .flag true,
     requiresService := true }]

def ofName? (name : String) : Option OptionRule := all.find? (·.matchesName name)

end OptionRule

namespace EntityOption

def outputKey (o : EntityOption) : String :=
  match OptionRule.ofName? o.name with
  | some rule => rule.outputKey
  | none => o.name

/-- The value that an option writes, or none if it takes the key away. -/
def outputValue (o : EntityOption) : Option Json :=
  match OptionRule.ofName? o.name with
  | some rule => rule.value.apply o
  | none => ValueRule.optionValueOrTrue.apply o

end EntityOption

end DomainModel
