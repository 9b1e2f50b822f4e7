import DomainModel.Catalogue
import DomainModel.Error
import DomainModel.Notice
import DomainModel.Record.Basic

/-!
# Options on records

Options are applied one after the other, in the order of their declaration. An option visits its
entities up to three times: to write its key, to give a service to those that have none, and to
leave the entities that it is not for out of the search. A visit passes over built-in entities,
which have no record, and stops for good at a name that is unknown; what was done before stays
done.
-/

namespace DomainModel

/-- An option with what it comes to in a graph. -/
structure ResolvedOption where
  option : EntityOption
  rule : Option OptionRule
  entityNames : List String
  key : String
  /-- The value that it writes, or none if it takes the key away. -/
  value : Option Json
  deriving DecidableEq, Repr

/-- The entities that an option is for: its names, or, if it is for every entity, the declared ones
but for those that it excludes and the built-in user. -/
def EntityOption.targets (o : EntityOption) (declared : List String) : List String :=
  if o.targetsAll then declared.filter fun name => !(name ∈ o.excludedNames : Bool) && !isUser name
  else o.entityNames.toList

/-- What an option comes to among the declared entities. -/
def EntityOption.resolve (o : EntityOption) (declared : List String) : ResolvedOption where
  option := o
  rule := OptionRule.ofName? o.name
  entityNames := o.targets declared
  key := o.outputKey
  value := o.outputValue

/-- What the options of a graph come to, in order. -/
def Graph.resolveOptions (g : Graph) : List ResolvedOption :=
  g.options.map (·.resolve g.entityNames)

/-- The records that options are applied to, and what was noticed on the way. -/
structure Sheet where
  /-- The records, by the name of their entity. -/
  records : Dict EntityRecord
  log : List Notice
  deriving DecidableEq, Repr

/-- How far the application of options came. -/
structure Attempt where
  /-- The records at the end, or where it stopped. -/
  sheet : Sheet
  /-- The name at which it stopped. -/
  failure : Option UnknownName
  deriving DecidableEq, Repr

/-- Goes on with `next`, unless the attempt has stopped. -/
def Attempt.andThen (a : Attempt) (next : Sheet → Attempt) : Attempt :=
  if a.failure.isNone then next a.sheet else a

namespace Sheet

/-- Changes the record of each name in turn, and notices what the change gives rise to. -/
def visit (option : String) (change : String → EntityRecord → EntityRecord × List Notice) :
    List String → Sheet → Attempt
  | [], s => ⟨s, none⟩
  | name :: names, s =>
    match s.records.get? name with
    | some record =>
      let (changed, notices) := change name record
      visit option change names ⟨s.records.insert name changed, s.log ++ notices⟩
    | none =>
      if isBuiltIn name then
        visit option change names { s with log := s.log ++ [.optionIgnored option name] }
      else ⟨s, some (.inOption option name)⟩

end Sheet

namespace ResolvedOption

/-- Writes the value of an option, or takes the key away. -/
def write (o : ResolvedOption) (_ : String) (r : EntityRecord) : EntityRecord × List Notice :=
  (r.put o.key o.value, [])

/-- Gives a service to an entity whose service is switched off. -/
def giveService (o : ResolvedOption) (name : String) (r : EntityRecord) :
    EntityRecord × List Notice :=
  if r.get? "service" = some EntityRecord.off then
    (r.set "service" (.string EntityRecord.serviceClass), [.serviceGiven o.option.name name])
  else (r, [])

/-- Leaves an entity out of the search. -/
def leaveOutOfSearch (_ : String) (r : EntityRecord) : EntityRecord × List Notice :=
  (r.set "searchEngine" (.bool false), [])

/-- Whether the entities of the option need a service. -/
def requiresService (o : ResolvedOption) : Bool := o.rule.any OptionRule.requiresService

/-- Whether the entities that the option is not for are left out of the search. -/
def excludesFromSearch (o : ResolvedOption) : Bool := o.rule.any OptionRule.excludesFromSearch

def apply (o : ResolvedOption) (s : Sheet) : Attempt :=
  let visit := Sheet.visit o.option.name
  ((visit o.write o.entityNames s).andThen
    (visit o.giveService (if o.requiresService then o.entityNames else []))).andThen
    (visit leaveOutOfSearch (if o.excludesFromSearch then o.option.excludedNames.toList else []))

def applyAll : List ResolvedOption → Sheet → Attempt
  | [], s => ⟨s, none⟩
  | o :: os, s => (o.apply s).andThen (applyAll os)

end ResolvedOption

def Graph.applyOptions (g : Graph) (s : Sheet) : Attempt :=
  ResolvedOption.applyAll g.resolveOptions s

end DomainModel
