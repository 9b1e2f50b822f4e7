import DomainModel.Calendar
import DomainModel.Record.Fields
import DomainModel.Record.Options
import DomainModel.Record.Relationships

/-!
# Conversion of a graph

A graph becomes a list of records, one for every name that an entity is declared under and that is
not built in. The records come from the entities first, then options, fields, relationships and
applications are added to all of them. Nothing is checked on the way but that names are known.
-/

namespace DomainModel

/-- What a conversion is asked for. -/
structure Request where
  graph : Option Graph := none
  /-- The application that the records are for. -/
  application : Option String := none
  database : Option String := none
  applicationType : Option String := none
  /-- The instant from which changelog dates are counted. -/
  created : Option Instant := none
  deriving DecidableEq, Repr

/-- The records of an application. -/
structure Conversion where
  application : String
  records : List EntityRecord
  deriving DecidableEq, Repr

/-- Why a conversion has no result. -/
inductive Stop where
  | failure (f : Failure)
  | date (e : ShiftError)
  deriving DecidableEq, Repr

/-- A conversion as it went: what was noticed, and the result. -/
structure Run where
  log : List Notice
  result : Except Stop Conversion

namespace Conversion

/-- The records for an application, if they are for that one. -/
def get? (c : Conversion) (application : String) : Option (List EntityRecord) :=
  if application = c.application then some c.records else none

/-- The document of a conversion: the records under the name of the application. -/
def document (c : Conversion) : Json :=
  .object [(c.application, .array (c.records.map EntityRecord.document))]

end Conversion

/-- The record of a named entity at a place in the graph, before options. Its changelog date is as
many seconds after `created` as its place is from the first, plus one. -/
def Entity.freshRecord (e : Entity) (name : String) (created : Instant) (place : Nat) :
    Except ShiftError EntityRecord := do
  let date ← created.changelogStamp (place + 1)
  return .fresh name (Text.snakeCase (e.tableName.getD name)) date (Text.docText e.comment)

/-- Why records have no date, and what had been noticed before that. -/
structure OutOfDates where
  error : ShiftError
  log : List Notice
  deriving DecidableEq, Repr

/-- Adds the records of entities to a sheet, the first of them at `place`. Entities without a name
are passed over, and so, with a warning, are those with the name of a built-in one. -/
def Sheet.addEntities (created : Instant) (place : Nat) :
    List Entity → Sheet → Except OutOfDates Sheet
  | [], s => .ok s
  | e :: es, s =>
    match e.name with
    | none => addEntities created (place + 1) es s
    | some name =>
      if isBuiltIn name then
        addEntities created (place + 1) es { s with log := s.log ++ [.builtInDeclared name] }
      else do
        let record ← (e.freshRecord name created place).mapError fun error => ⟨error, s.log⟩
        -- declared again, an entity keeps its place among the records but not its content
        addEntities created (place + 1) es { s with records := s.records.insert name record }

/-- Adds to records what `parts` has for their names. -/
def addParts {α : Type} (add : EntityRecord → α → EntityRecord) (parts : Dict α)
    (records : Dict EntityRecord) : Dict EntityRecord :=
  parts.toList.foldl (fun rs part => rs.modify part.1 (add · part.2)) records

/-- Completes records to which the options have been applied. -/
def Graph.complete (g : Graph) (records : Dict EntityRecord) :
    Except UnknownName (Dict EntityRecord) := do
  let withFields := addParts EntityRecord.addFields g.fieldRecords records
  let relationships ← relationshipRecords g.relationships g.entityNames
  let withAll := addParts EntityRecord.addRelationships relationships withFields
  return withAll.map EntityRecord.setAllApplications

/-- Converts a graph for an application, the dates counted from `created`. -/
def Graph.convert (g : Graph) (application : String) (created : Instant) (log : List Notice) :
    Run :=
  match Sheet.addEntities created 0 g.entities ⟨.empty, log⟩ with
  | .error stop => ⟨stop.log, .error (.date stop.error)⟩
  | .ok sheet =>
    let attempt := g.applyOptions sheet
    match attempt.failure with
    | some unknown => ⟨attempt.sheet.log, .error (.failure (.unknownName unknown))⟩
    | none =>
      match g.complete attempt.sheet.records with
      | .error unknown => ⟨attempt.sheet.log, .error (.failure (.unknownName unknown))⟩
      | .ok records =>
        ⟨attempt.sheet.log ++ [.converted records.size application],
          .ok ⟨application, records.values⟩⟩

/-- Does what a request asks for. The graph, the application and the database have to be given, and
the last two must not be empty. Without an instant to count from, dates are counted from `now`. -/
def Request.run (r : Request) (now : Instant) : Run :=
  match r.graph, r.application, r.database with
  | some graph, some application, some database =>
    if application ≠ "" ∧ database ≠ "" then
      graph.convert application (r.created.getD now)
        [.converting application database r.applicationType]
    else ⟨[], .error (.failure .missingArguments)⟩
  | _, _, _ => ⟨[], .error (.failure .missingArguments)⟩

end DomainModel
