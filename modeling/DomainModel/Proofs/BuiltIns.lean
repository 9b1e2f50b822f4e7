import DomainModel.Proofs.ConversionEquation

/-!
# Built-in entities in a conversion

A declaration under a built-in name is inert: an empty entity in its place gives the same result
(`Request.result_run_withoutBuiltIns`).  Relationships from a built-in entity are not.  They have no
record at their source, but one at their target if they put a field into it, so leaving them out
changes a record exactly if there is such a target (`Request.run_withoutBuiltInSources`).
-/

namespace DomainModel

/-! ## Declarations of built-in entities -/

/-- The entity, or an empty one if its name is built in. -/
def Entity.withoutBuiltIn (e : Entity) : Entity := if e.name.any isBuiltIn then {} else e

/-- The graph with an empty entity in the place of each that has a built-in name. -/
def Graph.withoutBuiltIns (g : Graph) : Graph :=
  { g with entities := g.entities.map Entity.withoutBuiltIn }

namespace Entity

theorem withoutBuiltIn_of_recordName? {e : Entity} {name : String}
    (h : e.recordName? = some name) : e.withoutBuiltIn = e := by
  obtain ⟨hn, hb⟩ := name_of_recordName? h
  simp [withoutBuiltIn, hn, hb]

theorem name_withoutBuiltIn (e : Entity) : e.withoutBuiltIn.name = e.recordName? := by
  rcases hn : e.name with _ | name
  · simp [withoutBuiltIn, recordName?, hn]
  · rcases hb : isBuiltIn name <;> simp [withoutBuiltIn, recordName?, Option.filter, hn, hb]

theorem recordName?_withoutBuiltIn (e : Entity) : e.withoutBuiltIn.recordName? = e.recordName? := by
  rcases hr : e.recordName? with _ | name
  · rw [recordName?, name_withoutBuiltIn, hr]
    rfl
  · rw [withoutBuiltIn_of_recordName? hr, hr]

theorem sameRecord_withoutBuiltIn (e : Entity) : e.SameRecord e.withoutBuiltIn where
  name := e.recordName?_withoutBuiltIn
  content name date h := by rw [withoutBuiltIn_of_recordName? h]

end Entity

theorem IsLastDeclaration.withoutBuiltIn {es : List Entity} {name : String} {i : Nat} {e : Entity}
    (h : IsLastDeclaration es name i e) (hb : isBuiltIn name = false) :
    IsLastDeclaration (es.map Entity.withoutBuiltIn) name i e := by
  have hr : e.recordName? = some name := by simp [Entity.recordName?, h.has_name, hb]
  refine ⟨?_, h.has_name, fun later hlater hn => ?_⟩
  · rw [List.getElem?_map, h.at_place, Option.map_some, Entity.withoutBuiltIn_of_recordName? hr]
  · rw [← List.map_drop] at hlater
    obtain ⟨e', he', rfl⟩ := List.mem_map.1 hlater
    rw [Entity.name_withoutBuiltIn] at hn
    exact h.is_last e' he' (Entity.name_of_recordName? hn).1

namespace Graph

theorem entityNames_withoutBuiltIns (g : Graph) : g.withoutBuiltIns.entityNames = g.recordNames := by
  simp only [entityNames, withoutBuiltIns, recordNames, List.filterMap_map, Function.comp_def,
    Entity.name_withoutBuiltIn]

theorem recordNames_withoutBuiltIns (g : Graph) :
    g.withoutBuiltIns.recordNames = g.recordNames := by
  simp only [withoutBuiltIns, recordNames, List.filterMap_map, Function.comp_def,
    Entity.recordName?_withoutBuiltIn]

/-- A built-in name is known without its declaration. -/
theorem isUnknown_withoutBuiltIns (g : Graph) :
    isUnknown g.withoutBuiltIns.entityNames = isUnknown g.entityNames := by
  rw [← isUnknown_recordNames, recordNames_withoutBuiltIns, isUnknown_recordNames]

/-- A wildcard stands for the same entities, but for those that have no record anyway. -/
theorem mem_targets_withoutBuiltIns (g : Graph) (o : EntityOption) {name : String}
    (h : name ∈ g.recordNames) :
    name ∈ o.targets g.withoutBuiltIns.entityNames ↔ name ∈ o.targets g.entityNames := by
  have hd := (mem_recordNames.1 h).1
  unfold EntityOption.targets
  split
  · simp only [List.mem_filter, entityNames_withoutBuiltIns, h, hd, true_and]
  · exact Iff.rfl

theorem agrees_withoutBuiltIns (g : Graph) : g.Agrees g.withoutBuiltIns where
  fresh created := Sheet.records_addEntities created Entity.sameRecord_withoutBuiltIn g.entities 0 rfl
  inOptions := by
    rw [unknownInOptions?, isUnknown_withoutBuiltIns]
    rfl
  inRelationships := by
    rw [unknownInRelationships?, isUnknown_withoutBuiltIns]
    rfl
  finish name hname r := by
    obtain ⟨hd, hb⟩ := mem_recordNames.1 hname
    obtain ⟨i, e, hl⟩ := IsLastDeclaration.exists_of_mem hd
    have htouch : ∀ o : EntityOption,
        o.touch g.withoutBuiltIns.entityNames name = o.touch g.entityNames name :=
      fun o => EntityOption.touch_congr rfl rfl rfl (g.mem_targets_withoutBuiltIns o hname)
    have ht : g.withoutBuiltIns.touches name = g.touches name := by
      simp only [touches, htouch]
      rfl
    have hf : g.withoutBuiltIns.fieldRecords.get? name = g.fieldRecords.get? name := by
      rw [get?_fieldRecords_of_last hl, get?_fieldRecords_of_last (hl.withoutBuiltIn hb)]
      rfl
    exact finish_congr ht hf rfl r

end Graph

/-- Declarations under built-in names are inert.  With an empty entity in the place of each a
request comes to the same records, dates included, or fails in the same way. -/
theorem Request.result_run_withoutBuiltIns (r : Request) (now : Instant) :
    ((r.mapGraph Graph.withoutBuiltIns).run now).result = (r.run now).result :=
  result_run_congr Graph.agrees_withoutBuiltIns r now

/-! ## Relationships from built-in entities -/

/-- The graph without the relationships that a built-in entity declares. -/
def Graph.withoutBuiltInSources (g : Graph) : Graph :=
  { g with relationships := g.relationships.filter fun rel => !isBuiltIn rel.source.entity }

/-- Whether a relationship puts a field into the entity of a name. -/
def Relationship.injectsInto (rel : Relationship) (name : String) : Bool :=
  rel.target.entity = name && rel.target.injectedField.isSome

/-- The records at a name of the relationships declared there, and of those that put a field into
the entity there and are not declared by a built-in entity. -/
def keptRecordsAt (rels : List Relationship) (name : String) : List RelationshipRecord :=
  (rels.filter (·.source.entity = name)).map Relationship.sourceRecord
    ++ ((rels.filter (·.injectsInto name)).filter fun rel => !isBuiltIn rel.source.entity).map
      Relationship.targetRecord

section Records

variable {rels : List Relationship} {name : String}

theorem recordsAt_withoutBuiltInSources (hb : isBuiltIn name = false) :
    recordsAt (rels.filter fun rel => !isBuiltIn rel.source.entity) name
      = keptRecordsAt rels name := by
  have hs : (rels.filter fun rel => !isBuiltIn rel.source.entity).filter (·.source.entity = name)
      = rels.filter (·.source.entity = name) := by
    rw [List.filter_filter]
    refine List.filter_congr fun rel _ => ?_
    by_cases hn : rel.source.entity = name
    · simp [hn, hb]
    · simp [hn]
  have ht : (rels.filter fun rel => !isBuiltIn rel.source.entity).filter (·.injectsInto name)
      = (rels.filter (·.injectsInto name)).filter fun rel => !isBuiltIn rel.source.entity := by
    rw [List.filter_filter, List.filter_filter]
    exact List.filter_congr fun rel _ => Bool.and_comm _ _
  unfold recordsAt keptRecordsAt
  rw [hs]
  congr 2

/-- All records at a name are kept exactly if no built-in entity puts a field there. -/
theorem keptRecordsAt_eq_iff : keptRecordsAt rels name = recordsAt rels name ↔
    ∀ rel ∈ rels, rel.injectsInto name = true → isBuiltIn rel.source.entity = false := by
  have hmem : (∀ rel ∈ rels, rel.injectsInto name = true → isBuiltIn rel.source.entity = false) ↔
      ∀ rel ∈ rels.filter (·.injectsInto name), (!isBuiltIn rel.source.entity) = true := by
    simp only [List.mem_filter, Bool.not_eq_true', and_imp]
  rw [hmem, ← List.filter_eq_self]
  constructor
  · intro h
    -- the lists have the same length, so the filter has dropped nothing
    have hlen := congrArg List.length (List.append_cancel_left h)
    rw [List.length_map, List.length_map] at hlen
    exact List.filter_sublist.eq_of_length hlen
  · intro h
    rw [keptRecordsAt, h]
    rfl

theorem sourceRecord_mem {rel : Relationship} (h : rel ∈ rels) :
    rel.sourceRecord ∈ recordsAt rels rel.source.entity ∧
      rel.sourceRecord ∈ keptRecordsAt rels rel.source.entity := by
  have hm : rel.sourceRecord ∈ (rels.filter (·.source.entity = rel.source.entity)).map
      Relationship.sourceRecord := List.mem_map_of_mem (List.mem_filter.2 ⟨h, by simp⟩)
  exact ⟨List.mem_append_left _ hm, List.mem_append_left _ hm⟩

end Records

namespace Graph

theorem finish_withoutBuiltInSources (g : Graph) (name : String) (e : Entity) (date : String) :
    g.withoutBuiltInSources.finish name (e.recordAt name date)
      = { g.finish name (e.recordAt name date) with
          relationships := recordsAt g.withoutBuiltInSources.relationships name } := by
  have ht : g.withoutBuiltInSources.touches name = g.touches name := rfl
  have hf : g.withoutBuiltInSources.fieldRecords = g.fieldRecords := rfl
  simp only [finish, ht, hf]
  rw [Touch.applyAll_eq]
  rfl

end Graph

/-- The conversion with the records kept of the relationships. -/
def Conversion.keeping (c : Conversion) (rels : List Relationship) : Conversion where
  application := c.application
  records := c.records.map fun record =>
    { record with relationships := keptRecordsAt rels record.name }

namespace Graph

section Converted

variable {g : Graph} {application : String} {created : Instant} {log : List Notice}
  {c : Conversion}

theorem convert_withoutBuiltInSources (h : (g.convert application created log).result = .ok c) :
    (g.withoutBuiltInSources.convert application created log).result
      = .ok (c.keeping g.relationships) := by
  obtain ⟨ho, hr, fresh, hfresh, rfl⟩ := result_convert_eq_ok_iff.1 h
  refine result_convert_eq_ok_iff.2 ⟨ho, ?_, fresh, hfresh, ?_⟩
  · unfold unknownInRelationships? at hr ⊢
    rw [List.findSome?_eq_none_iff] at hr ⊢
    exact fun rel hrel => hr rel (List.mem_filter.1 hrel).1
  · rw [Conversion.keeping, Dict.values_mapKeyed, Dict.values_mapKeyed, List.map_map]
    congr 1
    refine List.map_congr_left fun entry hentry => ?_
    obtain ⟨hname, i, e, date, -, he⟩ :=
      exists_of_freshRecords hfresh (Dict.get?_eq_some_iff.2 hentry)
    rw [Function.comp_apply, he, finish_withoutBuiltInSources, withoutBuiltInSources,
      recordsAt_withoutBuiltInSources (mem_recordNames.1 hname).2]
    congr 2
    exact g.name_finish entry.1 e date

theorem keeping_eq_iff (h : (g.convert application created log).result = .ok c) :
    c.keeping g.relationships = c ↔ ∀ rel ∈ g.relationships,
      isBuiltIn rel.source.entity = true → rel.target.injectedField.isSome = true →
        isBuiltIn rel.target.entity = true := by
  have hall := relationships_of_convert h
  constructor
  · intro hk rel hrel hs hi
    refine eq_true_of_ne_false fun hb => ?_
    -- the target has a record then, and there the relationship would be missed
    have hd := mem_entityNames_of_convert h hrel (.inr rfl) hb
    obtain ⟨record, hmem, hname⟩ := exists_record_of_convert h (mem_recordNames.2 ⟨hd, hb⟩)
    have hsame : { record with relationships := keptRecordsAt g.relationships record.name }
        = record := List.map_inj_left.1
      ((congrArg Conversion.records hk).trans (List.map_id _).symm) record hmem
    have hkept := congrArg EntityRecord.relationships hsame
    rw [(hall record hmem).2, keptRecordsAt_eq_iff] at hkept
    have hn := hkept rel hrel (by simp [Relationship.injectsInto, hname, hi])
    rw [hs] at hn
    cases hn
  · intro hto
    have hsame : ∀ record ∈ c.records,
        { record with relationships := keptRecordsAt g.relationships record.name } = record := by
      intro record hmem
      obtain ⟨hb, hr⟩ := hall record hmem
      have hkept : keptRecordsAt g.relationships record.name = record.relationships := by
        rw [hr, keptRecordsAt_eq_iff]
        intro rel hrel hi
        simp only [Relationship.injectsInto, Bool.and_eq_true, decide_eq_true_eq] at hi
        refine eq_false_of_ne_true fun hs => ?_
        have ht := hto rel hrel hs hi.2
        rw [hi.1, hb] at ht
        cases ht
      rw [hkept]
    rw [Conversion.keeping, List.map_congr_left hsame, List.map_id']

end Converted

end Graph

/-- Leaving out the relationships from built-in entities.  The records stay but for these: each
keeps the records of the relationships that its entity declares, and of those that put a field into
it the ones that no built-in entity declares.  So nothing changes if and only if every field that a
built-in entity puts somewhere goes to a built-in entity.  A relationship toward a built-in entity
has its record at the entity that declares it either way. -/
theorem Request.run_withoutBuiltInSources {r : Request} {now : Instant} {c : Conversion}
    (h : (r.run now).result = .ok c) : ∃ g, r.graph = some g ∧
      ((r.mapGraph Graph.withoutBuiltInSources).run now).result
        = .ok (c.keeping g.relationships) ∧
      (c.keeping g.relationships = c ↔ ∀ rel ∈ g.relationships,
        isBuiltIn rel.source.entity = true → rel.target.injectedField.isSome = true →
          isBuiltIn rel.target.entity = true) ∧
      ∀ rel ∈ g.relationships, isBuiltIn rel.source.entity = false →
        isBuiltIn rel.target.entity = true → ∀ d, d = c ∨ d = c.keeping g.relationships →
          ∃ record ∈ d.records,
            record.name = rel.source.entity ∧ rel.sourceRecord ∈ record.relationships := by
  obtain ⟨g, application, created, log, hg, hc, hrun⟩ := run_mapGraph_of_ok h
  refine ⟨g, hg, ?_, Graph.keeping_eq_iff hc, fun rel hrel hs _ d hd => ?_⟩
  · rw [hrun, Graph.convert_withoutBuiltInSources hc]
  have hname := Graph.mem_entityNames_of_convert hc hrel (.inl rfl) hs
  obtain ⟨record, hmem, hn⟩ :=
    Graph.exists_record_of_convert hc (Graph.mem_recordNames.2 ⟨hname, hs⟩)
  obtain ⟨hm, hkept⟩ := sourceRecord_mem hrel
  rcases hd with rfl | rfl
  · refine ⟨record, hmem, hn, ?_⟩
    rwa [(Graph.relationships_of_convert hc record hmem).2, hn]
  · exact ⟨_, List.mem_map_of_mem hmem, hn, by rwa [hn]⟩

/-- Users are declared, own invoices, which carry a field for it, and pay them. -/
def Request.owned : Request where
  graph := some
    { entities := [.named "User", .named "Invoice"]
      relationships :=
        [⟨{ entity := "User" }, { entity := "Invoice", injectedField := some "owner" }, .oneToMany⟩,
         ⟨{ entity := "Invoice", injectedField := some "payer" }, { entity := "User" },
          .manyToOne⟩] }
  application := some "app"
  database := some "sql"
  created := some .epoch

theorem Request.run_withoutBuiltInSources_owned : ∃ g c, owned.graph = some g ∧
    (owned.run .epoch).result = .ok c ∧
    ((owned.mapGraph Graph.withoutBuiltInSources).run .epoch).result
      = .ok (c.keeping g.relationships) ∧
    c.keeping g.relationships ≠ c ∧
    ∃ rel ∈ g.relationships, ∃ record ∈ (c.keeping g.relationships).records,
      record.name = "Invoice" ∧ rel.target.entity = "User" ∧
        rel.sourceRecord ∈ record.relationships := by
  obtain ⟨c, hc⟩ : ∃ c, (owned.run .epoch).result = .ok c := by
    apply exists_of_isOk
    decide +kernel
  obtain ⟨g, hg, hrun, hsame, htoward⟩ := run_withoutBuiltInSources hc
  cases hg
  refine ⟨_, c, rfl, hc, hrun, fun h => ?_, ?_⟩
  · -- the invoices have a field for their owner
    have hto := hsame.1 h _ (.head _)
    revert hto
    decide
  · obtain ⟨record, hmem, hn, hm⟩ :=
      htoward _ (.tail _ (.head _)) (by decide) (by decide) _ (.inr rfl)
    exact ⟨_, .tail _ (.head _), record, hmem, hn, rfl, hm⟩

/-- A built-in entity is declared, and its relationship leaves a record at the invoices, which is
gone when the relationship is. -/
theorem Request.run_owned : ∃ c c', (owned.run .epoch).result = .ok c ∧
    ((owned.mapGraph Graph.withoutBuiltInSources).run .epoch).result = .ok c' ∧
    (∃ g, owned.graph = some g ∧ ∃ name ∈ g.entityNames, isBuiltIn name = true) ∧
    c.records.map (·.relationships.map (·.name)) = [["payer", "owner"]] ∧
    c'.records.map (·.relationships.map (·.name)) = [["payer"]] ∧ c'.records ≠ c.records := by
  obtain ⟨c, hc, hnames⟩ : ∃ c, (owned.run .epoch).result = .ok c ∧
      c.records.map (·.relationships.map (·.name)) = [["payer", "owner"]] := by
    apply exists_of_map_toOption
    decide +kernel
  obtain ⟨c', hc', hnames'⟩ : ∃ c',
      ((owned.mapGraph Graph.withoutBuiltInSources).run .epoch).result = .ok c' ∧
      c'.records.map (·.relationships.map (·.name)) = [["payer"]] := by
    apply exists_of_map_toOption
    decide +kernel
  refine ⟨c, c', hc, hc', ⟨_, rfl, "User", by decide, by decide⟩, hnames, hnames', fun h => ?_⟩
  rw [h, hnames] at hnames'
  revert hnames'
  decide

end DomainModel
