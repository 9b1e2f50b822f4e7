import DomainModel.Proofs.FreshRecords
import DomainModel.Proofs.OptionEffects
import DomainModel.Proofs.RelationshipRecords

/-!
# The records of a conversion

A conversion goes over the records four times, and each time finds them by name.  The passes agree
on what a name stands for: its record is made of the last entity declared under it, of the options
that touch it and of the relationships at it, and of nothing else (`records_of_convert`).
-/

namespace DomainModel

/-! ## Adding parts -/

section Parts

variable {α : Type} (add : EntityRecord → α → EntityRecord)

theorem keys_addParts (parts : Dict α) (records : Dict EntityRecord) :
    (addParts add parts records).keys = records.keys := by
  unfold addParts
  induction parts.toList generalizing records with
  | nil => rfl
  | cons part parts ih => rw [List.foldl_cons, ih, Dict.keys_modify]

theorem get?_foldl_modify (name : String) : ∀ (parts : List (String × α))
    (records : Dict EntityRecord), (parts.map Prod.fst).Nodup →
      (parts.foldl (fun rs part => rs.modify part.1 (add · part.2)) records).get? name
        = (records.get? name).map fun r => (parts.lookup name).elim r (add r)
  | [], records, _ => by simp
  | part :: parts, records, h => by
    obtain ⟨hp, h⟩ := List.nodup_cons.1 h
    rw [List.foldl_cons, get?_foldl_modify name parts _ h, Dict.get?_modify,
      Entries.lookup_cons_ite]
    split
    · rename_i hn
      subst hn
      -- the names of the parts are distinct, so none of the later ones is this one
      simp only [Entries.lookup_eq_none_iff.2 hp, Option.map_map, Function.comp_def,
        Option.elim_none, Option.elim_some]
    · rfl

/-- Each record gets the part of its name, if there is one. -/
theorem get?_addParts (parts : Dict α) (records : Dict EntityRecord) (name : String) :
    (addParts add parts records).get? name
      = (records.get? name).map fun r => (parts.get? name).elim r (add r) :=
  get?_foldl_modify add name parts.toList records parts.nodup

end Parts

/-- The field records of a name are those of its last declaration. -/
theorem Graph.get?_fieldRecords_of_last {g : Graph} {name : String} {i : Nat} {e : Entity}
    (h : IsLastDeclaration g.entities name i e) :
    g.fieldRecords.get? name = some (e.fieldRecords g) := by
  have hrest : name ∉ ((g.entities.drop (i + 1)).filterMap fun e =>
      e.name.map fun name => (name, e.fieldRecords g)).map Prod.fst := by
    intro hm
    obtain ⟨p, hp, rfl⟩ := List.mem_map.1 hm
    obtain ⟨later, hlater, hl⟩ := List.mem_filterMap.1 hp
    obtain ⟨name, hn, rfl⟩ := Option.map_eq_some_iff.1 hl
    exact h.is_last later hlater hn
  rw [fieldRecords, h.split.1, List.filterMap_append,
    List.filterMap_cons_some (by rw [h.has_name]; rfl)]
  exact Dict.get?_ofList_of_last hrest

/-! ## All passes -/

/-- The record that a graph makes of an entity under a name, with a date. -/
def Graph.recordOf (g : Graph) (name : String) (e : Entity) (date : String) : EntityRecord :=
  { e.recordAt name date with
    attributes := (Touch.applyAll (g.touches name) (e.recordAt name date)).attributes
    fields := e.fieldRecords g
    relationships := recordsAt g.relationships name
    applications := .string "*" }

/-- Records can be completed if the relationships have their records. -/
theorem Graph.complete_eq (g : Graph) (records : Dict EntityRecord) :
    g.complete records = (relationshipRecords g.relationships g.entityNames).map
      fun relationships => (addParts EntityRecord.addRelationships relationships
        (addParts EntityRecord.addFields g.fieldRecords records)).map
          EntityRecord.setAllApplications := by
  unfold complete
  cases relationshipRecords g.relationships g.entityNames <;> rfl

theorem Graph.complete_ok {g : Graph} {records done : Dict EntityRecord}
    (h : g.complete records = .ok done) : ∃ relationships,
      relationshipRecords g.relationships g.entityNames = .ok relationships ∧
      done = (addParts EntityRecord.addRelationships relationships
        (addParts EntityRecord.addFields g.fieldRecords records)).map
          EntityRecord.setAllApplications := by
  rw [complete_eq] at h
  obtain ⟨relationships, hr, rfl⟩ := exists_of_map_ok h
  exact ⟨relationships, hr, rfl⟩

theorem Graph.keys_complete {g : Graph} {records done : Dict EntityRecord}
    (h : g.complete records = .ok done) : done.keys = records.keys := by
  obtain ⟨relationships, -, rfl⟩ := complete_ok h
  rw [Dict.keys_map, keys_addParts, keys_addParts]

/-- Completing a record with options adds what its name stands for in the graph. -/
theorem Graph.get?_complete {g : Graph} {records done : Dict EntityRecord}
    (h : g.complete records = .ok done) {name : String} {i : Nat} {e : Entity} {date : String}
    (hl : IsLastDeclaration g.entities name i e)
    (hr : records.get? name = some (Touch.applyAll (g.touches name) (e.recordAt name date))) :
    done.get? name = some (g.recordOf name e date) := by
  obtain ⟨relationships, hrel, rfl⟩ := complete_ok h
  rw [Dict.get?_map, get?_addParts, get?_addParts, hr, g.get?_fieldRecords_of_last hl,
    relationshipRecords_ok hrel, Dict.get?_ofList_map, if_pos hl.mem_entityNames, Touch.applyAll_eq]
  rfl

/-- A conversion with a result has gone through all its passes. -/
theorem Graph.convert_ok {g : Graph} {application : String} {created : Instant}
    {log : List Notice} {c : Conversion} (h : (g.convert application created log).result = .ok c) :
    ∃ fresh done, Sheet.addEntities created 0 g.entities ⟨.empty, log⟩ = .ok fresh ∧
      (g.applyOptions fresh).failure = none ∧
      g.complete (g.applyOptions fresh).sheet.records = .ok done ∧
      c = ⟨application, done.values⟩ := by
  unfold convert at h
  split at h
  · cases h
  · rename_i fresh hfresh
    dsimp only at h
    split at h
    · cases h
    · rename_i hoptions
      split at h
      · cases h
      · rename_i done hdone
        cases h
        exact ⟨fresh, done, hfresh, hoptions, hdone, rfl⟩

/-- The records of a conversion stand in the order in which their names are first declared, and
each is made of the last declaration of its name. -/
theorem Graph.records_of_convert {g : Graph} {application : String} {created : Instant}
    {log : List Notice} {c : Conversion} (h : (g.convert application created log).result = .ok c) :
    c.records.map (·.name) = g.recordNames.eraseDups ∧
      ∀ record ∈ c.records, ∃ i e date, IsLastDeclaration g.entities record.name i e ∧
        created.changelogStamp (i + 1 : Nat) = .ok date ∧
        record = g.recordOf record.name e date := by
  obtain ⟨fresh, done, hfresh, hoptions, hdone, rfl⟩ := convert_ok h
  have hkeys : done.keys = g.recordNames.eraseDups := by
    rw [keys_complete hdone, keys_applyOptions, Sheet.keys_addEntities hfresh]
    rfl
  have hget : ∀ name record, done.get? name = some record → ∃ i e date,
      IsLastDeclaration g.entities name i e ∧ created.changelogStamp (i + 1 : Nat) = .ok date ∧
        record = g.recordOf name e date := by
    intro name record hr
    have hmem : name ∈ g.recordNames := by
      rw [← List.mem_eraseDups, ← hkeys]
      exact Dict.mem_keys_of_get? hr
    rw [recordNames_eq, List.mem_filter, Bool.not_eq_true'] at hmem
    obtain ⟨i, e, hl⟩ := IsLastDeclaration.exists_of_mem hmem.1
    obtain ⟨date, hd, hs⟩ := Sheet.get?_addEntities_of_last hl hmem.2 hfresh
    have hdone' := get?_complete hdone hl (by rw [get?_applyOptions hoptions, hs, Option.map_some])
    rw [hr] at hdone'
    exact ⟨i, e, date, hl, by rwa [Nat.zero_add] at hd, Option.some.inj hdone'⟩
  refine ⟨?_, fun record hmem => ?_⟩
  · rw [← hkeys]
    refine Dict.map_values_eq_keys fun name record hr => ?_
    obtain ⟨i, e, date, -, -, rfl⟩ := hget name record hr
    rfl
  · obtain ⟨name, hr⟩ := Dict.mem_values_iff.1 hmem
    obtain ⟨i, e, date, hl, hd, rfl⟩ := hget name record hr
    exact ⟨i, e, date, hl, hd, rfl⟩

theorem Request.run_ok {r : Request} {now : Instant} {c : Conversion}
    (h : (r.run now).result = .ok c) : ∃ g application log, r.graph = some g ∧
      r.application = some application ∧
      (g.convert application (r.created.getD now) log).result = .ok c := by
  unfold run at h
  split at h
  · rename_i g application database hg ha hd
    split at h
    · exact ⟨g, application, _, hg, ha, h⟩
    · cases h
  · cases h

/-- The records of a conversion that succeeds are stored under the application.  There is one for
each declared name that is not built in, in order of first declaration, and it comes from the last
declaration of that name in everything: its table, its documentation, its date, its fields.  Its
relationships are those at the name, and it is for every application. -/
theorem Request.records_of_run {r : Request} {now : Instant} {c : Conversion}
    (h : (r.run now).result = .ok c) :
    ∃ g application records relationships, r.graph = some g ∧ r.application = some application ∧
      c.get? application = some records ∧
      relationshipRecords g.relationships g.entityNames = .ok relationships ∧
      records.map (·.name) = (g.entityNames.filter fun name => !isBuiltIn name).eraseDups ∧
      ∀ record ∈ records, ∃ i e, IsLastDeclaration g.entities record.name i e ∧
        record.tableName = Text.snakeCase (e.tableName.getD record.name) ∧
        record.javadoc = Text.docText e.comment ∧
        (r.created.getD now).changelogStamp (i + 1 : Nat) = .ok record.changelogDate ∧
        record.fields = e.fieldRecords g ∧
        relationships.get? record.name = some record.relationships ∧
        record.applications = .string "*" := by
  obtain ⟨g, application, log, hg, ha, h⟩ := run_ok h
  obtain ⟨hnames, hrecords⟩ := Graph.records_of_convert h
  obtain ⟨fresh, done, -, -, hdone, rfl⟩ := Graph.convert_ok h
  obtain ⟨relationships, hrel, -⟩ := Graph.complete_ok hdone
  refine ⟨g, application, done.values, relationships, hg, ha, if_pos rfl, hrel, ?_, ?_⟩
  · rw [← Graph.recordNames_eq]
    exact hnames
  · intro record hmem
    obtain ⟨i, e, date, hl, hd, heq⟩ := hrecords record hmem
    have hat : relationships.get? record.name = some (recordsAt g.relationships record.name) := by
      rw [relationshipRecords_ok hrel, Dict.get?_ofList_map, if_pos hl.mem_entityNames]
    generalize hn : record.name = name at hl heq hat
    subst heq
    exact ⟨i, e, hl, rfl, rfl, hd, rfl, hat, rfl⟩

/-- Invoices are declared before and after customers, an entity without a name and a user. -/
def Graph.redeclaring : Graph where
  entities :=
    [(Entity.named "Invoice").addField { name := some "old", type := some "String" },
     {}, .named "User", .named "Customer",
     { (Entity.named "Invoice").addField { name := some "total", type := some "Blob" } with
       tableName := some "SalesInvoice", comment := some "An invoice" }]
  relationships := [⟨{ entity := "Invoice" }, { entity := "Customer" }, .manyToOne⟩]
  options := [{ name := "dto", entityNames := .ofList ["*"], value := some "mapstruct" }]

theorem Request.records_of_run_redeclaring :
    ∃ c, (Request.run ⟨some Graph.redeclaring, some "shop", some "sql", none, none⟩
        .epoch).result = .ok c ∧ ∃ records relationships, c.get? "shop" = some records ∧
      relationshipRecords Graph.redeclaring.relationships Graph.redeclaring.entityNames
        = .ok relationships ∧
      records.map (·.name) = ["Invoice", "Customer"] ∧
      (records.map fun record => (record.tableName, record.changelogDate, record.fields))
        = [("sales_invoice", "19700101000005", [⟨"total", some "byte[]", none, none, some "any", []⟩]),
           ("customer", "19700101000004", [])] ∧
      ∀ record ∈ records, ∃ i e,
        IsLastDeclaration Graph.redeclaring.entities record.name i e ∧
        record.tableName = Text.snakeCase (e.tableName.getD record.name) ∧
        record.javadoc = Text.docText e.comment ∧
        Instant.epoch.changelogStamp (i + 1 : Nat) = .ok record.changelogDate ∧
        record.fields = e.fieldRecords Graph.redeclaring ∧
        relationships.get? record.name = some record.relationships ∧
        record.applications = .string "*" := by
  obtain ⟨c, hc, hshown⟩ : ∃ c, (Request.run ⟨some Graph.redeclaring, some "shop", some "sql", none,
      none⟩ .epoch).result = .ok c ∧
      (c.records.map fun record => (record.tableName, record.changelogDate, record.fields))
        = [("sales_invoice", "19700101000005", [⟨"total", some "byte[]", none, none, some "any", []⟩]),
           ("customer", "19700101000004", [])] := by
    apply exists_of_map_toOption
    decide +kernel
  obtain ⟨g, application, records, relationships, hg, ha, hget, hrel, hnames, hall⟩ :=
    records_of_run hc
  cases hg
  cases ha
  have hrecords : records = c.records := by
    rw [Conversion.get?, Option.ite_none_right_eq_some] at hget
    exact (Option.some.inj hget.2).symm
  exact ⟨c, hc, records, relationships, hget, hrel, hnames.trans (by decide +kernel),
    hrecords ▸ hshown, hall⟩

end DomainModel
