import DomainModel.Proofs.ConversionEquation

/-!
# One entity more

A graph that can be converted knows every name that it looks up, so a name that it does not declare
can only stand where nobody looks.  An entity of such a name at the end is therefore for options
that exclude it or stand for every entity, and no relationship meets it: the other records stay as
they are, and its own comes after them (`Request.result_run_addEntity`).
-/

namespace DomainModel

theorem isUnknown_of_subset {known known' : List String} (h : known ⊆ known') {name : String}
    (hn : isUnknown known name = false) : isUnknown known' name = false := by
  rw [isUnknown_eq_false_iff] at hn ⊢
  exact hn.imp_left (h ·)

theorem find?_isUnknown_of_subset {known known' names : List String} (h : known ⊆ known')
    (hn : names.find? (isUnknown known) = none) : names.find? (isUnknown known') = none := by
  simp only [List.find?_eq_none, Bool.not_eq_true] at hn ⊢
  exact fun name hname => isUnknown_of_subset h (hn name hname)

theorem recordsAt_eq_nil {rels : List Relationship} {name : String}
    (h : ∀ rel ∈ rels, rel.source.entity ≠ name ∧ rel.target.entity ≠ name) :
    recordsAt rels name = [] := by
  have hs : rels.filter (·.source.entity = name) = [] := by
    simp only [List.filter_eq_nil_iff, decide_eq_true_eq]
    exact fun rel hrel => (h rel hrel).1
  have ht : (rels.filter fun rel => rel.target.entity = name && rel.target.injectedField.isSome)
      = [] := by
    simp only [List.filter_eq_nil_iff, Bool.and_eq_true, decide_eq_true_eq, not_and]
    exact fun rel hrel hn => absurd hn (h rel hrel).2
  rw [recordsAt, hs, ht]
  rfl

namespace Graph

variable {g : Graph} {e : Entity}

theorem entityNames_addEntity (g : Graph) (e : Entity) :
    (g.addEntity e).entityNames = g.entityNames ++ e.name.toList := by
  unfold entityNames addEntity
  rw [List.filterMap_append]
  rcases hn : e.name with _ | name <;> simp [hn]

theorem entityNames_subset_addEntity (g : Graph) (e : Entity) :
    g.entityNames ⊆ (g.addEntity e).entityNames := by
  rw [entityNames_addEntity]
  exact List.subset_append_left _ _

/-! ## What the names are used for -/

theorem unknownInOptions?_addEntity (e : Entity) (h : g.unknownInOptions? = none) :
    (g.addEntity e).unknownInOptions? = none := by
  simp only [unknownInOptions?, List.findSome?_eq_none_iff, Option.map_eq_none_iff] at h ⊢
  exact fun o ho => find?_isUnknown_of_subset (g.entityNames_subset_addEntity e) (h o ho)

theorem unknownInRelationships?_addEntity (e : Entity) (h : g.unknownInRelationships? = none) :
    (g.addEntity e).unknownInRelationships? = none := by
  simp only [unknownInRelationships?, List.findSome?_eq_none_iff, Option.map_eq_none_iff] at h ⊢
  exact fun rel hrel => find?_isUnknown_of_subset (g.entityNames_subset_addEntity e) (h rel hrel)

/-- A wildcard stands for the new entity too, but what it does to the others is the same. -/
theorem touches_addEntity {name : String} (h : e.name ≠ some name) :
    (g.addEntity e).touches name = g.touches name := by
  have hmem : name ∈ (g.addEntity e).entityNames ↔ name ∈ g.entityNames := by
    rw [entityNames_addEntity, List.mem_append, Option.mem_toList]
    exact or_iff_left h
  have ht : ∀ o : EntityOption, o.touch (g.addEntity e).entityNames name
      = o.touch g.entityNames name := by
    intro o
    refine EntityOption.touch_congr rfl rfl rfl ?_
    unfold EntityOption.targets
    split
    · rw [List.mem_filter, List.mem_filter, hmem]
    · rfl
  have ho : (g.addEntity e).options = g.options := rfl
  simp only [touches, ho, ht]

theorem get?_fieldRecords_addEntity {name : String} (h : e.name ≠ some name) :
    (g.addEntity e).fieldRecords.get? name = g.fieldRecords.get? name := by
  have hnew : name ∉ ([e].filterMap fun e =>
      e.name.map fun name => (name, e.fieldRecords (g.addEntity e))).map Prod.fst := by
    rcases hn : e.name with _ | name'
    · simp [hn]
    · simpa [hn, eq_comm] using h
  rw [fieldRecords, addEntity, List.filterMap_append, Dict.ofList_append, Dict.get?_insertAll,
    Entries.lookup_eq_none_iff.2 (by rwa [List.map_reverse, List.mem_reverse]), Option.none_or]
  rfl

theorem finish_addEntity {name : String} (h : e.name ≠ some name) (r : EntityRecord) :
    (g.addEntity e).finish name r = g.finish name r :=
  finish_congr (touches_addEntity h) (get?_fieldRecords_addEntity h) rfl r

/-! ## The new entity -/

section Fresh

variable {created : Instant} {fresh : Dict EntityRecord}

theorem addEntities_addEntity (h : g.freshRecords created = .ok fresh) (e : Entity) : ∃ log,
    Sheet.addEntities created 0 (g.addEntity e).entities ⟨.empty, []⟩
      = Sheet.addEntity created g.entities.length e ⟨fresh, log⟩ := by
  obtain ⟨log, hs⟩ := addEntities_of_freshRecords h
  refine ⟨log, ?_⟩
  rw [addEntity, Sheet.addEntities_append, hs, Nat.zero_add]
  simp only [bind, Except.bind, Sheet.addEntities_cons]
  rcases Sheet.addEntity created g.entities.length e ⟨fresh, log⟩ with _ | s <;> rfl

theorem freshRecords_addEntity_of_none (h : g.freshRecords created = .ok fresh)
    (hr : e.recordName? = none) : (g.addEntity e).freshRecords created = .ok fresh := by
  obtain ⟨log, hs⟩ := addEntities_addEntity h e
  obtain ⟨log', he⟩ := Sheet.addEntity_of_none created g.entities.length hr ⟨fresh, log⟩
  rw [freshRecords, hs, he]
  rfl

theorem freshRecords_addEntity_of_some (h : g.freshRecords created = .ok fresh) {name date : String}
    (hr : e.recordName? = some name)
    (hd : created.changelogStamp (g.entities.length + 1 : Nat) = .ok date) :
    (g.addEntity e).freshRecords created = .ok (fresh.insert name (e.recordAt name date)) := by
  obtain ⟨log, hs⟩ := addEntities_addEntity h e
  rw [freshRecords, hs, Sheet.addEntity_of_some created _ hr, hd]
  rfl

end Fresh

theorem isLastDeclaration_addEntity {name : String} (h : e.name = some name) :
    IsLastDeclaration (g.addEntity e).entities name g.entities.length e where
  at_place := by simp [addEntity]
  has_name := h
  is_last := by simp [addEntity]

section Converted

variable {application : String} {created : Instant} {log : List Notice} {c : Conversion}

/-- No relationship of a graph that can be converted ends at a name that it does not declare. -/
theorem recordsAt_of_not_mem (h : (g.convert application created log).result = .ok c)
    {name : String} (hname : name ∉ g.entityNames) (hb : isBuiltIn name = false) :
    recordsAt g.relationships name = [] := by
  refine recordsAt_eq_nil fun rel hrel => ⟨?_, ?_⟩
  · rintro rfl
    exact hname (mem_entityNames_of_convert h hrel (.inl rfl) hb)
  · rintro rfl
    exact hname (mem_entityNames_of_convert h hrel (.inr rfl) hb)

theorem finish_addEntity_of_mem {fresh : Dict EntityRecord}
    (hfresh : g.freshRecords created = .ok fresh)
    (hnew : ∀ name, e.name = some name → name ∉ g.entityNames) :
    fresh.mapKeyed (g.addEntity e).finish = fresh.mapKeyed g.finish := by
  refine Dict.mapKeyed_congr fun name r hr => finish_addEntity (fun hn => hnew name hn ?_) r
  exact (mem_recordNames.1 (exists_of_freshRecords hfresh hr).1).1

theorem convert_addEntity_of_none (h : (g.convert application created log).result = .ok c)
    (hnew : ∀ name, e.name = some name → name ∉ g.entityNames) (hr : e.recordName? = none) :
    ((g.addEntity e).convert application created log).result = .ok c := by
  obtain ⟨ho, hrel, fresh, hfresh, rfl⟩ := result_convert_eq_ok_iff.1 h
  rw [result_convert_eq_ok_iff]
  refine ⟨unknownInOptions?_addEntity e ho, unknownInRelationships?_addEntity e hrel, fresh,
    freshRecords_addEntity_of_none hfresh hr, ?_⟩
  rw [finish_addEntity_of_mem hfresh hnew]

theorem convert_addEntity_of_some (h : (g.convert application created log).result = .ok c)
    {name date : String} (hr : e.recordName? = some name) (hnew : name ∉ g.entityNames)
    (hd : created.changelogStamp (g.entities.length + 1 : Nat) = .ok date) :
    ((g.addEntity e).convert application created log).result = .ok
      { c with records := c.records ++ [(g.addEntity e).finish name (e.recordAt name date)] } := by
  obtain ⟨ho, hrel, fresh, hfresh, rfl⟩ := result_convert_eq_ok_iff.1 h
  have hn := (Entity.name_of_recordName? hr).1
  have hkey : name ∉ fresh.keys := by
    rw [keys_freshRecords hfresh, List.mem_eraseDups]
    exact fun hm => hnew (mem_recordNames.1 hm).1
  have hother : ∀ name', e.name = some name' → name' ∉ g.entityNames := by
    intro name' hn'
    rw [hn] at hn'
    cases hn'
    exact hnew
  rw [result_convert_eq_ok_iff]
  refine ⟨unknownInOptions?_addEntity e ho, unknownInRelationships?_addEntity e hrel, _,
    freshRecords_addEntity_of_some hfresh hr hd, ?_⟩
  rw [Dict.values_mapKeyed_insert _ hkey, finish_addEntity_of_mem hfresh hother]

end Converted

/-- The record of the new entity has its own fields and no relationships. -/
theorem finish_addEntity_self {application : String} {created : Instant} {log : List Notice}
    {c : Conversion} (h : (g.convert application created log).result = .ok c) {name : String}
    (hr : e.recordName? = some name) (hnew : name ∉ g.entityNames) (date : String) :
    let record := (g.addEntity e).finish name (e.recordAt name date)
    record.name = name ∧ record.changelogDate = date ∧
      record.fields = e.fieldRecords (g.addEntity e) ∧ record.relationships = [] := by
  obtain ⟨hn, hb⟩ := Entity.name_of_recordName? hr
  have hf := get?_fieldRecords_of_last (g := g.addEntity e) (isLastDeclaration_addEntity hn)
  have hrel : recordsAt (g.addEntity e).relationships name = [] := recordsAt_of_not_mem h hnew hb
  rw [finish, Touch.applyAll_eq, hf, hrel]
  exact ⟨rfl, rfl, rfl, rfl⟩

end Graph

/-- An entity at the end of a graph that can be converted, without a name or with one that the graph
does not declare, leaves the records alone.  If it has no name or a built-in one, the result is the
same.  Otherwise, if its date is not past the last instant, the records are followed by one for it,
which has its name, its date and its fields, and no relationships. -/
theorem Request.result_run_addEntity {r : Request} {now : Instant} {c : Conversion} {g : Graph}
    (h : (r.run now).result = .ok c) (hg : r.graph = some g) {e : Entity}
    (hnew : ∀ name, e.name = some name → name ∉ g.entityNames) :
    ((∀ name, e.name = some name → isBuiltIn name = true) →
      ((r.mapGraph (·.addEntity e)).run now).result = .ok c) ∧
    ∀ name, e.name = some name → isBuiltIn name = false →
      (r.created.getD now).seconds + (g.entities.length + 1 : Nat) ≤ Instant.lastSecond →
      ∃ record : EntityRecord,
        ((r.mapGraph (·.addEntity e)).run now).result
          = .ok { c with records := c.records ++ [record] } ∧
        (∀ other ∈ c.records, other.name ≠ name) ∧ record.name = name ∧
        (r.created.getD now).changelogStamp (g.entities.length + 1 : Nat)
          = .ok record.changelogDate ∧
        record.fields = e.fieldRecords (g.addEntity e) ∧ record.relationships = [] := by
  obtain ⟨g', application, log, hg', hc, hrun⟩ := exists_run_mapGraph h
  rw [hg] at hg'
  cases hg'
  rw [hrun]
  constructor
  · intro hb
    refine Graph.convert_addEntity_of_none hc hnew ?_
    rcases hn : e.name with _ | name
    · simp [Entity.recordName?, hn]
    · simp [Entity.recordName?, Option.filter, hn, hb name hn]
  · intro name hn hb hd
    have hr : e.recordName? = some name := by simp [Entity.recordName?, hn, hb]
    obtain ⟨date, hdate⟩ : ∃ date,
        (r.created.getD now).changelogStamp (g.entities.length + 1 : Nat) = .ok date := by
      rcases hs : (r.created.getD now).changelogStamp (g.entities.length + 1 : Nat) with x | date
      · have := (Instant.changelogStamp_error_iff _ _).1 ⟨x, hs⟩
        omega
      · exact ⟨date, rfl⟩
    obtain ⟨hname, hchangelog, hfields, hrel⟩ :=
      Graph.finish_addEntity_self hc hr (hnew name hn) date
    refine ⟨_, Graph.convert_addEntity_of_some hc hr (hnew name hn) hdate, ?_, hname, ?_, hfields,
      hrel⟩
    · rintro other hother rfl
      have hmem := List.mem_map_of_mem (f := (·.name)) hother
      rw [(Graph.records_of_convert hc).1, List.mem_eraseDups] at hmem
      exact hnew _ hn (Graph.mem_recordNames.1 hmem).1
    · rw [hchangelog, hdate]

/-- Data transfer objects for every entity but customers, of which there are none. -/
def Request.customerless : Request where
  graph := some
    { entities := [.named "Invoice", {}]
      relationships := [⟨{ entity := "Invoice" }, { entity := "User" }, .manyToOne⟩]
      options := [{ name := "dto", entityNames := .ofList ["*"],
                    excludedNames := .ofList ["Customer"], value := some "mapstruct" }] }
  application := some "shop"
  database := some "sql"

theorem Request.result_run_addEntity_customer : ∃ c g, customerless.graph = some g ∧
    (customerless.run .epoch).result = .ok c ∧ "Customer" ∉ g.entityNames ∧
    "User" ∉ g.entityNames ∧
    ((customerless.mapGraph (·.addEntity (.named "User"))).run .epoch).result = .ok c ∧
    ∃ record : EntityRecord,
      ((customerless.mapGraph (·.addEntity (.named "Customer"))).run .epoch).result
        = .ok { c with records := c.records ++ [record] } ∧
      record.name = "Customer" ∧ Instant.epoch.changelogStamp 3 = .ok record.changelogDate ∧
      record.relationships = [] := by
  obtain ⟨c, hc⟩ : ∃ c, (customerless.run .epoch).result = .ok c := by
    apply exists_of_isOk
    decide +kernel
  obtain ⟨g, hg⟩ : ∃ g, customerless.graph = some g := ⟨_, rfl⟩
  have hcustomer : "Customer" ∉ g.entityNames := by
    cases hg
    decide
  have huser : "User" ∉ g.entityNames := by
    cases hg
    decide
  obtain ⟨hsame, -⟩ := result_run_addEntity (e := .named "User") hc hg (by rintro _ ⟨⟩; exact huser)
  obtain ⟨-, hmore⟩ :=
    result_run_addEntity (e := .named "Customer") hc hg (by rintro _ ⟨⟩; exact hcustomer)
  obtain ⟨record, hrun, -, hname, hdate, -, hrel⟩ := hmore "Customer" rfl (by decide) (by
    cases hg
    decide)
  refine ⟨c, g, hg, hc, hcustomer, huser, hsame (by rintro _ ⟨⟩; decide), record, hrun, hname, ?_,
    hrel⟩
  cases hg
  exact hdate

end DomainModel
