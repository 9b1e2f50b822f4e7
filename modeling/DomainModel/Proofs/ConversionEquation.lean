import DomainModel.Proofs.ConversionOutcome

/-!
# A conversion in one equation

What comes of a conversion is settled by the fresh records, by the first unknown name, and by what
each name stands for in the options, fields and relationships (`result_convert`); the notices have
no part in it.  So graphs that agree in these cannot be told apart by any request
(`Request.result_run_congr`), whatever else they declare.
-/

namespace DomainModel

/-! ## Fresh records without notices -/

/-- Two entities that get the same record, or both none. -/
structure Entity.SameRecord (e e' : Entity) : Prop where
  name : e'.recordName? = e.recordName?
  content : ∀ name date, e.recordName? = some name → e'.recordAt name date = e.recordAt name date

namespace Sheet

variable (created : Instant)

theorem records_addEntity (place : Nat) {e e' : Entity} (h : e.SameRecord e') {s s' : Sheet}
    (hs : s'.records = s.records) :
    ((addEntity created place e' s').mapError OutOfDates.error).map Sheet.records
      = ((addEntity created place e s).mapError OutOfDates.error).map Sheet.records := by
  rcases hr : e.recordName? with _ | name
  · obtain ⟨log, hadd⟩ := addEntity_of_none created place hr s
    obtain ⟨log', hadd'⟩ := addEntity_of_none created place (h.name.trans hr) s'
    rw [hadd, hadd', map_mapError_ok, map_mapError_ok, hs]
  · rw [addEntity_of_some created place hr, addEntity_of_some created place (h.name.trans hr)]
    rcases created.changelogStamp (place + 1 : Nat) with e | date
    · rfl
    · simp only [map_mapError_ok, hs, h.content name date hr]

theorem records_addEntities {f : Entity → Entity} (hf : ∀ e : Entity, e.SameRecord (f e)) :
    ∀ (es : List Entity) (place : Nat) {s s' : Sheet}, s'.records = s.records →
      ((addEntities created place (es.map f) s').mapError OutOfDates.error).map Sheet.records
        = ((addEntities created place es s).mapError OutOfDates.error).map Sheet.records
  | [], _, s, s', hs => by simp only [List.map_nil, addEntities, map_mapError_ok, hs]
  | e :: es, place, s, s', hs => by
    rw [List.map_cons, addEntities_cons, addEntities_cons]
    exact map_bind_congr (records_addEntity created place (hf e) hs)
      fun _ _ hs₁ => records_addEntities hf es (place + 1) hs₁

end Sheet

namespace Graph

/-- The records of a graph's entities before options. -/
def freshRecords (g : Graph) (created : Instant) : Except ShiftError (Dict EntityRecord) :=
  ((Sheet.addEntities created 0 g.entities ⟨.empty, []⟩).mapError OutOfDates.error).map
    Sheet.records

/-- The notices that are there before do not matter. -/
theorem freshRecords_eq (g : Graph) (created : Instant) (log : List Notice) :
    g.freshRecords created
      = ((Sheet.addEntities created 0 g.entities ⟨.empty, log⟩).mapError OutOfDates.error).map
        Sheet.records := by
  -- the entities are the same, only the sheets that they are added to differ in their notices
  have hid : ∀ e : Entity, e.SameRecord (id e) := fun _ => ⟨rfl, fun _ _ _ => rfl⟩
  have hs : (⟨.empty, []⟩ : Sheet).records = (⟨.empty, log⟩ : Sheet).records := rfl
  have h := Sheet.records_addEntities created hid g.entities 0 hs
  rwa [List.map_id] at h

theorem addEntities_of_freshRecords {g : Graph} {created : Instant} {fresh : Dict EntityRecord}
    (h : g.freshRecords created = .ok fresh) :
    ∃ log, Sheet.addEntities created 0 g.entities ⟨.empty, []⟩ = .ok ⟨fresh, log⟩ := by
  obtain ⟨⟨records, log⟩, hs, rfl⟩ := exists_of_map_ok h
  exact ⟨log, mapError_eq_ok_iff.1 hs⟩

theorem keys_freshRecords {g : Graph} {created : Instant} {fresh : Dict EntityRecord}
    (h : g.freshRecords created = .ok fresh) : fresh.keys = g.recordNames.eraseDups := by
  obtain ⟨log, hs⟩ := addEntities_of_freshRecords h
  exact Sheet.keys_addEntities hs

theorem mem_recordNames {g : Graph} {name : String} :
    name ∈ g.recordNames ↔ name ∈ g.entityNames ∧ isBuiltIn name = false := by
  rw [recordNames_eq, List.mem_filter, Bool.not_eq_true']

/-- A fresh record comes from the last declaration of its name. -/
theorem exists_of_freshRecords {g : Graph} {created : Instant} {fresh : Dict EntityRecord}
    (h : g.freshRecords created = .ok fresh) {name : String} {r : EntityRecord}
    (hr : fresh.get? name = some r) :
    name ∈ g.recordNames ∧ ∃ i e date, IsLastDeclaration g.entities name i e ∧
      r = e.recordAt name date := by
  have hmem : name ∈ g.recordNames := by
    rw [← List.mem_eraseDups, ← keys_freshRecords h]
    exact Dict.mem_keys_of_get? hr
  obtain ⟨log, hs⟩ := addEntities_of_freshRecords h
  obtain ⟨hdeclared, hb⟩ := mem_recordNames.1 hmem
  obtain ⟨i, e, hl⟩ := IsLastDeclaration.exists_of_mem hdeclared
  obtain ⟨date, -, hget⟩ := Sheet.get?_addEntities_of_last hl hb hs
  refine ⟨hmem, i, e, date, hl, ?_⟩
  rw [hr] at hget
  exact Option.some.inj hget

/-! ## The passes after the first -/

/-- What the passes after the first make of the record under a name. -/
def finish (g : Graph) (name : String) (r : EntityRecord) : EntityRecord :=
  let fields := (g.fieldRecords.get? name).getD []
  let withFields := (Touch.applyAll (g.touches name) r).addFields fields
  (withFields.addRelationships (recordsAt g.relationships name)).setAllApplications

theorem complete_applyOptions {g : Graph} {created : Instant} {log : List Notice} {s : Sheet}
    {done : Dict EntityRecord}
    (hs : Sheet.addEntities created 0 g.entities ⟨.empty, log⟩ = .ok s)
    (ho : (g.applyOptions s).failure = none)
    (hd : g.complete (g.applyOptions s).sheet.records = .ok done) :
    done = s.records.mapKeyed g.finish := by
  obtain ⟨relationships, hrel, rfl⟩ := complete_ok hd
  refine Dict.ext_get? ?_ fun name => ?_
  · rw [Dict.keys_map, keys_addParts, keys_addParts, keys_applyOptions, Dict.keys_mapKeyed]
  · rw [Dict.get?_map, get?_addParts, get?_addParts, get?_applyOptions ho, Dict.get?_mapKeyed]
    rcases hr : s.records.get? name with _ | r
    · rfl
    -- a name with a record is declared, and relationships are collected for every such name
    have hmem : name ∈ g.entityNames := by
      have hk := Dict.mem_keys_of_get? hr
      rw [Sheet.keys_addEntities hs, List.mem_eraseDups] at hk
      exact (mem_recordNames.1 hk).1
    rw [relationshipRecords_ok hrel, Dict.get?_ofList_map, if_pos hmem]
    rcases hf : g.fieldRecords.get? name with _ | fields <;>
      simp [finish, hf, EntityRecord.addFields]

theorem name_finish (g : Graph) (name : String) (e : Entity) (date : String) :
    (g.finish name (e.recordAt name date)).name = name := by
  rw [finish, Touch.applyAll_eq]
  rfl

/-- The result of a conversion: it runs out of dates with the fresh records, or else stops at the
first unknown name, or else finishes each of the fresh records by itself. -/
theorem result_convert (g : Graph) (application : String) (created : Instant)
    (log : List Notice) :
    (g.convert application created log).result =
      match g.freshRecords created with
      | .error e => .error (.date e)
      | .ok fresh =>
        match g.unknownInOptions?.or g.unknownInRelationships? with
        | some unknown => .error (.failure (.unknownName unknown))
        | none => .ok ⟨application, (fresh.mapKeyed g.finish).values⟩ := by
  rw [freshRecords_eq g created log, convert]
  rcases hs : Sheet.addEntities created 0 g.entities ⟨.empty, log⟩ with e | s
  · rfl
  have ho := failure_applyOptions_fresh hs
  simp only [map_mapError_ok, ho]
  rcases hu : g.unknownInOptions? with _ | unknown
  · rw [hu] at ho
    rcases hr : g.unknownInRelationships? with _ | unknown
    · obtain ⟨done, hd⟩ := complete_of_known hr (g.applyOptions s).sheet.records
      simp only [hd, Option.none_or, complete_applyOptions hs ho hd]
    · simp only [complete_of_unknown hr, Option.none_or]
  · rfl

section Converted

variable {g : Graph} {application : String} {created : Instant} {log : List Notice}
  {c : Conversion}

/-- A conversion has a result exactly if it does not run out of dates and every name is known. -/
theorem result_convert_eq_ok_iff :
    (g.convert application created log).result = .ok c ↔
      g.unknownInOptions? = none ∧ g.unknownInRelationships? = none ∧
        ∃ fresh, g.freshRecords created = .ok fresh ∧
          c = ⟨application, (fresh.mapKeyed g.finish).values⟩ := by
  rw [result_convert]
  rcases g.freshRecords created with e | fresh
  · simp
  rcases g.unknownInOptions? with _ | unknown <;> rcases g.unknownInRelationships? with _ | unknown'
    <;> simp [eq_comm]

/-- Both ends of every relationship are known in a conversion that has a result. -/
theorem mem_entityNames_of_convert (h : (g.convert application created log).result = .ok c)
    {rel : Relationship} (hrel : rel ∈ g.relationships) {name : String}
    (hend : name = rel.source.entity ∨ name = rel.target.entity) (hb : isBuiltIn name = false) :
    name ∈ g.entityNames := by
  obtain ⟨-, hr, -⟩ := result_convert_eq_ok_iff.1 h
  unfold unknownInRelationships? at hr
  have hfind := Option.map_eq_none_iff.1 (List.findSome?_eq_none_iff.1 hr rel hrel)
  have hu := List.find?_eq_none.1 hfind name (by simpa using hend)
  rcases isUnknown_eq_false_iff.1 (by simpa using hu) with hn | hn
  · exact hn
  · rw [hb] at hn
    cases hn

theorem exists_record_of_convert (h : (g.convert application created log).result = .ok c)
    {name : String} (hname : name ∈ g.recordNames) : ∃ record ∈ c.records, record.name = name := by
  rw [← List.mem_eraseDups, ← (records_of_convert h).1] at hname
  exact List.mem_map.1 hname

theorem relationships_of_convert (h : (g.convert application created log).result = .ok c) :
    ∀ record ∈ c.records, isBuiltIn record.name = false ∧
      record.relationships = recordsAt g.relationships record.name := by
  intro record hmem
  obtain ⟨hnames, hall⟩ := records_of_convert h
  have hname : record.name ∈ g.recordNames := by
    rw [← List.mem_eraseDups, ← hnames]
    exact List.mem_map_of_mem hmem
  obtain ⟨i, e, date, -, -, heq⟩ := hall record hmem
  exact ⟨(mem_recordNames.1 hname).2, congrArg EntityRecord.relationships heq⟩

end Converted

/-! ## Graphs that no conversion tells apart -/

/-- Two graphs with the same fresh records, the same first unknown names, and the same meaning of
every name that has a record. -/
structure Agrees (g g' : Graph) : Prop where
  fresh : ∀ created, g'.freshRecords created = g.freshRecords created
  inOptions : g'.unknownInOptions? = g.unknownInOptions?
  inRelationships : g'.unknownInRelationships? = g.unknownInRelationships?
  finish : ∀ name ∈ g.recordNames, ∀ r, g'.finish name r = g.finish name r

theorem finish_congr {g g' : Graph} {name : String} (ht : g'.touches name = g.touches name)
    (hf : g'.fieldRecords.get? name = g.fieldRecords.get? name)
    (hr : recordsAt g'.relationships name = recordsAt g.relationships name) (r : EntityRecord) :
    g'.finish name r = g.finish name r := by
  simp only [finish, ht, hf, hr]

theorem Agrees.result_convert {g g' : Graph} (h : g.Agrees g') (application : String)
    (created : Instant) (log log' : List Notice) :
    (g'.convert application created log').result = (g.convert application created log).result := by
  rw [Graph.result_convert, Graph.result_convert, h.fresh, h.inOptions, h.inRelationships]
  rcases hfresh : g.freshRecords created with e | fresh
  · rfl
  have hfinish : fresh.mapKeyed g'.finish = fresh.mapKeyed g.finish :=
    Dict.mapKeyed_congr fun name r hr => h.finish name (exists_of_freshRecords hfresh hr).1 r
  simp only [hfinish]

end Graph

theorem EntityOption.touch_congr {o o' : EntityOption} {declared declared' : List String}
    {entity : String} (hn : o'.name = o.name) (hv : o'.value = o.value)
    (he : o'.excludedNames = o.excludedNames)
    (ht : entity ∈ o'.targets declared' ↔ entity ∈ o.targets declared) :
    o'.touch declared' entity = o.touch declared entity := by
  simp only [touch, hn, hv, he, ht]

/-- The request with its graph changed. -/
def Request.mapGraph (r : Request) (f : Graph → Graph) : Request :=
  { r with graph := r.graph.map f }

/-- A request with a result is a conversion, and with another graph it is one of that. -/
theorem Request.exists_run_mapGraph {r : Request} {now : Instant} {c : Conversion}
    (h : (r.run now).result = .ok c) : ∃ g application log, r.graph = some g ∧
      (g.convert application (r.created.getD now) log).result = .ok c ∧
      ∀ f, (r.mapGraph f).run now = (f g).convert application (r.created.getD now) log := by
  obtain ⟨graph, application, database, applicationType, created⟩ := r
  unfold run at h
  split at h
  · rename_i g a d hg ha hd
    simp only at hg ha hd
    subst hg ha hd
    split at h
    · rename_i hne
      refine ⟨g, a, [.converting a d applicationType], rfl, h, fun f => ?_⟩
      exact if_pos hne
    · cases h
  · cases h

theorem Request.run_mapGraph_of_ok {r : Request} {now : Instant} {c : Conversion}
    (h : (r.run now).result = .ok c) : ∃ g application created log, r.graph = some g ∧
      (g.convert application created log).result = .ok c ∧
      ∀ f, (r.mapGraph f).run now = (f g).convert application created log := by
  obtain ⟨g, application, log, hg, hc, hrun⟩ := exists_run_mapGraph h
  exact ⟨g, application, _, log, hg, hc, hrun⟩

theorem Request.result_run_congr {f : Graph → Graph} (hf : ∀ g : Graph, g.Agrees (f g))
    (r : Request) (now : Instant) : ((r.mapGraph f).run now).result = (r.run now).result := by
  obtain ⟨graph, application, database, applicationType, created⟩ := r
  rcases graph with _ | g
  · rfl
  rcases application with _ | application
  · rfl
  rcases database with _ | database
  · rfl
  simp only [mapGraph, run, Option.map_some]
  split
  · exact (hf g).result_convert application _ _ _
  · rfl

end DomainModel
