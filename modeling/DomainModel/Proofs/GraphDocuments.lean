import DomainModel.Graph.Encoding
import DomainModel.Proofs.ConversionRecords
import DomainModel.Proofs.Reading
import DomainModel.Proofs.WellFormed

/-!
# Graphs through documents

A graph that is written as a document and read again is the same graph, but that a validation with
the value null comes back without a value.  Neither the document, nor the checks, nor a conversion
tell the two apart, and a graph that was read has no such validation, so from then on it comes back
unchanged (`Graph.roundtrip_toJson`).
-/

namespace DomainModel

/-! ## Values in a graph -/

/-- The value of the validation, if it has one, has the property. -/
def Validation.EachValue (P : Json → Prop) (v : Validation) : Prop := ∀ j ∈ v.value, P j

def Field.EachValue (P : Json → Prop) (f : Field) : Prop :=
  ∀ entry ∈ f.validations.toList, entry.2.EachValue P

def Entity.EachValue (P : Json → Prop) (e : Entity) : Prop :=
  ∀ entry ∈ e.fields.toList, entry.2.EachValue P

/-- The values of all validations in the graph have the property. -/
def Graph.EachValue (P : Json → Prop) (g : Graph) : Prop := ∀ e ∈ g.entities, e.EachValue P

instance (P : Json → Prop) [DecidablePred P] : DecidablePred (Validation.EachValue P) :=
  fun v => inferInstanceAs (Decidable (∀ j ∈ v.value, P j))

instance (P : Json → Prop) [DecidablePred P] : DecidablePred (Field.EachValue P) :=
  fun f => inferInstanceAs (Decidable (∀ entry ∈ f.validations.toList, entry.2.EachValue P))

instance (P : Json → Prop) [DecidablePred P] : DecidablePred (Entity.EachValue P) :=
  fun e => inferInstanceAs (Decidable (∀ entry ∈ e.fields.toList, entry.2.EachValue P))

instance (P : Json → Prop) [DecidablePred P] : DecidablePred (Graph.EachValue P) :=
  fun g => inferInstanceAs (Decidable (∀ e ∈ g.entities, e.EachValue P))

/-- The validation without its value, if that is null. -/
def Validation.withoutNull (v : Validation) : Validation := { v with value := v.definedValue }

def Field.withoutNulls (f : Field) : Field :=
  { f with validations := f.validations.map Validation.withoutNull }

def Entity.withoutNulls (e : Entity) : Entity :=
  { e with fields := e.fields.map Field.withoutNulls }

/-- The graph with no value instead of null in every validation. -/
def Graph.withoutNulls (g : Graph) : Graph :=
  { g with entities := g.entities.map Entity.withoutNulls }

section EachValue

variable {P Q : Json → Prop}

theorem Graph.EachValue.imp (hPQ : ∀ j, P j → Q j) {g : Graph} (h : g.EachValue P) :
    g.EachValue Q :=
  fun e he field hf validation hv j hj => hPQ j (h e he field hf validation hv j hj)

theorem Validation.definedValue_withoutNull (v : Validation) :
    v.withoutNull.definedValue = v.definedValue := by
  rw [withoutNull, definedValue, definedValue, Option.filter_filter]
  simp

theorem Validation.withoutNull_eq_self {v : Validation} (h : v.EachValue (· ≠ .null)) :
    v.withoutNull = v := by
  have hvalue : v.definedValue = v.value := by
    rw [definedValue]
    rcases hv : v.value with _ | j
    · rfl
    · exact if_pos (by simpa using h j hv)
  rw [withoutNull, hvalue]

theorem Field.withoutNulls_eq_self {f : Field} (h : f.EachValue (· ≠ .null)) :
    f.withoutNulls = f := by
  rw [withoutNulls, Dict.map_eq_self fun entry he => Validation.withoutNull_eq_self (h entry he)]

theorem Entity.withoutNulls_eq_self {e : Entity} (h : e.EachValue (· ≠ .null)) :
    e.withoutNulls = e := by
  rw [withoutNulls, Dict.map_eq_self fun entry he => Field.withoutNulls_eq_self (h entry he)]

theorem Graph.withoutNulls_eq_self {g : Graph} (h : g.EachValue (· ≠ .null)) :
    g.withoutNulls = g := by
  rw [withoutNulls, map_eq_self_iff.2 fun e he => Entity.withoutNulls_eq_self (h e he)]

end EachValue

/-! ## What is read of a written graph -/

open Reader

theorem Validation.read_toJson {v : Validation} (h : v.EachValue Json.IsValue) :
    v.toJson.read reader = .ok v.withoutNull := by
  have hvalue : (v.value.map Json.collapse).filter (· ≠ .null) = v.definedValue := by
    rw [definedValue]
    rcases hv : v.value with _ | j
    · rfl
    · rw [Option.map_some, h j hv]
  unfold toJson reader
  rw [read_filled_of_keys rfl (by decide)]
  simp only [List.map_cons, List.map_nil, listedFields_cons, read_ofText?, read_json?, hvalue,
    ok_bind]
  rfl

theorem Field.read_toJson {f : Field} (h : f.EachValue Json.IsValue) :
    f.toJson.read reader = .ok f.withoutNulls := by
  have hvalidations := read_dict f.validations fun entry he => Validation.read_toJson (h entry he)
  unfold toJson reader
  rw [read_filled_of_keys rfl (by decide)]
  simp only [List.map_cons, List.map_nil, listedFields_cons, read_ofText?, hvalidations, ok_bind]
  rfl

theorem Entity.read_toJson {e : Entity} (h : e.EachValue Json.IsValue) :
    e.toJson.read reader = .ok e.withoutNulls := by
  have hfields := read_dict e.fields fun entry he => Field.read_toJson (h entry he)
  unfold toJson reader
  rw [read_filled_of_keys rfl (by decide)]
  simp only [List.map_cons, List.map_nil, listedFields_cons, read_ofText?, hfields, ok_bind]
  rfl

theorem Enumeration.read_toJson (e : Enumeration) : e.toJson.read reader = .ok e := by
  unfold toJson reader
  rw [read_filled_of_keys rfl (by decide)]
  simp only [List.map_cons, List.map_nil, listedFields_cons, read_text, read_texts, read_ofText?,
    ok_bind]
  rfl

theorem RelationshipType.read_toJson (t : RelationshipType) : t.toJson.read reader = .ok t := by
  cases t <;> rfl

theorem Relationship.read_toJson (r : Relationship) : r.toJson.read reader = .ok r := by
  have hdraft : r.toJson.read (record "JdlRelationship" fields {}) = .ok
      ⟨{ source := some r.source.entity, target := some r.target.entity, type := some r.type,
         atSource := { r.source with entity := "" }, atTarget := { r.target with entity := "" } },
        none⟩ := by
    unfold toJson fields
    rw [read_record_of_keys rfl (by decide)]
    simp only [List.map_cons, List.map_nil, listedFields_cons, read_text, read_boolean,
      read_ofText?, RelationshipType.read_toJson, ok_bind]
    rfl
  rw [Json.read] at hdraft ⊢
  rw [reader, hdraft]
  rfl

theorem EntityOption.read_toJson (o : EntityOption) : o.toJson.read reader = .ok o := by
  unfold toJson reader
  rw [read_filled_of_keys rfl (by decide)]
  simp only [List.map_cons, List.map_nil, listedFields_cons, read_text, read_names, read_ofText?,
    ok_bind]
  rfl

theorem Deployment.read_toJson (d : Deployment) : d.toJson.read reader = .ok d := by
  have hfolders : ((d.appsFolders.map Json.ofTexts).getD .null).read (optional (list text))
      = .ok d.appsFolders := by
    rcases d.appsFolders with _ | folders
    · rfl
    · exact read_optional (read_texts folders) fun h => by cases h
  unfold toJson reader
  rw [read_filled_of_keys rfl (by decide)]
  simp only [List.map_cons, List.map_nil, listedFields_cons, read_ofText?, hfolders, ok_bind]
  rfl

namespace Graph

theorem read_toJson {g : Graph} (h : g.EachValue Json.IsValue) :
    g.toJson.read reader = .ok g.withoutNulls := by
  have hentities := read_list g.entities fun e he => Entity.read_toJson (h e he)
  have henums := read_dict (f := id) g.enums fun entry _ => Enumeration.read_toJson entry.2
  have hrelationships := read_list g.relationships fun r _ => Relationship.read_toJson r
  have hoptions := read_list g.options fun o _ => EntityOption.read_toJson o
  have hdeployments := read_list g.deployments fun d _ => Deployment.read_toJson d
  rw [Dict.map_eq_self fun _ _ => rfl] at henums
  rw [List.map_id'] at hrelationships hoptions hdeployments
  unfold toJson reader
  rw [read_filled_of_keys rfl (by decide)]
  simp only [List.map_cons, List.map_nil, listedFields_cons, hentities, henums, hrelationships,
    hoptions, hdeployments, ok_bind]
  rfl

end Graph

/-! ## What does not see null values -/

theorem Validation.toJson_withoutNull (v : Validation) : v.withoutNull.toJson = v.toJson := by
  have hvalue : v.definedValue.getD .null = v.value.getD .null := by
    rw [definedValue]
    rcases v.value with _ | j
    · rfl
    · by_cases hj : j = .null <;> simp [Option.filter_some, hj]
  rw [toJson, toJson, withoutNull, hvalue]

theorem Field.toJson_withoutNulls (f : Field) : f.withoutNulls.toJson = f.toJson := by
  have h : Validation.toJson ∘ Validation.withoutNull = Validation.toJson :=
    funext Validation.toJson_withoutNull
  rw [toJson, toJson, withoutNulls, Dict.map_map, h]

theorem Entity.toJson_withoutNulls (e : Entity) : e.withoutNulls.toJson = e.toJson := by
  have h : Field.toJson ∘ Field.withoutNulls = Field.toJson := funext Field.toJson_withoutNulls
  rw [toJson, toJson, withoutNulls, Dict.map_map, h]

theorem Graph.toJson_withoutNulls (g : Graph) : g.withoutNulls.toJson = g.toJson := by
  have h : Entity.toJson ∘ Entity.withoutNulls = Entity.toJson := funext Entity.toJson_withoutNulls
  rw [toJson, toJson, withoutNulls, List.map_map, h]

/-! ### Checks -/

theorem checkAll_map {α β : Type} {check : β → Except Breach Unit} (f : α → β) :
    ∀ xs : List α, checkAll check (xs.map f) = checkAll (check ∘ f) xs
  | [] => rfl
  | x :: xs => by
    rw [List.map_cons, checkAll, checkAll, checkAll_map f xs]
    rfl

theorem Validation.check_withoutNull (v : Validation) : v.withoutNull.check = v.check := by
  rw [check_eq, check_eq, definedValue_withoutNull]
  rfl

theorem Field.check_withoutNulls (f : Field) : f.withoutNulls.check = f.check := by
  have hvalues : f.withoutNulls.validations.values
      = f.validations.values.map Validation.withoutNull := Dict.values_map ..
  rw [check, check, hvalues, checkAll_map]
  simp only [Function.comp_def, Validation.check_withoutNull]
  rfl

theorem Entity.check_withoutNulls (e : Entity) : e.withoutNulls.check = e.check := by
  have hcheck : Field.check ∘ Field.withoutNulls = Field.check := funext Field.check_withoutNulls
  have hvalues : e.withoutNulls.fields.values = e.fields.values.map Field.withoutNulls :=
    Dict.values_map ..
  have hnil : e.withoutNulls.fields.toList = [] ↔ e.fields.toList = [] := List.map_eq_nil_iff
  have hfields : e.withoutNulls.checkFields = e.checkFields := by
    rw [checkFields, checkFields, hvalues, checkAll_map, hcheck]
    simp only [hnil]
  rw [check, check, hfields]
  rfl

theorem Graph.check_withoutNulls (g : Graph) (mode : CheckMode) :
    g.withoutNulls.check mode = g.check mode := by
  have hcheck : Entity.check ∘ Entity.withoutNulls = Entity.check :=
    funext Entity.check_withoutNulls
  have hresults : g.withoutNulls.checkResults = g.checkResults := by
    rw [checkResults, checkResults, withoutNulls, List.map_map, hcheck]
  rw [check, check, hresults]

/-! ### Conversions -/

theorem Sheet.addEntities_withoutNulls (created : Instant) : ∀ (place : Nat) (es : List Entity)
    (s : Sheet), addEntities created place (es.map Entity.withoutNulls) s
      = addEntities created place es s
  | _, [], _ => rfl
  | place, e :: es, s => by
    have hrest := addEntities_withoutNulls created (place + 1) es
    simp only [List.map_cons, addEntities, hrest]
    rfl

theorem Field.record_withoutNulls (g : Graph) (key : String) (f : Field) :
    f.withoutNulls.record g.withoutNulls key = f.record g key := by
  have hrecord : Validation.record? ∘ Validation.withoutNull = Validation.record? := by
    funext v
    rw [Function.comp_apply, Validation.record?, Validation.record?,
      Validation.definedValue_withoutNull]
    rfl
  have hvalidations : f.withoutNulls.validations.values
      = f.validations.values.map Validation.withoutNull := Dict.values_map ..
  rw [record, record, hvalidations, List.filterMap_map, hrecord]
  rfl

theorem Graph.fieldRecords_withoutNulls (g : Graph) :
    g.withoutNulls.fieldRecords = g.fieldRecords := by
  have hfields : ∀ e : Entity, e.withoutNulls.fieldRecords g.withoutNulls = e.fieldRecords g := by
    intro e
    rw [Entity.fieldRecords, Entity.fieldRecords, Entity.withoutNulls, Dict.map, List.map_map]
    exact List.map_congr_left fun entry _ => Field.record_withoutNulls g entry.1 entry.2
  rw [fieldRecords, fieldRecords]
  simp only [withoutNulls, List.filterMap_map, Function.comp_def] at hfields ⊢
  simp only [hfields]
  rfl

theorem Graph.convert_withoutNulls (g : Graph) (application : String) (created : Instant)
    (log : List Notice) :
    g.withoutNulls.convert application created log = g.convert application created log := by
  have hnames : g.withoutNulls.entityNames = g.entityNames := List.filterMap_map ..
  have hoptions : g.withoutNulls.applyOptions = g.applyOptions := by
    funext s
    rw [applyOptions, applyOptions, resolveOptions, resolveOptions, hnames]
    rfl
  have hcomplete : g.withoutNulls.complete = g.complete := by
    funext records
    rw [complete, complete, fieldRecords_withoutNulls, hnames]
    rfl
  have hentities : Sheet.addEntities created 0 g.withoutNulls.entities ⟨.empty, log⟩
      = Sheet.addEntities created 0 g.entities ⟨.empty, log⟩ :=
    Sheet.addEntities_withoutNulls created 0 g.entities _
  rw [convert, convert, hentities, hoptions, hcomplete]

theorem Request.run_withoutNulls (r : Request) (g : Graph) (now : Instant) :
    { r with graph := some g.withoutNulls : Request }.run now
      = { r with graph := some g : Request }.run now := by
  obtain ⟨graph, application, database, applicationType, created⟩ := r
  rcases application with _ | application
  · rfl
  rcases database with _ | database
  · rfl
  simp only [run, Graph.convert_withoutNulls]

/-! ## Graphs that were read -/

/-- A document that is read as the value of a validation. -/
def Json.IsArgument (j : Json) : Prop := j.IsValue ∧ j ≠ .null

theorem Validation.ensures_reader : Validation.reader.Ensures (·.EachValue Json.IsArgument) := by
  refine ensures_record (by rintro j ⟨⟩) ?_
  simp only [List.forall_mem_cons]
  refine ⟨?_, ?_, List.forall_mem_nil _⟩
  · exact Reader.Field.keeps_field ensures_trivial fun _ _ _ h => h
  · exact Reader.Field.keeps_field ensures_json? fun _ _ h _ => h

theorem Field.ensures_reader : Field.reader.Ensures (·.EachValue Json.IsArgument) := by
  refine ensures_record (by rintro _ ⟨⟩) ?_
  simp only [List.forall_mem_cons]
  refine ⟨?_, ?_, ?_, ?_, List.forall_mem_nil _⟩
  iterate 3 exact Reader.Field.keeps_field ensures_trivial fun _ _ _ h => h
  exact Reader.Field.keeps_field Validation.ensures_reader.dict fun _ _ h _ => h

theorem Entity.ensures_reader : Entity.reader.Ensures (·.EachValue Json.IsArgument) := by
  refine ensures_record (by rintro _ ⟨⟩) ?_
  simp only [List.forall_mem_cons]
  refine ⟨?_, ?_, ?_, ?_, List.forall_mem_nil _⟩
  iterate 3 exact Reader.Field.keeps_field ensures_trivial fun _ _ _ h => h
  exact Reader.Field.keeps_field Field.ensures_reader.dict fun _ _ h _ => h

theorem Graph.ensures_reader : Graph.reader.Ensures (·.EachValue Json.IsArgument) := by
  refine ensures_record (by rintro _ ⟨⟩) ?_
  simp only [List.forall_mem_cons]
  refine ⟨?_, ?_, ?_, ?_, ?_, List.forall_mem_nil _⟩
  · exact Reader.Field.keeps_field Entity.ensures_reader.list fun _ _ h _ => h
  iterate 4 exact Reader.Field.keeps_field ensures_trivial fun _ _ _ h => h

/-- A graph in whose values every object names each key once comes back from its document, with
everything in its order, but for the nulls that stand for no value.  These are seen neither in the
document, nor by the checks, nor by a conversion.  A graph that was read, from a document or from
text, is one of these and has no such nulls, so it comes back as it is. -/
theorem Graph.roundtrip_toJson :
    (∀ g : Graph, g.EachValue Json.IsValue →
      g.toJson.read Graph.reader = .ok g.withoutNulls ∧
      g.withoutNulls.toJson = g.toJson ∧
      (∀ mode, g.withoutNulls.check mode = g.check mode) ∧
      ∀ (r : Request) (now : Instant), { r with graph := some g.withoutNulls : Request }.run now
        = { r with graph := some g : Request }.run now) ∧
    ∀ (o : Origin) (s : Source) (g : Graph), Graph.reader o s = .ok g →
      g.EachValue Json.IsValue ∧ g.toJson.read Graph.reader = .ok g := by
  constructor
  · intro g h
    exact ⟨read_toJson h, toJson_withoutNulls g, check_withoutNulls g,
      fun r now => r.run_withoutNulls g now⟩
  · intro o s g h
    have hg : g.EachValue Json.IsArgument := ensures_reader o s g h
    have hread := read_toJson (hg.imp fun j hj => hj.1)
    rw [withoutNulls_eq_self (hg.imp fun j hj => hj.2)] at hread
    exact ⟨hg.imp fun j hj => hj.1, hread⟩

/-- An invoice whose total has a rule with null, one with an object and one without a value, next to
one part of every other kind. -/
def Graph.annotated : Graph where
  entities :=
    [(Entity.named "Invoice").addField (({ name := some "total", type := some "Status" } : Field)
        |>.addValidation { name := some "required", value := some .null }
        |>.addValidation
          { name := some "min",
            value := some (.object
              [("b", .array [.null, .number (.whole { value := -3 })]), ("a", .object [])]) }
        |>.addValidation {})]
  enums := .ofList [("Status", { name := "Status", values := ["OPEN", "PAID", "OPEN"] })]
  relationships :=
    [⟨{ entity := "Invoice", injectedField := some "payer(name)", required := true },
      { entity := "User", comment := some "" }, .manyToOne⟩]
  options := [{ name := "dto", entityNames := .ofList ["*"], excludedNames := .ofList ["B", "A"] }]
  deployments := [{ deploymentType := some "kubernetes", appsFolders := some ["b", "a"] }]

theorem Graph.roundtrip_toJson_annotated :
    Graph.annotated.EachValue Json.IsValue ∧ Graph.annotated.withoutNulls ≠ Graph.annotated ∧
      Graph.annotated.toJson.read Graph.reader = .ok Graph.annotated.withoutNulls ∧
      Graph.annotated.withoutNulls.toJson = Graph.annotated.toJson ∧
      Graph.annotated.withoutNulls.toJson.read Graph.reader = .ok Graph.annotated.withoutNulls := by
  have hvalues : Graph.annotated.EachValue Json.IsValue := by decide +kernel
  obtain ⟨hread, hwritten, -, -⟩ := Graph.roundtrip_toJson.1 Graph.annotated hvalues
  refine ⟨hvalues, by decide +kernel, hread, hwritten, ?_⟩
  exact (Graph.roundtrip_toJson.2 .document _ Graph.annotated.withoutNulls hread).2

end DomainModel
