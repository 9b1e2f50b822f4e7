import DomainModel.Graph.Encoding
import DomainModel.Presence

/-!
# Presence in a record and in its document

Typed records look attributes up in tables of their own, documents by the keys of their members.
The tables and the keys name the same attributes, and a part is written as null exactly if the table
calls it absent.  So a record and its document have the same attributes, and questions for required
ones get the same answers from both (`samePresence_toJson`).
-/

namespace DomainModel

/-- The document is an object with a member of the name that is not null. -/
def Json.HasMember (document : Json) (name : String) : Prop :=
  ∃ members value, document = .object members ∧ members.lookup name = some value ∧ value ≠ .null

/-- A record and a document have the same attributes and are missing the same ones. -/
structure SamePresence {α : Type} [Attributed α] (record : α) (document : Json) : Prop where
  has_eq : ∀ name, has record name = has document name
  has_iff : ∀ name, has record name = true ↔ document.HasMember name
  missing_eq : ∀ required, missingAttributes record required = missingAttributes document required
  require_eq : ∀ required, requireAttributes record required = requireAttributes document required
  /-- What is missing is told in the order in which it is required. -/
  missing_sublist : ∀ required, (missingAttributes record required).Sublist required
  /-- What is missing is told as often as it is required. -/
  count_missing : ∀ required name, (missingAttributes record required).count name
    = if has document name then 0 else required.count name

namespace Json

theorem hasAttribute_eq_true_iff {document : Json} {name : String} :
    document.hasAttribute name = true ↔ document.HasMember name := by
  cases document with
  | object members => simp [hasAttribute, HasMember, Option.any_eq_true]
  | _ => simp [hasAttribute, HasMember]

theorem hasAttribute_nil (name : String) : hasAttribute (.object []) name = false := rfl

theorem hasAttribute_cons (key : String) (value : Json) (members : List (String × Json))
    (name : String) : hasAttribute (.object ((key, value) :: members)) name
      = if name = key then decide (value ≠ .null) else hasAttribute (.object members) name := by
  rw [hasAttribute, Entries.lookup_cons_ite]
  split <;> rfl

end Json

theorem count_missingAttributes {α : Type} [Attributed α] (record : α) (required : List String)
    (name : String) : (missingAttributes record required).count name
      = if has record name then 0 else required.count name := by
  rw [missingAttributes]
  split
  · rename_i h
    exact List.count_eq_zero.2 fun hmem => by simp [h] at hmem
  · rename_i h
    exact List.count_filter (by simp [h])

/-- A record and a document with the same attributes answer every question alike. -/
theorem SamePresence.of_has {α : Type} [Attributed α] {record : α} {document : Json}
    (h : ∀ name, has record name = has document name) : SamePresence record document := by
  have hmissing : ∀ required,
      missingAttributes record required = missingAttributes document required := fun required => by
    simp only [missingAttributes, h]
  exact
    { has_eq := h
      has_iff := fun name => by rw [h]; exact Json.hasAttribute_eq_true_iff
      missing_eq := hmissing
      require_eq := fun required => by rw [requireAttributes, requireAttributes, hmissing]
      missing_sublist := fun required => List.filter_sublist
      count_missing := fun required name => by rw [hmissing, count_missingAttributes] }

/-! ## Parts -/

theorem ofText?_ne_null (text : Option String) :
    decide (Json.ofText? text ≠ .null) = text.isSome := by
  cases text <;> rfl

theorem ofTexts?_ne_null (texts : Option (List String)) :
    decide ((texts.map Json.ofTexts).getD .null ≠ .null) = texts.isSome := by
  cases texts <;> rfl

theorem value_ne_null (v : Validation) :
    decide (v.value.getD .null ≠ .null) = v.definedValue.isSome := by
  unfold Validation.definedValue
  rcases v.value with _ | value
  · rfl
  · by_cases h : value = .null <;> simp [Option.filter, h]

theorem object_ne_null (members : List (String × Json)) :
    decide (Json.object members ≠ .null) = true := rfl

/-! ## Records -/

theorem Validation.has_toJson (v : Validation) (name : String) :
    has v name = has v.toJson name := by
  show v.hasAttribute name = v.toJson.hasAttribute name
  unfold Validation.hasAttribute
  rw [toJson]
  simp only [Json.hasAttribute_cons, Json.hasAttribute_nil, ofText?_ne_null, value_ne_null]
  split <;> simp_all

theorem Field.has_toJson (f : Field) (name : String) : has f name = has f.toJson name := by
  show f.hasAttribute name = f.toJson.hasAttribute name
  unfold Field.hasAttribute
  rw [toJson]
  simp only [Json.hasAttribute_cons, Json.hasAttribute_nil, ofText?_ne_null, object_ne_null]
  split <;> simp_all

theorem Entity.has_toJson (e : Entity) (name : String) : has e name = has e.toJson name := by
  show e.hasAttribute name = e.toJson.hasAttribute name
  unfold Entity.hasAttribute
  rw [toJson]
  simp only [Json.hasAttribute_cons, Json.hasAttribute_nil, ofText?_ne_null, object_ne_null]
  split <;> simp_all

theorem Deployment.has_toJson (d : Deployment) (name : String) :
    has d name = has d.toJson name := by
  show d.hasAttribute name = d.toJson.hasAttribute name
  unfold Deployment.hasAttribute
  rw [toJson]
  simp only [Json.hasAttribute_cons, Json.hasAttribute_nil, ofText?_ne_null, ofTexts?_ne_null]
  split <;> simp_all

/-- A declaration that is checked has the attributes of its document. -/
theorem samePresence_toJson :
    (∀ e : Entity, SamePresence e e.toJson) ∧ (∀ f : Field, SamePresence f f.toJson) ∧
      (∀ v : Validation, SamePresence v v.toJson) ∧ ∀ d : Deployment, SamePresence d d.toJson :=
  ⟨fun e => .of_has e.has_toJson, fun f => .of_has f.has_toJson, fun v => .of_has v.has_toJson,
    fun d => .of_has d.has_toJson⟩

end DomainModel
