import DomainModel.Proofs.FixedKeys
import DomainModel.Proofs.JsonText

/-!
# Printed conversions

A conversion has two forms, a value and a text, and the text may name a key twice.  Read again, the
text gives the value, key for key and in the same order, if there is no real among the values of the
validations and they do not nest too deep (`Request.parse_pretty_of_run`).  Of the rest of a
document, only the attributes are not fixed, and options leave nothing in them but truth values and
texts.
-/

namespace DomainModel

/-! ## Attributes -/

/-- A truth value or a text. -/
def Json.IsPlain : Json → Prop
  | .bool _ | .string _ => True
  | .null | .number _ | .array _ | .object _ => False

theorem Json.IsPlain.isWhole {j : Json} (h : j.IsPlain) : j.isWhole = true := by
  cases j <;> first | rfl | cases h

/-- All attributes are truth values or texts. -/
def EntityRecord.Plain (r : EntityRecord) : Prop := ∀ key j, r.get? key = some j → j.IsPlain

namespace EntityRecord

variable {r : EntityRecord}

theorem plain_fresh {name tableName date : String} {javadoc : Option String} :
    (fresh name tableName date javadoc).Plain := by
  have h : ∀ e ∈ defaultAttributes.toList, e.2 = .bool true ∨ e.2 = .bool false ∨
      e.2 = .string "no" ∨ e.2 = .string "" := by decide
  intro key j hj
  rcases h (key, j) (Dict.get?_eq_some_iff.1 hj) with hj | hj | hj | hj <;> cases hj <;> trivial

theorem Plain.set (hr : r.Plain) (key : String) {value : Json} (hv : value.IsPlain) :
    (r.set key value).Plain := by
  intro key' j hj
  rw [get?_set] at hj
  split at hj
  · cases hj
    exact hv
  · exact hr key' j hj

theorem Plain.put (hr : r.Plain) (key : String) {value : Option Json}
    (hv : ∀ j, value = some j → j.IsPlain) : (r.put key value).Plain := by
  intro key' j hj
  rw [get?_put] at hj
  split at hj
  · exact hv j hj
  · exact hr key' j hj

end EntityRecord

theorem ValueRule.plain_apply (rule : ValueRule) (o : EntityOption) :
    ∀ j, rule.apply o = some j → j.IsPlain := by
  intro j h
  rcases rule with b | _ | _
  · cases h
    trivial
  · obtain ⟨s, -, rfl⟩ := Option.map_eq_some_iff.1 h
    trivial
  · cases h
    cases o.value.filter (· ≠ "") <;> trivial

theorem EntityOption.plain_outputValue (o : EntityOption) :
    ∀ j, o.outputValue = some j → j.IsPlain := by
  unfold outputValue
  split
  · exact ValueRule.plain_apply _ o
  · exact ValueRule.plain_apply .optionValueOrTrue o

namespace Touch

theorem plain_apply (t : Touch) {r : EntityRecord} (hr : r.Plain) : (t.apply r).Plain := by
  have hwrite : (t.write r).Plain := by
    unfold write
    split
    · exact hr.put _ t.option.plain_outputValue
    · exact hr
  have hservice : (t.giveService (t.write r)).Plain := by
    unfold giveService
    split
    · exact hwrite.set _ trivial
    · exact hwrite
  unfold apply leaveOut
  split
  · exact hservice.set _ trivial
  · exact hservice

theorem plain_applyAll : ∀ (ts : List Touch) {r : EntityRecord}, r.Plain → (applyAll ts r).Plain
  | [], _, hr => hr
  | t :: ts, _, hr => plain_applyAll ts (t.plain_apply hr)

end Touch

/-! ## Documents without reals -/

namespace Json

theorem isWholeItems_iff : ∀ {xs : List Json}, isWholeItems xs = true ↔ ∀ x ∈ xs, x.isWhole = true
  | [] => by simp [isWholeItems]
  | x :: xs => by rw [isWholeItems, Bool.and_eq_true, isWholeItems_iff, List.forall_mem_cons]

theorem isWholeMembers_iff : ∀ {ms : List (String × Json)},
    isWholeMembers ms = true ↔ ∀ m ∈ ms, m.2.isWhole = true
  | [] => by simp [isWholeMembers]
  | m :: ms => by rw [isWholeMembers, Bool.and_eq_true, isWholeMembers_iff, List.forall_mem_cons]

theorem isWhole_array_map {α : Type} {f : α → Json} (xs : List α)
    (h : ∀ x ∈ xs, (f x).isWhole = true) : (Json.array (xs.map f)).isWhole = true :=
  isWholeItems_iff.2 (List.forall_mem_map.2 h)

end Json

open Json (isWhole_array_map isWholeMembers_iff)

theorem isWhole_of_textMember {key : String} {text : Option String} :
    ∀ m ∈ textMember key text, m.2.isWhole = true := by
  intro m hm
  obtain ⟨s, -, rfl⟩ := Option.map_eq_some_iff.1 (Option.mem_toList.1 hm)
  rfl

/-- There is no real in the value of the validation. -/
def ValidationRecord.Whole (v : ValidationRecord) : Prop := ∀ j ∈ v.value, j.isWhole = true

theorem ValidationRecord.isWhole_toJson {v : ValidationRecord} (h : v.Whole) :
    v.toJson.isWhole = true := by
  refine isWholeMembers_iff.2 (List.forall_mem_cons.2 ⟨rfl, fun m hm => ?_⟩)
  obtain ⟨j, hj, rfl⟩ := Option.map_eq_some_iff.1 (Option.mem_toList.1 hm)
  exact h j hj

theorem FieldRecord.isWhole_toJson {f : FieldRecord} (h : ∀ v ∈ f.validations, v.Whole) :
    f.toJson.isWhole = true := by
  have hvalidations := isWhole_array_map f.validations fun v hv =>
    ValidationRecord.isWhole_toJson (h v hv)
  refine isWholeMembers_iff.2 ?_
  simp only [List.cons_append, List.forall_mem_cons, List.forall_mem_append]
  exact ⟨rfl, ⟨⟨⟨isWhole_of_textMember, isWhole_of_textMember⟩, isWhole_of_textMember⟩,
    isWhole_of_textMember⟩, hvalidations, List.forall_mem_nil _⟩

theorem RelationshipRecord.isWhole_toJson (r : RelationshipRecord) : r.toJson.isWhole = true := by
  have howner : ∀ m ∈ (r.owner.map fun b => ("ownerSide", Json.bool b)).toList,
      m.2.isWhole = true := by
    intro m hm
    obtain ⟨b, -, rfl⟩ := Option.map_eq_some_iff.1 (Option.mem_toList.1 hm)
    rfl
  refine isWholeMembers_iff.2 ?_
  simp only [List.cons_append, List.nil_append, List.forall_mem_cons, List.forall_mem_append]
  exact ⟨rfl, rfl, rfl, rfl, ⟨⟨isWhole_of_textMember, howner⟩, isWhole_of_textMember⟩,
    isWhole_of_textMember⟩

theorem EntityRecord.isWhole_document {r : EntityRecord} (hattributes : r.Plain)
    (hfields : ∀ f ∈ r.fields, ∀ v ∈ f.validations, v.Whole)
    (happlications : r.applications.isWhole = true) : r.document.isWhole = true := by
  have hfields' := isWhole_array_map r.fields fun f hf => FieldRecord.isWhole_toJson (hfields f hf)
  have hrelationships := isWhole_array_map r.relationships fun rel _ =>
    RelationshipRecord.isWhole_toJson rel
  have hattributes' : ∀ m ∈ r.attributes.toList, m.2.isWhole = true := fun m hm =>
    (hattributes m.1 m.2 (Dict.get?_eq_some_iff.2 hm)).isWhole
  refine isWholeMembers_iff.2 ?_
  simp only [List.cons_append, List.nil_append, List.forall_mem_cons, List.forall_mem_append]
  exact ⟨rfl, rfl, rfl, ⟨isWhole_of_textMember, hattributes'⟩, hfields', hrelationships,
    happlications, List.forall_mem_nil _⟩

/-! ## Conversions -/

/-- There is no real among the values of the validations. -/
def Conversion.Whole (c : Conversion) : Prop :=
  ∀ record ∈ c.records, ∀ field ∈ record.fields, ∀ v ∈ field.validations, v.Whole

instance : DecidablePred ValidationRecord.Whole :=
  fun v => inferInstanceAs (Decidable (∀ j ∈ v.value, j.isWhole = true))

instance : DecidablePred Conversion.Whole := fun c => inferInstanceAs
  (Decidable (∀ record ∈ c.records, ∀ field ∈ record.fields, ∀ v ∈ field.validations, v.Whole))

theorem Conversion.isWhole_document {r : Request} {now : Instant} {c : Conversion}
    (h : (r.run now).result = .ok c) (hwhole : c.Whole) : c.document.isWhole = true := by
  obtain ⟨g, application, log, -, -, hc⟩ := Request.run_ok h
  have hrecords : ∀ record ∈ c.records, record.document.isWhole = true := by
    intro record hr
    obtain ⟨i, e, date, -, -, heq⟩ := (Graph.records_of_convert hc).2 record hr
    refine EntityRecord.isWhole_document ?_ (hwhole record hr) ?_
    · rw [heq]
      exact Touch.plain_applyAll _ (r := e.recordAt record.name date) EntityRecord.plain_fresh
    · rw [heq]
      rfl
  exact isWholeMembers_iff.2 (List.forall_mem_singleton.2 (isWhole_array_map c.records hrecords))

/-- The text of a conversion is read as its value.  The value has every key at its first place and
with its last content, also where an option has written an attribute with a fixed key. -/
theorem Request.parse_pretty_of_run {r : Request} {now : Instant} {c : Conversion}
    (h : (r.run now).result = .ok c) (hwhole : c.Whole)
    (hdepth : c.document.depth ≤ Origin.maxDepth) :
    Json.parse? (Json.pretty c.document) = some c.document.collapse :=
  Json.parse?_print Json.blank_prettyLayout (Conversion.isWhole_document h hwhole) hdepth

/-- An invoice with an amount whose rule has an argument of several levels, and with documentation
that needs escapes, under options that are named like fixed keys. -/
def Request.escaped : Request where
  graph := some
    { entities :=
        [{ (Entity.named "Invoice").addField
            (({ name := some "amount", type := some "Long", comment := some "a\tb" } : Field)
              |>.addValidation
                { name := some "min",
                  value := some (.object
                    [("limits", .array [.number (.whole { value := -10 }), .null]),
                     ("\"", .object [])]) })
           with comment := some "An \"invoice\"\\\x01" }]
      options :=
        [{ name := "fields", entityNames := .ofList ["*"], value := some "none" },
         { name := "name", entityNames := .ofList ["*"], value := some "Bill" }] }
  application := some "the \"app\"\n"
  database := some "sql"
  created := some .epoch

/-- Both fixed keys are in the text twice. -/
theorem Request.parse_pretty_of_run_escaped : ∃ c, (escaped.run .epoch).result = .ok c ∧
    (c.records.map fun record => (record.document.keys.count "name",
      record.document.keys.count "fields")) = [(2, 2)] ∧
    Json.parse? (Json.pretty c.document) = some c.document.collapse := by
  obtain ⟨c, hc, hall⟩ : ∃ c, (escaped.run .epoch).result = .ok c ∧
      ((c.records.map fun record => (record.document.keys.count "name",
        record.document.keys.count "fields")), decide c.Whole,
        decide (c.document.depth ≤ Origin.maxDepth)) = ([(2, 2)], true, true) := by
    apply exists_of_map_toOption
    decide +kernel
  simp only [Prod.mk.injEq, decide_eq_true_eq] at hall
  obtain ⟨hkeys, hwhole, hdepth⟩ := hall
  exact ⟨c, hc, hkeys, parse_pretty_of_run hc hwhole hdepth⟩

end DomainModel
