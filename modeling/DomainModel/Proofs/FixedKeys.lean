import DomainModel.Proofs.AttributeWrites
import DomainModel.Proofs.ConversionEquation
import DomainModel.Proofs.DocumentValues

/-!
# Options named like fixed keys

In the document of a record the attributes stand between fixed keys, and an option without a rule
writes under its own name, which may be one of these.  The printed document then has the key twice,
and the value of the document has what the option wrote, unless the fixed key stands after the
attributes (`member?_collapse_document`).  So the fixed part of a record comes through exactly if no
option of such a name is for its entity (`Request.fixedPart_of_run`).
-/

namespace DomainModel

/-! ## Members of documents -/

namespace Json

/-- The value at a key of an object, at its first place. -/
def member? (j : Json) (key : String) : Option Json :=
  match j with
  | .object members => members.lookup key
  | _ => none

/-- The keys of an object as they are printed, repeated ones included. -/
def keys : Json → List String
  | .object members => members.map Prod.fst
  | _ => []

/-- In the value of a document the last of the members of a key counts. -/
theorem member?_collapse (members : List (String × Json)) (key : String) :
    (Json.object members).collapse.member? key = (members.reverse.lookup key).map collapse := by
  rw [collapse, member?, Entries.lookup_collapse, collapseMembers_eq_map, ← List.map_reverse]
  induction members.reverse with
  | nil => rfl
  | cons m ms ih =>
    rw [List.map_cons, Entries.lookup_cons_ite, Entries.lookup_cons_ite, ih]
    split <;> rfl

end Json

namespace EntityRecord

/-- The members of a record's document before its attributes. -/
def opening (r : EntityRecord) : List (String × Json) :=
  [("name", .string r.name), ("tableName", .string r.tableName),
    ("changelogDate", .string r.changelogDate)] ++ textMember "javadoc" r.javadoc

/-- The members of a record's document after its attributes. -/
def closing (r : EntityRecord) : List (String × Json) :=
  [("fields", .array (r.fields.map FieldRecord.toJson)),
    ("relationships", .array (r.relationships.map RelationshipRecord.toJson)),
    ("applications", r.applications)]

/-- The keys before the attributes, of which the last is there if the record has documentation. -/
def openingKeys : List String := ["name", "tableName", "changelogDate", "javadoc"]

/-- The keys after the attributes. -/
def closingKeys : List String := ["fields", "relationships", "applications"]

/-- The keys that are not for attributes. -/
def fixedKeys : List String := openingKeys ++ closingKeys

/-- What the record itself has for a key before or after its attributes. -/
def own? (r : EntityRecord) (key : String) : Option Json :=
  ((r.opening ++ r.closing).lookup key).map Json.collapse

/-- The value of the document has at every fixed key what the record itself has for it, and the
printed document has no key twice. -/
def FixedPartIntact (r : EntityRecord) : Prop :=
  (∀ key ∈ fixedKeys, r.document.collapse.member? key = r.own? key) ∧
    r.document.keys.Nodup

variable (r : EntityRecord)

theorem document_eq : r.document = .object (r.opening ++ r.attributes.toList ++ r.closing) := rfl

theorem map_fst_own : (r.opening ++ r.closing).map Prod.fst
    = (openingKeys.filter fun key => key ≠ "javadoc" || r.javadoc.isSome) ++ closingKeys := by
  rw [opening, textMember]
  rcases r.javadoc with _ | text <;> rfl

theorem nodup_own : ((r.opening ++ r.closing).map Prod.fst).Nodup := by
  have hfixed : (openingKeys ++ closingKeys).Nodup := by decide
  rw [map_fst_own]
  exact hfixed.sublist (List.filter_sublist.append_right closingKeys)

theorem map_fst_closing : r.closing.map Prod.fst = closingKeys := rfl

theorem mem_own_iff {key : String} : key ∈ (r.opening ++ r.closing).map Prod.fst ↔
    key ∈ fixedKeys ∧ (key = "javadoc" → r.javadoc ≠ none) := by
  have hj : "javadoc" ∉ closingKeys := by decide
  rw [map_fst_own, fixedKeys, List.mem_append, List.mem_append, List.mem_filter, Bool.or_eq_true,
    decide_eq_true_iff, Option.isSome_iff_ne_none]
  by_cases hk : key = "javadoc"
  · subst hk
    simp [hj]
  · simp [hk]

theorem own?_eq (key : String) : r.own? key
    = ((r.closing.lookup key).or (r.opening.lookup key)).map Json.collapse := by
  obtain ⟨ho, hc, -⟩ := List.nodup_append.1 (List.map_append ▸ r.nodup_own)
  rw [own?, ← Entries.lookup_reverse_of_nodup r.nodup_own, List.reverse_append,
    List.lookup_append, Entries.lookup_reverse_of_nodup ho, Entries.lookup_reverse_of_nodup hc]

/-- What the value of a document has at a key: a member after the attributes goes before the
attribute, and that before a member ahead of the attributes. -/
theorem member?_collapse_document (key : String) :
    r.document.collapse.member? key
      = (((r.closing.lookup key).or (r.attributes.get? key)).or (r.opening.lookup key)).map
        Json.collapse := by
  obtain ⟨ho, hc, -⟩ := List.nodup_append.1 (List.map_append ▸ r.nodup_own)
  rw [document_eq, Json.member?_collapse, List.reverse_append, List.reverse_append,
    List.lookup_append, List.lookup_append, Entries.lookup_reverse_of_nodup ho,
    Entries.lookup_reverse_of_nodup hc, Entries.lookup_reverse_of_nodup r.attributes.nodup,
    Option.or_assoc]
  rfl

/-- Where an attribute has the key of a member before or after the attributes, it comes twice. -/
theorem nodup_keys_document_iff : r.document.keys.Nodup ↔
    ∀ key ∈ (r.opening ++ r.closing).map Prod.fst, r.attributes.get? key = none := by
  have hkeys : r.document.keys.Perm
      (r.attributes.keys ++ (r.opening ++ r.closing).map Prod.fst) := by
    rw [document_eq, Json.keys, List.map_append, List.map_append, List.map_append,
      ← List.append_assoc]
    exact List.perm_append_comm.append_right _
  rw [hkeys.nodup_iff, List.nodup_append]
  constructor
  · rintro ⟨-, -, hne⟩ key hown
    exact Dict.get?_eq_none_iff.2 fun hk => hne key hk key hown rfl
  · intro hnone
    refine ⟨r.attributes.nodup, r.nodup_own, ?_⟩
    rintro key hk _ hown rfl
    exact Dict.get?_eq_none_iff.1 (hnone key hown) hk

theorem fixedPartIntact_iff : r.FixedPartIntact ↔
    ∀ key ∈ fixedKeys, r.attributes.get? key = none := by
  rw [FixedPartIntact, nodup_keys_document_iff]
  constructor
  · rintro ⟨hvalue, hnodup⟩ key hkey
    by_cases hown : key ∈ (r.opening ++ r.closing).map Prod.fst
    · exact hnodup key hown
    -- the record has nothing of its own for the key, so neither does the value
    have hv := hvalue key hkey
    rw [own?, Entries.lookup_eq_none_iff.2 hown, member?_collapse_document, Option.map_none,
      Option.map_eq_none_iff, Option.or_eq_none_iff, Option.or_eq_none_iff] at hv
    exact hv.1.2
  · intro hnone
    refine ⟨fun key hkey => ?_, fun key hown => hnone key (r.mem_own_iff.1 hown).1⟩
    rw [member?_collapse_document, hnone key hkey, Option.or_none, own?_eq]

theorem member?_of_opening {key : String} (h : key ∈ openingKeys) :
    r.document.collapse.member? key
      = ((r.attributes.get? key).map Json.collapse).or (r.own? key) := by
  have hdisjoint : ∀ key ∈ openingKeys, key ∉ closingKeys := by decide
  have hc : r.closing.lookup key = none :=
    Entries.lookup_eq_none_iff.2 (r.map_fst_closing ▸ hdisjoint key h)
  rw [member?_collapse_document, own?_eq, hc, Option.none_or, Option.none_or, Option.map_or]

theorem member?_of_closing {key : String} (h : key ∈ closingKeys) :
    r.document.collapse.member? key = r.own? key := by
  rcases hc : r.closing.lookup key with _ | value
  · rw [← r.map_fst_closing] at h
    exact absurd h (Entries.lookup_eq_none_iff.1 hc)
  · rw [member?_collapse_document, own?_eq, hc]
    rfl

end EntityRecord

/-! ## Options of such a name -/

namespace EntityOption

/-- The catalogue neither has an option named like a fixed key nor writes one. -/
theorem outputKey_eq_iff (o : EntityOption) {key : String} (h : key ∈ EntityRecord.fixedKeys) :
    key = o.outputKey ↔ o.name = key := by
  have hname : ∀ key ∈ EntityRecord.fixedKeys, OptionRule.ofName? key = none := by decide
  have hout : ∀ key ∈ EntityRecord.fixedKeys, ∀ rule ∈ OptionRule.all, rule.outputKey ≠ key := by
    decide
  exact o.outputKey_eq_iff_of_free (hname key h) (hout key h)

theorem outputValue_of_fixed {o : EntityOption} (h : o.name ∈ EntityRecord.fixedKeys) :
    o.outputValue = ValueRule.optionValueOrTrue.apply o := by
  have hname : ∀ key ∈ EntityRecord.fixedKeys, OptionRule.ofName? key = none := by decide
  rw [outputValue, hname _ h]

theorem effectAt_touch (o : EntityOption) (declared : List String) (entity : String) {key : String}
    (h : key ∈ EntityRecord.fixedKeys) : (o.touch declared entity).effectAt key =
      if o.name = key ∧ entity ∈ o.targets declared then
        some (ValueRule.optionValueOrTrue.apply o)
      else none := by
  have hsearch : key ≠ "searchEngine" := by
    rintro rfl
    revert h
    decide
  have hkey : key = (o.touch declared entity).option.outputKey ↔ o.name = key :=
    o.outputKey_eq_iff h
  have htarget : (o.touch declared entity).isTarget = true ↔ entity ∈ o.targets declared :=
    decide_eq_true_iff
  rw [Touch.effectAt, if_neg fun hl => hsearch hl.2]
  by_cases hn : o.name = key
  · have hvalue : (o.touch declared entity).option.outputValue
        = ValueRule.optionValueOrTrue.apply o := by
      rw [outputValue_of_fixed (by rwa [← hn] at h)]
      rfl
    simp only [htarget, hkey, hn, hvalue, and_true, true_and]
  · simp only [hkey, hn, and_false, false_and, if_false]

end EntityOption

theorem findSome?_if {α β : Type} (p : α → Bool) (f : α → β) (as : List α) :
    as.findSome? (fun a => if p a then some (f a) else none) = (as.find? p).map f := by
  rw [← List.findSome?_guard, List.map_findSome?]
  congr 1
  funext a
  rcases h : p a <;> simp [Option.guard, h]

namespace Graph

/-- The last option of a name that is for an entity. -/
def lastNamed? (g : Graph) (name entity : String) : Option EntityOption :=
  g.options.reverse.find? fun o => o.name = name ∧ entity ∈ o.targets g.entityNames

theorem lastNamed?_eq_none_iff {g : Graph} {name entity : String} :
    g.lastNamed? name entity = none ↔
      ∀ o ∈ g.options, o.name = name → entity ∉ o.targets g.entityNames := by
  simp [lastNamed?, List.find?_eq_none]

/-- At a fixed key the attributes have what the last option of that name wrote there. -/
theorem get?_attributes_recordOf (g : Graph) (name : String) (e : Entity) (date : String)
    {key : String} (h : key ∈ EntityRecord.fixedKeys) :
    (g.recordOf name e date).attributes.get? key
      = (g.lastNamed? key name).bind (ValueRule.apply .optionValueOrTrue) := by
  have hservice : key ≠ "service" := by
    rintro rfl
    revert h
    decide
  have hfresh : ∀ key ∈ EntityRecord.fixedKeys,
      EntityRecord.defaultAttributes.get? key = none := by decide
  have hget : (g.recordOf name e date).attributes.get? key
      = (Touch.applyAll (g.touches name) (e.recordAt name date)).get? key := rfl
  have hif := findSome?_if (fun o => decide (o.name = key ∧ name ∈ o.targets g.entityNames))
    (ValueRule.apply .optionValueOrTrue) g.options.reverse
  simp only [decide_eq_true_eq] at hif
  rw [hget, Touch.get?_applyAll hservice, findSome?_touches]
  simp only [EntityOption.effectAt_touch _ _ _ h, hif]
  rw [lastNamed?]
  -- without such an option the defaults count, and they have no fixed key
  rcases g.options.reverse.find? _ with _ | o
  · exact hfresh key h
  · rfl

end Graph

theorem ValueRule.map_collapse_optionValueOrTrue (o : EntityOption) :
    (ValueRule.optionValueOrTrue.apply o).map Json.collapse
      = ValueRule.optionValueOrTrue.apply o := by
  rw [apply]
  rcases o.value.filter (· ≠ "") with _ | value <;> rfl

theorem Conversion.collapse_document (c : Conversion) : c.document.collapse
    = .object [(c.application, .array (c.records.map (·.document.collapse)))] := by
  rw [document, Json.collapse, Json.collapseMembers_eq_map, List.map_singleton, Json.collapse,
    Json.collapseItems_eq_map, List.map_map]
  rfl

/-- What becomes of the fixed part of the records.  In the value of a conversion each record has its
own fields, relationships and applications, but for its name, table, date and documentation what the
last option of such a name has written, if one is for its entity.  Printed, it has a key twice if
and only if an option is for its entity that is named like a fixed key that is there.  So all of the
fixed part is as it should be exactly if no option for the entity has the name of a fixed key. -/
theorem Request.fixedPart_of_run {r : Request} {now : Instant} {c : Conversion}
    (h : (r.run now).result = .ok c) :
    c.document.collapse
        = .object [(c.application, .array (c.records.map (·.document.collapse)))] ∧
      ∃ g, r.graph = some g ∧ ∀ record ∈ c.records,
        (∀ key ∈ EntityRecord.openingKeys, record.document.collapse.member? key
          = ((g.lastNamed? key record.name).bind (ValueRule.apply .optionValueOrTrue)).or
            (record.own? key)) ∧
        (∀ key ∈ EntityRecord.closingKeys,
          record.document.collapse.member? key = record.own? key) ∧
        (record.document.keys.Nodup ↔ ∀ o ∈ g.options, o.name ∈ EntityRecord.fixedKeys →
          (o.name = "javadoc" → record.javadoc ≠ none) → record.name ∉ o.targets g.entityNames) ∧
        (record.FixedPartIntact ↔ ∀ o ∈ g.options, o.name ∈ EntityRecord.fixedKeys →
          record.name ∉ o.targets g.entityNames) := by
  obtain ⟨g, application, log, hg, -, hc⟩ := run_ok h
  refine ⟨c.collapse_document, g, hg, fun record hmem => ?_⟩
  obtain ⟨i, e, date, -, -, heq⟩ := (Graph.records_of_convert hc).2 record hmem
  have hget : ∀ key ∈ EntityRecord.fixedKeys, record.attributes.get? key
      = (g.lastNamed? key record.name).bind (ValueRule.apply .optionValueOrTrue) := by
    intro key hkey
    rw [heq, g.get?_attributes_recordOf record.name e date hkey]
    rfl
  have hnone : ∀ key ∈ EntityRecord.fixedKeys, record.attributes.get? key = none ↔
      ∀ o ∈ g.options, o.name = key → record.name ∉ o.targets g.entityNames := by
    intro key hkey
    rw [hget key hkey, ← Graph.lastNamed?_eq_none_iff]
    rcases g.lastNamed? key record.name with _ | o <;> simp [ValueRule.apply]
  refine ⟨fun key hkey => ?_, fun key hkey => record.member?_of_closing hkey, ?_, ?_⟩
  · rw [record.member?_of_opening hkey, hget key (List.mem_append_left _ hkey)]
    rcases g.lastNamed? key record.name with _ | o
    · rfl
    · rw [Option.bind_some, ValueRule.map_collapse_optionValueOrTrue]
  · rw [record.nodup_keys_document_iff]
    constructor
    · intro hno o ho hname hj
      exact (hnone o.name hname).1 (hno o.name (record.mem_own_iff.2 ⟨hname, hj⟩)) o ho rfl
    · intro hno key hown
      obtain ⟨hkey, hj⟩ := record.mem_own_iff.1 hown
      refine (hnone key hkey).2 fun o ho hn => ?_
      subst hn
      exact hno o ho hkey hj
  · rw [record.fixedPartIntact_iff]
    constructor
    · intro hno o ho hname
      exact (hnone o.name hname).1 (hno o.name hname) o ho rfl
    · intro hno key hkey
      refine (hnone key hkey).2 fun o ho hn => ?_
      subst hn
      exact hno o ho hkey

/-- Invoices under another name. -/
def Request.renamed : Request where
  graph := some
    { entities := [.named "Invoice"]
      options :=
        [{ name := "name", entityNames := .ofList ["Invoice"], value := some "Bill" }] }
  application := some "app"
  database := some "sql"
  created := some .epoch

theorem Request.fixedPart_of_run_renamed : ∃ c, (renamed.run .epoch).result = .ok c ∧
    ∃ record ∈ c.records, record.document.collapse.member? "name" = some (.string "Bill") ∧
      record.document.collapse.member? "tableName" = record.own? "tableName" ∧
      record.document.collapse.member? "fields" = record.own? "fields" ∧
      ¬ record.FixedPartIntact := by
  obtain ⟨c, hc, hnames⟩ : ∃ c, (renamed.run .epoch).result = .ok c ∧
      c.records.map (·.name) = ["Invoice"] := by
    apply exists_of_map_toOption
    decide +kernel
  obtain ⟨record, hrecords, hname⟩ := List.map_eq_singleton_iff.1 hnames
  have hrecord : record ∈ c.records := hrecords ▸ List.mem_singleton_self record
  obtain ⟨-, g, hg, hall⟩ := fixedPart_of_run hc
  cases hg
  obtain ⟨hopening, hclosing, -, hintact⟩ := hall record hrecord
  refine ⟨c, hc, record, hrecord, ?_, ?_, hclosing "fields" (by decide), fun h => ?_⟩
  · rw [hopening "name" (by decide), hname]
    rfl
  · rw [hopening "tableName" (by decide), hname]
    rfl
  · exact hintact.1 h _ (.head _) (by decide) (by rw [hname]; decide)

/-- The value has the other name for the record, and the printed document has both. -/
theorem Request.run_renamed : ∃ c, (renamed.run .epoch).result = .ok c ∧
    ∃ record ∈ c.records, record.name = "Invoice" ∧
      record.document.collapse.member? "name" = some (.string "Bill") ∧
      record.document.keys.count "name" = 2 ∧ ¬ record.FixedPartIntact := by
  obtain ⟨c, hc, hall⟩ : ∃ c, (renamed.run .epoch).result = .ok c ∧
      (c.records.map fun record => (record.name, record.document.collapse.member? "name",
        record.document.keys.count "name")) = [("Invoice", some (.string "Bill"), 2)] := by
    apply exists_of_map_toOption
    decide +kernel
  obtain ⟨record, hrecords, hrecord⟩ := List.map_eq_singleton_iff.1 hall
  obtain ⟨hname, hvalue, hcount⟩ :
      record.name = "Invoice" ∧ record.document.collapse.member? "name" = some (.string "Bill") ∧
        record.document.keys.count "name" = 2 := by
    simpa using hrecord
  refine ⟨c, hc, record, hrecords ▸ List.mem_singleton_self record, hname, hvalue, hcount, ?_⟩
  rintro ⟨-, hnodup⟩
  have hle := List.nodup_iff_count.1 hnodup "name"
  rw [hcount] at hle
  revert hle
  decide

end DomainModel
