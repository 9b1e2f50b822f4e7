import DomainModel.Proofs.ConversionRecords
import DomainModel.Proofs.WellFormed
import Mathlib.Data.List.Forall2

/-!
# Field records of well-formed graphs

A conversion passes over validations without a name, falls back to keys for fields without one, and
drops null values, all without a notice.  In a graph that the checks accept there is nothing of the
kind, so the records have every field and every validation, in order, with what they were declared
with (`Request.fields_of_run`).
-/

namespace DomainModel

theorem forall₂_filterMap {α β : Type} {R : α → β → Prop} {f : α → Option β} : ∀ {xs : List α},
    (∀ x ∈ xs, ∃ y, f x = some y ∧ R x y) → List.Forall₂ R xs (xs.filterMap f)
  | [], _ => .nil
  | x :: xs, h => by
    obtain ⟨y, hy, hr⟩ := h x List.mem_cons_self
    rw [List.filterMap_cons_some hy]
    exact .cons hr (forall₂_filterMap fun x' hx' => h x' (List.mem_cons_of_mem _ hx'))

/-! ## What a record keeps -/

/-- The record has the name and the value of the validation, null being the same as no value, and a
value if validations of that name need one. -/
structure Validation.KeptBy (v : Validation) (record : ValidationRecord) : Prop where
  name : v.name = some record.name
  value : record.value = if v.value = some .null then none else v.value
  required : ∀ kind ∈ ValidationKind.all, kind.name = record.name → kind.requiresValue = true →
    ∃ value, record.value = some value ∧ value ≠ .null

/-- The types of fields that become arrays of bytes. -/
def blobTypes : List String := ["Blob", "AnyBlob", "ImageBlob", "TextBlob"]

/-- The record has the name, the type and the validations of the field, in order. -/
structure Field.KeptBy (f : Field) (record : FieldRecord) : Prop where
  name : f.name = some record.name
  type : ∃ type, f.type = some type ∧
    if type ∈ blobTypes then record.type = some "byte[]" ∧ record.blobContent.isSome = true
    else record.type = some type ∧ record.blobContent = none
  validations : List.Forall₂ Validation.KeptBy f.validations.values record.validations

theorem Validation.definedValue_eq (v : Validation) :
    v.definedValue = if v.value = some .null then none else v.value := by
  unfold definedValue
  rcases v.value with _ | value
  · rfl
  · by_cases h : value = .null <;> simp [h]

theorem Validation.WellFormed.kept {v : Validation} (h : v.WellFormed) :
    ∃ record, v.record? = some record ∧ v.KeptBy record := by
  obtain ⟨kind, hmem, hn, hvalue⟩ := h
  refine ⟨⟨kind.name, v.definedValue⟩, by rw [record?, hn]; rfl, hn, v.definedValue_eq, ?_⟩
  intro kind' hmem' hname hr
  -- a name of the catalogue has one kind
  have hkind := ValidationKind.ofName?_eq_some_iff.2 ⟨hmem', hname⟩
  rw [ValidationKind.ofName?_eq_some_iff.2 ⟨hmem, rfl⟩] at hkind
  cases hkind
  obtain ⟨value, hv, hne⟩ := hvalue hr
  refine ⟨value, ?_, hne⟩
  show v.definedValue = some value
  rw [v.definedValue_eq, hv, if_neg (by simpa using hne)]

theorem isSome_blobContent?_iff {type : String} :
    (blobContent? type).isSome = true ↔ type ∈ blobTypes := by
  unfold blobContent? blobTypes
  split <;> simp_all

theorem Field.WellFormed.kept {f : Field} (h : f.WellFormed) (g : Graph) (key : String) :
    f.KeptBy (f.record g key) := by
  obtain ⟨name, hname⟩ := Option.isSome_iff_exists.1 h.name
  obtain ⟨type, htype⟩ := Option.isSome_iff_exists.1 h.type
  refine ⟨?_, ⟨type, htype, ?_⟩, forall₂_filterMap fun v hv => (h.validations v hv).kept⟩
  · rw [record, hname, Option.getD_some]
  · have hblob := @isSome_blobContent?_iff type
    simp only [record, htype, Option.bind_some]
    split
    · rename_i hmem
      rw [if_pos (hblob.2 hmem)]
      exact ⟨rfl, hblob.2 hmem⟩
    · rename_i hmem
      rw [if_neg (mt hblob.1 hmem)]
      exact ⟨rfl, by simpa using mt hblob.1 hmem⟩

theorem Entity.WellFormed.kept {e : Entity} (h : e.WellFormed) (g : Graph) :
    List.Forall₂ Field.KeptBy e.fields.values (e.fieldRecords g) := by
  rw [Dict.values, fieldRecords, List.forall₂_map_left_iff, List.forall₂_map_right_iff,
    List.forall₂_same]
  intro entry hentry
  exact (h.fields entry.2 (List.mem_map_of_mem hentry)).kept g entry.1

/-- A conversion of a graph that the checks accept keeps every field of the last declaration of each
name, in order, and with it every validation. -/
theorem Request.fields_of_run {r : Request} {now : Instant} {c : Conversion} {g : Graph}
    {mode : CheckMode} (h : (r.run now).result = .ok c) (hg : r.graph = some g)
    (hv : g.check mode = .ok ()) :
    ∀ record ∈ c.records, ∃ i e, IsLastDeclaration g.entities record.name i e ∧
      List.Forall₂ Field.KeptBy e.fields.values record.fields := by
  obtain ⟨g', application, log, hg', -, hc⟩ := run_ok h
  cases hg.symm.trans hg'
  intro record hr
  obtain ⟨i, e, date, hl, -, heq⟩ := (Graph.records_of_convert hc).2 record hr
  have hmem : e ∈ g.entities := List.mem_of_getElem? hl.at_place
  refine ⟨i, e, hl, ?_⟩
  rw [heq]
  exact ((Graph.check_eq_ok_iff.1 hv).entities e hmem).kept g

/-- An invoice with a total of at least zero and a scan, and a customer. -/
def Graph.scanned : Graph where
  entities :=
    [((Entity.named "Invoice").addField (({ name := some "total", type := some "BigDecimal" } : Field)
        |>.addValidation { name := some "required", value := some .null }
        |>.addValidation { name := some "min", value := some (.bool false) })).addField
          (({ name := some "scan", type := some "ImageBlob" } : Field).addValidation
            { name := some "maxbytes", value := some (.string "") }),
     (Entity.named "Customer").addField { name := some "", type := some "" }]

theorem Request.fields_of_run_scanned :
    ∃ c, (Request.run ⟨some Graph.scanned, some "shop", some "sql", none, none⟩
        .epoch).result = .ok c ∧ Graph.scanned.check .aggregate = .ok () ∧
      (c.records.map fun record => (record.name, record.fields))
        = [("Invoice",
            [⟨"total", some "BigDecimal", none, none, none,
               [⟨"required", none⟩, ⟨"min", some (.bool false)⟩]⟩,
             ⟨"scan", some "byte[]", none, none, some "image", [⟨"maxbytes", some (.string "")⟩]⟩]),
           ("Customer", [⟨"", some "", none, none, none, []⟩])] ∧
      ∀ record ∈ c.records, ∃ i e, IsLastDeclaration Graph.scanned.entities record.name i e ∧
        List.Forall₂ Field.KeptBy e.fields.values record.fields := by
  obtain ⟨c, hc, hfields⟩ : ∃ c, (Request.run ⟨some Graph.scanned, some "shop", some "sql", none,
      none⟩ .epoch).result = .ok c ∧
      (c.records.map fun record => (record.name, record.fields))
        = [("Invoice",
            [⟨"total", some "BigDecimal", none, none, none,
               [⟨"required", none⟩, ⟨"min", some (.bool false)⟩]⟩,
             ⟨"scan", some "byte[]", none, none, some "image", [⟨"maxbytes", some (.string "")⟩]⟩]),
           ("Customer", [⟨"", some "", none, none, none, []⟩])] := by
    apply exists_of_map_toOption
    decide +kernel
  have hv : Graph.scanned.check .aggregate = .ok () := by decide +kernel
  exact ⟨c, hc, hv, hfields, fields_of_run hc rfl hv⟩

end DomainModel
