import DomainModel.Proofs.CamelCase
import DomainModel.Proofs.RelationshipRecords

/-!
# How the ends of a relationship name each other

A record has the name of its own field and the name of the field at the other end.  Both ends take
these from the same two labels, but a record writes its own name in camel case and the other one
with its first letter lowered alone.  So the ends agree on a name exactly if camel case does no more
to the label than that (`namedBy_of_relationshipRecords`), which a label in printable ASCII shows.
-/

namespace DomainModel

/-- The name of the field at the end `near`, or the far entity if the field has none. -/
def RelationshipEnd.label (near far : RelationshipEnd) : String :=
  (Text.InjectedField.read near.injectedField).name.getD far.entity

/-- The record `own` has its name from a label, and so has the record `other` at the other end its
other name. -/
structure NamedBy (label : String) (own other : RelationshipRecord) : Prop where
  name : own.name = Text.camelCase label
  otherName : other.otherName = Text.lowerFirst label
  /-- The two names are one exactly if the label is in camel case. -/
  agree_iff : (∀ c ∈ label.toList, Text.isAscii c = true) →
    (own.name = other.otherName ↔ Text.IsCamel label.toList)

namespace RelationshipEnd

theorem record_name (near far : RelationshipEnd) (type : RelationshipType) (owner : Bool) :
    (near.record far type owner).name = Text.camelCase (near.label far) := by
  simp only [record, label]

theorem record_otherName (near far : RelationshipEnd) (type : RelationshipType) (owner : Bool) :
    (far.record near type owner).otherName = Text.lowerFirst (near.label far) := by
  simp only [record, label]

/-- The records at the two ends need no more than the ends for their names. -/
theorem namedBy_record (near far : RelationshipEnd) (type type' : RelationshipType)
    (owner owner' : Bool) :
    NamedBy (near.label far) (near.record far type owner) (far.record near type' owner') where
  name := record_name near far type owner
  otherName := record_otherName near far type' owner'
  agree_iff h := by
    rw [record_name, record_otherName]
    exact Text.camelCase_eq_lowerFirst_iff h

end RelationshipEnd

/-- So each end of a relationship has its name from its own label, and the other end names it by
that. -/
theorem Relationship.namedBy (r : Relationship) :
    NamedBy (r.source.label r.target) r.sourceRecord r.targetRecord ∧
      NamedBy (r.target.label r.source) r.targetRecord r.sourceRecord := by
  rw [sourceRecord_eq, targetRecord_eq]
  exact ⟨RelationshipEnd.namedBy_record .., RelationshipEnd.namedBy_record ..⟩

variable {relationships : List Relationship} {names : List String}
  {d : Dict (List RelationshipRecord)} {r : Relationship}

/-- Where a relationship has records at both ends, each has its own name from its own label and its
other name from the label of the other end. -/
theorem namedBy_of_relationshipRecords (h : relationshipRecords relationships names = .ok d)
    (hr : r ∈ relationships) (hsource : r.source.entity ∈ names) (htarget : r.target.entity ∈ names)
    (hfield : r.target.injectedField.isSome = true) :
    (∃ records, d.get? r.source.entity = some records ∧ r.sourceRecord ∈ records) ∧
    (∃ records, d.get? r.target.entity = some records ∧ r.targetRecord ∈ records) ∧
    NamedBy (r.source.label r.target) r.sourceRecord r.targetRecord ∧
    NamedBy (r.target.label r.source) r.targetRecord r.sourceRecord := by
  have hget : ∀ name ∈ names, d.get? name = some (recordsAt relationships name) := by
    intro name hname
    rw [relationshipRecords_ok h, Dict.get?_ofList_map, if_pos hname]
  refine ⟨⟨_, hget _ hsource, ?_⟩, ⟨_, hget _ htarget, ?_⟩, r.namedBy⟩
  · exact List.mem_append_left _ (List.mem_map_of_mem (List.mem_filter.2 ⟨hr, by simp⟩))
  · exact List.mem_append_right _ (List.mem_map_of_mem (List.mem_filter.2 ⟨hr, by simp [hfield]⟩))

/-- Invoices that a customer has open, each with the customer who is billed. -/
def openInvoices : Relationship :=
  ⟨{ entity := "Customer", injectedField := some "openInvoices(number)" },
    { entity := "Invoice", injectedField := some "billing_customer" }, .oneToMany⟩

theorem namedBy_of_relationshipRecords_openInvoices :
    ∃ d, relationshipRecords [openInvoices] ["Customer", "Invoice"] = .ok d ∧
      NamedBy "openInvoices" openInvoices.sourceRecord openInvoices.targetRecord ∧
      NamedBy "billing_customer" openInvoices.targetRecord openInvoices.sourceRecord ∧
      Text.IsCamel "openInvoices".toList ∧ ¬ Text.IsCamel "billing_customer".toList := by
  obtain ⟨d, hd⟩ : ∃ d, relationshipRecords [openInvoices] ["Customer", "Invoice"] = .ok d := by
    apply exists_of_isOk
    decide +kernel
  obtain ⟨-, -, hsource, htarget⟩ := namedBy_of_relationshipRecords (r := openInvoices) hd
    (by decide) (by decide) (by decide) (by decide)
  have hlabel : openInvoices.source.label openInvoices.target = "openInvoices" := by decide +kernel
  have hlabel' : openInvoices.target.label openInvoices.source = "billing_customer" := by
    decide +kernel
  rw [hlabel] at hsource
  rw [hlabel'] at htarget
  have hascii := List.all_eq_true.1 (by decide : "openInvoices".toList.all Text.isAscii = true)
  have hascii' := List.all_eq_true.1 (by decide : "billing_customer".toList.all Text.isAscii = true)
  refine ⟨d, hd, hsource, htarget, (hsource.agree_iff hascii).1 ?_,
    mt (htarget.agree_iff hascii').2 ?_⟩
  · decide +kernel
  · decide +kernel

/-- The ends of a relationship do not always agree on their names. -/
theorem not_forall_otherName_eq_name :
    ¬ ∀ (relationships : List Relationship) (names : List String)
        (d : Dict (List RelationshipRecord)) (r : Relationship),
      relationshipRecords relationships names = .ok d → r ∈ relationships →
      r.source.entity ∈ names → r.target.entity ∈ names →
      r.target.injectedField.isSome = true →
      r.sourceRecord.otherName = r.targetRecord.name ∧
        r.targetRecord.otherName = r.sourceRecord.name := by
  intro h
  obtain ⟨d, hd⟩ : ∃ d, relationshipRecords [openInvoices] ["Customer", "Invoice"] = .ok d := by
    apply exists_of_isOk
    decide +kernel
  have hnames := (h _ _ d openInvoices hd (by decide) (by decide) (by decide) (by decide)).1
  revert hnames
  decide +kernel

end DomainModel
