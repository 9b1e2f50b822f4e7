import DomainModel.Proofs.OptionEffects

/-!
# The last write to an attribute

Every attribute but the service is settled by the last option that has an effect on its key
(`Touch.get?_applyAll`), for such an effect does not look at what was there before.  An option that
is for the entity sets its key or takes it away; the search option switches the search off where it
excludes the entity, and that goes before.
-/

namespace DomainModel

theorem EntityRecord.get?_put (r : EntityRecord) (key key' : String) (value : Option Json) :
    (r.put key value).get? key' = if key' = key then value else r.get? key' := by
  rcases value with _ | value
  · exact Dict.get?_erase r.attributes key key'
  · exact r.get?_set key key' value

namespace Touch

/-- What the option makes of a key of the entity, if anything: a value, or the key's absence. -/
def effectAt (t : Touch) (key : String) : Option (Option Json) :=
  if t.isLeftOut ∧ key = "searchEngine" then some (some (.bool false))
  else if t.isTarget ∧ key = t.option.outputKey then some t.option.outputValue
  else none

theorem get?_write (t : Touch) (r : EntityRecord) (key : String) :
    (t.write r).get? key =
      if t.isTarget ∧ key = t.option.outputKey then t.option.outputValue else r.get? key := by
  unfold write
  by_cases ht : t.isTarget = true
  · simp only [ht, if_true, true_and, EntityRecord.get?_put]
  · simp [ht]

theorem get?_giveService (t : Touch) (r : EntityRecord) {key : String} (h : key ≠ "service") :
    (t.giveService r).get? key = r.get? key := by
  unfold giveService
  split
  · rw [EntityRecord.get?_set, if_neg h]
  · rfl

theorem get?_leaveOut (t : Touch) (r : EntityRecord) (key : String) :
    (t.leaveOut r).get? key =
      if t.isLeftOut ∧ key = "searchEngine" then some (.bool false) else r.get? key := by
  unfold leaveOut
  by_cases hl : t.isLeftOut = true
  · simp only [hl, if_true, true_and, EntityRecord.get?_set]
  · simp [hl]

theorem get?_apply (t : Touch) (r : EntityRecord) {key : String} (h : key ≠ "service") :
    (t.apply r).get? key = (t.effectAt key).getD (r.get? key) := by
  rw [apply, get?_leaveOut, get?_giveService t _ h, get?_write, effectAt]
  split
  · rfl
  · split <;> rfl

theorem get?_applyAll {key : String} (h : key ≠ "service") : ∀ (ts : List Touch) (r : EntityRecord),
    (applyAll ts r).get? key = (ts.reverse.findSome? (·.effectAt key)).getD (r.get? key)
  | [], r => rfl
  | t :: ts, r => by
    rw [applyAll, List.foldl_cons, ← applyAll, get?_applyAll h ts, get?_apply t r h]
    simp only [List.reverse_cons, List.findSome?_append, List.findSome?_cons, List.findSome?_nil]
    -- an effect among the later options goes before one of the first
    cases ts.reverse.findSome? fun t => t.effectAt key <;> cases t.effectAt key <;> rfl

theorem effectAt_of_not_matters {t : Touch} (h : t.matters = false) (key : String) :
    t.effectAt key = none := by
  obtain ⟨ht, hl⟩ := Bool.or_eq_false_iff.1 h
  simp [effectAt, ht, hl]

end Touch

/-- Options that have nothing to do with the entity have no effect on its keys. -/
theorem Graph.findSome?_touches (g : Graph) (entity key : String) :
    (g.touches entity).reverse.findSome? (·.effectAt key)
      = g.options.reverse.findSome? fun o => (o.touch g.entityNames entity).effectAt key := by
  have hfilter : ∀ ts : List Touch, (ts.filter Touch.matters).findSome? (·.effectAt key)
      = ts.findSome? (·.effectAt key) := by
    intro ts
    induction ts with
    | nil => rfl
    | cons t ts ih =>
      rcases hm : t.matters with _ | _
      · rw [List.filter_cons_of_neg (by simp [hm]), List.findSome?_cons,
          Touch.effectAt_of_not_matters hm, ih]
      · rw [List.filter_cons_of_pos hm, List.findSome?_cons, List.findSome?_cons, ih]
  rw [touches, ← List.filter_reverse, hfilter, ← List.map_reverse, List.findSome?_map]
  rfl

namespace Graph

/-- The last write wins.  After a successful run every entity has at every key but the service what
the last of the options with an effect there makes of it, and what it had before if there is
none. -/
theorem attributes_of_applyOptions {g : Graph} {s : Sheet}
    (h : (g.applyOptions s).failure = none) {entity : String} {before : EntityRecord}
    (hb : s.records.get? entity = some before) : ∃ after : EntityRecord,
      (g.applyOptions s).sheet.records.get? entity = some after ∧
      ∀ key, key ≠ "service" → after.get? key =
        (g.options.reverse.findSome? fun o => (o.touch g.entityNames entity).effectAt key).getD
          (before.get? key) := by
  refine ⟨Touch.applyAll (g.touches entity) before, ?_, fun key hkey => ?_⟩
  · rw [get?_applyOptions h, hb, Option.map_some]
  · rw [Touch.get?_applyAll hkey, findSome?_touches]

/-- The search is set in four places: by two options that write the same key, by one that excludes
the invoices that it is for, and for customers once more after that. -/
def searching : Graph where
  entities := [.named "Invoice", .named "Customer"]
  options :=
    [{ name := "search", entityNames := .ofList ["*"], value := some "elasticsearch" },
     { name := "searchEngine", entityNames := .ofList ["Invoice"], value := some "solr" },
     { name := "search", entityNames := .ofList ["Invoice", "Customer"],
       excludedNames := .ofList ["Invoice"], value := some "couchbase" },
     { name := "no-fluent-method", entityNames := .ofList ["Invoice"] },
     { name := "search", entityNames := .ofList ["Customer"] }]

theorem attributes_of_applyOptions_searching :
    (searching.applyOptions billingSheet).failure = none ∧
      ∃ invoice customer : EntityRecord,
        (searching.applyOptions billingSheet).sheet.records.get? "Invoice" = some invoice ∧
        (searching.applyOptions billingSheet).sheet.records.get? "Customer" = some customer ∧
        invoice.get? "searchEngine" = some (.bool false) ∧ customer.get? "searchEngine" = none ∧
        invoice.get? "fluentMethods" = some (.bool false) ∧
        customer.get? "fluentMethods" = some (.bool true) := by
  have h : (searching.applyOptions billingSheet).failure = none := by decide +kernel
  have hfirst : billingSheet.records.get? "Invoice"
      = some (.fresh "Invoice" "invoice" "20200101000001" none) := by decide +kernel
  have hsecond : billingSheet.records.get? "Customer"
      = some (.fresh "Customer" "customer" "20200101000000" none) := by decide +kernel
  obtain ⟨invoice, hi, hinvoice⟩ := attributes_of_applyOptions h hfirst
  obtain ⟨customer, hc, hcustomer⟩ := attributes_of_applyOptions h hsecond
  refine ⟨h, invoice, customer, hi, hc, ?_, ?_, ?_, ?_⟩
  · rw [hinvoice "searchEngine" (by decide)]
    decide +kernel
  · rw [hcustomer "searchEngine" (by decide)]
    decide +kernel
  · rw [hinvoice "fluentMethods" (by decide)]
    decide +kernel
  · rw [hcustomer "fluentMethods" (by decide)]
    decide +kernel

end Graph

end DomainModel
