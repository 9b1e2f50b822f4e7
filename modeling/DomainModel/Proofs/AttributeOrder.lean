import DomainModel.Proofs.OptionEffects
import DomainModel.Proofs.OptionVisits

/-!
# The order of attributes

The attributes of a fresh record have eight keys.  Of these an option can take away `dto` alone, and
none can be moved: overwriting a key leaves it where it is, and taking a key away leaves the others
in order.  So seven keys stand together in every record that options have been applied to, with
`dto` before them as long as no option has taken it away and what options have added after them
(`attributeOrder_of_reached`).
-/

namespace DomainModel

namespace EntityRecord

/-- The keys of the default attributes, without `dto`. -/
def lastingKeys : List String :=
  ["service", "pagination", "jpaMetamodelFiltering", "fluentMethods", "readOnly", "embedded",
    "clientRootFolder"]

theorem keys_defaultAttributes : defaultAttributes.keys = "dto" :: lastingKeys := by decide

/-- Keys of attributes as options leave them, `dropped` telling whether `dto` has been taken away.
After that it may be among the keys that options have added. -/
inductive AttributeOrder (dropped : Prop) : List String → Prop
  | kept (added : List String) (new : ∀ key ∈ added, key ≠ "dto" ∧ key ∉ lastingKeys) :
      AttributeOrder dropped (["dto"] ++ lastingKeys ++ added)
  | taken (added : List String) (gone : dropped) (new : ∀ key ∈ added, key ∉ lastingKeys) :
      AttributeOrder dropped (lastingKeys ++ added)

namespace AttributeOrder

variable {dropped dropped' : Prop} {keys : List String} {key : String}

theorem mono (h : AttributeOrder dropped keys) (hd : dropped → dropped') :
    AttributeOrder dropped' keys := by
  cases h with
  | kept added new => exact .kept added new
  | taken added gone new => exact .taken added (hd gone) new

theorem append (h : AttributeOrder dropped keys) (hk : key ∉ keys) :
    AttributeOrder dropped (keys ++ [key]) := by
  cases h with
  | kept added new =>
    simp only [List.mem_append, List.mem_singleton, not_or] at hk
    rw [List.append_assoc]
    exact .kept _ (List.forall_mem_append.2 ⟨new, by simpa using hk.1⟩)
  | taken added gone new =>
    rw [List.mem_append, not_or] at hk
    rw [List.append_assoc]
    exact .taken _ gone (List.forall_mem_append.2 ⟨new, by simpa using hk.1⟩)

theorem filter_ne_lastingKeys (h : key ∉ lastingKeys) :
    lastingKeys.filter (· ≠ key) = lastingKeys := by
  refine List.filter_eq_self.2 fun other ho => ?_
  simpa using fun heq : other = key => h (heq ▸ ho)

/-- Taking away a key that is not lasting. -/
theorem erase (h : AttributeOrder dropped keys) (hk : key ∉ lastingKeys)
    (hd : key = "dto" → dropped) : AttributeOrder dropped (keys.filter (· ≠ key)) := by
  cases h with
  | kept added new =>
    have hnew : ∀ other ∈ added.filter (· ≠ key), other ≠ "dto" ∧ other ∉ lastingKeys :=
      fun other ho => new other (List.mem_filter.1 ho).1
    rw [List.filter_append, List.filter_append, filter_ne_lastingKeys hk]
    by_cases hdto : key = "dto"
    · rw [hdto] at hnew ⊢
      exact .taken _ (hd hdto) fun other ho => (hnew other ho).2
    · have hfirst : ["dto"].filter (· ≠ key) = ["dto"] := by simp [Ne.symm hdto]
      rw [hfirst]
      exact .kept _ hnew
  | taken added gone new =>
    rw [List.filter_append, filter_ne_lastingKeys hk]
    exact .taken _ gone fun other ho => new other (List.mem_filter.1 ho).1

end AttributeOrder

theorem AttributeOrder.set {dropped : Prop} {r : EntityRecord}
    (h : AttributeOrder dropped r.attributes.keys) (key : String) (value : Json) :
    AttributeOrder dropped (r.set key value).attributes.keys := by
  rw [EntityRecord.set, Dict.keys_insert]
  split
  · exact h
  · rename_i hk
    exact h.append hk

theorem AttributeOrder.remove {dropped : Prop} {r : EntityRecord} {key : String}
    (h : AttributeOrder dropped r.attributes.keys) (hk : key ∉ lastingKeys)
    (hd : key = "dto" → dropped) : AttributeOrder dropped (r.remove key).attributes.keys := by
  rw [EntityRecord.remove, Dict.keys_erase]
  exact h.erase hk hd

end EntityRecord

open EntityRecord (AttributeOrder lastingKeys)

/-! ## One visit -/

/-- Only an option of the catalogue takes a key away, and none of those is lasting. -/
theorem EntityOption.outputKey_of_removes {o : EntityOption} (h : o.outputValue = none) :
    o.outputKey ∉ lastingKeys ∧ (o.outputKey = "dto" → o.name = "dto" ∧ o.value = none) := by
  have hall : ∀ rule ∈ OptionRule.all, rule.value = .optionValue →
      rule.outputKey ∉ lastingKeys ∧
        (rule.outputKey = "dto" → rule.aliases = [] ∧ rule.name = "dto") := by decide
  unfold outputValue at h
  unfold outputKey
  split at h
  · rename_i rule hr
    rcases hv : rule.value with b | _ | _ <;> rw [hv] at h
    · cases h
    · obtain ⟨hlasting, hdto⟩ := hall rule (OptionRule.mem_all_of_ofName? hr) hv
      refine ⟨hlasting, fun hkey => ?_⟩
      obtain ⟨ha, hn⟩ := hdto hkey
      exact ⟨(OptionRule.name_eq_of_ofName? hr ha).trans hn, by simpa [ValueRule.apply] using h⟩
    · cases h
  · cases h

namespace Visit

/-- The option is one of those a graph declares, looked at among its entities. -/
def IsDeclared (v : Visit) : Prop := ∃ o declared, v.option = EntityOption.resolve o declared

/-- The visit applies the option `dto` without a value to the entity. -/
def DropsDto (v : Visit) (entity : String) : Prop :=
  v.errand = .write ∧ v.entity = entity ∧ v.option.option.name = "dto" ∧
    v.option.option.value = none

theorem attributeOrder_change {v : Visit} (hv : v.IsDeclared) {dropped : Prop} {r : EntityRecord}
    (h : AttributeOrder dropped r.attributes.keys) :
    AttributeOrder (dropped ∨ v.DropsDto v.entity) (v.change r).attributes.keys := by
  have h' := h.mono (.inl : dropped → dropped ∨ v.DropsDto v.entity)
  obtain ⟨option, errand, entity⟩ := v
  obtain ⟨o, declared, ho⟩ := hv
  cases errand with
  | write =>
    have hchange : change ⟨option, .write, entity⟩ r = r.put o.outputKey o.outputValue := by
      rw [show option = o.resolve declared from ho]
      rfl
    rw [hchange]
    rcases hvalue : o.outputValue with _ | value
    · obtain ⟨hlasting, hdto⟩ := EntityOption.outputKey_of_removes hvalue
      refine h'.remove hlasting fun hkey => .inr ⟨rfl, rfl, ?_⟩
      rw [show option = o.resolve declared from ho]
      exact hdto hkey
    · exact h'.set o.outputKey value
  | giveService =>
    simp only [change, ResolvedOption.giveService]
    split
    · exact h'.set _ _
    · exact h'
  | leaveOut => exact h'.set _ _

theorem attributeOrder_changeAll {entity : String} {dropped : Prop} : ∀ {vs : List Visit}
    {records : Dict EntityRecord} {r' : EntityRecord}, (∀ v ∈ vs, v.IsDeclared) →
      (∀ r, records.get? entity = some r → AttributeOrder dropped r.attributes.keys) →
      (changeAll vs records).get? entity = some r' →
      AttributeOrder (dropped ∨ ∃ v ∈ vs, v.DropsDto entity) r'.attributes.keys
  | [], records, r', _, h, hr => (h r' hr).mono .inl
  | v :: vs, records, r', hvs, h, hr => by
    obtain ⟨hv, hvs⟩ := List.forall_mem_cons.1 hvs
    have hstep : ∀ r, (records.modify v.entity v.change).get? entity = some r →
        AttributeOrder (dropped ∨ v.DropsDto entity) r.attributes.keys := by
      intro r hr
      rw [Dict.get?_modify] at hr
      split at hr
      · rename_i he
        obtain ⟨r₀, hr₀, rfl⟩ := Option.map_eq_some_iff.1 hr
        subst he
        exact attributeOrder_change hv (h r₀ hr₀)
      · exact (h r hr).mono .inl
    refine (attributeOrder_changeAll hvs hstep hr).mono ?_
    simp only [List.mem_cons, exists_eq_or_imp, or_assoc, imp_self]

end Visit

/-! ## Any number of runs -/

theorem Graph.isDeclared_of_mem_visits {g : Graph} {v : Visit} (h : v ∈ g.visits) :
    v.IsDeclared := by
  obtain ⟨resolved, hr, hv⟩ := List.mem_flatMap.1 h
  obtain ⟨o, -, rfl⟩ := List.mem_map.1 hr
  refine ⟨o, g.entityNames, ?_⟩
  simp only [ResolvedOption.visits, List.mem_append, List.mem_map] at hv
  rcases hv with (⟨name, -, rfl⟩ | ⟨name, -, rfl⟩) | ⟨name, -, rfl⟩ <;> rfl

/-- Records that come of fresh ones by applying the options of graphs, and the visits that have been
made.  A run may have been left after any number of its visits. -/
inductive Reached : List Visit → Dict EntityRecord → Prop
  | fresh (records : Dict EntityRecord)
      (fresh : ∀ entity r, records.get? entity = some r →
        ∃ name table date doc, r = .fresh name table date doc) : Reached [] records
  | run (g : Graph) (n : Nat) {visits : List Visit} {records : Dict EntityRecord}
      (before : Reached visits records) :
      Reached (visits ++ (g.visitsMade records.keys).take n)
        (Visit.changeAll ((g.visitsMade records.keys).take n) records)

theorem Reached.applyOptions {visits : List Visit} {s : Sheet} (h : Reached visits s.records)
    (g : Graph) : Reached (visits ++ g.visitsMade s.records.keys) (g.applyOptions s).sheet.records := by
  have hrun := Reached.run g (g.visitsMade s.records.keys).length h
  rwa [List.take_length, Graph.visitsMade, ← (g.makes_applyOptions s).records] at hrun

theorem Reached.isDeclared {visits : List Visit} {records : Dict EntityRecord}
    (h : Reached visits records) : ∀ v ∈ visits, v.IsDeclared := by
  induction h with
  | fresh => simp
  | run g n _ ih =>
    refine List.forall_mem_append.2 ⟨ih, fun v hv => ?_⟩
    exact g.isDeclared_of_mem_visits ((List.takeWhile_prefix _).subset (List.mem_of_mem_take hv))

/-- A run of options brings records that are reached to records that are reached, whether it
succeeds or stops at an unknown name.  The keys of the attributes of each are distinct and in the
order that fresh records give the lasting ones, and `dto` is before them unless an option `dto`
without a value has visited the entity. -/
theorem attributeOrder_of_reached {visits : List Visit} {records : Dict EntityRecord}
    (h : Reached visits records) :
    (∀ (g : Graph) (log : List Notice), Reached (visits ++ g.visitsMade records.keys)
        (g.applyOptions ⟨records, log⟩).sheet.records) ∧
      ∀ entity r, records.get? entity = some r → r.attributes.keys.Nodup ∧
        AttributeOrder (∃ v ∈ visits, v.DropsDto entity) r.attributes.keys := by
  refine ⟨fun g log => Reached.applyOptions (s := ⟨records, log⟩) h g,
    fun entity r hr => ⟨r.attributes.nodup, ?_⟩⟩
  induction h generalizing r with
  | fresh records fresh =>
    obtain ⟨name, table, date, doc, rfl⟩ := fresh entity r hr
    have hkeys : (EntityRecord.fresh name table date doc).attributes.keys
        = ["dto"] ++ lastingKeys ++ [] := by
      rw [List.append_nil]
      exact EntityRecord.keys_defaultAttributes
    rw [hkeys]
    exact .kept [] (by simp)
  | run g n before ih =>
    have hdeclared := fun v hv => (Reached.run g n before).isDeclared v (List.mem_append_right _ hv)
    refine (Visit.attributeOrder_changeAll hdeclared ih hr).mono ?_
    rintro (⟨v, hv, hdrops⟩ | ⟨v, hv, hdrops⟩)
    · exact ⟨v, List.mem_append_left _ hv, hdrops⟩
    · exact ⟨v, List.mem_append_right _ hv, hdrops⟩

/-- Invoices lose their `dto` and get it back behind another key, before an unknown name stops the
run. -/
def Graph.dropping : Graph where
  entities := [.named "Invoice", .named "Customer"]
  options :=
    [{ name := "dto", entityNames := .ofList ["Invoice"] },
     { name := "audited", entityNames := .ofList ["*"] },
     { name := "dto", entityNames := .ofList ["Invoice", "Ghost"], value := some "mapstruct" },
     { name := "angularSuffix", entityNames := .ofList ["*"], value := some "x" }]

theorem attributeOrder_of_reached_dropping :
    (Graph.dropping.applyOptions Graph.billingSheet).failure = some (.inOption "dto" "Ghost") ∧
      Reached (Graph.dropping.visitsMade ["Customer", "Invoice"])
        (Graph.dropping.applyOptions Graph.billingSheet).sheet.records ∧
      ∃ invoice : EntityRecord,
        (Graph.dropping.applyOptions Graph.billingSheet).sheet.records.get? "Invoice" = some invoice ∧
        invoice.attributes.keys = lastingKeys ++ ["audited", "dto"] ∧
        AttributeOrder (∃ v ∈ Graph.dropping.visitsMade ["Customer", "Invoice"],
          v.DropsDto "Invoice") invoice.attributes.keys := by
  have hlist : Graph.billingSheet.records.toList
      = [("Customer", .fresh "Customer" "customer" "20200101000000" none),
        ("Invoice", .fresh "Invoice" "invoice" "20200101000001" none)] := by decide +kernel
  have hkeys : Graph.billingSheet.records.keys = ["Customer", "Invoice"] := by decide +kernel
  have hfresh : Reached [] Graph.billingSheet.records := by
    refine .fresh _ fun entity r hr => ?_
    rw [Dict.get?_eq_some_iff, hlist] at hr
    simp only [List.mem_cons, Prod.mk.injEq, List.not_mem_nil, or_false] at hr
    rcases hr with ⟨-, rfl⟩ | ⟨-, rfl⟩
    · exact ⟨_, _, _, _, rfl⟩
    · exact ⟨_, _, _, _, rfl⟩
  have hrun := (attributeOrder_of_reached hfresh).1 Graph.dropping []
  rw [List.nil_append, hkeys] at hrun
  obtain ⟨invoice, hinvoice, horder⟩ : ∃ invoice : EntityRecord,
      (Graph.dropping.applyOptions Graph.billingSheet).sheet.records.get? "Invoice" = some invoice ∧
        invoice.attributes.keys = lastingKeys ++ ["audited", "dto"] := by
    refine ⟨_, Option.some_get ?_ |>.symm, ?_⟩ <;> decide +kernel
  exact ⟨by decide +kernel, hrun, invoice, hinvoice, horder,
    ((attributeOrder_of_reached hrun).2 "Invoice" invoice hinvoice).2⟩

end DomainModel
