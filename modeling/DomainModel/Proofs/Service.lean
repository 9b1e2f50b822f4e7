import DomainModel.Proofs.AttributeWrites

/-!
# The service of an entity

Two kinds of options write the service: those of that name, and the options for data transfer
objects and filters, which give a service to an entity that has none.  The latter look at what was
there before, so the order counts: the last option named service settles the value, and if it
switches the service off, an option of the other kind after it switches it on again
(`Graph.service_of_applyOptions`).  Every service that is given is noticed, and as long as no option
is named service nothing else writes it, so the notices on an entity and its service still switched
off are together always as many (`Sheet.Accounts`).
-/

namespace DomainModel

theorem exists_last {α : Type} (p : α → Prop) : ∀ as : List α, (∀ a ∈ as, ¬ p a) ∨
    ∃ before a after, as = before ++ a :: after ∧ p a ∧ ∀ a' ∈ after, ¬ p a'
  | [] => .inl (by simp)
  | a :: as => by
    rcases exists_last p as with hnone | ⟨before, a', after, rfl, ha', hafter⟩
    · by_cases ha : p a
      · exact .inr ⟨[], a, as, rfl, ha, hnone⟩
      · exact .inl (by simpa [ha] using hnone)
    · exact .inr ⟨a :: before, a', after, rfl, ha', hafter⟩

/-! ## The value of the service -/

namespace EntityOption

/-- The value of the option, or true if it has none or an empty one. -/
def plainValue (o : EntityOption) : Json :=
  ((o.value.filter (· ≠ "")).map .string).getD (.bool true)

/-- The option gives a service to entities that have none. -/
def GivesService (o : EntityOption) : Prop := o.name = "dto" ∨ o.name = "filter"

instance (o : EntityOption) : Decidable o.GivesService := inferInstanceAs (Decidable (_ ∨ _))

theorem service_eq_outputKey_iff (o : EntityOption) :
    "service" = o.outputKey ↔ o.name = "service" :=
  o.outputKey_eq_iff_of_free (by decide) (by decide)

theorem outputValue_of_service {o : EntityOption} (h : o.name = "service") :
    o.outputValue = some o.plainValue := by
  have hrule : OptionRule.ofName? "service" = none := by decide
  rw [outputValue, h, hrule]
  rfl

end EntityOption

namespace Touch

/-- The option writes the service of the entity. -/
def SetsService (t : Touch) : Prop := t.isTarget = true ∧ t.name = "service"

/-- The option gives the entity a service if it has none. -/
def GivesService (t : Touch) : Prop := t.isTarget = true ∧ t.option.GivesService

instance (t : Touch) : Decidable t.GivesService := inferInstanceAs (Decidable (_ ∧ _))

variable {t : Touch} {r : EntityRecord}

theorem get?_service_of_sets (h : t.SetsService) :
    (t.apply r).get? "service" = some t.option.plainValue := by
  obtain ⟨ht, hn⟩ := h
  have hgive : t.giveService (t.write r) = t.write r := if_neg (by simp [hn])
  rw [apply, get?_leaveOut, if_neg (by simp), hgive, get?_write,
    if_pos ⟨ht, t.option.service_eq_outputKey_iff.2 hn⟩, EntityOption.outputValue_of_service hn]

/-- An option of another name writes the service only where it is off. -/
theorem get?_service_of_not_sets {value : Json} (hr : r.get? "service" = some value)
    (h : ¬ t.SetsService) : (t.apply r).get? "service" =
      some (if value = EntityRecord.off ∧ t.GivesService then .string EntityRecord.serviceClass
        else value) := by
  have hwrite : (t.write r).get? "service" = some value := by
    rw [get?_write, if_neg (by rwa [t.option.service_eq_outputKey_iff]), hr]
  rw [apply, get?_leaveOut, if_neg (by simp), giveService, hwrite]
  by_cases hgives : value = EntityRecord.off ∧ t.GivesService
  · obtain ⟨hoff, ht, hn⟩ := hgives
    rw [if_pos ⟨ht, hn, congrArg some hoff⟩, EntityRecord.get?_set, if_pos rfl,
      if_pos ⟨hoff, ht, hn⟩]
    rfl
  · rw [if_neg hgives, if_neg, hwrite]
    rintro ⟨ht, hn, hoff⟩
    exact hgives ⟨Option.some.inj hoff, ht, hn⟩

/-- Where no option writes the service, the first that gives one does so, and no other. -/
theorem get?_service_of_none_sets : ∀ {ts : List Touch} {r : EntityRecord} {value : Json},
    r.get? "service" = some value → (∀ t ∈ ts, ¬ t.SetsService) →
    (applyAll ts r).get? "service" =
      some (if value = EntityRecord.off ∧ ∃ t ∈ ts, t.GivesService then
        .string EntityRecord.serviceClass
      else value)
  | [], r, value, hr, _ => by simpa [applyAll] using hr
  | t :: ts, r, value, hr, h => by
    obtain ⟨ht, hts⟩ := List.forall_mem_cons.1 h
    have hclass : Json.string EntityRecord.serviceClass ≠ EntityRecord.off := by decide
    rw [applyAll, List.foldl_cons, ← applyAll,
      get?_service_of_none_sets (get?_service_of_not_sets hr ht) hts]
    by_cases hoff : value = EntityRecord.off
    · by_cases hg : t.GivesService <;> simp [hoff, hg, hclass]
    · simp [hoff]

end Touch

namespace Graph

/-- The last option named service that is for the entity writes `value`, and the options `later`
come after it.  Without such an option the service is off, and all options come after that. -/
inductive LastService (g : Graph) (entity : String) : Json → List EntityOption → Prop
  | written (earlier : List EntityOption) (o : EntityOption) (later : List EntityOption)
      (split : g.options = earlier ++ o :: later) (name : o.name = "service")
      (target : entity ∈ o.targets g.entityNames)
      (last : ∀ o' ∈ later, o'.name = "service" → entity ∉ o'.targets g.entityNames) :
      LastService g entity o.plainValue later
  | unwritten (none : ∀ o ∈ g.options, o.name = "service" → entity ∉ o.targets g.entityNames) :
      LastService g entity EntityRecord.off g.options

variable {g : Graph} {entity : String}

theorem setsService_touch_iff {o : EntityOption} :
    (o.touch g.entityNames entity).SetsService ↔
      o.name = "service" ∧ entity ∈ o.targets g.entityNames := by
  simp [Touch.SetsService, EntityOption.touch, and_comm]

theorem givesService_touch_iff {o : EntityOption} :
    (o.touch g.entityNames entity).GivesService ↔
      o.GivesService ∧ entity ∈ o.targets g.entityNames := by
  simp [Touch.GivesService, Touch.option, EntityOption.GivesService, EntityOption.touch, and_comm]

theorem exists_lastService (g : Graph) (entity : String) :
    ∃ value later, g.LastService entity value later := by
  rcases exists_last (fun o => o.name = "service" ∧ entity ∈ o.targets g.entityNames) g.options
    with hnone | ⟨earlier, o, later, hsplit, ⟨hn, ht⟩, hlast⟩
  · exact ⟨_, _, .unwritten fun o ho hn ht => hnone o ho ⟨hn, ht⟩⟩
  · exact ⟨_, _, .written earlier o later hsplit hn ht fun o' ho' hn ht => hlast o' ho' ⟨hn, ht⟩⟩

/-- What the options make of the service of an entity whose service is off. -/
theorem get?_service_touches {before : EntityRecord}
    (hoff : before.get? "service" = some EntityRecord.off) {value : Json}
    {later : List EntityOption} (h : g.LastService entity value later) :
    (Touch.applyAll (g.touches entity) before).get? "service" = some
      (if value = EntityRecord.off ∧
          ∃ o ∈ later, o.GivesService ∧ entity ∈ o.targets g.entityNames then
        .string EntityRecord.serviceClass
      else value) := by
  -- after the last write only options that give a service are left
  have hrun : ∀ (r : EntityRecord) (os : List EntityOption), r.get? "service" = some value →
      (∀ o ∈ os, o.name = "service" → entity ∉ o.targets g.entityNames) →
      (Touch.applyAll (os.map (·.touch g.entityNames entity)) r).get? "service" = some
        (if value = EntityRecord.off ∧
            ∃ o ∈ os, o.GivesService ∧ entity ∈ o.targets g.entityNames then
          .string EntityRecord.serviceClass
        else value) := by
    intro r os hr hlast
    rw [Touch.get?_service_of_none_sets hr]
    · have hmap : (∃ t ∈ os.map (·.touch g.entityNames entity), t.GivesService) ↔
          ∃ o ∈ os, o.GivesService ∧ entity ∈ o.targets g.entityNames := by
        simp only [← givesService_touch_iff, List.mem_map]
        exact ⟨fun ⟨_, ⟨o, ho, ht⟩, hg⟩ => ⟨o, ho, ht ▸ hg⟩,
          fun ⟨o, ho, hg⟩ => ⟨_, ⟨o, ho, rfl⟩, hg⟩⟩
      simp only [hmap]
    · rintro t ht hset
      obtain ⟨o, ho, rfl⟩ := List.mem_map.1 ht
      obtain ⟨hn, htarget⟩ := setsService_touch_iff.1 hset
      exact hlast o ho hn htarget
  rw [touches, Touch.applyAll_filter_matters]
  cases h with
  | unwritten hnone => exact hrun before g.options hoff hnone
  | written earlier o later hsplit hn ht hlast =>
    rw [hsplit, List.map_append, List.map_cons, Touch.applyAll, List.foldl_append, List.foldl_cons,
      ← Touch.applyAll, ← Touch.applyAll]
    exact hrun _ later (Touch.get?_service_of_sets (setsService_touch_iff.2 ⟨hn, ht⟩)) hlast

end Graph

/-! ## Notices of services given -/

/-- The entity that a notice is about. -/
def Notice.entity? : Notice → Option String
  | builtInDeclared name | serviceGiven _ name | optionIgnored _ name => some name
  | converting _ _ _ | converted _ _ => none

/-- The notice informs about the entity. -/
def Notice.InformsOn (n : Notice) (entity : String) : Prop :=
  n.level = .info ∧ n.entity? = some entity

instance (n : Notice) (entity : String) : Decidable (n.InformsOn entity) :=
  inferInstanceAs (Decidable (_ ∧ _))

/-- One if the service of the record is off, zero if not. -/
def EntityRecord.serviceOff (r : EntityRecord) : Nat :=
  if r.get? "service" = some off then 1 else 0

namespace Sheet

/-- One if the service of the entity is off, zero if not. -/
def serviceOff (s : Sheet) (entity : String) : Nat :=
  (s.records.get? entity).elim 0 EntityRecord.serviceOff

/-- What was noticed on the way from one sheet to another accounts for the services given to the
entity. -/
def Accounts (entity : String) (s s' : Sheet) : Prop :=
  ∃ emitted, s'.log = s.log ++ emitted ∧
    emitted.countP (·.InformsOn entity) + s'.serviceOff entity = s.serviceOff entity

variable {entity : String} {s s' s'' : Sheet}

theorem Accounts.refl : s.Accounts entity s := ⟨[], by simp⟩

theorem Accounts.trans (h : s.Accounts entity s') (h' : s'.Accounts entity s'') :
    s.Accounts entity s'' := by
  obtain ⟨emitted, hlog, hcount⟩ := h
  obtain ⟨emitted', hlog', hcount'⟩ := h'
  refine ⟨emitted ++ emitted', by rw [hlog', hlog, List.append_assoc], ?_⟩
  rw [List.countP_append]
  omega

/-- Going on accounts for everything, if each part does. -/
theorem Accounts.andThen {a : Attempt} {next : Sheet → Attempt} (h : s.Accounts entity a.sheet)
    (hnext : ∀ s' : Sheet, s'.Accounts entity (next s').sheet) :
    s.Accounts entity (a.andThen next).sheet := by
  unfold Attempt.andThen
  split
  · exact h.trans (hnext a.sheet)
  · exact h

/-- A change of a record accounts for the service of the entity. -/
def ChangeAccounts (entity : String)
    (change : String → EntityRecord → EntityRecord × List Notice) : Prop :=
  ∀ name r, (change name r).2.countP (·.InformsOn entity)
    + (if name = entity then (change name r).1.serviceOff else 0)
      = if name = entity then r.serviceOff else 0

theorem accounts_visit (option : String)
    {change : String → EntityRecord → EntityRecord × List Notice}
    (hc : ChangeAccounts entity change) : ∀ (names : List String) (s : Sheet),
      s.Accounts entity (visit option change names s).sheet
  | [], s => .refl
  | name :: names, s => by
    simp only [visit]
    split
    · rename_i record hr
      refine Accounts.trans ?_ (accounts_visit option hc names _)
      have hstep := hc name record
      refine ⟨(change name record).2, rfl, ?_⟩
      by_cases hn : name = entity
      · subst hn
        simpa [serviceOff, hr, Dict.get?_insert_self] using hstep
      · simpa [serviceOff, Dict.get?_insert, hn, Ne.symm hn] using hstep
    · split
      · refine Accounts.trans ?_ (accounts_visit option hc names _)
        exact ⟨_, rfl, by simp [serviceOff, Notice.InformsOn, Notice.level]⟩
      · exact .refl

end Sheet

namespace ResolvedOption

variable (entity : String) (o : ResolvedOption)

theorem changeAccounts_write (h : o.key ≠ "service") :
    Sheet.ChangeAccounts entity o.write := by
  intro name r
  simp [write, EntityRecord.serviceOff, EntityRecord.get?_put, h.symm]

theorem changeAccounts_giveService : Sheet.ChangeAccounts entity o.giveService := by
  intro name r
  unfold giveService
  by_cases hoff : r.get? "service" = some EntityRecord.off
  · have hclass : Json.string EntityRecord.serviceClass ≠ EntityRecord.off := by decide
    by_cases hn : name = entity <;>
      simp [EntityRecord.serviceOff, EntityRecord.get?_set, hoff, hclass, hn, Notice.InformsOn,
        Notice.level, Notice.entity?]
  · simp [hoff]

theorem changeAccounts_leaveOutOfSearch : Sheet.ChangeAccounts entity leaveOutOfSearch := by
  intro name r
  simp [leaveOutOfSearch, EntityRecord.serviceOff, EntityRecord.get?_set]

theorem accounts_apply (h : o.key ≠ "service") (s : Sheet) :
    s.Accounts entity (o.apply s).sheet :=
  ((Sheet.accounts_visit _ (o.changeAccounts_write entity h) _ s).andThen
    (Sheet.accounts_visit _ (o.changeAccounts_giveService entity) _)).andThen
    (Sheet.accounts_visit _ (changeAccounts_leaveOutOfSearch entity) _)

theorem accounts_applyAll : ∀ (os : List ResolvedOption) (s : Sheet),
    (∀ o ∈ os, o.key ≠ "service") → s.Accounts entity (applyAll os s).sheet
  | [], s, _ => .refl
  | o :: os, s, h => by
    obtain ⟨ho, hos⟩ := List.forall_mem_cons.1 h
    exact (o.accounts_apply entity ho s).andThen fun s' => accounts_applyAll os s' hos

end ResolvedOption

namespace Graph

/-- As long as no option is named service, whatever stops the run. -/
theorem accounts_applyOptions {g : Graph} (h : ∀ o ∈ g.options, o.name ≠ "service")
    (entity : String) (s : Sheet) : s.Accounts entity (g.applyOptions s).sheet := by
  refine ResolvedOption.accounts_applyAll entity _ s fun o ho hkey => ?_
  obtain ⟨option, hoption, rfl⟩ := List.mem_map.1 ho
  exact h option hoption (option.service_eq_outputKey_iff.1 hkey.symm)

/-- The service of an entity whose record is fresh, after a successful run of the options.  The last
option named service that is for the entity settles it, if there is one; if it is off then, it is
given by an option for data transfer objects or filters that comes after.  Without options named
service one notice is given of that, and otherwise none. -/
theorem service_of_applyOptions {g : Graph} {s : Sheet} (h : (g.applyOptions s).failure = none)
    {entity name table date : String} {doc : Option String}
    (hb : s.records.get? entity = some (.fresh name table date doc)) :
    ∃ after : EntityRecord, (g.applyOptions s).sheet.records.get? entity = some after ∧
      (∃ value later, g.LastService entity value later) ∧
      (∀ value later, g.LastService entity value later → after.get? "service" = some
        (if value = .string "no" ∧
            ∃ o ∈ later, o.GivesService ∧ entity ∈ o.targets g.entityNames then
          .string "serviceClass"
        else value)) ∧
      ((∀ o ∈ g.options, o.name ≠ "service") → ∃ emitted,
        (g.applyOptions s).sheet.log = s.log ++ emitted ∧
        emitted.countP (·.InformsOn entity) =
          if ∃ o ∈ g.options, o.GivesService ∧ entity ∈ o.targets g.entityNames then 1 else 0) := by
  have hoff : (EntityRecord.fresh name table date doc).get? "service" = some EntityRecord.off := rfl
  have hafter : (g.applyOptions s).sheet.records.get? entity
      = some (Touch.applyAll (g.touches entity) (.fresh name table date doc)) := by
    rw [get?_applyOptions h, hb, Option.map_some]
  refine ⟨_, hafter, g.exists_lastService entity,
    fun value later hlast => get?_service_touches hoff hlast, fun hnone => ?_⟩
  obtain ⟨emitted, hlog, hcount⟩ := accounts_applyOptions hnone entity s
  refine ⟨emitted, hlog, ?_⟩
  have hunwritten : g.LastService entity _ _ := .unwritten fun o ho hn => absurd hn (hnone o ho)
  have hvalue := get?_service_touches hoff hunwritten
  rw [Sheet.serviceOff, Sheet.serviceOff, hb, hafter, Option.elim_some, Option.elim_some,
    EntityRecord.serviceOff, EntityRecord.serviceOff, hoff, if_pos rfl] at hcount
  by_cases hgives : ∃ o ∈ g.options, o.GivesService ∧ entity ∈ o.targets g.entityNames
  · have hclass : some (Json.string EntityRecord.serviceClass) ≠ some EntityRecord.off := by decide
    rw [if_pos ⟨rfl, hgives⟩] at hvalue
    rw [hvalue, if_neg hclass] at hcount
    rw [if_pos hgives]
    exact hcount
  · rw [if_neg fun hboth => hgives hboth.2] at hvalue
    rw [hvalue, if_pos rfl] at hcount
    rw [if_neg hgives]
    omega

/-- The service of invoices is written twice and given after that, and the one of customers is
given before it is written. -/
def served : Graph where
  entities := [.named "Invoice", .named "Customer"]
  options :=
    [{ name := "service", entityNames := .ofList ["*"], value := some "serviceImpl" },
     { name := "service", entityNames := .ofList ["Invoice"], value := some "no" },
     { name := "filter", entityNames := .ofList ["*"] },
     { name := "service", entityNames := .ofList ["Customer"], value := some "" }]

theorem service_of_applyOptions_served :
    (served.applyOptions billingSheet).failure = none ∧
      (billing.applyOptions billingSheet).failure = none ∧
      (∃ invoice customer : EntityRecord,
        (served.applyOptions billingSheet).sheet.records.get? "Invoice" = some invoice ∧
        (served.applyOptions billingSheet).sheet.records.get? "Customer" = some customer ∧
        invoice.get? "service" = some (.string "serviceClass") ∧
        customer.get? "service" = some (.bool true)) ∧
      ∃ emitted, (billing.applyOptions billingSheet).sheet.log = billingSheet.log ++ emitted ∧
        emitted.countP (·.InformsOn "Invoice") = 1 := by
  have hserved : (served.applyOptions billingSheet).failure = none := by decide +kernel
  have hbilling : (billing.applyOptions billingSheet).failure = none := by decide +kernel
  have hinvoice : billingSheet.records.get? "Invoice"
      = some (.fresh "Invoice" "invoice" "20200101000001" none) := by decide +kernel
  have hcustomer : billingSheet.records.get? "Customer"
      = some (.fresh "Customer" "customer" "20200101000000" none) := by decide +kernel
  obtain ⟨invoice, hi, -, hivalue, -⟩ := service_of_applyOptions hserved hinvoice
  obtain ⟨customer, hc, -, hcvalue, -⟩ := service_of_applyOptions hserved hcustomer
  obtain ⟨-, -, -, -, hnotices⟩ := service_of_applyOptions hbilling hinvoice
  obtain ⟨emitted, hlog, hcount⟩ := hnotices (by decide)
  have hilast : served.LastService "Invoice" _ _ :=
    .written (served.options.take 1) _ (served.options.drop 2) rfl rfl (by decide) (by decide)
  have hclast : served.LastService "Customer" _ _ :=
    .written (served.options.take 3) _ [] rfl rfl (by decide) (by decide)
  refine ⟨hserved, hbilling, ⟨invoice, customer, hi, hc, ?_, ?_⟩, emitted, hlog,
    hcount.trans (by decide)⟩
  · rw [hivalue _ _ hilast]
    decide
  · rw [hcvalue _ _ hclast]
    decide

end Graph

end DomainModel
