import DomainModel.Proofs.OptionNames

/-!
# What options do to one entity

Options are applied one after the other to all entities, each in up to three visits, and a wildcard
may name an entity several times.  For one entity this comes to much less: every change made in a
visit can be made again without further effect, so an option does to the entity what its `Touch`
says, once, and a successful run is the run of the touches on the entity's own record
(`get?_applyOptions`).
-/

namespace DomainModel

/-! ## One visit -/

/-- The names that a visit comes to before it stops. -/
def reached (known names : List String) : List String :=
  names.takeWhile fun name => !isUnknown known name

theorem reached_of_find? {known names : List String}
    (h : names.find? (isUnknown known) = none) : reached known names = names := by
  induction names with
  | nil => rfl
  | cons name names ih =>
    have hn := List.find?_eq_none.1 h name List.mem_cons_self
    have ht : names.find? (isUnknown known) = none :=
      List.find?_eq_none.2 fun x hx => List.find?_eq_none.1 h x (List.mem_cons_of_mem _ hx)
    rw [reached, List.takeWhile_cons_of_pos (by simpa using hn), ← reached, ih ht]

/-- A visit whose change can be made again without effect changes the record of each name that it
comes to, once, and no other record. -/
theorem Sheet.get?_visit (option : String)
    {change : String → EntityRecord → EntityRecord × List Notice}
    (hc : ∀ name r, (change name (change name r).1).1 = (change name r).1) (entity : String) :
    ∀ (names : List String) (s : Sheet),
      (visit option change names s).sheet.records.get? entity
        = (s.records.get? entity).map fun r =>
          if entity ∈ reached s.records.keys names then (change entity r).1 else r
  | [], s => by simp [visit, reached]
  | name :: names, s => by
    simp only [visit]
    split
    · rename_i record h
      have hmem := Dict.mem_keys_of_get? h
      rw [get?_visit option hc entity names, Dict.keys_insert_of_mem hmem, Dict.get?_insert]
      have hr : reached s.records.keys (name :: names) = name :: reached s.records.keys names := by
        simp [reached, isUnknown_of_mem hmem]
      rw [hr]
      by_cases he : entity = name
      · subst he
        -- the name may come again later, but then the change has no further effect
        simp only [if_true, h, Option.map_some, List.mem_cons, true_or, hc, ite_self]
      · simp only [he, if_false, List.mem_cons, false_or]
    · rename_i h
      have hmem := Dict.get?_eq_none_iff.1 h
      split
      · rename_i hb
        have hr : reached s.records.keys (name :: names)
            = name :: reached s.records.keys names := by
          simp [reached, isUnknown_eq_false_iff.2 (.inr hb)]
        rw [get?_visit option hc entity names, hr]
        by_cases he : entity = name
        · subst he
          simp only [h, Option.map_none]
        · simp only [he, List.mem_cons, false_or]
      · rename_i hb
        have hr : reached s.records.keys (name :: names) = [] := by
          simp [reached, isUnknown, hmem, hb]
        simp [hr]

/-! ## One option -/

namespace EntityRecord

theorem put_put (r : EntityRecord) (key : String) (value : Option Json) :
    (r.put key value).put key value = r.put key value := by
  cases value with
  | none => simp [put, remove, Dict.erase_erase]
  | some v => simp [put, set, Dict.insert_insert]

theorem put_eq (r : EntityRecord) (key : String) (value : Option Json) :
    r.put key value = { r with attributes := (r.put key value).attributes } := by
  cases value <;> rfl

theorem get?_set (r : EntityRecord) (key key' : String) (value : Json) :
    (r.set key value).get? key' = if key' = key then some value else r.get? key' :=
  Dict.get?_insert r.attributes key key' value

end EntityRecord

namespace ResolvedOption

variable (o : ResolvedOption)

theorem write_write (name : String) (r : EntityRecord) :
    (o.write name (o.write name r).1).1 = (o.write name r).1 :=
  r.put_put o.key o.value

/-- An entity that has been given a service is not given one again. -/
theorem giveService_giveService (name : String) (r : EntityRecord) :
    (o.giveService name (o.giveService name r).1).1 = (o.giveService name r).1 := by
  unfold giveService
  by_cases h : r.get? "service" = some EntityRecord.off
  · have hs : (r.set "service" (.string EntityRecord.serviceClass)).get? "service"
        ≠ some EntityRecord.off := by
      rw [EntityRecord.get?_set, if_pos rfl]
      decide
    simp [h, hs]
  · simp [h]

theorem leaveOutOfSearch_leaveOutOfSearch (name : String) (r : EntityRecord) :
    (leaveOutOfSearch name (leaveOutOfSearch name r).1).1 = (leaveOutOfSearch name r).1 :=
  r.put_put "searchEngine" (some (.bool false))

/-- What the option does to the record of an entity if nothing stops it. -/
def effect (entity : String) (r : EntityRecord) : EntityRecord :=
  let written := if entity ∈ o.entityNames then (o.write entity r).1 else r
  let served :=
    if entity ∈ (if o.requiresService then o.entityNames else []) then
      (o.giveService entity written).1
    else written
  if entity ∈ (if o.excludesFromSearch then o.option.excludedNames.toList else []) then
    (leaveOutOfSearch entity served).1
  else served

theorem get?_apply {s : Sheet} (h : (o.apply s).failure = none) (entity : String) :
    (o.apply s).sheet.records.get? entity = (s.records.get? entity).map (o.effect entity) := by
  simp only [apply] at h ⊢
  rw [Attempt.failure_andThen, Option.or_eq_none_iff, Attempt.failure_andThen,
    Option.or_eq_none_iff] at h
  obtain ⟨⟨hw, hg⟩, hl⟩ := h
  rw [Attempt.andThen_of_none hw] at hl ⊢
  rw [Attempt.andThen_of_none hg]
  rw [Sheet.failure_visit, Option.map_eq_none_iff] at hw hg hl
  rw [Sheet.get?_visit _ leaveOutOfSearch_leaveOutOfSearch,
    Sheet.get?_visit _ o.giveService_giveService, Sheet.get?_visit _ o.write_write,
    reached_of_find? hw, reached_of_find? hg, reached_of_find? hl]
  cases s.records.get? entity <;> rfl

theorem get?_applyAll (entity : String) : ∀ {os : List ResolvedOption} {s : Sheet},
    (applyAll os s).failure = none → (applyAll os s).sheet.records.get? entity
      = (s.records.get? entity).map fun r => os.foldl (fun r o => o.effect entity r) r
  | [], s, _ => by simp [applyAll]
  | o :: os, s, h => by
    rw [applyAll, Attempt.failure_andThen, Option.or_eq_none_iff] at h
    rw [applyAll, Attempt.andThen_of_none h.1, get?_applyAll entity h.2, o.get?_apply h.1]
    simp only [Option.map_map, Function.comp_def, List.foldl_cons]

end ResolvedOption

/-! ## Touches -/

/-- What an option has to do with one entity. -/
structure Touch where
  name : String
  value : Option String
  /-- Whether the option is for the entity. -/
  isTarget : Bool
  /-- Whether the option is the search option and excludes the entity. -/
  isLeftOut : Bool
  deriving DecidableEq, Repr

namespace Touch

/-- Whether the option has anything to do with the entity. -/
def matters (t : Touch) : Bool := t.isTarget || t.isLeftOut

/-- The option, as far as it matters to the entity what the option writes. -/
def option (t : Touch) : EntityOption := { name := t.name, value := t.value }

/-- Writes the key of the option, or takes it away, if the option is for the entity. -/
def write (t : Touch) (r : EntityRecord) : EntityRecord :=
  if t.isTarget then r.put t.option.outputKey t.option.outputValue else r

/-- Gives a service to an entity without one, if it gets data transfer objects or filters. -/
def giveService (t : Touch) (r : EntityRecord) : EntityRecord :=
  if t.isTarget ∧ (t.name = "dto" ∨ t.name = "filter")
      ∧ r.get? "service" = some (.string "no") then
    r.set "service" (.string "serviceClass")
  else r

/-- Switches the search off for an entity that is left out of it. -/
def leaveOut (t : Touch) (r : EntityRecord) : EntityRecord :=
  if t.isLeftOut then r.set "searchEngine" (.bool false) else r

/-- What the option does to the record of the entity. -/
def apply (t : Touch) (r : EntityRecord) : EntityRecord := t.leaveOut (t.giveService (t.write r))

/-- What options do to the record of the entity one after the other. -/
def applyAll (ts : List Touch) (r : EntityRecord) : EntityRecord :=
  ts.foldl (fun r t => t.apply r) r

theorem apply_of_not_matters {t : Touch} (h : t.matters = false) (r : EntityRecord) :
    t.apply r = r := by
  obtain ⟨ht, hl⟩ := Bool.or_eq_false_iff.1 h
  simp [apply, leaveOut, giveService, write, ht, hl]

theorem applyAll_filter_matters (ts : List Touch) (r : EntityRecord) :
    applyAll (ts.filter matters) r = applyAll ts r := by
  induction ts generalizing r with
  | nil => rfl
  | cons t ts ih =>
    rw [List.filter_cons]
    split
    · exact ih _
    · rename_i h
      rw [ih, applyAll, applyAll, List.foldl_cons, apply_of_not_matters (by simpa using h)]

/-- Only the attributes of a record change. -/
theorem apply_eq (t : Touch) (r : EntityRecord) :
    t.apply r = { r with attributes := (t.apply r).attributes } := by
  have hw : t.write r = { r with attributes := (t.write r).attributes } := by
    unfold write
    split
    · exact r.put_eq _ _
    · rfl
  have hg : ∀ r, t.giveService r = { r with attributes := (t.giveService r).attributes } := by
    intro r
    unfold giveService
    split <;> rfl
  have hl : ∀ r, t.leaveOut r = { r with attributes := (t.leaveOut r).attributes } := by
    intro r
    unfold leaveOut
    split <;> rfl
  rw [apply, hl, hg, hw]

theorem applyAll_eq (ts : List Touch) (r : EntityRecord) :
    applyAll ts r = { r with attributes := (applyAll ts r).attributes } := by
  induction ts generalizing r with
  | nil => rfl
  | cons t ts ih =>
    rw [applyAll, List.foldl_cons, ← applyAll, ih, apply_eq]

end Touch

/-- What the option has to do with an entity. -/
def EntityOption.touch (o : EntityOption) (declared : List String) (entity : String) : Touch where
  name := o.name
  value := o.value
  isTarget := entity ∈ o.targets declared
  isLeftOut := o.name = "search" ∧ entity ∈ o.excludedNames

/-- What an option comes to does to an entity what its touch says. -/
theorem EntityOption.effect_resolve (o : EntityOption) (declared : List String) (entity : String)
    (r : EntityRecord) :
    (o.resolve declared).effect entity r = (o.touch declared entity).apply r := by
  have hw : (if entity ∈ (o.resolve declared).entityNames then
      ((o.resolve declared).write entity r).1 else r) = (o.touch declared entity).write r := by
    simp only [Touch.write, touch, decide_eq_true_eq]
    rfl
  have hg : ∀ r, (if (o.name = "dto" ∨ o.name = "filter")
        ∧ entity ∈ (o.resolve declared).entityNames then
      ((o.resolve declared).giveService entity r).1 else r)
        = (o.touch declared entity).giveService r := by
    intro r
    simp only [ResolvedOption.giveService, Touch.giveService, touch, resolve, EntityRecord.off,
      EntityRecord.serviceClass, decide_eq_true_eq]
    by_cases ht : entity ∈ o.targets declared
    · by_cases hn : o.name = "dto" ∨ o.name = "filter"
      · simp only [ht, hn, true_and, if_true]
        by_cases hs : r.get? "service" = some (.string "no") <;> simp only [hs, if_true, if_false]
      · simp only [hn, false_and, and_false, if_false]
    · simp only [ht, false_and, and_false, if_false]
  have hl : ∀ r, (if o.name = "search" ∧ entity ∈ (o.resolve declared).option.excludedNames.toList
      then (ResolvedOption.leaveOutOfSearch entity r).1 else r)
        = (o.touch declared entity).leaveOut r := by
    intro r
    simp only [Touch.leaveOut, touch, decide_eq_true_eq]
    rfl
  simp only [ResolvedOption.effect, hw, List.mem_ite_nil_right, requiresService_resolve, hg,
    excludesFromSearch_resolve, hl, Touch.apply]

/-- What the options of a graph have to do with an entity, in order; options that have nothing to
do with it are left out. -/
def Graph.touches (g : Graph) (entity : String) : List Touch :=
  (g.options.map (·.touch g.entityNames entity)).filter Touch.matters

namespace Graph

/-- What a successful run of the options leaves of the record of an entity is what the touches make
of it, one after the other. -/
theorem get?_applyOptions {g : Graph} {s : Sheet} (h : (g.applyOptions s).failure = none)
    (entity : String) :
    (g.applyOptions s).sheet.records.get? entity
      = (s.records.get? entity).map (Touch.applyAll (g.touches entity)) := by
  -- both sides are folds over the options, in one of which some steps are left out
  rw [applyOptions, ResolvedOption.get?_applyAll entity h]
  congr 1
  funext r
  rw [touches, Touch.applyAll_filter_matters, Touch.applyAll, resolveOptions, List.foldl_map,
    List.foldl_map]
  simp only [EntityOption.effect_resolve]

/-- Options are independent between entities.  A successful run keeps the records in their order,
and gives each entity what the options that touch it make of its own record alone, which is the
record it had but for the attributes.  Two runs in which an entity starts with the same record and
is touched alike end with the same record for it. -/
theorem applyOptions_independent {g : Graph} {s : Sheet}
    (h : (g.applyOptions s).failure = none) :
    (g.applyOptions s).sheet.records.keys = s.records.keys ∧
      ∀ entity before, s.records.get? entity = some before → ∃ after : EntityRecord,
        (g.applyOptions s).sheet.records.get? entity = some after ∧
        after = Touch.applyAll (g.touches entity) before ∧
        after = { before with attributes := after.attributes } ∧
        ∀ (g' : Graph) (s' : Sheet), (g'.applyOptions s').failure = none →
          s'.records.get? entity = some before → g'.touches entity = g.touches entity →
          (g'.applyOptions s').sheet.records.get? entity = some after := by
  refine ⟨g.keys_applyOptions s, fun entity before hb => ?_⟩
  refine ⟨Touch.applyAll (g.touches entity) before, ?_, rfl, Touch.applyAll_eq _ _, ?_⟩
  · rw [get?_applyOptions h, hb, Option.map_some]
  · intro g' s' h' hb' ht
    rw [get?_applyOptions h', hb', ht, Option.map_some]

/-- Invoices are declared twice, so that a wildcard names them twice, and three options overlap. -/
def billing : Graph where
  entities := [.named "Invoice", .named "Customer", .named "User", .named "Invoice"]
  options :=
    [{ name := "dto", entityNames := .ofList ["*"], value := some "mapstruct" },
     { name := "search", entityNames := .ofList ["*"], excludedNames := .ofList ["Invoice"] },
     { name := "dto", entityNames := .ofList ["Invoice", "User"] }]

/-- The same options on invoices, and others on customers before and between them. -/
def billingAndCustomers : Graph :=
  { billing with
    options := { name := "service", entityNames := .ofList ["Customer"] } :: billing.options
      ++ [{ name := "filter", entityNames := .ofList ["Customer"] }] }

/-- Records of the two entities as they are before options. -/
def billingSheet : Sheet where
  records := .ofList
    [("Customer", .fresh "Customer" "customer" "20200101000000" none),
     ("Invoice", .fresh "Invoice" "invoice" "20200101000001" none)]
  log := []

theorem applyOptions_independent_billing :
    (billing.applyOptions billingSheet).failure = none ∧
      (billingAndCustomers.applyOptions billingSheet).failure = none ∧
      billingAndCustomers.touches "Invoice" = billing.touches "Invoice" ∧
      (billing.touches "Invoice").length = 3 ∧
      (billing.applyOptions billingSheet).sheet.records.keys = ["Customer", "Invoice"] ∧
      ∃ after : EntityRecord,
        (billing.applyOptions billingSheet).sheet.records.get? "Invoice" = some after ∧
        (billingAndCustomers.applyOptions billingSheet).sheet.records.get? "Invoice" = some after ∧
        after.attributes.toList
          = [("service", .string "serviceClass"), ("pagination", .string "no"),
            ("jpaMetamodelFiltering", .bool false), ("fluentMethods", .bool true),
            ("readOnly", .bool false), ("embedded", .bool false), ("clientRootFolder", .string ""),
            ("searchEngine", .bool false)] := by
  have hg : (billing.applyOptions billingSheet).failure = none := by decide +kernel
  have hg' : (billingAndCustomers.applyOptions billingSheet).failure = none := by decide +kernel
  have ht : billingAndCustomers.touches "Invoice" = billing.touches "Invoice" := by
    decide +kernel
  obtain ⟨hk, h⟩ := applyOptions_independent hg
  obtain ⟨after, ha, heq, -, hsame⟩ :=
    h "Invoice" (.fresh "Invoice" "invoice" "20200101000001" none) (by decide +kernel)
  refine ⟨hg, hg', ht, by decide +kernel, hk.trans (by decide +kernel), after, ha, ?_, ?_⟩
  · exact hsame billingAndCustomers billingSheet hg' (by decide +kernel) ht
  · rw [heq]
    decide +kernel

end Graph

end DomainModel
