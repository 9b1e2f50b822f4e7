import DomainModel.Proofs.WellFormed

/-!
# The breach that is reported

Of all that is wrong with an entity its check reports one breach.  Attributes come first, and are
reported together; then the fields are gone through, each with its attributes before its
validations, and the first breach found there is wrapped in the name of the entity, and in that of
the field if it is one of a validation.  The check reports exactly that breach
(`Entity.check_iff_firstBreach`), so nothing that comes later matters to it.
-/

namespace DomainModel

/-! ## First breaches -/

/-- The name of an attribute if it has no value. -/
def absentName {α : Type} (name : String) (value : Option α) : List String :=
  if value.isNone then [name] else []

inductive Validation.FirstBreach (v : Validation) : Breach → Prop
  | unnamed (unnamed : v.name = none) : FirstBreach v (.missingAttributes .validation ["name"])
  | unknown {name : String} (named : v.name = some name)
      (unknown : ∀ kind ∈ ValidationKind.all, kind.name ≠ name) :
      FirstBreach v (.unknownValidation name)
  | valueless {kind : ValidationKind} (named : v.name = some kind.name)
      (known : kind ∈ ValidationKind.all) (needed : kind.requiresValue = true)
      (undefined : ¬ ∃ value, v.value = some value ∧ value ≠ .null) :
      FirstBreach v (.missingValidationValue kind.name)

/-- Missing attributes of a field are not wrapped in its name. -/
inductive Field.FirstBreach (f : Field) : Breach → Prop
  | attributes (missing : f.name = none ∨ f.type = none) :
      FirstBreach f
        (.missingAttributes .field (absentName "name" f.name ++ absentName "type" f.type))
  | validation {name type : String} {before : List Validation} {v : Validation} {b : Breach}
      (named : f.name = some name) (typed : f.type = some type)
      (first : FirstWithout Validation.WellFormed f.validations.values before v)
      (breach : v.FirstBreach b) : FirstBreach f (.inField name b)

inductive Entity.FirstBreach (e : Entity) : Breach → Prop
  | attributes (missing : e.name = none ∨ e.tableName = none) :
      FirstBreach e (.missingAttributes .entity
        (absentName "name" e.name ++ absentName "tableName" e.tableName))
  | noField {name table : String} (named : e.name = some name) (stored : e.tableName = some table)
      (empty : e.fields.values = []) : FirstBreach e (.inEntity name .noField)
  | field {name table : String} {before : List Field} {f : Field} {b : Breach}
      (named : e.name = some name) (stored : e.tableName = some table)
      (first : FirstWithout Field.WellFormed e.fields.values before f)
      (breach : f.FirstBreach b) : FirstBreach e (.inEntity name b)

/-! ## Steps that fail -/

section Steps

theorem absentNames_ne_nil_iff {α β : Type} {name name' : String} {x : Option α} {y : Option β} :
    absentName name x ++ absentName name' y ≠ [] ↔ x = none ∨ y = none := by
  rcases x with _ | x <;> rcases y with _ | y <;> simp [absentName]

variable {α : Type} {check : α → Except Breach Unit} {ok : α → Prop} {b : Breach}

theorem breach?_eq_some_iff {result : Except Breach Unit} :
    breach? result = some b ↔ result = .error b := by
  rcases result with c | ⟨⟩ <;> simp [breach?]

theorem checkAttributes_eq_error_iff [Attributed α] {kind : DescriptorKind} {record : α}
    {required : List String} : checkAttributes kind record required = .error b ↔
      missingAttributes record required ≠ [] ∧
        .missingAttributes kind (missingAttributes record required) = b := by
  rw [checkAttributes_eq]
  split <;> simp [*]

/-- A check of a list fails at the first element that is not accepted. -/
theorem checkAll_eq_error_iff (hok : ∀ x, check x = .ok () ↔ ok x) : ∀ {xs : List α},
    checkAll check xs = .error b ↔
      ∃ before x, FirstWithout ok xs before x ∧ check x = .error b
  | [] => by
    constructor
    · nofun
    · rintro ⟨before, x, hfirst, -⟩
      exact absurd hfirst FirstWithout.not_nil
  | y :: ys => by
    -- `ys` is looked at only if `y` is accepted, on both sides.
    simp only [checkAll, FirstWithout.cons_iff]
    rcases hy : check y with c | ⟨⟩
    · have hnot : ¬ ok y := fun h => by
        rw [(hok y).2 h] at hy
        cases hy
      constructor
      · intro h
        exact ⟨[], y, .inl ⟨hnot, rfl, rfl⟩, hy.trans h⟩
      · rintro ⟨before, x, ⟨-, -, rfl⟩ | ⟨h, -⟩, hx⟩
        · exact hy.symm.trans hx
        · exact absurd h hnot
    · have hyes : ok y := (hok y).1 hy
      rw [ok_bind, checkAll_eq_error_iff hok]
      constructor
      · rintro ⟨before, x, hfirst, hx⟩
        exact ⟨y :: before, x, .inr ⟨hyes, before, rfl, hfirst⟩, hx⟩
      · rintro ⟨before, x, ⟨hnot, -⟩ | ⟨-, before', -, hfirst⟩, hx⟩
        · exact absurd hyes hnot
        · exact ⟨before', x, hfirst, hx⟩

/-- What follows an element that is not accepted is not looked at. -/
theorem checkAll_append_of_error {x : α} (hx : check x = .error b) (after after' : List α) :
    ∀ before : List α,
      checkAll check (before ++ x :: after) = checkAll check (before ++ x :: after')
  | [] => by
    simp only [List.nil_append, checkAll, hx]
    rfl
  | y :: before => by
    simp only [List.cons_append, checkAll, checkAll_append_of_error hx after after' before]

end Steps

/-! ## Declarations -/

theorem Validation.check_eq_error_iff {v : Validation} {b : Breach} :
    v.check = .error b ↔ v.FirstBreach b := by
  rw [check_eq]
  constructor
  · intro h
    split at h
    · rename_i hn
      cases h
      exact .unnamed hn
    · rename_i name hn
      split at h
      · rename_i hk
        cases h
        exact .unknown hn (by simpa [ValidationKind.ofName?] using hk)
      · rename_i kind hk
        obtain ⟨hmem, rfl⟩ := ValidationKind.ofName?_eq_some_iff.1 hk
        split at h
        · rename_i hv
          cases h
          refine .valueless hn hmem hv.1 fun hdefined => ?_
          exact Option.isSome_iff_ne_none.1 (isSome_definedValue_iff.2 hdefined) hv.2
        · cases h
  · intro h
    cases h with
    | unnamed hn => rw [hn]
    | unknown hn hk =>
      have hnone : ValidationKind.ofName? _ = none := List.find?_eq_none.2 (by simpa using hk)
      simp only [hn, hnone]
    | valueless hn hmem hneeded hundefined =>
      have hk := ValidationKind.ofName?_eq_some_iff.2 ⟨hmem, rfl⟩
      have hv : v.definedValue = none := by
        simpa using mt isSome_definedValue_iff.1 hundefined
      simp only [hn, hk, hneeded, hv, and_self, if_true]

theorem missingAttributes_pair {α β γ : Type} [Attributed α] {record : α} {name name' : String}
    {x : Option β} {y : Option γ} (hx : has record name = x.isSome)
    (hy : has record name' = y.isSome) :
    missingAttributes record [name, name'] = absentName name x ++ absentName name' y := by
  rcases x with _ | x <;> rcases y with _ | y <;> simp [missingAttributes, absentName, hx, hy]

theorem Field.missingAttributes_eq (f : Field) :
    missingAttributes f ["name", "type"] = absentName "name" f.name ++ absentName "type" f.type :=
  missingAttributes_pair rfl rfl

theorem Entity.missingAttributes_eq (e : Entity) :
    missingAttributes e ["name", "tableName"]
      = absentName "name" e.name ++ absentName "tableName" e.tableName :=
  missingAttributes_pair rfl rfl

theorem Field.check_eq_error_iff {f : Field} {b : Breach} :
    f.check = .error b ↔ f.FirstBreach b := by
  have hok : ∀ v : Validation,
      v.check.mapError (Breach.inField (f.name.getD "")) = .ok () ↔ v.WellFormed :=
    fun v => mapError_eq_ok_iff.trans Validation.check_eq_ok_iff
  rw [check, bind_unit_eq_error_iff, checkAttributes_eq_error_iff, checkAttributes_eq_ok_iff,
    checkAll_eq_error_iff hok, missingAttributes_eq, absentNames_ne_nil_iff]
  simp only [mapError_eq_error_iff, Validation.check_eq_error_iff]
  constructor
  · rintro (⟨hmissing, rfl⟩ | ⟨hattributes, before, v, hfirst, b', hb', rfl⟩)
    · exact .attributes hmissing
    · obtain ⟨name, hn⟩ := Option.isSome_iff_exists.1 (hattributes "name" (by simp))
      obtain ⟨type, ht⟩ := Option.isSome_iff_exists.1 (hattributes "type" (by simp))
      rw [hn, Option.getD_some]
      exact .validation hn ht hfirst hb'
  · intro h
    cases h with
    | attributes hmissing => exact .inl ⟨hmissing, rfl⟩
    | validation hn ht hfirst hb =>
      refine .inr ⟨?_, _, _, hfirst, _, hb, by rw [hn, Option.getD_some]⟩
      simp [has, hasAttribute, hn, ht]

theorem Entity.checkFields_eq_error_iff {e : Entity} {b : Breach} :
    e.checkFields = .error b ↔ e.fields.values = [] ∧ b = .noField ∨
      ∃ before f, FirstWithout Field.WellFormed e.fields.values before f ∧ f.FirstBreach b := by
  have hempty : e.fields.toList = [] ↔ e.fields.values = [] := by
    rw [Dict.values, List.map_eq_nil_iff]
  rw [checkFields]
  split
  · rename_i h
    rw [hempty.1 h]
    constructor
    · rintro ⟨⟩
      exact .inl ⟨rfl, rfl⟩
    · rintro (⟨-, rfl⟩ | ⟨before, f, hfirst, -⟩)
      · rfl
      · exact absurd hfirst FirstWithout.not_nil
  · rename_i h
    rw [checkAll_eq_error_iff fun f : Field => f.check_eq_ok_iff]
    simp only [Field.check_eq_error_iff, mt hempty.2 h, false_and, false_or]

theorem Entity.check_eq_error_iff {e : Entity} {b : Breach} :
    e.check = .error b ↔ e.FirstBreach b := by
  rw [check, bind_unit_eq_error_iff, checkAttributes_eq_error_iff, checkAttributes_eq_ok_iff,
    missingAttributes_eq, absentNames_ne_nil_iff, mapError_eq_error_iff]
  simp only [checkFields_eq_error_iff]
  constructor
  · rintro (⟨hmissing, rfl⟩ | ⟨hattributes, b', hb', rfl⟩)
    · exact .attributes hmissing
    · obtain ⟨name, hn⟩ := Option.isSome_iff_exists.1 (hattributes "name" (by simp))
      obtain ⟨table, ht⟩ := Option.isSome_iff_exists.1 (hattributes "tableName" (by simp))
      rw [hn, Option.getD_some]
      rcases hb' with ⟨hempty, rfl⟩ | ⟨before, f, hfirst, hb'⟩
      · exact .noField hn ht hempty
      · exact .field hn ht hfirst hb'
  · intro h
    cases h with
    | attributes hmissing => exact .inl ⟨hmissing, rfl⟩
    | noField hn ht hempty =>
      refine .inr ⟨?_, _, .inl ⟨hempty, rfl⟩, by rw [hn, Option.getD_some]⟩
      simp [has, hasAttribute, hn, ht]
    | field hn ht hfirst hb =>
      refine .inr ⟨?_, _, .inr ⟨_, _, hfirst, hb⟩, by rw [hn, Option.getD_some]⟩
      simp [has, hasAttribute, hn, ht]

/-! ## What comes later -/

/-- Fields after one that is not well-formed are not looked at. -/
theorem Entity.checkFields_congr {e e' : Entity} {before after after' : List Field} {f : Field}
    (hf : ¬ f.WellFormed) (h : e.fields.values = before ++ f :: after)
    (h' : e'.fields.values = before ++ f :: after') : e'.checkFields = e.checkFields := by
  have hne : ∀ {e : Entity} {fs : List Field}, e.fields.values = before ++ f :: fs →
      e.fields.toList ≠ [] := by
    intro e fs hvalues hnil
    rw [Dict.values, hnil, List.map_nil] at hvalues
    exact List.append_ne_nil_of_right_ne_nil before (List.cons_ne_nil f fs) hvalues.symm
  obtain ⟨b, hb⟩ : ∃ b, f.check = .error b := by
    rcases hcheck : f.check with b | ⟨⟩
    · exact ⟨b, rfl⟩
    · exact absurd (Field.check_eq_ok_iff.1 hcheck) hf
  rw [checkFields, checkFields, if_neg (hne h), if_neg (hne h'), h, h',
    checkAll_append_of_error hb after' after]

/-- The check of an entity fails with its first breach and with no other.  Fields after one that is
not well-formed can be exchanged for others without any difference to it. -/
theorem Entity.check_iff_firstBreach (e : Entity) :
    (∀ b, e.check = .error b ↔ e.FirstBreach b) ∧
      ∀ (before after after' : List Field) (f : Field) (e' : Entity), ¬ f.WellFormed →
        e.fields.values = before ++ f :: after → e'.name = e.name → e'.tableName = e.tableName →
        e'.fields.values = before ++ f :: after' → e'.check = e.check := by
  refine ⟨fun b => check_eq_error_iff, ?_⟩
  intro before after after' f e' hf h hname htable h'
  rw [check, check, checkAttributes_eq, checkAttributes_eq, missingAttributes_eq,
    missingAttributes_eq, checkFields_congr hf h h', hname, htable]

/-- A total with a bound that is not given. -/
def Field.total : Field :=
  { name := some "total", type := some "BigDecimal" : Field }
    |>.addValidation { name := some "unique" }
    |>.addValidation { name := some "min", value := some .null }
    |>.addValidation { name := some "positive" }

/-- An order whose total breaks a rule, and then has a note of no type. -/
def Entity.order : Entity :=
  (named "Order").addField { name := some "number", type := some "String" }
    |>.addField .total
    |>.addField { name := some "note" }

theorem Entity.check_iff_firstBreach_order :
    order.FirstBreach (.inEntity "Order" (.inField "total" (.missingValidationValue "min"))) ∧
      ¬ Field.total.WellFormed ∧
      Entity.check { order with fields := order.fields.erase "note" } = order.check := by
  have hcheck : order.check
      = .error (.inEntity "Order" (.inField "total" (.missingValidationValue "min"))) :=
    breach?_eq_some_iff.1 (by decide +kernel)
  have htotal : ¬ Field.total.WellFormed := by
    rw [← Field.check_eq_ok_iff, ← breach?_eq_none_iff]
    decide +kernel
  have hfields : order.fields.values = [{ name := some "number", type := some "String" }]
      ++ .total :: [{ name := some "note" }] := by decide +kernel
  have hrest : (order.fields.erase "note").values
      = [{ name := some "number", type := some "String" }] ++ .total :: [] := by decide +kernel
  obtain ⟨hfirst, hlater⟩ := order.check_iff_firstBreach
  exact ⟨(hfirst _).1 hcheck, htotal, hlater _ _ _ _ _ htotal hfields rfl rfl hrest⟩

end DomainModel
