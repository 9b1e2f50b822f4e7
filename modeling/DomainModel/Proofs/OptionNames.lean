import DomainModel.Proofs.Dict
import DomainModel.Record.Options

/-!
# The names that options look up

An option looks up the entities that it is for, and the search option also those that it is not
for.  Applying options never adds, drops or moves a record (`keys_applyAll`), so whether a name is
unknown is settled before the first of them is applied, and the application stops at the first
unknown name in the order of these look-ups (`failure_applyAll`).
-/

namespace DomainModel

/-- Whether a name is neither among those known nor that of a built-in entity. -/
def isUnknown (known : List String) (name : String) : Bool :=
  !known.contains name && !isBuiltIn name

theorem isUnknown_eq_false_iff {known : List String} {name : String} :
    isUnknown known name = false ↔ name ∈ known ∨ isBuiltIn name = true := by
  simp only [isUnknown, Bool.and_eq_false_iff, Bool.not_eq_false', List.contains_iff_mem]

theorem isUnknown_of_mem {known : List String} {name : String} (h : name ∈ known) :
    isUnknown known name = false :=
  isUnknown_eq_false_iff.2 (.inl h)

namespace Attempt

theorem failure_andThen (a : Attempt) (next : Sheet → Attempt) :
    (a.andThen next).failure = a.failure.or (next a.sheet).failure := by
  unfold andThen
  cases h : a.failure <;> simp [h]

theorem andThen_of_none {a : Attempt} (h : a.failure = none) (next : Sheet → Attempt) :
    a.andThen next = next a.sheet := by
  simp [andThen, h]

theorem andThen_of_some {a : Attempt} {unknown : UnknownName} (h : a.failure = some unknown)
    (next : Sheet → Attempt) : a.andThen next = a := by
  simp [andThen, h]

theorem andThen_assoc (a : Attempt) (next next' : Sheet → Attempt) :
    (a.andThen next).andThen next' = a.andThen fun s => (next s).andThen next' := by
  cases h : a.failure with
  | none => rw [andThen_of_none h, andThen_of_none h]
  | some unknown => rw [andThen_of_some h, andThen_of_some h, andThen_of_some h]

/-- Going on keeps the keys of the records, if each part does. -/
theorem keys_andThen {next : Sheet → Attempt}
    (h : ∀ s, (next s).sheet.records.keys = s.records.keys) (a : Attempt) :
    (a.andThen next).sheet.records.keys = a.sheet.records.keys := by
  unfold andThen
  split
  · exact h a.sheet
  · rfl

end Attempt

namespace Sheet

variable (option : String) (change : String → EntityRecord → EntityRecord × List Notice)

theorem keys_visit : ∀ (names : List String) (s : Sheet),
    (visit option change names s).sheet.records.keys = s.records.keys
  | [], _ => rfl
  | name :: names, s => by
    simp only [visit]
    split
    · rename_i record h
      rw [keys_visit names]
      exact Dict.keys_insert_of_mem (Dict.mem_keys_of_get? h) _
    · split
      · exact keys_visit names _
      · rfl

/-- A visit stops at the first unknown name. -/
theorem failure_visit : ∀ (names : List String) (s : Sheet),
    (visit option change names s).failure
      = (names.find? (isUnknown s.records.keys)).map (.inOption option)
  | [], _ => rfl
  | name :: names, s => by
    simp only [visit]
    split
    · rename_i record h
      have hmem := Dict.mem_keys_of_get? h
      rw [failure_visit names, Dict.keys_insert_of_mem hmem,
        List.find?_cons_of_neg (by simp [isUnknown_of_mem hmem])]
    · rename_i h
      -- without a record a name is built in, and passed over, or else unknown
      have hmem := Dict.get?_eq_none_iff.1 h
      split
      · rename_i hb
        rw [failure_visit names,
          List.find?_cons_of_neg (by simp [isUnknown_eq_false_iff.2 (.inr hb)])]
      · rename_i hb
        rw [List.find?_cons_of_pos (by simp [isUnknown, hmem, hb])]
        rfl

end Sheet

namespace ResolvedOption

/-- The names that an option looks up, in order: the entities that it is for, then those that it
leaves out of the search. -/
def lookedUp (o : ResolvedOption) : List String :=
  o.entityNames ++ if o.excludesFromSearch then o.option.excludedNames.toList else []

theorem keys_apply (o : ResolvedOption) (s : Sheet) :
    (o.apply s).sheet.records.keys = s.records.keys := by
  unfold apply
  rw [Attempt.keys_andThen (Sheet.keys_visit _ _ _), Attempt.keys_andThen (Sheet.keys_visit _ _ _),
    Sheet.keys_visit]

/-- An option stops at the first unknown name that it looks up: giving services meets no name that
writing has not met. -/
theorem failure_apply (o : ResolvedOption) (s : Sheet) :
    (o.apply s).failure
      = (o.lookedUp.find? (isUnknown s.records.keys)).map (.inOption o.option.name) := by
  have hkeys := Attempt.keys_andThen
    (Sheet.keys_visit o.option.name o.giveService (if o.requiresService then o.entityNames else []))
    (Sheet.visit o.option.name o.write o.entityNames s)
  unfold apply lookedUp
  simp only [Attempt.failure_andThen, Sheet.failure_visit, hkeys, Sheet.keys_visit,
    List.find?_append]
  cases hf : o.entityNames.find? (isUnknown s.records.keys) with
  | none => cases o.requiresService <;> simp [hf]
  | some name => simp

/-- Options are applied after those before them, unless these have stopped. -/
theorem applyAll_append : ∀ (os os' : List ResolvedOption) (s : Sheet),
    applyAll (os ++ os') s = (applyAll os s).andThen (applyAll os')
  | [], _, _ => rfl
  | o :: os, os', s => by
    rw [List.cons_append, applyAll, applyAll, Attempt.andThen_assoc]
    exact congrArg _ (funext (applyAll_append os os'))

theorem keys_applyAll : ∀ (os : List ResolvedOption) (s : Sheet),
    (applyAll os s).sheet.records.keys = s.records.keys
  | [], _ => rfl
  | o :: os, s => by
    rw [applyAll, Attempt.keys_andThen (keys_applyAll os), keys_apply]

theorem failure_applyAll : ∀ (os : List ResolvedOption) (s : Sheet),
    (applyAll os s).failure = os.findSome? fun o =>
      (o.lookedUp.find? (isUnknown s.records.keys)).map (.inOption o.option.name)
  | [], _ => rfl
  | o :: os, s => by
    rw [applyAll, Attempt.failure_andThen, failure_applyAll os, keys_apply, failure_apply,
      List.findSome?_cons]
    cases (o.lookedUp.find? (isUnknown s.records.keys)).map (UnknownName.inOption o.option.name)
      <;> rfl

end ResolvedOption

/-! ## Which options have a rule of their own -/

namespace OptionRule

theorem mem_all_of_ofName? {name : String} {rule : OptionRule} (h : ofName? name = some rule) :
    rule ∈ all := List.mem_of_find?_eq_some h

/-- A rule without aliases is found under its name only. -/
theorem name_eq_of_ofName? {name : String} {rule : OptionRule} (h : ofName? name = some rule)
    (ha : rule.aliases = []) : name = rule.name := by
  unfold ofName? at h
  have hm := List.find?_some h
  simpa [matchesName, ha, eq_comm] using hm

end OptionRule

namespace EntityOption

/-- A key that no rule names or writes is written by the options of that name. -/
theorem outputKey_eq_iff_of_free (o : EntityOption) {key : String}
    (hname : OptionRule.ofName? key = none)
    (hout : ∀ rule ∈ OptionRule.all, rule.outputKey ≠ key) : key = o.outputKey ↔ o.name = key := by
  unfold outputKey
  split
  · rename_i rule hr
    constructor
    · rintro rfl
      exact absurd rfl (hout rule (OptionRule.mem_all_of_ofName? hr))
    · rintro rfl
      rw [hname] at hr
      cases hr
  · exact eq_comm

theorem excludesFromSearch_resolve (o : EntityOption) (declared : List String) :
    (o.resolve declared).excludesFromSearch = true ↔ o.name = "search" := by
  have hall : ∀ rule ∈ OptionRule.all, rule.excludesFromSearch = true →
      rule.aliases = [] ∧ rule.name = "search" := by decide
  simp only [ResolvedOption.excludesFromSearch, resolve]
  constructor
  · intro h
    obtain ⟨rule, hr, hs⟩ := (Option.any_eq_true _ _).1 h
    obtain ⟨ha, hn⟩ := hall rule (OptionRule.mem_all_of_ofName? hr) hs
    rw [OptionRule.name_eq_of_ofName? hr ha, hn]
  · intro h
    rw [h]
    decide

theorem requiresService_resolve (o : EntityOption) (declared : List String) :
    (o.resolve declared).requiresService = true ↔ o.name = "dto" ∨ o.name = "filter" := by
  have hall : ∀ rule ∈ OptionRule.all, rule.requiresService = true →
      rule.aliases = [] ∧ (rule.name = "dto" ∨ rule.name = "filter") := by decide
  simp only [ResolvedOption.requiresService, resolve]
  constructor
  · intro h
    obtain ⟨rule, hr, hs⟩ := (Option.any_eq_true _ _).1 h
    obtain ⟨ha, hn⟩ := hall rule (OptionRule.mem_all_of_ofName? hr) hs
    rwa [OptionRule.name_eq_of_ofName? hr ha]
  · rintro (h | h) <;> rw [h] <;> decide

/-- The names that an option looks up among the declared entities. -/
def lookUps (o : EntityOption) (declared : List String) : List String :=
  o.targets declared ++ if o.name = "search" then o.excludedNames.toList else []

theorem lookedUp_resolve (o : EntityOption) (declared : List String) :
    (o.resolve declared).lookedUp = o.lookUps declared := by
  unfold ResolvedOption.lookedUp lookUps
  simp only [excludesFromSearch_resolve]
  rfl

end EntityOption

namespace Graph

theorem keys_applyOptions (g : Graph) (s : Sheet) :
    (g.applyOptions s).sheet.records.keys = s.records.keys :=
  ResolvedOption.keys_applyAll _ s

theorem failure_applyOptions (g : Graph) (s : Sheet) :
    (g.applyOptions s).failure = g.options.findSome? fun o =>
      ((o.lookUps g.entityNames).find? (isUnknown s.records.keys)).map (.inOption o.name) := by
  rw [applyOptions, ResolvedOption.failure_applyAll, resolveOptions, List.findSome?_map]
  simp only [Function.comp_def, EntityOption.lookedUp_resolve]
  rfl

end Graph

end DomainModel
