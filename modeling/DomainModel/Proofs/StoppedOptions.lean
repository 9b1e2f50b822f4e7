import DomainModel.Proofs.Exclusions
import DomainModel.Proofs.OptionEffects
import Mathlib.Data.List.TakeWhile

/-!
# Options that stop

A run of options stops at the first name that is unknown, in the order in which the options look
names up, and what it has done stays done.  So it leaves the records as the options before have left
them, changed by the part of the stopped option that comes before the name
(`Graph.stopsAt_of_applyOptions`): its key on some of its entities and no service at all, or its key
on all of them and some entities left out of the search.
-/

namespace DomainModel

/-- The values at some keys changed, those at the others as they are. -/
def Dict.updateAt {α : Type} (names : List String) (f : α → α) (d : Dict α) : Dict α :=
  d.mapKeyed fun name v => if name ∈ names then f v else v

namespace EntityOption

/-- The records with the key of the option written, or taken away, at some names. -/
def writeAt (o : EntityOption) (names : List String) (records : Dict EntityRecord) :
    Dict EntityRecord :=
  records.updateAt names (·.put o.outputKey o.outputValue)

/-- The records with some entities left out of the search. -/
def leaveOutAt (names : List String) (records : Dict EntityRecord) : Dict EntityRecord :=
  records.updateAt names (·.set "searchEngine" (.bool false))

/-- What an option leaves of records if it stops at a name. -/
inductive StopsAt (o : EntityOption) (declared : List String) (known : String → Prop)
    (name : String) (records : Dict EntityRecord) : Dict EntityRecord → Prop
  /-- The option is for the name: its key is written before the name, and nothing else is done. -/
  | target {passed : List String} (first : FirstWithout known (o.targets declared) passed name) :
      StopsAt o declared known name records (o.writeAt passed records)
  /-- The search option is not for the name: its key is written, and what it excludes before the
  name is left out of the search. -/
  | excluded {passed : List String} (search : o.name = "search")
      (targets : ∀ target ∈ o.targets declared, known target)
      (first : FirstWithout known o.excludedNames.toList passed name) :
      StopsAt o declared known name records
        (leaveOutAt passed (o.writeAt (o.targets declared) records))

end EntityOption

/-! ## One visit -/

theorem Sheet.knows_eq (s : Sheet) : s.Knows = fun name => isUnknown s.records.keys name = false :=
  funext fun _ => propext isUnknown_eq_false_iff.symm

/-- What is known depends on the keys of the records alone. -/
theorem Sheet.knows_congr {s s' : Sheet} (h : s'.records.keys = s.records.keys) :
    s'.Knows = s.Knows := by
  rw [knows_eq, knows_eq, h]

/-- The unknown name at which a look-up of names stops is the first one. -/
theorem Sheet.first_of_find? {s : Sheet} {names : List String} {name : String}
    (h : names.find? (isUnknown s.records.keys) = some name) :
    ∃ passed, FirstWithout s.Knows names passed name := by
  rw [knows_eq]
  exact FirstWithout.of_find? h

theorem reached_of_first {s : Sheet} {names passed : List String} {name : String}
    (h : FirstWithout s.Knows names passed name) : reached s.records.keys names = passed := by
  rw [Sheet.knows_eq] at h
  obtain ⟨⟨after, rfl⟩, hpassed, hname⟩ := h
  have hall : ∀ other ∈ passed, (!isUnknown s.records.keys other) = true := fun other ho => by
    rw [hpassed other ho]
    rfl
  rw [reached, List.takeWhile_append_of_pos hall, List.takeWhile_cons_of_neg (by simpa using hname),
    List.append_nil]

theorem Sheet.records_visit (option : String)
    (change : String → EntityRecord → EntityRecord × List Notice) (f : EntityRecord → EntityRecord)
    (hf : ∀ name r, (change name r).1 = f r) (hff : ∀ r, f (f r) = f r) (names : List String)
    (s : Sheet) : (visit option change names s).sheet.records
      = s.records.updateAt (reached s.records.keys names) f := by
  refine Dict.ext_get? ?_ fun entity => ?_
  · rw [keys_visit, Dict.updateAt, Dict.keys_mapKeyed]
  · rw [get?_visit option (by simp only [hf, hff, implies_true]), Dict.updateAt,
      Dict.get?_mapKeyed]
    simp only [hf]

/-! ## One option -/

namespace EntityOption

variable (o : EntityOption) (declared : List String)

theorem records_write (names : List String) (s : Sheet) :
    (Sheet.visit o.name (o.resolve declared).write names s).sheet.records
      = o.writeAt (reached s.records.keys names) s.records :=
  Sheet.records_visit o.name (o.resolve declared).write (·.put o.outputKey o.outputValue)
    (fun _ _ => rfl) (fun r => r.put_put o.outputKey o.outputValue) names s

theorem records_leaveOut (option : String) (names : List String) (s : Sheet) :
    (Sheet.visit option ResolvedOption.leaveOutOfSearch names s).sheet.records
      = leaveOutAt (reached s.records.keys names) s.records :=
  Sheet.records_visit option ResolvedOption.leaveOutOfSearch (·.set "searchEngine" (.bool false))
    (fun _ _ => rfl) (fun r => r.put_put "searchEngine" (some (.bool false))) names s

/-- An option that stops among its own entities does nothing after writing. -/
theorem stopsAt_of_target {s : Sheet} {passed : List String} {name : String}
    (hfind : (o.targets declared).find? (isUnknown s.records.keys) = some name)
    (hfirst : FirstWithout s.Knows (o.targets declared) passed name) :
    o.StopsAt declared s.Knows name s.records ((o.resolve declared).apply s).sheet.records := by
  have hstop : (Sheet.visit o.name (o.resolve declared).write (o.targets declared) s).failure
      = some (.inOption o.name name) := by
    rw [Sheet.failure_visit, hfind, Option.map_some]
  have happly : (o.resolve declared).apply s
      = Sheet.visit o.name (o.resolve declared).write (o.targets declared) s :=
    (Attempt.andThen_assoc ..).trans (Attempt.andThen_of_some hstop _)
  rw [happly, records_write, reached_of_first hfirst]
  exact .target hfirst

/-- The search option gives no service, so if its own entities are known it goes on with those that
it is not for. -/
theorem stopsAt_of_excluded {s : Sheet} {passed : List String} {name : String}
    (hsearch : o.name = "search") (htargets : ∀ target ∈ o.targets declared, s.Knows target)
    (hfirst : FirstWithout s.Knows o.excludedNames.toList passed name) :
    o.StopsAt declared s.Knows name s.records ((o.resolve declared).apply s).sheet.records := by
  have hfind : (o.targets declared).find? (isUnknown s.records.keys) = none := by
    rw [Sheet.knows_eq] at htargets
    exact List.find?_eq_none.2 fun target ht => by simp [htargets target ht]
  have hwrite : (Sheet.visit o.name (o.resolve declared).write (o.targets declared) s).failure
      = none := by
    rw [Sheet.failure_visit, hfind, Option.map_none]
  have hservice : (o.resolve declared).requiresService = false := by
    rw [Bool.eq_false_iff, Ne, requiresService_resolve, hsearch]
    decide
  have hexcludes : (o.resolve declared).excludesFromSearch = true :=
    (o.excludesFromSearch_resolve declared).2 hsearch
  -- the second visit has nobody to give a service to
  have happly : (o.resolve declared).apply s
      = Sheet.visit o.name ResolvedOption.leaveOutOfSearch o.excludedNames.toList
        (Sheet.visit o.name (o.resolve declared).write (o.targets declared) s).sheet := by
    unfold ResolvedOption.apply
    rw [hservice, hexcludes]
    exact (Attempt.andThen_assoc ..).trans (Attempt.andThen_of_none hwrite _)
  rw [happly, records_leaveOut, Sheet.keys_visit, records_write, reached_of_first hfirst,
    reached_of_find? hfind]
  exact .excluded hsearch htargets hfirst

/-- An option stops at the first unknown name that it looks up, and leaves what it has done before
that. -/
theorem stopsAt_apply {s : Sheet} {unknown : UnknownName}
    (h : ((o.resolve declared).apply s).failure = some unknown) :
    ∃ passed name, unknown = .inOption o.name name ∧
      FirstWithout s.Knows (o.lookUps declared) passed name ∧
      o.StopsAt declared s.Knows name s.records
        ((o.resolve declared).apply s).sheet.records := by
  rw [ResolvedOption.failure_apply, lookedUp_resolve] at h
  obtain ⟨name, hname, rfl⟩ := Option.map_eq_some_iff.1 h
  obtain ⟨passed, hfirst⟩ := Sheet.first_of_find? hname
  refine ⟨passed, name, rfl, hfirst, ?_⟩
  -- the first unknown name is among the targets if any of these is unknown
  rw [lookUps, List.find?_append] at hname
  rcases htargets : (o.targets declared).find? (isUnknown s.records.keys) with _ | target
  · rw [htargets, Option.none_or] at hname
    split at hname
    · rename_i hsearch
      obtain ⟨_, hexcluded⟩ := Sheet.first_of_find? hname
      refine o.stopsAt_of_excluded declared hsearch ?_ hexcluded
      rw [Sheet.knows_eq]
      simpa using List.find?_eq_none.1 htargets
    · cases hname
  · rw [htargets, Option.some_or] at hname
    cases hname
    obtain ⟨_, htarget⟩ := Sheet.first_of_find? htargets
    exact o.stopsAt_of_target declared htargets htarget

end EntityOption

/-! ## All options -/

namespace Graph

/-- The graph with other options. -/
def withOptions (g : Graph) (os : List EntityOption) : Graph := { g with options := os }

theorem applyOptions_append (g : Graph) (os os' : List EntityOption) (s : Sheet) :
    (g.withOptions (os ++ os')).applyOptions s
      = ((g.withOptions os).applyOptions s).andThen (g.withOptions os').applyOptions := by
  simp only [applyOptions, resolveOptions, withOptions, List.map_append]
  exact ResolvedOption.applyAll_append _ _ s

/-- Options after one that stops have no effect. -/
theorem applyOptions_of_stop {g : Graph} {before : List EntityOption} {o : EntityOption} {s : Sheet}
    {unknown : UnknownName} (hbefore : ((g.withOptions before).applyOptions s).failure = none)
    (ho : ((o.resolve g.entityNames).apply
      ((g.withOptions before).applyOptions s).sheet).failure = some unknown)
    (after : List EntityOption) : (g.withOptions (before ++ o :: after)).applyOptions s
      = (o.resolve g.entityNames).apply ((g.withOptions before).applyOptions s).sheet := by
  rw [applyOptions_append, Attempt.andThen_of_none hbefore]
  exact Attempt.andThen_of_some ho _

/-- If options stop, they do so at the first of the options that looks up an unknown name, and at
the first such name of it.  The records, which keep their keys, are left as the options before have
left them, all of which are applied, and then as the option leaves them that stops there; the
options after it do not matter. -/
theorem stopsAt_of_applyOptions {g : Graph} {s : Sheet} {unknown : UnknownName}
    (h : (g.applyOptions s).failure = some unknown) :
    (g.applyOptions s).sheet.records.keys = s.records.keys ∧
      ∃ (before : List EntityOption) (o : EntityOption) (passed : List String) (name : String),
        unknown = .inOption o.name name ∧
        FirstWithout (fun o => ∀ name ∈ o.lookUps g.entityNames, s.Knows name) g.options before o ∧
        FirstWithout s.Knows (o.lookUps g.entityNames) passed name ∧
        ((g.withOptions before).applyOptions s).failure = none ∧
        o.StopsAt g.entityNames s.Knows name ((g.withOptions before).applyOptions s).sheet.records
          (g.applyOptions s).sheet.records ∧
        ∀ after, (g.withOptions (before ++ o :: after)).applyOptions s = g.applyOptions s := by
  refine ⟨g.keys_applyOptions s, ?_⟩
  have hfailure := h
  rw [failure_applyOptions, List.findSome?_eq_some_iff] at hfailure
  obtain ⟨before, o, after, hoptions, ho, hbefore⟩ := hfailure
  have hnone : ((g.withOptions before).applyOptions s).failure = none := by
    rw [failure_applyOptions]
    exact List.findSome?_eq_none_iff.2 hbefore
  -- the options before leave the keys alone, so that what is known is still the same
  have hkeys := (g.withOptions before).keys_applyOptions s
  have hstop : ((o.resolve g.entityNames).apply
      ((g.withOptions before).applyOptions s).sheet).failure = some unknown := by
    rw [ResolvedOption.failure_apply, EntityOption.lookedUp_resolve, hkeys]
    exact ho
  have hrun : g.applyOptions s = (o.resolve g.entityNames).apply
      ((g.withOptions before).applyOptions s).sheet := by
    rw [← applyOptions_of_stop hnone hstop after, withOptions, ← hoptions]
  obtain ⟨passed, name, hname, hfirst, hleft⟩ := o.stopsAt_apply g.entityNames hstop
  rw [Sheet.knows_congr hkeys] at hfirst hleft
  refine ⟨before, o, passed, name, hname, ⟨⟨after, hoptions⟩, ?_, ?_⟩, hfirst, hnone, ?_, ?_⟩
  · intro o' ho' name' hname'
    rw [Sheet.knows_eq]
    simpa using List.find?_eq_none.1 (Option.map_eq_none_iff.1 (hbefore o' ho')) name' hname'
  · obtain ⟨later, hlater⟩ := hfirst.split
    exact fun hall => hfirst.fails (hall name (by simp [hlater]))
  · rw [hrun]
    exact hleft
  · intro after'
    rw [hrun, applyOptions_of_stop hnone hstop after']

/-- Invoices are searched, and customers are left out of the search, before a ghost stops the
exclusions. -/
def searchingGhosts : Graph where
  entities := [.named "Invoice", .named "Customer"]
  options :=
    [{ name := "dto", entityNames := .ofList ["*"], value := some "mapstruct" },
     { name := "search", entityNames := .ofList ["Invoice", "User"],
       excludedNames := .ofList ["Customer", "Authority", "Ghost", "Invoice"],
       value := some "elasticsearch" },
     { name := "readOnly", entityNames := .ofList ["*"] }]

theorem stopsAt_of_applyOptions_ghosts :
    (searchingGhosts.applyOptions billingSheet).failure = some (.inOption "search" "Ghost") ∧
      (searchingGhosts.applyOptions billingSheet).sheet.records.keys = ["Customer", "Invoice"] ∧
      (∃ (before : List EntityOption) (o : EntityOption), o.name = "search" ∧
        o.StopsAt searchingGhosts.entityNames billingSheet.Knows "Ghost"
          ((searchingGhosts.withOptions before).applyOptions billingSheet).sheet.records
          (searchingGhosts.applyOptions billingSheet).sheet.records) ∧
      ∃ invoice customer : EntityRecord,
        (searchingGhosts.applyOptions billingSheet).sheet.records.get? "Invoice" = some invoice ∧
        (searchingGhosts.applyOptions billingSheet).sheet.records.get? "Customer" = some customer ∧
        invoice.get? "searchEngine" = some (.string "elasticsearch") ∧
        customer.get? "searchEngine" = some (.bool false) ∧
        invoice.get? "readOnly" = some (.bool false) := by
  have h : (searchingGhosts.applyOptions billingSheet).failure
      = some (.inOption "search" "Ghost") := by decide +kernel
  obtain ⟨hkeys, before, o, passed, name, hname, -, -, -, hleft, -⟩ := stopsAt_of_applyOptions h
  obtain ⟨hsearch, rfl⟩ := UnknownName.inOption.inj hname
  refine ⟨h, hkeys.trans (by decide +kernel), ⟨before, o, hsearch.symm, hleft⟩, ?_⟩
  refine ⟨_, _, (Option.some_get ?_).symm, (Option.some_get ?_).symm, ?_⟩ <;> decide +kernel

end Graph

end DomainModel
