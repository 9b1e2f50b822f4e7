import DomainModel.Proofs.ConversionOutcome

/-!
# Exclusions that nobody looks up

Options are meant to fail at any unknown name written in them, also among the names that they are
not for.  Only the search option looks at the latter.  The options that are applied are those with
known names but for the exclusions of other options (`optionsKnown_iff`), so an exclusion of an
unknown name passes unless the option is the search option (`unknown_exclusions`).
-/

namespace DomainModel

/-- Whether a name has a record or is that of a built-in entity. -/
def Sheet.Knows (s : Sheet) (name : String) : Prop :=
  name ∈ s.records.keys ∨ isBuiltIn name = true

theorem EntityOption.mem_lookUps {o : EntityOption} {declared : List String} {name : String} :
    name ∈ o.lookUps declared ↔
      name ∈ o.targets declared ∨ o.name = "search" ∧ name ∈ o.excludedNames.toList := by
  rw [lookUps, List.mem_append]
  split
  · rename_i h
    rw [and_iff_right h]
  · rename_i h
    simp [h]

namespace Graph

/-- Whether every name written in an option is known, be the option for it or not. -/
def OptionsKnown (g : Graph) (s : Sheet) : Prop :=
  ∀ o ∈ g.options, ∀ name, name ∈ o.targets g.entityNames ∨ name ∈ o.excludedNames.toList →
    s.Knows name

theorem failure_applyOptions_eq_none_iff (g : Graph) (s : Sheet) :
    (g.applyOptions s).failure = none ↔ ∀ o ∈ g.options, ∀ name,
      name ∈ o.targets g.entityNames ∨ o.name = "search" ∧ name ∈ o.excludedNames.toList →
        s.Knows name := by
  rw [failure_applyOptions, List.findSome?_eq_none_iff]
  simp only [Option.map_eq_none_iff, List.find?_eq_none, Bool.not_eq_true, isUnknown_eq_false_iff,
    EntityOption.mem_lookUps, Sheet.Knows]

/-- Knowing all names takes more than applying the options: the exclusions of other options than
search have to be known, too. -/
theorem optionsKnown_iff (g : Graph) (s : Sheet) :
    g.OptionsKnown s ↔ (g.applyOptions s).failure = none ∧
      ∀ o ∈ g.options, o.name ≠ "search" → ∀ name ∈ o.excludedNames.toList, s.Knows name := by
  rw [failure_applyOptions_eq_none_iff]
  constructor
  · intro h
    refine ⟨fun o ho name hn => h o ho name (hn.imp id And.right), fun o ho _ name hn => ?_⟩
    exact h o ho name (.inr hn)
  · rintro ⟨hlooked, hothers⟩ o ho name (hn | hn)
    · exact hlooked o ho name (.inl hn)
    · by_cases hs : o.name = "search"
      · exact hlooked o ho name (.inr ⟨hs, hn⟩)
      · exact hothers o ho hs name hn

/-- Some option has an unknown name if and only if one looks up an unknown name. -/
theorem isSome_unknownInOptions?_iff (g : Graph) :
    g.unknownInOptions?.isSome = true ↔ ∃ o ∈ g.options, ∃ name,
      (name ∈ o.targets g.entityNames ∨ o.name = "search" ∧ name ∈ o.excludedNames.toList) ∧
        isUnknown g.entityNames name = true := by
  simp only [unknownInOptions?, ← EntityOption.find?_lookUps, List.findSome?_isSome_iff,
    Option.isSome_map, List.find?_isSome, EntityOption.mem_lookUps]

theorem inOption_of_unknownInOptions? {g : Graph} {unknown : UnknownName}
    (h : g.unknownInOptions? = some unknown) : ∃ option name, unknown = .inOption option name := by
  obtain ⟨o, -, ho⟩ := List.exists_of_findSome?_eq_some h
  obtain ⟨name, -, rfl⟩ := Option.map_eq_some_iff.1 ho
  exact ⟨o.name, name, rfl⟩

theorem inRelationship_of_unknownInRelationships? {g : Graph} {unknown : UnknownName}
    (h : g.unknownInRelationships? = some unknown) :
    ∃ source target name, unknown = .inRelationship source target name := by
  obtain ⟨r, -, hr⟩ := List.exists_of_findSome?_eq_some h
  obtain ⟨name, -, rfl⟩ := Option.map_eq_some_iff.1 hr
  exact ⟨r.source.entity, r.target.entity, name, rfl⟩

/-- A conversion stops at an option if and only if it has come so far and some option has an
unknown name. -/
theorem convert_stops_at_option_iff (g : Graph) (application : String) (t : Instant)
    (log : List Notice) :
    (∃ option name, (g.convert application t log).result
        = .error (.failure (.unknownName (.inOption option name)))) ↔
      ¬ g.Overruns t ∧ g.unknownInOptions?.isSome = true := by
  obtain ⟨ho, e, hr⟩ | ⟨ho, unknown, hu, hr⟩ | ⟨ho, hu, c, hr⟩ :=
    g.convert_cases application t log
  · simp [hr, ho]
  · rw [hr]
    cases hoption : g.unknownInOptions? with
    | some unknownInOption =>
      rw [hoption, Option.some_or, Option.some.injEq] at hu
      obtain ⟨option, name, rfl⟩ := inOption_of_unknownInOptions? hoption
      simp [← hu, ho]
    | none =>
      rw [hoption, Option.none_or] at hu
      obtain ⟨source, target, name, rfl⟩ := inRelationship_of_unknownInRelationships? hu
      simp
  · rw [Option.or_eq_none_iff] at hu
    simp [hr, hu.1]

end Graph

/-- The options are applied if and only if every name is known that an option is for, or that the
search option is not for.  That is the same as all names being known exactly if being applied
implies that the exclusions of the other options are known.  Likewise a conversion that comes as
far as the options stops there if and only if an option is for an unknown name, or the search
option is not. -/
theorem unknown_exclusions (g : Graph) (s : Sheet) (r : Request) (now : Instant) :
    ((g.applyOptions s).failure = none ↔ ∀ o ∈ g.options, ∀ name,
      name ∈ o.targets g.entityNames ∨ o.name = "search" ∧ name ∈ o.excludedNames.toList →
        s.Knows name) ∧
    (((g.applyOptions s).failure = none ↔ g.OptionsKnown s) ↔
      ((g.applyOptions s).failure = none → ∀ o ∈ g.options, o.name ≠ "search" →
        ∀ name ∈ o.excludedNames.toList, s.Knows name)) ∧
    ((∃ option name, (r.run now).result
        = .error (.failure (.unknownName (.inOption option name)))) ↔
      ¬ r.Incomplete ∧ ∃ asked, r.graph = some asked ∧ ¬ asked.Overruns (r.created.getD now) ∧
        ∃ o ∈ asked.options, ∃ name,
          (name ∈ o.targets asked.entityNames ∨
            o.name = "search" ∧ name ∈ o.excludedNames.toList) ∧
          isUnknown asked.entityNames name = true) := by
  refine ⟨g.failure_applyOptions_eq_none_iff s, ?_, ?_⟩
  · rw [g.optionsKnown_iff s, iff_self_and]
  · by_cases hi : r.Incomplete
    · rw [Request.run_of_incomplete hi]
      constructor
      · rintro ⟨option, name, hr⟩
        cases hr
      · rintro ⟨hn, -⟩
        exact absurd hi hn
    · obtain ⟨asked, application, log, hg, hrun⟩ := Request.run_of_not_incomplete hi now
      rw [hrun, asked.convert_stops_at_option_iff, asked.isSome_unknownInOptions?_iff,
        and_iff_right hi, hg]
      constructor
      · intro h
        exact ⟨asked, rfl, h⟩
      · rintro ⟨asked', hg', h⟩
        cases hg'
        exact h

/-- Data transfer objects for invoices, but not for ghosts. -/
def Request.ghostless : Request where
  graph := some
    { entities := [.named "Invoice"]
      options := [{ name := "dto", entityNames := .ofList ["Invoice"],
                    excludedNames := .ofList ["Ghost"], value := some "mapstruct" }] }
  application := some "app"
  database := some "sql"
  created := some .epoch

/-- The ghost is neither declared nor built in, and yet the options are applied and the conversion
has a result. -/
theorem Request.run_ghostless : ∃ (g : Graph) (s : Sheet), ghostless.graph = some g ∧
    (g.applyOptions s).failure = none ∧ ¬ g.OptionsKnown s ∧
    isUnknown g.entityNames "Ghost" = true ∧ (∃ o ∈ g.options, "Ghost" ∈ o.excludedNames.toList) ∧
    ∀ now, (ghostless.run now).result.isOk = true := by
  refine ⟨_, ⟨.ofList [("Invoice", .fresh "Invoice" "invoice" "19700101000001" none)], []⟩, rfl,
    by decide +kernel, ?_, by decide +kernel, by decide +kernel, fun now => ?_⟩
  · intro h
    have hk := h _ (.head _) "Ghost" (.inr (by decide +kernel))
    revert hk
    unfold Sheet.Knows
    decide +kernel
  · have hrun : ghostless.run now = ghostless.run .epoch := rfl
    rw [hrun]
    decide +kernel

end DomainModel
