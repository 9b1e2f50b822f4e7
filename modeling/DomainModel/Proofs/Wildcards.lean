import DomainModel.Proofs.ConversionEquation

/-!
# Wildcards written out

An option for every entity does what it would do with the entities named in it one by one
(`Request.result_run_spelledOut`).  The names of an option are not held against its exclusions, and
they may come to a lone wildcard again, if that is how an entity is called; but an option with these
names and exclusions has the same entities either way (`mem_targets_spellOut`).
-/

namespace DomainModel

namespace EntityOption

/-- The option with its wildcard written out: the declared names, each once, but for those that the
option excludes and the names of the built-in user. -/
def spellOut (declared : List String) (o : EntityOption) : EntityOption :=
  if o.targetsAll then
    { o with
      entityNames := .ofList
        (declared.filter fun name => !(name ∈ o.excludedNames : Bool) && !isUser name) }
  else o

variable (o : EntityOption) (declared : List String)

theorem name_spellOut : (o.spellOut declared).name = o.name := by
  unfold spellOut
  split <;> rfl

theorem value_spellOut : (o.spellOut declared).value = o.value := by
  unfold spellOut
  split <;> rfl

theorem excludedNames_spellOut : (o.spellOut declared).excludedNames = o.excludedNames := by
  unfold spellOut
  split <;> rfl

/-- The entities of the option stay the same, though a name that is declared twice is written out
once. -/
theorem mem_targets_spellOut {name : String} :
    name ∈ (o.spellOut declared).targets declared ↔ name ∈ o.targets declared := by
  by_cases h : o.targetsAll = true
  · rw [spellOut, if_pos h, targets, targets, if_pos h]
    split
    · -- what was written out is the wildcard again
      exact Iff.rfl
    · exact NameSet.mem_ofList
  · rw [spellOut, if_neg h]

/-- An entity may be called like the wildcard. -/
example : (({ name := "dto", entityNames := .ofList ["*"] } : EntityOption).spellOut
    ["*", "User", "*"]).targetsAll = true := by
  decide

theorem find?_targets_of_targetsAll (h : o.targetsAll = true) :
    (o.targets declared).find? (isUnknown declared) = none := by
  rw [targets, if_pos h]
  refine List.find?_eq_none.2 fun name hname => ?_
  simp [isUnknown_of_mem (List.mem_filter.1 hname).1]

/-- The first unknown name is the same: none of those that are written out is unknown. -/
theorem find?_lookUps_spellOut : ((o.spellOut declared).lookUps declared).find? (isUnknown declared)
    = (o.lookUps declared).find? (isUnknown declared) := by
  by_cases h : o.targetsAll = true
  · have ht : ((o.spellOut declared).targets declared).find? (isUnknown declared) = none := by
      refine List.find?_eq_none.2 fun name hname => ?_
      exact List.find?_eq_none.1 (o.find?_targets_of_targetsAll declared h) name
        ((o.mem_targets_spellOut declared).1 hname)
    rw [lookUps, lookUps, List.find?_append, List.find?_append, ht,
      o.find?_targets_of_targetsAll declared h, name_spellOut, excludedNames_spellOut]
  · rw [spellOut, if_neg h]

end EntityOption

namespace Graph

/-- The graph with the wildcards of its options written out. -/
def spelledOut (g : Graph) : Graph := { g with options := g.options.map (·.spellOut g.entityNames) }

theorem options_spelledOut (g : Graph) :
    g.spelledOut.options = g.options.map (·.spellOut g.entityNames) := rfl

theorem entityNames_spelledOut (g : Graph) : g.spelledOut.entityNames = g.entityNames := rfl

theorem touches_spelledOut (g : Graph) (entity : String) :
    g.spelledOut.touches entity = g.touches entity := by
  have ht : ∀ o : EntityOption, (o.spellOut g.entityNames).touch g.entityNames entity
      = o.touch g.entityNames entity := fun o =>
    EntityOption.touch_congr (o.name_spellOut _) (o.value_spellOut _) (o.excludedNames_spellOut _)
      (o.mem_targets_spellOut _)
  simp only [touches, entityNames_spelledOut, options_spelledOut, List.map_map, Function.comp_def,
    ht]

theorem agrees_spelledOut (g : Graph) : g.Agrees g.spelledOut where
  fresh _ := rfl
  inOptions := by
    simp only [unknownInOptions?, entityNames_spelledOut, options_spelledOut, List.findSome?_map,
      Function.comp_def, EntityOption.name_spellOut, ← EntityOption.find?_lookUps,
      EntityOption.find?_lookUps_spellOut]
  inRelationships := rfl
  finish name _ r := finish_congr (g.touches_spelledOut name) rfl rfl r

end Graph

/-- A wildcard and the list of what it stands for are interchangeable.  The result of a request is
the same, the order of attributes included, and so is its failure. -/
theorem Request.result_run_spelledOut (r : Request) (now : Instant) :
    ((r.mapGraph Graph.spelledOut).run now).result = (r.run now).result :=
  result_run_congr Graph.agrees_spelledOut r now

end DomainModel
