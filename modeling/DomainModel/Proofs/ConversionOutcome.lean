import DomainModel.Proofs.ConversionRecords

/-!
# How a conversion ends

A conversion can fail in each of its passes, and options are checked only while they are applied.
Even so its end is settled by the request alone (`result_run`): a wildcard never stands for an
unknown name, so what stops the options is the first unknown name written in them, and the names
that are known are the declared and the built-in ones throughout.
-/

namespace DomainModel

/-- The names written in an option that it looks up: those that it is for, unless that is the
wildcard, then, for the search option, those that it excludes. -/
def EntityOption.mentions (o : EntityOption) : List String :=
  (if o.targetsAll then [] else o.entityNames.toList)
    ++ if o.name = "search" then o.excludedNames.toList else []

/-- A wildcard stands for declared entities only. -/
theorem EntityOption.find?_lookUps (o : EntityOption) (declared : List String) :
    (o.lookUps declared).find? (isUnknown declared) = o.mentions.find? (isUnknown declared) := by
  unfold lookUps mentions targets
  rw [List.find?_append, List.find?_append]
  by_cases h : o.targetsAll = true
  · have hnone : (declared.filter fun name =>
        !(name ∈ o.excludedNames : Bool) && !isUser name).find? (isUnknown declared) = none := by
      refine List.find?_eq_none.2 fun name hn => ?_
      simp [isUnknown_of_mem (List.mem_filter.1 hn).1]
    rw [if_pos h, if_pos h, hnone, List.find?_nil]
  · rw [if_neg h, if_neg h]

theorem Relationship.unknownEnd?_eq (r : Relationship) (names : List String) :
    r.unknownEnd? names = ([r.source.entity, r.target.entity].find? (isUnknown names)).map
      (.inRelationship r.source.entity r.target.entity) := by
  have hif : ∀ name, (if name ∈ names ∨ isBuiltIn name = true then none
      else some (UnknownName.inRelationship r.source.entity r.target.entity name))
        = if isUnknown names name then
            some (.inRelationship r.source.entity r.target.entity name) else none := by
    intro name
    by_cases h : name ∈ names ∨ isBuiltIn name = true
    · rw [if_pos h, isUnknown_eq_false_iff.2 h, if_neg Bool.false_ne_true]
    · have hu : isUnknown names name = true :=
        eq_true_of_ne_false (mt isUnknown_eq_false_iff.1 h)
      rw [if_neg h, hu, if_pos rfl]
  simp only [unknownEnd?, hif, List.findSome?_cons, List.find?_cons, List.findSome?_nil,
    List.find?_nil]
  cases isUnknown names r.source.entity <;> cases isUnknown names r.target.entity <;> rfl

namespace Graph

/-- Whether the date of some record is later than the last instant, when dates count from `t`. -/
def Overruns (g : Graph) (t : Instant) : Prop :=
  ∃ (i : Nat) (e : Entity) (name : String), g.entities[i]? = some e ∧ e.name = some name ∧
    isBuiltIn name = false ∧ Instant.lastSecond < t.seconds + (i + 1 : Nat)

/-- The first option with an unknown name, with the first such name. -/
def unknownInOptions? (g : Graph) : Option UnknownName :=
  g.options.findSome? fun o => (o.mentions.find? (isUnknown g.entityNames)).map (.inOption o.name)

/-- The first relationship with an unknown end, with that end; the declaring end comes first. -/
def unknownInRelationships? (g : Graph) : Option UnknownName :=
  g.relationships.findSome? fun r =>
    ([r.source.entity, r.target.entity].find? (isUnknown g.entityNames)).map
      (.inRelationship r.source.entity r.target.entity)

/-- Names of built-in entities are known whether they are declared or not. -/
theorem isUnknown_recordNames (g : Graph) :
    isUnknown g.recordNames.eraseDups = isUnknown g.entityNames := by
  funext name
  have hmem : name ∈ g.recordNames.eraseDups ↔ name ∈ g.entityNames ∧ isBuiltIn name = false := by
    rw [List.mem_eraseDups, recordNames_eq, List.mem_filter, Bool.not_eq_true']
  unfold isUnknown
  cases hb : isBuiltIn name with
  | true => simp
  | false =>
    have hc : g.recordNames.eraseDups.contains name = g.entityNames.contains name := by
      rw [Bool.eq_iff_iff, List.contains_iff_mem, List.contains_iff_mem, hmem, hb]
      simp
    rw [hc]

theorem addEntities_error_iff_overruns (g : Graph) (t : Instant) (s : Sheet) :
    (∃ x, Sheet.addEntities t 0 g.entities s = .error x) ↔ g.Overruns t := by
  rw [Sheet.addEntities_error_iff]
  constructor
  · rintro ⟨i, e, hp, hr, hd⟩
    obtain ⟨name, hr⟩ := Option.ne_none_iff_exists'.1 hr
    obtain ⟨hn, hb⟩ := Entity.name_of_recordName? hr
    exact ⟨i, e, name, hp, hn, hb, by rwa [Nat.zero_add] at hd⟩
  · rintro ⟨i, e, name, hp, hn, hb, hd⟩
    exact ⟨i, e, hp, by simp [Entity.recordName?, hn, hb], by rwa [Nat.zero_add]⟩

/-- On the records of a graph's entities, options stop at the first unknown name written in them. -/
theorem failure_applyOptions_fresh {g : Graph} {t : Instant} {log : List Notice} {fresh : Sheet}
    (h : Sheet.addEntities t 0 g.entities ⟨.empty, log⟩ = .ok fresh) :
    (g.applyOptions fresh).failure = g.unknownInOptions? := by
  have hkeys : fresh.records.keys = g.recordNames.eraseDups := Sheet.keys_addEntities h
  rw [failure_applyOptions, hkeys, isUnknown_recordNames]
  simp only [EntityOption.find?_lookUps]
  rfl

theorem findSome?_unknownEnd? (g : Graph) :
    g.relationships.findSome? (Relationship.unknownEnd? g.entityNames)
      = g.unknownInRelationships? := by
  unfold unknownInRelationships?
  congr 1
  funext r
  exact r.unknownEnd?_eq g.entityNames

theorem complete_of_unknown {g : Graph} {unknown : UnknownName}
    (h : g.unknownInRelationships? = some unknown) (records : Dict EntityRecord) :
    g.complete records = .error unknown := by
  rw [complete_eq, relationshipRecords, findSome?_unknownEnd?, h]
  rfl

theorem complete_of_known {g : Graph} (h : g.unknownInRelationships? = none)
    (records : Dict EntityRecord) : ∃ done, g.complete records = .ok done := by
  rw [complete_eq, relationshipRecords, findSome?_unknownEnd?, h]
  exact ⟨_, rfl⟩

/-- A conversion runs out of dates, stops at the first unknown name, or has a result. -/
theorem convert_cases (g : Graph) (application : String) (t : Instant) (log : List Notice) :
    (g.Overruns t ∧ ∃ e, (g.convert application t log).result = .error (.date e)) ∨
    (¬ g.Overruns t ∧ ∃ unknown,
      g.unknownInOptions?.or g.unknownInRelationships? = some unknown ∧
      (g.convert application t log).result = .error (.failure (.unknownName unknown))) ∨
    (¬ g.Overruns t ∧ g.unknownInOptions?.or g.unknownInRelationships? = none ∧
      ∃ c, (g.convert application t log).result = .ok c) := by
  have hruns := g.addEntities_error_iff_overruns t ⟨.empty, log⟩
  unfold convert
  cases hadd : Sheet.addEntities t 0 g.entities ⟨.empty, log⟩ with
  | error x => exact .inl ⟨hruns.1 ⟨x, hadd⟩, x.error, rfl⟩
  | ok fresh =>
    have ho : ¬ g.Overruns t := by
      rw [← hruns, hadd]
      rintro ⟨x, hx⟩
      cases hx
    refine .inr ?_
    dsimp only
    rw [failure_applyOptions_fresh hadd]
    cases g.unknownInOptions? with
    | some unknown => exact .inl ⟨ho, unknown, rfl, rfl⟩
    | none =>
      rw [Option.none_or]
      dsimp only
      cases hr : g.unknownInRelationships? with
      | some unknown =>
        rw [complete_of_unknown hr]
        exact .inl ⟨ho, unknown, rfl, rfl⟩
      | none =>
        obtain ⟨done, hdone⟩ := complete_of_known hr (g.applyOptions fresh).sheet.records
        rw [hdone]
        exact .inr ⟨ho, rfl, _, rfl⟩

end Graph

namespace Request

/-- Whether the graph, the application or the database of a request is missing, or one of the last
two is empty. -/
def Incomplete (r : Request) : Prop :=
  r.graph = none ∨ r.application = none ∨ r.application = some "" ∨ r.database = none
    ∨ r.database = some ""

theorem run_of_incomplete {r : Request} (h : r.Incomplete) (now : Instant) :
    r.run now = ⟨[], .error (.failure .missingArguments)⟩ := by
  obtain ⟨graph, application, database, applicationType, created⟩ := r
  unfold run
  split
  · rename_i g a d hg ha hd
    refine if_neg fun hne => ?_
    simp_all [Incomplete]
  · rfl

theorem run_of_not_incomplete {r : Request} (h : ¬ r.Incomplete) (now : Instant) :
    ∃ g application log, r.graph = some g ∧
      r.run now = g.convert application (r.created.getD now) log := by
  obtain ⟨graph, application, database, applicationType, created⟩ := r
  simp only [Incomplete, not_or] at h
  obtain ⟨hg, ha, ha', hd, hd'⟩ := h
  obtain ⟨g, rfl⟩ := Option.ne_none_iff_exists'.1 hg
  obtain ⟨a, rfl⟩ := Option.ne_none_iff_exists'.1 ha
  obtain ⟨d, rfl⟩ := Option.ne_none_iff_exists'.1 hd
  have hne : a ≠ "" ∧ d ≠ "" := ⟨fun h => ha' (h ▸ rfl), fun h => hd' (h ▸ rfl)⟩
  exact ⟨g, a, _, rfl, if_pos hne⟩

/-- The end of a conversion whose dates count from `t`.  It lacks arguments exactly if the request
is incomplete.  Otherwise it runs out of dates exactly if a record has one past the last instant;
otherwise it meets an unknown name exactly if an option mentions one or, if none does, a
relationship has one at an end, and it is the first of these; and otherwise it has a result. -/
theorem result_run {r : Request} {t : Instant} (h : r.created = some t) (now : Instant) :
    ((r.run now).result = .error (.failure .missingArguments) ↔ r.Incomplete) ∧
      ∀ g, r.graph = some g → ¬ r.Incomplete →
        ((∃ e, (r.run now).result = .error (.date e)) ↔ g.Overruns t) ∧
        (¬ g.Overruns t →
          match g.unknownInOptions?.or g.unknownInRelationships? with
          | some unknown => (r.run now).result = .error (.failure (.unknownName unknown))
          | none => ∃ c, (r.run now).result = .ok c) := by
  by_cases hi : r.Incomplete
  · rw [run_of_incomplete hi]
    exact ⟨⟨fun _ => hi, fun _ => rfl⟩, fun g _ hn => absurd hi hn⟩
  · obtain ⟨g, application, log, hg, hrun⟩ := run_of_not_incomplete hi now
    rw [hrun, h, hg, Option.getD_some]
    obtain ⟨ho, e, hr⟩ | ⟨ho, unknown, hu, hr⟩ | ⟨ho, hu, c, hr⟩ :=
      g.convert_cases application t log
    · simp [hr, hi, ho]
    · simp [hr, hi, ho, hu]
    · simp [hr, hi, ho, hu]

/-- Ghosts are kept out of the data transfer objects, where nobody looks for them, and out of the
search. -/
def haunted : Request where
  graph := some
    { entities := [.named "Invoice", .named "User", .named "Customer"]
      relationships := [⟨{ entity := "Phantom" }, { entity := "Invoice" }, .oneToMany⟩]
      options :=
        [{ name := "dto", entityNames := .ofList ["*"], excludedNames := .ofList ["Ghost"],
           value := some "mapstruct" },
         { name := "search", entityNames := .ofList ["Customer", "user"],
           excludedNames := .ofList ["Authority", "Spectre", "Ghost"] }] }
  application := some "shop"
  database := some "sql"
  created := some .epoch

theorem result_run_haunted : (haunted.run .epoch).result
    = .error (.failure (.unknownName (.inOption "search" "Spectre"))) := by
  obtain ⟨g, hg⟩ : ∃ g, haunted.graph = some g := ⟨_, rfl⟩
  have hi : ¬ haunted.Incomplete := by simp [Incomplete, haunted]
  have ho : ¬ g.Overruns .epoch := by
    cases hg
    rintro ⟨i, e, name, hp, -, -, hd⟩
    obtain ⟨hlt, -⟩ := List.getElem?_eq_some_iff.1 hp
    simp only [List.length_cons, List.length_nil] at hlt
    simp only [Instant.lastSecond, Instant.epoch] at hd
    omega
  have hend := ((result_run rfl .epoch).2 g hg hi).2 ho
  cases hg
  exact hend

end Request

end DomainModel
