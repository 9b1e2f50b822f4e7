import DomainModel.Conversion
import DomainModel.Proofs.Dict
import DomainModel.Proofs.Outcomes

/-!
# Records before options

Adding the records of the entities is a run over them, of which `addEntity` is one step.  The run
fails if and only if the date of some record lies past the last instant (`addEntities_error_iff`).
If it does not, the records stand in the order in which their names are first declared
(`keys_addEntities`), and each comes from the last declaration of its name
(`get?_addEntities_of_last`).
-/

namespace DomainModel

/-! ## Dates -/

namespace Instant

/-- The start of 1970. -/
def epoch : Instant where
  seconds := 0

/-- The seconds of the last instant. -/
def lastSecond : Int := 8210266876799

/-- A shift into the future fails only past the last instant, for the spans that cannot be measured
are longer than all of time. -/
theorem changelogStamp_error_iff (t : Instant) (n : Nat) :
    (∃ e, t.changelogStamp n = .error e) ↔ lastSecond < t.seconds + n := by
  have hl := t.lower
  unfold changelogStamp shift ofSeconds? lastSecond maxSpan
  by_cases hs : 9223372036854775 < (n : Int).natAbs
  · rw [if_pos hs]
    exact ⟨fun _ => by omega, fun _ => ⟨_, rfl⟩⟩
  · rw [if_neg hs]
    by_cases hi : -8334601228800 ≤ t.seconds + n ∧ t.seconds + n ≤ 8210266876799
    · rw [dif_pos hi]
      refine ⟨?_, fun h => by omega⟩
      rintro ⟨e, he⟩
      cases he
    · rw [dif_neg hi]
      exact ⟨fun _ => by omega, fun _ => ⟨_, rfl⟩⟩

end Instant

/-! ## Declarations -/

/-- The name that an entity gets a record under: its own, unless that is built in. -/
def Entity.recordName? (e : Entity) : Option String := e.name.filter fun name => !isBuiltIn name

theorem Entity.name_of_recordName? {e : Entity} {name : String} (h : e.recordName? = some name) :
    e.name = some name ∧ isBuiltIn name = false := by
  obtain ⟨hn, hb⟩ := Option.filter_eq_some_iff.1 h
  exact ⟨hn, by simpa using hb⟩

/-- The names that the entities of a graph get records under, in order of declaration. -/
def Graph.recordNames (g : Graph) : List String := g.entities.filterMap Entity.recordName?

theorem Graph.recordNames_eq (g : Graph) :
    g.recordNames = g.entityNames.filter fun name => !isBuiltIn name := by
  rw [recordNames, entityNames, List.filter_filterMap]
  rfl

/-- The entity `e`, at place `i`, is the last of the entities that has the name. -/
structure IsLastDeclaration (es : List Entity) (name : String) (i : Nat) (e : Entity) : Prop where
  at_place : es[i]? = some e
  has_name : e.name = some name
  is_last : ∀ later ∈ es.drop (i + 1), later.name ≠ some name

namespace IsLastDeclaration

variable {es : List Entity} {name : String} {i : Nat} {e : Entity}

theorem split (h : IsLastDeclaration es name i e) :
    es = es.take i ++ e :: es.drop (i + 1) ∧ (es.take i).length = i := by
  obtain ⟨hi, he⟩ := List.getElem?_eq_some_iff.1 h.at_place
  refine ⟨?_, List.length_take_of_le (Nat.le_of_lt hi)⟩
  rw [← he, ← List.drop_eq_getElem_cons hi, List.take_append_drop]

theorem mem_entityNames {g : Graph} (h : IsLastDeclaration g.entities name i e) :
    name ∈ g.entityNames :=
  List.mem_filterMap.2 ⟨e, List.mem_of_getElem? h.at_place, h.has_name⟩

theorem exists_of_mem : ∀ {es : List Entity}, name ∈ es.filterMap (·.name) →
    ∃ i e, IsLastDeclaration es name i e
  | [], h => by simp at h
  | e :: es, h => by
    -- the head is the last declaration only if there is none in the tail
    by_cases ht : name ∈ es.filterMap (·.name)
    · obtain ⟨i, e', hp, hn, hl⟩ := exists_of_mem ht
      exact ⟨i + 1, e', by simpa using hp, hn, by simpa using hl⟩
    · refine ⟨0, e, rfl, ?_, fun later hlater hn => ht ?_⟩
      · simp only [List.filterMap_cons] at h
        split at h
        · exact absurd h ht
        · rename_i name' hn
          rcases List.mem_cons.1 h with rfl | h
          · exact hn
          · exact absurd h ht
      · exact List.mem_filterMap.2 ⟨later, by simpa using hlater, hn⟩

end IsLastDeclaration

/-! ## One entity -/

/-- The record of an entity under a name, before options, with a date. -/
def Entity.recordAt (e : Entity) (name date : String) : EntityRecord :=
  .fresh name (Text.snakeCase (e.tableName.getD name)) date (Text.docText e.comment)

namespace Sheet

/-- Adds the record of an entity at a place in the graph. -/
def addEntity (created : Instant) (place : Nat) (e : Entity) (s : Sheet) :
    Except OutOfDates Sheet :=
  match e.name with
  | none => .ok s
  | some name =>
    if isBuiltIn name then .ok { s with log := s.log ++ [.builtInDeclared name] }
    else do
      let record ← (e.freshRecord name created place).mapError fun error => ⟨error, s.log⟩
      return { s with records := s.records.insert name record }

theorem addEntities_cons (created : Instant) (place : Nat) (e : Entity) (es : List Entity)
    (s : Sheet) :
    addEntities created place (e :: es) s
      = addEntity created place e s >>= addEntities created (place + 1) es := by
  rw [addEntities, addEntity]
  cases e.name with
  | none => rfl
  | some name =>
    dsimp only
    split
    · rfl
    · cases e.freshRecord name created place <;> rfl

theorem addEntity_of_none (created : Instant) (place : Nat) {e : Entity}
    (h : e.recordName? = none) (s : Sheet) :
    ∃ log, addEntity created place e s = .ok ⟨s.records, log⟩ := by
  rw [addEntity]
  split
  · exact ⟨s.log, rfl⟩
  · rename_i name hn
    have hb : isBuiltIn name = true := by simpa [Entity.recordName?, hn] using h
    exact ⟨_, if_pos hb⟩

theorem addEntity_of_some (created : Instant) (place : Nat) {e : Entity} {name : String}
    (h : e.recordName? = some name) (s : Sheet) :
    addEntity created place e s
      = ((created.changelogStamp (place + 1 : Nat)).mapError fun error => ⟨error, s.log⟩).map
        fun date => { s with records := s.records.insert name (e.recordAt name date) } := by
  obtain ⟨hn, hb⟩ := Entity.name_of_recordName? h
  simp only [addEntity, hn, hb, Bool.false_eq_true, if_false, Entity.freshRecord]
  rw [Int.natCast_succ]
  cases created.changelogStamp (place + 1) <;> rfl

theorem addEntity_error_iff (created : Instant) (place : Nat) (e : Entity) (s : Sheet) :
    (∃ x, addEntity created place e s = .error x) ↔
      e.recordName? ≠ none ∧ Instant.lastSecond < created.seconds + (place + 1 : Nat) := by
  cases hr : e.recordName? with
  | none =>
    obtain ⟨log, hs⟩ := addEntity_of_none created place hr s
    simp [hs]
  | some name =>
    rw [addEntity_of_some created place hr, ← Instant.changelogStamp_error_iff]
    cases created.changelogStamp (place + 1 : Nat) <;> simp [map_mapError_ok, map_mapError_error]

variable {created : Instant} {place : Nat} {e : Entity} {s s' : Sheet}

/-- What a step does: nothing to the records, or one record more. -/
theorem addEntity_ok (h : addEntity created place e s = .ok s') :
    (e.recordName? = none ∧ s'.records = s.records) ∨
      ∃ name date, e.recordName? = some name ∧
        created.changelogStamp (place + 1 : Nat) = .ok date ∧
        s'.records = s.records.insert name (e.recordAt name date) := by
  cases hr : e.recordName? with
  | none =>
    obtain ⟨log, hs⟩ := addEntity_of_none created place hr s
    cases hs.symm.trans h
    exact .inl ⟨rfl, rfl⟩
  | some name =>
    rw [addEntity_of_some created place hr] at h
    obtain ⟨date, hd, rfl⟩ := exists_of_map_ok h
    exact .inr ⟨name, date, rfl, mapError_eq_ok_iff.1 hd, rfl⟩

/-! ## All entities -/

theorem addEntities_append (created : Instant) : ∀ (before after : List Entity) (place : Nat)
    (s : Sheet), addEntities created place (before ++ after) s
      = addEntities created place before s >>= addEntities created (place + before.length) after
  | [], after, place, s => rfl
  | e :: before, after, place, s => by
    rw [List.cons_append, addEntities_cons, addEntities_cons]
    cases addEntity created place e s with
    | error _ => rfl
    | ok s₁ =>
      have h := addEntities_append created before after (place + 1) s₁
      rwa [Nat.add_assoc, Nat.add_comm 1] at h

theorem addEntities_cons_ok {es : List Entity}
    (h : addEntities created place (e :: es) s = .ok s') : ∃ s₁,
      addEntity created place e s = .ok s₁ ∧ addEntities created (place + 1) es s₁ = .ok s' := by
  rw [addEntities_cons] at h
  exact exists_of_bind_ok h

theorem keys_addEntities : ∀ {es : List Entity} {place : Nat} {s s' : Sheet},
    addEntities created place es s = .ok s' →
      s'.records.keys = (s.records.keys ++ es.filterMap Entity.recordName?).eraseDups
  | [], place, s, s', h => by
    cases h
    rw [List.filterMap_nil, List.append_nil]
    exact (eraseDups_of_nodup s.records.nodup).symm
  | e :: es, place, s, s', h => by
    obtain ⟨s₁, hs, h⟩ := addEntities_cons_ok h
    rw [keys_addEntities h]
    rcases addEntity_ok hs with ⟨hr, hs⟩ | ⟨name, date, hr, -, hs⟩
    · rw [hs, List.filterMap_cons_none hr]
    · rw [hs, List.filterMap_cons_some hr, Dict.eraseDups_keys_insert]

/-- Entities of other names leave the record of a name alone. -/
theorem get?_addEntities_of_not_mem {name : String} : ∀ {es : List Entity} {place : Nat}
    {s s' : Sheet}, name ∉ es.filterMap Entity.recordName? →
      addEntities created place es s = .ok s' → s'.records.get? name = s.records.get? name
  | [], place, s, s', _, h => by
    cases h
    rfl
  | e :: es, place, s, s', hn, h => by
    obtain ⟨s₁, hs, h⟩ := addEntities_cons_ok h
    rcases addEntity_ok hs with ⟨hr, hs⟩ | ⟨name', date, hr, -, hs⟩
    · rw [List.filterMap_cons_none hr] at hn
      rw [get?_addEntities_of_not_mem hn h, hs]
    · rw [List.filterMap_cons_some hr, List.mem_cons, not_or] at hn
      rw [get?_addEntities_of_not_mem hn.2 h, hs, Dict.get?_insert, if_neg hn.1]

/-- The record of a name comes from its last declaration. -/
theorem get?_addEntities_of_last {es : List Entity} {name : String} {i : Nat}
    (hl : IsLastDeclaration es name i e) (hb : isBuiltIn name = false)
    (h : addEntities created place es s = .ok s') :
    ∃ date, created.changelogStamp (place + i + 1 : Nat) = .ok date ∧
      s'.records.get? name = some (e.recordAt name date) := by
  have hr : e.recordName? = some name := by simp [Entity.recordName?, hl.has_name, hb]
  obtain ⟨hsplit, hlen⟩ := hl.split
  -- what comes before the declaration does not matter, and what comes after has other names
  rw [hsplit, addEntities_append, hlen] at h
  obtain ⟨s₁, -, h⟩ := exists_of_bind_ok h
  obtain ⟨s₂, hs, h⟩ := addEntities_cons_ok h
  have hrest : name ∉ (es.drop (i + 1)).filterMap Entity.recordName? := by
    intro hm
    obtain ⟨later, hlater, hn⟩ := List.mem_filterMap.1 hm
    exact hl.is_last later hlater (Entity.name_of_recordName? hn).1
  rcases addEntity_ok hs with ⟨hr', -⟩ | ⟨name', date, hr', hd, hs⟩
  · rw [hr] at hr'
    cases hr'
  · rw [hr] at hr'
    cases hr'
    refine ⟨date, hd, ?_⟩
    rw [get?_addEntities_of_not_mem hrest h, hs, Dict.get?_insert_self]

/-- Adding records fails exactly if one of them has a date past the last instant. -/
theorem addEntities_error_iff : ∀ (es : List Entity) (place : Nat) (s : Sheet),
    (∃ x, addEntities created place es s = .error x) ↔
      ∃ (i : Nat) (e : Entity), es[i]? = some e ∧ e.recordName? ≠ none ∧
        Instant.lastSecond < created.seconds + (place + i + 1 : Nat)
  | [], place, s => by simp [addEntities]
  | e :: es, place, s => by
    have hstep := addEntity_error_iff created place e s
    rw [addEntities_cons]
    cases hs : addEntity created place e s with
    | error x =>
      obtain ⟨hr, hd⟩ := hstep.1 ⟨x, hs⟩
      exact ⟨fun _ => ⟨0, e, rfl, hr, hd⟩, fun _ => ⟨x, rfl⟩⟩
    | ok s₁ =>
      -- the tail starts one place later, so its entities have the same dates either way
      refine (addEntities_error_iff es (place + 1) s₁).trans ⟨?_, ?_⟩
      · rintro ⟨i, e', hp, hr, hd⟩
        exact ⟨i + 1, e', hp, hr, by rwa [Nat.add_assoc place, Nat.add_comm 1] at hd⟩
      · rintro ⟨i, e', hp, hr, hd⟩
        cases i with
        | zero =>
          cases hp
          obtain ⟨x, hx⟩ := hstep.2 ⟨hr, hd⟩
          rw [hs] at hx
          cases hx
        | succ i => exact ⟨i, e', hp, hr, by rwa [Nat.add_assoc place, Nat.add_comm 1]⟩

end Sheet

end DomainModel
