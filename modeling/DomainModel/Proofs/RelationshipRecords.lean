import DomainModel.Proofs.Dict
import DomainModel.Proofs.Outcomes
import DomainModel.Record.Relationships

/-!
# Where relationship records come from

The records at the two ends of a relationship follow one rule, which looks at the near end, the far
end and the type seen from the near one (`RelationshipEnd.record`); besides that, only the owner
tells the ends apart.  A record of a relationship comes from one place of the list of relationships,
as the record of the entity that declares the relationship or of the one that receives a field from
it.  The records are made entity by entity, and yet none is lost and none is made twice: the origins
of the records of an entity are exactly those that belong to it, and all entities together have as
many records as there are ends of relationships that should have one
(`origins_of_relationshipRecords`).
-/

namespace DomainModel

variable {relationships : List Relationship} {names : List String}
  {d : Dict (List RelationshipRecord)}

theorem relationshipRecords_ok (h : relationshipRecords relationships names = .ok d) :
    d = .ofList (names.map fun name => (name, recordsAt relationships name)) := by
  unfold relationshipRecords at h
  split at h
  · cases h
  · cases h
    rfl

/-! ## One rule for both ends -/

/-- The record at the end `near`, for a relationship whose type is seen from there. -/
def RelationshipEnd.record (near far : RelationshipEnd) (type : RelationshipType) (owner : Bool) :
    RelationshipRecord :=
  let here := Text.InjectedField.read near.injectedField
  let there := Text.InjectedField.read far.injectedField
  { type := type.kebab
    otherEntity := Text.lowerFirst far.entity
    name := Text.camelCase (here.name.getD far.entity)
    otherName := Text.lowerFirst (there.name.getD near.entity)
    otherField := here.display.map Text.lowerFirst
    owner := if type.hasOwner then some owner else none
    javadoc := Text.docText near.comment
    rules := if near.required then some Relationship.requiredRule else none }

namespace Relationship

/-- What the declaring end says of itself and of the other end is what the rule has it say. -/
theorem sourceRecord_eq (r : Relationship) :
    r.sourceRecord = r.source.record r.target r.type true := rfl

/-- The target says by the same rule what the declaring end would, were the ends exchanged. -/
theorem targetRecord_eq (r : Relationship) :
    r.targetRecord = r.target.record r.source r.type.inverse false := rfl

end Relationship

/-! ## Places -/

section Places

variable {α β : Type}

/-- The places of a list at which something with the property stands, from the first to the last. -/
def placesOf (p : α → Bool) (xs : List α) : List Nat := (xs.zipIdx.filter fun e => p e.1).map (·.2)

theorem mem_placesOf_iff {p : α → Bool} {xs : List α} {i : Nat} :
    i ∈ placesOf p xs ↔ ∃ x, xs[i]? = some x ∧ p x = true := by
  simp only [placesOf, List.mem_map, List.mem_filter, List.mem_zipIdx_iff_getElem?, Prod.exists,
    exists_eq_right]

theorem pairwise_placesOf (p : α → Bool) (xs : List α) : (placesOf p xs).Pairwise (· < ·) := by
  have hall : (xs.zipIdx.map (·.2)).Pairwise (· < ·) := by
    rw [List.zipIdx_map_snd]
    exact List.pairwise_lt_range'
  exact hall.sublist (List.filter_sublist.map _)

/-- What is made of the elements with the property is what is made of those at their places. -/
theorem map_placesOf (p : α → Bool) (f : α → β) (xs : List α) :
    (placesOf p xs).map (fun i => xs[i]?.map f) = ((xs.filter p).map f).map some := by
  have hplaces : ∀ e ∈ xs.zipIdx.filter (fun e => p e.1), xs[e.2]?.map f = some (f e.1) := by
    intro e he
    rw [List.mem_zipIdx_iff_getElem?.1 (List.mem_filter.1 he).1, Option.map_some]
  have hfilter : (xs.zipIdx.filter (p ∘ Prod.fst)).map Prod.fst = xs.filter p := by
    rw [← List.filter_map, List.zipIdx_map_fst]
  rw [placesOf, List.map_map, List.map_map, ← hfilter, List.map_map]
  exact List.map_congr_left hplaces

end Places

/-! ## Origins -/

/-- The place of a relationship, which the entity with the record has declared or receives a field
from. -/
inductive RecordOrigin where
  | declared (place : Nat)
  | received (place : Nat)
  deriving DecidableEq, Repr

namespace RecordOrigin

def record? (relationships : List Relationship) : RecordOrigin → Option RelationshipRecord
  | declared i => relationships[i]?.map Relationship.sourceRecord
  | received i => relationships[i]?.map Relationship.targetRecord

/-- The entity declares the relationship at the place, or it is the target and a field is put into
it. -/
def BelongsTo (relationships : List Relationship) (entity : String) : RecordOrigin → Prop
  | declared i => ∃ r, relationships[i]? = some r ∧ r.source.entity = entity
  | received i => ∃ r, relationships[i]? = some r ∧ r.target.entity = entity ∧
      r.target.injectedField.isSome = true

/-- What an entity declares comes before what it receives, and each in order of declaration. -/
def Before : RecordOrigin → RecordOrigin → Prop
  | declared i, declared j | received i, received j => i < j
  | declared _, received _ => True
  | received _, declared _ => False

/-- The origins of the records of an entity. -/
def allAt (relationships : List Relationship) (entity : String) : List RecordOrigin :=
  (placesOf (fun r => r.source.entity = entity) relationships).map declared
    ++ (placesOf (fun r => r.target.entity = entity && r.target.injectedField.isSome)
      relationships).map received

theorem mem_allAt_iff {entity : String} {o : RecordOrigin} :
    o ∈ allAt relationships entity ↔ o.BelongsTo relationships entity := by
  cases o with
  | declared i => simp [allAt, BelongsTo, mem_placesOf_iff]
  | received i => simp [allAt, BelongsTo, mem_placesOf_iff]

theorem pairwise_allAt (relationships : List Relationship) (entity : String) :
    (allAt relationships entity).Pairwise Before := by
  refine List.pairwise_append.2 ⟨?_, ?_, ?_⟩
  · exact List.pairwise_map.2 (pairwise_placesOf _ _)
  · exact List.pairwise_map.2 (pairwise_placesOf _ _)
  · intro o ho o' ho'
    obtain ⟨i, -, rfl⟩ := List.mem_map.1 ho
    obtain ⟨j, -, rfl⟩ := List.mem_map.1 ho'
    trivial

theorem map_record?_allAt (relationships : List Relationship) (entity : String) :
    (allAt relationships entity).map (record? relationships)
      = (recordsAt relationships entity).map some := by
  rw [allAt, recordsAt, List.map_append, List.map_append, List.map_map, List.map_map]
  exact congr (congrArg _ (map_placesOf _ _ _)) (map_placesOf _ _ _)

end RecordOrigin

/-! ## Counting -/

theorem countP_mem_cons {key : String} {keys : List String} (h : key ∉ keys) (xs : List String) :
    xs.countP (· ∈ key :: keys) = xs.count key + xs.countP (· ∈ keys) := by
  induction xs with
  | nil => rfl
  | cons x xs ih =>
    rw [List.count_cons, List.countP_cons, List.countP_cons, ih]
    by_cases hx : x = key
    · subst hx
      simp [h]
      omega
    · by_cases hk : x ∈ keys <;> simp [hx, hk]
      omega

/-- If something is made for each key as often as the key occurs, then for all keys together it is
made as often as one of them occurs. -/
theorem length_flatMap_of_count {α : Type} {f : String → List α} {keys xs : List String}
    (hf : ∀ key, (f key).length = xs.count key) (h : keys.Nodup) :
    (keys.flatMap f).length = xs.countP (· ∈ keys) := by
  induction keys with
  | nil => simp
  | cons key keys ih =>
    obtain ⟨hkey, h⟩ := List.nodup_cons.1 h
    rw [List.flatMap_cons, List.length_append, hf, ih h, countP_mem_cons hkey]

/-- The entities at those ends of relationships that have records. -/
def recordEnds (relationships : List Relationship) : List String :=
  relationships.map (·.source.entity)
    ++ (relationships.filter (·.target.injectedField.isSome)).map (·.target.entity)

theorem length_recordsAt (relationships : List Relationship) (name : String) :
    (recordsAt relationships name).length = (recordEnds relationships).count name := by
  rw [recordsAt, recordEnds, List.length_append, List.length_map, List.length_map,
    ← List.countP_eq_length_filter, ← List.countP_eq_length_filter, List.count_append,
    List.count_eq_countP, List.count_eq_countP, List.countP_map, List.countP_map, List.countP_filter]
  rfl

/-- Every name has an entry, at its first place, and its records come from all that belongs to it:
first what it declares, then what it receives, each in order of declaration.  So the records are as
many as the relationships that an entity of the names declares and those that put a field into an
entity of the names. -/
theorem origins_of_relationshipRecords (h : relationshipRecords relationships names = .ok d) :
    d.keys = names.eraseDups ∧
      (∀ name ∈ names, ∃ (records : List RelationshipRecord) (origins : List RecordOrigin),
        d.get? name = some records ∧
        records.map some = origins.map (RecordOrigin.record? relationships) ∧
        origins.Pairwise RecordOrigin.Before ∧
        ∀ o, o ∈ origins ↔ o.BelongsTo relationships name) ∧
      d.values.flatten.length = relationships.countP (·.source.entity ∈ names)
        + relationships.countP fun r =>
          r.target.entity ∈ names && r.target.injectedField.isSome := by
  have hd := relationshipRecords_ok h
  have hkeys : d.keys = names.eraseDups := by rw [hd, Dict.keys_ofList_map]
  refine ⟨hkeys, fun name hname => ?_, ?_⟩
  · refine ⟨recordsAt relationships name, RecordOrigin.allAt relationships name, ?_,
      (RecordOrigin.map_record?_allAt relationships name).symm,
      RecordOrigin.pairwise_allAt relationships name, fun o => RecordOrigin.mem_allAt_iff⟩
    rw [hd, Dict.get?_ofList_map, if_pos hname]
  · have hnodup : names.eraseDups.Nodup := hkeys ▸ d.nodup
    rw [hd, Dict.values_ofList_map, ← List.flatMap_def,
      length_flatMap_of_count (length_recordsAt relationships) hnodup, recordEnds,
      List.countP_append, List.countP_map, List.countP_map, List.countP_filter]
    simp only [Function.comp_def, List.mem_eraseDups]

/-- An order with parts that are orders, for which it has a blank field, and two relationships with
built-in entities, of which the user is declared. -/
def orderRelationships : List Relationship :=
  [⟨{ entity := "Order", injectedField := some "part" },
    { entity := "Order", injectedField := some " " }, .oneToMany⟩,
   ⟨{ entity := "Authority" }, { entity := "Order", injectedField := some "approver" }, .oneToMany⟩,
   ⟨{ entity := "Order", injectedField := some "buyer(login)" }, { entity := "User" }, .manyToOne⟩]

theorem origins_of_relationshipRecords_orders :
    ∃ d, relationshipRecords orderRelationships ["Order", "User", "Order"] = .ok d ∧
      d.keys = ["Order", "User"] ∧ d.values.flatten.length = 4 ∧
      ∃ (records : List RelationshipRecord) (origins : List RecordOrigin),
        d.get? "Order" = some records ∧
        records.map some = origins.map (RecordOrigin.record? orderRelationships) ∧
        origins.Pairwise RecordOrigin.Before ∧
        ∀ o, o ∈ origins ↔ o = .declared 0 ∨ o = .declared 2 ∨ o = .received 0 ∨ o = .received 1 := by
  obtain ⟨d, hd⟩ : ∃ d,
      relationshipRecords orderRelationships ["Order", "User", "Order"] = .ok d := by
    apply exists_of_isOk
    decide +kernel
  obtain ⟨hkeys, hentries, hsum⟩ := origins_of_relationshipRecords hd
  obtain ⟨records, origins, hget, hrecords, hbefore, horigins⟩ := hentries "Order" (by decide)
  refine ⟨d, hd, hkeys.trans (by decide +kernel), hsum.trans (by decide +kernel), records, origins,
    hget, hrecords, hbefore, fun o => (horigins o).trans ?_⟩
  rcases o with ⟨_ | _ | _ | i⟩ | ⟨_ | _ | _ | i⟩ <;>
    simp [RecordOrigin.BelongsTo, orderRelationships]

end DomainModel
