import DomainModel.Proofs.RelationshipRecords
import Mathlib.Data.List.Forall2

/-!
# The two ends of a relationship as mirror images

Declared from its other end a relationship is the same relationship, and the record that its target
receives is the one that this end would declare, but for the ownership: where the ends are alike the
declaring one is the owner.  So the records that entities receive mirror those that they declare
once the relationships are turned round (`mirrors_turnedRound`).
-/

namespace DomainModel

theorem RelationshipType.inverse_inverse (t : RelationshipType) : t.inverse.inverse = t := by
  cases t <;> rfl

/-- A record that an entity receives is the one that it could declare, without the ownership. -/
structure RelationshipRecord.Mirrors (received declared : RelationshipRecord) : Prop where
  eq_but_owner : received = { declared with owner := received.owner }
  owner : received.owner = none ∧ declared.owner = none ∨
    received.owner = some false ∧ declared.owner = some true

theorem RelationshipEnd.owner_record (near far : RelationshipEnd) (type : RelationshipType)
    (owner : Bool) : (near.record far type owner).owner
      = if type = .oneToOne ∨ type = .manyToMany then some owner else none := by
  cases type <;> rfl

/-- At one end a record that is not the owner mirrors the one that is. -/
theorem RelationshipEnd.mirrors_record (near far : RelationshipEnd) (type : RelationshipType) :
    (near.record far type false).Mirrors (near.record far type true) where
  eq_but_owner := by simp only [record]
  owner := by
    rw [owner_record, owner_record]
    split
    · exact .inr ⟨rfl, rfl⟩
    · exact .inl ⟨rfl, rfl⟩

namespace Relationship

theorem flip_flip (r : Relationship) : r.flip.flip = r := by
  rw [flip, flip, RelationshipType.inverse_inverse]

/-- The target of a relationship says of it what it would say if it had declared it. -/
theorem mirrors_flip (r : Relationship) : r.targetRecord.Mirrors r.flip.sourceRecord := by
  rw [targetRecord_eq, sourceRecord_eq, flip]
  exact RelationshipEnd.mirrors_record r.target r.source r.type.inverse

/-- Which ends of a relationship are owners. -/
theorem owners (r : Relationship) : [r.sourceRecord.owner, r.targetRecord.owner]
    = if r.type = .oneToOne ∨ r.type = .manyToMany then [some true, some false]
      else [none, none] := by
  have htype : (r.type.inverse = .oneToOne ∨ r.type.inverse = .manyToMany)
      ↔ (r.type = .oneToOne ∨ r.type = .manyToMany) := by
    cases r.type <;> simp [RelationshipType.inverse]
  rw [sourceRecord_eq, targetRecord_eq, RelationshipEnd.owner_record,
    RelationshipEnd.owner_record]
  simp only [htype]
  split <;> rfl

theorem unknownEnd?_eq_none_iff {names : List String} {r : Relationship} :
    r.unknownEnd? names = none ↔ (r.source.entity ∈ names ∨ isBuiltIn r.source.entity = true) ∧
      (r.target.entity ∈ names ∨ isBuiltIn r.target.entity = true) := by
  have hend : ∀ name : String, (if name ∈ names ∨ isBuiltIn name = true then none
      else some (UnknownName.inRelationship r.source.entity r.target.entity name)) = none
        ↔ (name ∈ names ∨ isBuiltIn name = true) := fun name => by
    split <;> simp_all
  rw [unknownEnd?, List.findSome?_eq_none_iff, List.forall_mem_cons, List.forall_mem_singleton,
    hend, hend]

/-- Which ends are known does not depend on the end that declares the relationship. -/
theorem unknownEnd?_flip_eq_none_iff {names : List String} {r : Relationship} :
    r.flip.unknownEnd? names = none ↔ r.unknownEnd? names = none := by
  rw [unknownEnd?_eq_none_iff, unknownEnd?_eq_none_iff]
  exact and_comm

end Relationship

/-! ## Lists of relationships -/

/-- The records of an entity for the relationships that it declares. -/
def declaredAt (relationships : List Relationship) (name : String) : List RelationshipRecord :=
  (relationships.filter (·.source.entity = name)).map Relationship.sourceRecord

/-- The records of an entity for the relationships that put a field into it. -/
def receivedAt (relationships : List Relationship) (name : String) : List RelationshipRecord :=
  (relationships.filter fun r =>
    r.target.entity = name && r.target.injectedField.isSome).map Relationship.targetRecord

/-- The relationships that put a field into their target, each declared from there. -/
def turnedRound (relationships : List Relationship) : List Relationship :=
  (relationships.filter (·.target.injectedField.isSome)).map Relationship.flip

variable {relationships : List Relationship} {names : List String}
  {d : Dict (List RelationshipRecord)}

theorem mirrors_turnedRound (relationships : List Relationship) (name : String) :
    List.Forall₂ RelationshipRecord.Mirrors (receivedAt relationships name)
      (declaredAt (turnedRound relationships) name) := by
  rw [receivedAt, declaredAt, turnedRound, List.filter_map, List.map_map, List.filter_filter,
    List.forall₂_map_left_iff, List.forall₂_map_right_iff]
  exact List.forall₂_same.2 fun r _ => r.mirrors_flip

theorem relationshipRecords_isOk_iff : (relationshipRecords relationships names).isOk = true ↔
    ∀ r ∈ relationships, r.unknownEnd? names = none := by
  rw [relationshipRecords, ← List.findSome?_eq_none_iff]
  split <;> simp_all [Except.isOk, Except.toBool]

theorem get?_of_relationshipRecords (h : relationshipRecords relationships names = .ok d)
    {name : String} (hname : name ∈ names) :
    d.get? name = some (declaredAt relationships name ++ receivedAt relationships name) := by
  rw [relationshipRecords_ok h, Dict.get?_ofList_map, if_pos hname]
  rfl

/-- Turning relationships round brings up no unknown names. -/
theorem exists_turnedRound (h : relationshipRecords relationships names = .ok d) :
    ∃ d', relationshipRecords (turnedRound relationships) names = .ok d' := by
  have hknown : ∀ r ∈ relationships, r.unknownEnd? names = none :=
    relationshipRecords_isOk_iff.1 (by rw [h]; rfl)
  refine exists_of_isOk (relationshipRecords_isOk_iff.2 fun r' hr' => ?_)
  obtain ⟨r, hr, rfl⟩ := List.mem_map.1 hr'
  exact Relationship.unknownEnd?_flip_eq_none_iff.2 (hknown r (List.mem_filter.1 hr).1)

/-- Turning a relationship round twice gives it back, and the record at its target is, but for the
ownership, the one that the target declares once it is turned round.  If the ends are alike, the
declaring one alone is the owner, and otherwise the records tell of no owner.  So, if relationships
have records, they also have them turned round, and then each entity declares what before it
received. -/
theorem Relationship.mirrored_ends (r : Relationship) :
    r.flip.flip = r ∧ r.targetRecord.Mirrors r.flip.sourceRecord ∧
      [r.sourceRecord.owner, r.targetRecord.owner]
        = (if r.type = .oneToOne ∨ r.type = .manyToMany then [some true, some false]
          else [none, none]) ∧
      ∀ (relationships : List Relationship) (names : List String)
        (d : Dict (List RelationshipRecord)), relationshipRecords relationships names = .ok d →
        ∃ d', relationshipRecords (turnedRound relationships) names = .ok d' ∧
          ∀ name ∈ names, ∃ declared received declared' received',
            d.get? name = some (declared ++ received) ∧
            d'.get? name = some (declared' ++ received') ∧
            declared.length = relationships.countP (·.source.entity = name) ∧
            List.Forall₂ RelationshipRecord.Mirrors received declared' := by
  refine ⟨r.flip_flip, r.mirrors_flip, r.owners, fun relationships names d h => ?_⟩
  obtain ⟨d', h'⟩ := exists_turnedRound h
  refine ⟨d', h', fun name hname => ⟨_, _, _, _, get?_of_relationshipRecords h hname,
    get?_of_relationshipRecords h' hname, ?_, mirrors_turnedRound relationships name⟩⟩
  rw [declaredAt, List.length_map, List.countP_eq_length_filter]

/-- Parcels and their senders, whose ends differ in all that they say, and the carrier of a parcel,
who gets no field. -/
def shipping : List Relationship :=
  [⟨{ entity := "Customer", injectedField := some "parcels(weight)", required := true,
      comment := some "What was sent" },
    { entity := "Parcel", injectedField := some "sender(name)", comment := some "Who sent it" },
    .manyToMany⟩,
   ⟨{ entity := "Parcel", injectedField := some "carrier" }, { entity := "Customer" }, .manyToOne⟩]

theorem Relationship.mirrored_ends_shipping :
    ∃ d d', relationshipRecords shipping ["Customer", "Parcel"] = .ok d ∧
      relationshipRecords (turnedRound shipping) ["Customer", "Parcel"] = .ok d' ∧
      ∃ declared received declared' received',
        d.get? "Parcel" = some (declared ++ received) ∧
        d'.get? "Parcel" = some (declared' ++ received') ∧
        (declared ++ received).length = 2 ∧ declared.length = 1 ∧
        List.Forall₂ RelationshipRecord.Mirrors received declared' := by
  obtain ⟨d, hd⟩ : ∃ d, relationshipRecords shipping ["Customer", "Parcel"] = .ok d := by
    apply exists_of_isOk
    decide +kernel
  have hparcel : "Parcel" ∈ ["Customer", "Parcel"] := by decide
  obtain ⟨-, -, -, hturned⟩ := mirrored_ends (shipping.head (List.cons_ne_nil _ _))
  obtain ⟨d', hd', hrecords⟩ := hturned shipping ["Customer", "Parcel"] d hd
  obtain ⟨declared, received, declared', received', hget, hget', hlength, hmirrors⟩ :=
    hrecords "Parcel" hparcel
  have hall : (declared ++ received).length = 2 := by
    have h := (get?_of_relationshipRecords hd hparcel).symm.trans hget
    rw [← Option.some.inj h]
    decide +kernel
  exact ⟨d, d', hd, hd', declared, received, declared', received', hget, hget', hall,
    hlength.trans (by decide +kernel), hmirrors⟩

end DomainModel
