import DomainModel.Proofs.DocumentValues
import DomainModel.Record.Basic
import Mathlib.Logic.Function.Basic

/-!
# Records and what has been done to them

A record is known by the changes that were made to it.  Of an attribute the last change that
concerns its key counts (`LastSet`), and the attributes stand in the order in which their keys came
to be there for the last time (`Since`): a key that is set again stays where it is, and one that was
taken away and is set again goes to the end.  The default attributes are as if they had been set
first.  Fields and relationships are what was added, one after the other (`remembers_changes`).
-/

namespace DomainModel

namespace EntityRecord

/-! ## Changes -/

/-- A call that changes a record. -/
inductive Change where
  | set (key : String) (value : Json)
  | remove (key : String)
  | addFields (fields : List FieldRecord)
  | addRelationships (relationships : List RelationshipRecord)
  | setAllApplications
  deriving DecidableEq, Repr

namespace Change

/-- What the change makes of a record. -/
def apply : Change → EntityRecord → EntityRecord
  | set key value, r => r.set key value
  | remove key, r => (r.takeOut key).2
  | addFields fields, r => r.addFields fields
  | addRelationships relationships, r => r.addRelationships relationships
  | setAllApplications, r => r.setAllApplications

/-- The record after the changes, the first of which is made first. -/
def applyAll (changes : List Change) (r : EntityRecord) : EntityRecord :=
  changes.foldl (fun r c => c.apply r) r

/-- The change sets the key or takes it away. -/
def Concerns (key : String) (c : Change) : Prop := c = remove key ∨ ∃ value, c = set key value

/-- The key was last set to the value, and has not been taken away after that. -/
def LastSet (history : List Change) (key : String) (value : Json) : Prop :=
  ∃ before after, history = before ++ set key value :: after ∧ ∀ c ∈ after, ¬ c.Concerns key

/-- The key came to be there by the change at that place, and has not been taken away since. -/
def Since (history : List Change) (key : String) (n : Nat) : Prop :=
  ∃ before value after, history = before ++ set key value :: after ∧ before.length = n ∧
    (∀ value', ¬ LastSet before key value') ∧ remove key ∉ after

/-- The fields that the change adds. -/
def fieldsAdded : Change → List FieldRecord
  | addFields fields => fields
  | _ => []

def relationshipsAdded : Change → List RelationshipRecord
  | addRelationships relationships => relationships
  | _ => []

/-- The default attributes, set one after the other. -/
def defaults : List Change := defaultAttributes.toList.map fun e => set e.1 e.2

variable {history changes : List Change} {c : Change} {key : String} {value : Json} {n : Nat}

/-! ## One change more -/

theorem append_eq_append_cons_iff {α : Type} {xs ys before after : List α} {x : α} :
    xs ++ ys = before ++ x :: after ↔ (∃ mid, before = xs ++ mid ∧ ys = mid ++ x :: after) ∨
      ∃ rest, xs = before ++ x :: rest ∧ after = rest ++ ys := by
  rw [List.append_eq_append_iff]
  constructor
  · rintro (⟨mid, hbefore, hys⟩ | ⟨rest, hxs, hx⟩)
    · exact .inl ⟨mid, hbefore, hys⟩
    · rcases rest with _ | ⟨x', rest⟩
      · exact .inl ⟨[], by simpa using hxs.symm, hx.symm⟩
      · obtain ⟨rfl, hafter⟩ := List.cons.inj hx
        exact .inr ⟨rest, hxs, hafter⟩
  · rintro (⟨mid, hbefore, hys⟩ | ⟨rest, hxs, rfl⟩)
    · exact .inl ⟨mid, hbefore, hys⟩
    · exact .inr ⟨x :: rest, hxs, rfl⟩

theorem concat_eq_append_cons_iff {α : Type} {xs before after : List α} {x y : α} :
    xs ++ [y] = before ++ x :: after ↔ (before = xs ∧ x = y ∧ after = []) ∨
      ∃ rest, xs = before ++ x :: rest ∧ after = rest ++ [y] := by
  have hone : (∃ mid, before = xs ++ mid ∧ [y] = mid ++ x :: after)
      ↔ before = xs ∧ x = y ∧ after = [] := by
    constructor
    · rintro ⟨_ | ⟨x', mid⟩, rfl, heq⟩
      · cases heq
        exact ⟨List.append_nil xs, rfl, rfl⟩
      · simp at heq
    · rintro ⟨rfl, rfl, rfl⟩
      exact ⟨[], (List.append_nil before).symm, rfl⟩
  rw [append_eq_append_cons_iff, hone]

/-- Of two runs of changes the later one counts, if it concerns the key. -/
theorem lastSet_append : LastSet (history ++ changes) key value ↔
    LastSet changes key value ∨ (∀ c ∈ changes, ¬ c.Concerns key) ∧ LastSet history key value := by
  constructor
  · rintro ⟨before, after, heq, hafter⟩
    obtain ⟨mid, -, hmid⟩ | ⟨rest, hrest, rfl⟩ := append_eq_append_cons_iff.1 heq
    · exact .inl ⟨mid, after, hmid, hafter⟩
    · rw [List.forall_mem_append] at hafter
      exact .inr ⟨hafter.2, before, rest, hrest, hafter.1⟩
  · rintro (⟨before, after, rfl, hafter⟩ | ⟨hchanges, before, after, rfl, hafter⟩)
    · exact ⟨history ++ before, after, by rw [List.append_assoc], hafter⟩
    · exact ⟨before, after ++ changes, by rw [List.append_assoc, List.cons_append],
        List.forall_mem_append.2 ⟨hafter, hchanges⟩⟩

theorem lastSet_concat : LastSet (history ++ [c]) key value ↔
    c = set key value ∨ ¬ c.Concerns key ∧ LastSet history key value := by
  have hone : LastSet [c] key value ↔ c = set key value := by
    constructor
    · rintro ⟨before, after, heq, -⟩
      have heq' : [] ++ [c] = before ++ set key value :: after := heq
      obtain ⟨-, hc, -⟩ | ⟨rest, hrest, -⟩ := concat_eq_append_cons_iff.1 heq'
      · exact hc.symm
      · simp at hrest
    · rintro rfl
      exact ⟨[], [], rfl, by simp⟩
  rw [lastSet_append, hone, List.forall_mem_singleton]

theorem since_concat : Since (history ++ [c]) key n ↔ Since history key n ∧ c ≠ remove key ∨
    n = history.length ∧ (∃ value, c = set key value) ∧ ∀ value, ¬ LastSet history key value := by
  constructor
  · rintro ⟨before, value, after, heq, rfl, hnew, hafter⟩
    obtain ⟨rfl, rfl, -⟩ | ⟨rest, hrest, rfl⟩ := concat_eq_append_cons_iff.1 heq
    · exact .inr ⟨rfl, ⟨value, rfl⟩, hnew⟩
    · rw [List.mem_append, not_or, List.mem_singleton] at hafter
      exact .inl ⟨⟨before, value, rest, hrest, rfl, hnew, hafter.1⟩, Ne.symm hafter.2⟩
  · rintro (⟨⟨before, value, after, rfl, hn, hnew, hafter⟩, hc⟩ | ⟨rfl, ⟨value, rfl⟩, hnew⟩)
    · refine ⟨before, value, after ++ [c], by rw [List.append_assoc, List.cons_append], hn, hnew, ?_⟩
      simp [hafter, Ne.symm hc]
    · exact ⟨history, value, [], rfl, rfl, hnew, List.not_mem_nil⟩

theorem Since.lt_length (h : Since history key n) : n < history.length := by
  obtain ⟨before, value, after, rfl, rfl, -⟩ := h
  rw [List.length_append, List.length_cons]
  omega

/-! ## The order of keys -/

/-- The keys are those that have come to be there, in the order in which they came. -/
def InOrder (history : List Change) (keys : List String) : Prop :=
  ∃ moment : String → Nat, (∀ key n, Since history key n ↔ key ∈ keys ∧ n = moment key) ∧
    keys.Pairwise (moment · < moment ·)

variable {keys : List String}

/-- A key that is set stays where it is, or, if it is not there, goes to the end. -/
theorem InOrder.set (h : InOrder history keys)
    (hkey : key ∉ keys ↔ ∀ value, ¬ LastSet history key value) (value : Json) :
    InOrder (history ++ [set key value]) (if key ∈ keys then keys else keys ++ [key]) := by
  obtain ⟨moment, hsince, horder⟩ := h
  have hstep : ∀ key' n, Since (history ++ [.set key value]) key' n ↔
      Since history key' n ∨ n = history.length ∧ key = key' ∧ key ∉ keys := by
    intro key' n
    rw [since_concat]
    by_cases hk : key = key'
    · subst hk
      simp [hkey]
    · simp [hk]
  split
  · rename_i hmem
    refine ⟨moment, fun key' n => ?_, horder⟩
    simp [hstep, hsince, hmem]
  · rename_i hnew
    have hbefore : ∀ key' ∈ keys, moment key' < history.length := fun key' hmem =>
      ((hsince key' _).2 ⟨hmem, rfl⟩).lt_length
    have hne : ∀ key' ∈ keys, key' ≠ key := fun key' hmem heq => hnew (heq ▸ hmem)
    refine ⟨Function.update moment key history.length, fun key' n => ?_, ?_⟩
    · rw [hstep, hsince, List.mem_append, List.mem_singleton]
      by_cases hk : key' = key
      · simp [hk, hnew]
      · simp [hk, Ne.symm hk]
    · rw [List.pairwise_append]
      refine ⟨horder.imp_of_mem fun ha hb hlt => ?_, List.pairwise_singleton _ _, ?_⟩
      · rwa [Function.update_of_ne (hne _ ha), Function.update_of_ne (hne _ hb)]
      · intro key' hmem other hother
        rw [List.mem_singleton.1 hother, Function.update_of_ne (hne key' hmem),
          Function.update_self]
        exact hbefore key' hmem

/-- The keys that are not taken away stay in order. -/
theorem InOrder.remove (h : InOrder history keys) (key : String) :
    InOrder (history ++ [remove key]) (keys.filter (· ≠ key)) := by
  obtain ⟨moment, hsince, horder⟩ := h
  refine ⟨moment, fun key' n => ?_, horder.filter _⟩
  rw [since_concat, hsince, List.mem_filter]
  by_cases hk : key' = key
  · simp [hk]
  · simp [hk, Ne.symm hk]

theorem InOrder.other (h : InOrder history keys) (hset : ∀ key value, c ≠ .set key value)
    (hremove : ∀ key, c ≠ .remove key) : InOrder (history ++ [c]) keys := by
  obtain ⟨moment, hsince, horder⟩ := h
  refine ⟨moment, fun key n => ?_, horder⟩
  rw [since_concat, hsince]
  simp [hset, hremove]

/-! ## What a record remembers -/

/-- The attributes of a record come of the changes, if these began with no attributes. -/
structure Store (history : List Change) (d : Dict Json) : Prop where
  get?_iff : ∀ key value, d.get? key = some value ↔ LastSet history key value
  inOrder : InOrder history d.keys

namespace Store

theorem empty : Store [] .empty where
  get?_iff key value := by
    refine ⟨nofun, ?_⟩
    rintro ⟨before, after, heq, -⟩
    simp at heq
  inOrder := by
    refine ⟨fun _ => 0, fun key n => ⟨?_, by simp [Dict.keys]⟩, .nil⟩
    intro h
    exact absurd h.lt_length (Nat.not_lt_zero n)

variable {d : Dict Json}

theorem not_mem_keys_iff (h : Store history d) (key : String) :
    key ∉ d.keys ↔ ∀ value, ¬ LastSet history key value := by
  simp only [← Dict.get?_eq_none_iff, ← h.get?_iff, Option.eq_none_iff_forall_ne_some, ne_eq]

theorem apply {r : EntityRecord} (h : Store history r.attributes) (c : Change) :
    Store (history ++ [c]) (c.apply r).attributes := by
  cases c with
  | set key value =>
    refine ⟨fun key' value' => ?_, ?_⟩
    · rw [lastSet_concat, ← h.get?_iff, Change.apply, EntityRecord.set, Dict.get?_insert]
      by_cases hk : key' = key
      · simp [hk, Concerns]
      · simp [hk, Ne.symm hk, Concerns]
    · rw [Change.apply, EntityRecord.set, Dict.keys_insert]
      exact h.inOrder.set (h.not_mem_keys_iff key) value
  | remove key =>
    rw [Change.apply, EntityRecord.takeOut_eq]
    refine ⟨fun key' value' => ?_, ?_⟩
    · rw [lastSet_concat, ← h.get?_iff, EntityRecord.remove, Dict.get?_erase]
      by_cases hk : key' = key
      · simp [hk, Concerns]
      · simp [hk, Ne.symm hk, Concerns]
    · rw [EntityRecord.remove, Dict.keys_erase]
      exact h.inOrder.remove key
  | addFields | addRelationships | setAllApplications =>
    refine ⟨fun key value => ?_, h.inOrder.other nofun nofun⟩
    rw [lastSet_concat, ← h.get?_iff]
    simp only [Concerns, reduceCtorEq, exists_false, or_self, false_or, not_false_eq_true, true_and]
    rfl

theorem applyAll {r : EntityRecord} (h : Store history r.attributes) (changes : List Change) :
    Store (history ++ changes) (Change.applyAll changes r).attributes := by
  induction changes generalizing history r with
  | nil => rwa [List.append_nil]
  | cons c changes ih =>
    rw [List.append_cons]
    exact ih (h.apply c)

end Store

theorem attributes_applyAll_set (es : List (String × Json)) (r : EntityRecord) :
    (applyAll (es.map fun e => set e.1 e.2) r).attributes = r.attributes.insertAll es := by
  induction es generalizing r with
  | nil => rfl
  | cons e es ih => exact ih (r.set e.1 e.2)

/-- The default attributes come of setting them. -/
theorem store_defaults : Store defaults defaultAttributes := by
  have h := Store.empty.applyAll (r := { fresh "" "" "" none with attributes := .empty }) defaults
  have hof : Dict.empty.insertAll defaultAttributes.toList = defaultAttributes :=
    Dict.ofList_toList defaultAttributes
  rwa [List.nil_append, defaults, attributes_applyAll_set, hof] at h

/-! ## The other parts -/

theorem apply_eq (c : Change) (r : EntityRecord) : c.apply r =
    { r with
      attributes := (c.apply r).attributes
      fields := r.fields ++ c.fieldsAdded
      relationships := r.relationships ++ c.relationshipsAdded
      applications := if c = setAllApplications then .string "*" else r.applications } := by
  cases c <;> simp [apply, fieldsAdded, relationshipsAdded, EntityRecord.set, takeOut_eq,
    EntityRecord.remove, EntityRecord.addFields, EntityRecord.addRelationships,
    EntityRecord.setAllApplications]

theorem applyAll_eq (changes : List Change) (r : EntityRecord) : applyAll changes r =
    { r with
      attributes := (applyAll changes r).attributes
      fields := r.fields ++ changes.flatMap fieldsAdded
      relationships := r.relationships ++ changes.flatMap relationshipsAdded
      applications :=
        if setAllApplications ∈ changes then .string "*" else r.applications } := by
  induction changes generalizing r with
  | nil => simp [applyAll]
  | cons c changes ih =>
    rw [applyAll, List.foldl_cons, ← applyAll, ih, apply_eq]
    by_cases hc : c = setAllApplications
    · simp [hc]
    · simp [hc, Ne.symm hc]

end Change

open Change (LastSet InOrder)

/-- What a record tells of the changes that were made to it since it was fresh. -/
structure Remembers (changes : List Change) (r : EntityRecord) : Prop where
  /-- A key has the value that it was last set to.  One that no change concerns has its default. -/
  get?_iff : ∀ key value, r.get? key = some value ↔ LastSet changes key value ∨
    (∀ c ∈ changes, ¬ c.Concerns key) ∧ defaultAttributes.get? key = some value
  /-- What is taken out is what would have been found. -/
  takeOut : ∀ key, (r.takeOut key).1 = r.get? key
  nodup : r.attributes.keys.Nodup
  /-- The keys are in the order in which they came, the defaults first. -/
  inOrder : InOrder (Change.defaults ++ changes) r.attributes.keys
  keys_set : ∀ key value, (r.set key value).attributes.keys
    = if key ∈ r.attributes.keys then r.attributes.keys else r.attributes.keys ++ [key]
  keys_takeOut : ∀ key, (r.takeOut key).2.attributes.keys = r.attributes.keys.filter (· ≠ key)

/-- A record remembers the last change of every attribute and the order in which the attributes
came, and it has the fields and the relationships that were added in the order in which this was
done.  Its names, its date and its documentation stay as they were when it was fresh. -/
theorem remembers_changes (name tableName changelogDate : String) (javadoc : Option String)
    (changes : List Change) :
    Remembers changes
      (Change.applyAll changes (fresh name tableName changelogDate javadoc)) ∧
    Change.applyAll changes (fresh name tableName changelogDate javadoc) =
      { name
        tableName
        changelogDate
        javadoc
        attributes :=
          (Change.applyAll changes (fresh name tableName changelogDate javadoc)).attributes
        fields := changes.flatMap Change.fieldsAdded
        relationships := changes.flatMap Change.relationshipsAdded
        applications :=
          if Change.setAllApplications ∈ changes then .string "*" else .array [] } := by
  have hstore := Change.store_defaults.applyAll
    (r := fresh name tableName changelogDate javadoc) changes
  refine ⟨⟨fun key value => ?_, fun key => ?_, Dict.nodup _, hstore.inOrder, ?_, fun key => ?_⟩, ?_⟩
  · rw [Change.store_defaults.get?_iff, ← Change.lastSet_append]
    exact hstore.get?_iff key value
  · rw [takeOut_eq]
  · exact fun key value => Dict.keys_insert _ key value
  · rw [takeOut_eq]
    exact Dict.keys_erase _ key
  · rw [Change.applyAll_eq]
    simp [fresh]

example : (Change.applyAll
    [.set "audited" (.bool true), .remove "dto", .set "audited" (.bool false),
      .set "dto" (.string "mapstruct")]
    (fresh "Invoice" "invoice" "20200101000001" none)).attributes.keys
    = ["service", "pagination", "jpaMetamodelFiltering", "fluentMethods", "readOnly", "embedded",
      "clientRootFolder", "audited", "dto"] := by
  decide +kernel

end EntityRecord

end DomainModel
