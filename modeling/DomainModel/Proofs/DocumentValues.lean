import DomainModel.Json.Basic
import DomainModel.NameSet
import DomainModel.Proofs.Dict

/-!
# Documents that are values

Taking the value of a document collapses the members of its objects.  Where every object names each
key once there is nothing to collapse, and the document is its own value
(`Json.isValue_object_iff`).  Only such documents come of reading.
-/

namespace DomainModel

variable {α : Type}

namespace Dict

/-- A dictionary is built again from its own entries. -/
theorem ofList_toList (d : Dict α) : ofList d.toList = d := by
  refine ext_get? ?_ fun k => ?_
  · rw [keys_ofList]
    exact eraseDups_of_nodup d.nodup
  · have h : (ofList d.toList).get? k = (d.toList.reverse.lookup k).or (empty.get? k) :=
      get?_insertAll empty d.toList k
    rw [h, Entries.lookup_reverse_of_nodup d.nodup, get?_empty, Option.or_none]
    rfl

/-- Nothing is in a dictionary that was not set in it. -/
theorem mem_of_mem_ofList {es : List (String × α)} {e : String × α} (h : e ∈ (ofList es).toList) :
    e ∈ es := by
  obtain ⟨k, v⟩ := e
  rw [← get?_eq_some_iff, get?, toList_ofList, Entries.lookup_collapse,
    List.lookup_eq_some_iff] at h
  obtain ⟨before, after, hsplit, -⟩ := h
  rw [← List.mem_reverse, hsplit]
  exact List.mem_append_right _ List.mem_cons_self

end Dict

/-- A set of names is built again from its own names. -/
theorem NameSet.ofList_toList (s : NameSet) : ofList s.toList = s := by
  -- names that are new to a set go to its end
  have h : ∀ (names : List String) (s : NameSet), (s.toList ++ names).Nodup →
      (names.foldl insert s).toList = s.toList ++ names := by
    intro names
    induction names with
    | nil => intro s _; simp
    | cons name names ih =>
      intro s hs
      have hnew : name ∉ s.toList := fun hmem =>
        (List.nodup_append.1 hs).2.2 name hmem name List.mem_cons_self rfl
      have hinsert : (s.insert name).toList = s.toList ++ [name] := if_neg hnew
      have hrest : (s.insert name).toList ++ names = s.toList ++ name :: names := by
        rw [hinsert, ← List.append_cons]
      rw [List.foldl_cons, ih _ (hrest ▸ hs), hrest]
  have hs := h s.toList empty s.nodup
  rcases s with ⟨names, nodup⟩
  exact (NameSet.mk.injEq ..).mpr hs

/-- Only where nothing in a list is changed does the list stay the same. -/
theorem map_eq_self_iff {f : α → α} {xs : List α} : xs.map f = xs ↔ ∀ x ∈ xs, f x = x := by
  simpa using List.map_inj_left (l := xs) (f := f) (g := id)

namespace Entries

theorem nodup_collapse (es : List (String × α)) : ((collapse es).map Prod.fst).Nodup := by
  rw [← Dict.toList_ofList]
  exact (Dict.ofList es).nodup

/-- Entries of which no key comes twice stay as they are. -/
theorem collapse_of_nodup {es : List (String × α)} (h : (es.map Prod.fst).Nodup) :
    collapse es = es := by
  rw [← Dict.toList_ofList]
  exact congrArg Dict.toList (Dict.ofList_toList ⟨es, h⟩)

end Entries

namespace Json

theorem collapseItems_eq_map (items : List Json) : collapseItems items = items.map collapse := by
  induction items with
  | nil => rfl
  | cons x xs ih => rw [collapseItems, ih, List.map_cons]

theorem collapseMembers_eq_map (members : List (String × Json)) :
    collapseMembers members = members.map fun m => (m.1, m.2.collapse) := by
  induction members with
  | nil => rfl
  | cons m ms ih => rw [collapseMembers, ih, List.map_cons]

theorem collapse_eq_null_iff {j : Json} : j.collapse = .null ↔ j = .null := by
  cases j <;> simp [collapse]

/-- The document names no key of an object twice, and so stands for itself. -/
def IsValue (j : Json) : Prop := j.collapse = j

instance : DecidablePred IsValue := fun j => inferInstanceAs (Decidable (j.collapse = j))

theorem isValue_array_iff {items : List Json} :
    (Json.array items).IsValue ↔ ∀ x ∈ items, x.IsValue := by
  rw [IsValue, collapse, collapseItems_eq_map, array.injEq, map_eq_self_iff]
  rfl

theorem isValue_object_iff {members : List (String × Json)} :
    (Json.object members).IsValue ↔
      (members.map Prod.fst).Nodup ∧ ∀ m ∈ members, m.2.IsValue := by
  have hkeys : (members.map fun m => (m.1, m.2.collapse)).map Prod.fst = members.map Prod.fst := by
    rw [List.map_map]
    rfl
  rw [IsValue, collapse, collapseMembers_eq_map, object.injEq]
  constructor
  · intro h
    have hnodup : (members.map Prod.fst).Nodup := by
      rw [← h]
      exact Entries.nodup_collapse _
    rw [Entries.collapse_of_nodup (hkeys ▸ hnodup), map_eq_self_iff] at h
    exact ⟨hnodup, fun m hm => congrArg Prod.snd (h m hm)⟩
  · rintro ⟨hnodup, hvalues⟩
    rw [Entries.collapse_of_nodup (hkeys ▸ hnodup), map_eq_self_iff]
    exact fun m hm => Prod.ext rfl (hvalues m hm)

end Json

end DomainModel
